import Bamep.Application.Authorization
import Bamep.Simulator.TransferAuthorization

/-! A proof from the Agent's key to the Server's verdict: signed over the Agent's own transcript, carried as text in a
header, split by the Worker and verified by the Server over the transcript it rebuilds. -/
namespace Bamep
open Simulator

/- A token that a header carries: not empty, and nothing but visible ASCII. -/
structure SendableToken (token : String) : Prop where
  nonempty : token ≠ ""
  visible : ∀ c ∈ token.toList, VisibleAscii c

section Carrier
variable {scheme : SigningScheme} {auth : AgentTransferAuthorization} {operation : TransferOperation}
  {chunkIndex : Option UInt64} {proofId : Bytes 16} {issuedAtMillis : UInt64}

theorem headerValueVisible (signature : Bytes 64) : ∀ c ∈ (TransferProof.headerValue
    ⟨Base64Url.encode proofId.val,issuedAtMillis,signature⟩).toList, VisibleAscii c := by
  intro c mem
  simp only [TransferProof.headerValue,TransferProof.signatureWire,String.toList_append,List.mem_append] at mem
  rcases mem with (((mem | mem) | mem) | mem) | mem
  · exact (encodePlain mem).2.1
  · exact List.mem_singleton.mp mem ▸ by decide
  · exact (digitPlain (Text.decimalDigit mem)).1
  · exact List.mem_singleton.mp mem ▸ by decide
  · exact (encodePlain mem).2.1

/- The Worker splits the header into the texts the Agent joined. -/
theorem carriedCommon (sendable : SendableToken auth.token) (signature : Bytes 64) :
    parseCommon (auth.headers ⟨Base64Url.encode proofId.val,issuedAtMillis,signature⟩) =
      some ⟨auth.token,Base64Url.encode proofId.val,issuedAtMillis.toNat,Base64Url.encode signature.val⟩ := by
  refine parseCommonCarrier sendable.nonempty ?_ ?_ proofId.property signature.property issuedAtMillis.toNat_lt
  · exact toStrOfText sendable.visible
  · exact toStrOfText (headerValueVisible signature)

theorem createdProof (ruled : operation.requiresChunkIndex = chunkIndex.isSome) : ∃ transcript,
    Simulator.buildProofTranscript (auth.transcriptInput scheme.toCrypto operation chunkIndex proofId issuedAtMillis) =
      some transcript ∧
    transcript.buf = buildProofTranscript (.fromTokenBytes scheme.toCrypto auth.token)
      (auth.transcriptInput scheme.toCrypto operation chunkIndex proofId issuedAtMillis).fields ∧
    auth.createProof scheme operation chunkIndex proofId issuedAtMillis =
      some (.ok ⟨Base64Url.encode proofId.val,issuedAtMillis,scheme.sign auth.proofKey transcript.buf⟩) := by
  obtain ⟨transcript,built,layout⟩ := agentTranscript
    (auth.transcriptInput scheme.toCrypto operation chunkIndex proofId issuedAtMillis)
  refine ⟨transcript,built,layout,?_⟩
  rw [AgentTransferAuthorization.createProof,if_neg (not_not.mpr ruled),built,Option.map_some]

end Carrier

/- What the Server has of a request, as the Worker reads it from the headers. -/
structure CarriedProof (scheme : SigningScheme) (auth : AgentTransferAuthorization) (operation : TransferOperation)
    (chunkIndex : Option UInt64) (proofId : Bytes 16) (issuedAtMillis : UInt64) (proof : TransferProof)
    (common : CommonProof) : Prop where
  created : auth.createProof scheme operation chunkIndex proofId issuedAtMillis = some (.ok proof)
  parsed : parseCommon (auth.headers proof) = some common
  token : common.token = auth.token
  proofIdRead : ProofId.parseWireValue common.proofId = .ok ⟨proofId.val,proofId.property⟩
  issuedAtRead : common.issuedAt = issuedAtMillis.toNat
  signatureRead : ProofSignature.parseWireValue common.signature = .ok ⟨proof.signature.val,proof.signature.property⟩
  -- The Server's transcript is the signed one, byte for byte.
  transcript : ∃ signed rebuilt,
    Simulator.buildProofTranscript (auth.transcriptInput scheme.toCrypto operation chunkIndex proofId issuedAtMillis) =
      some signed ∧ proof.signature = scheme.sign auth.proofKey signed.buf ∧
    writeProofTranscript (.fromTokenBytes scheme.toCrypto common.token) ⟨operation.requested,⟨auth.transferId⟩,
      ⟨auth.artifactId⟩,auth.direction.requested,chunkIndex.map UInt64.toNat,⟨proofId.val,proofId.property⟩,
      common.issuedAt⟩ = some rebuilt ∧ rebuilt.buf = signed.buf ∧ signed.buf.length = 137 ∧
    verifyProofSignature scheme.toCrypto (scheme.publicKey auth.proofKey).val rebuilt.buf
      ⟨proof.signature.val,proof.signature.property⟩ = true

-- The query the Worker sends to the Server for the request.
def CommonProof.query (common : CommonProof) (operation : AuthorizationOperation) (transferId : TransferId)
    (chunkIndex : Option Nat) : Request :=
  .authorize ⟨common.token,operation,transferId,chunkIndex,common.proofId,common.issuedAt,common.signature⟩

/- Of a request the Agent signs for what its capability is bound to, the Server checks nothing before any durable state
but that the capability is current and the proof fresh. -/
theorem agentRequestAuthorized (scheme : SigningScheme) (auth : AgentTransferAuthorization) (operation : TransferOperation)
    (chunkIndex : Option UInt64) (proofId : Bytes 16) (issuedAtMillis : UInt64)
    (ruled : operation.requiresChunkIndex = chunkIndex.isSome) (sendable : SendableToken auth.token)
    (binding : CapabilityBinding) (bound : binding.transferId = ⟨auth.transferId⟩ ∧ binding.artifactId = ⟨auth.artifactId⟩ ∧
      binding.direction = auth.direction.requested ∧ binding.proofPublicKey = (scheme.publicKey auth.proofKey).val)
    (epoch : Nat) (now : Instant) : ∃ proof common,
      auth.createProof scheme operation chunkIndex proofId issuedAtMillis = some (.ok proof) ∧
      parseCommon (auth.headers proof) = some common ∧
      (common.query operation.requested ⟨auth.transferId⟩ (chunkIndex.map UInt64.toNat)).authorizeLocally
        scheme.toCrypto epoch binding now =
          if (capabilityIsCurrent binding now epoch).isOk && (proofIsFresh issuedAtMillis.toNat now).isOk then
            some ⟨proofId.val,proofId.property⟩
          else none := by
  obtain ⟨signed,_,layout,created⟩ := @createdProof scheme auth operation chunkIndex proofId issuedAtMillis ruled
  refine ⟨_,_,created,carriedCommon sendable _,?_⟩
  obtain ⟨transfer,artifact,direction,key⟩ := bound
  have matched : capabilityMatchesRequest binding ⟨operation.requested,⟨auth.transferId⟩,binding.artifactId,
      binding.direction,chunkIndex.map UInt64.toNat⟩ = .ok () := by
    have indexed : operation.requested.requiresChunkIndex = (chunkIndex.map UInt64.toNat).isSome := by
      rw [Option.isSome_map,← ruled]
      cases operation <;> rfl
    simp [capabilityMatchesRequest,transfer,indexed]
  have idRead : ProofId.parseWireValue (Base64Url.encode proofId.val) = .ok ⟨proofId.val,proofId.property⟩ := by
    rw [ProofId.parseWireValue,parseFixedEncode proofId rfl]
    rfl
  have signatureRead : ProofSignature.parseWireValue (Base64Url.encode (scheme.sign auth.proofKey signed.buf).val) =
      .ok ⟨_,(scheme.sign auth.proofKey signed.buf).property⟩ := by
    rw [ProofSignature.parseWireValue,parseFixedEncode (scheme.sign auth.proofKey signed.buf) rfl]
    rfl
  have verified := scheme.accepts auth.proofKey signed.buf
  nth_rewrite 1 [layout] at verified
  simp only [CommonProof.query,Request.authorizeLocally,Request.requested,Request.proofId,Request.signature,
    Request.issuedAtMillis,Request.token,Request.representable,matched,idRead,signatureRead]
  cases capabilityIsCurrent binding now epoch with
  | error e => rfl
  | ok current =>
    cases proofIsFresh issuedAtMillis.toNat now with
    | error e => rfl
    | ok fresh =>
      rw [artifact,direction,key]
      exact if_pos (Bool.and_eq_true_iff.mpr ⟨verified,rfl⟩)

theorem agentProofVerifies (scheme : SigningScheme) (auth : AgentTransferAuthorization) (operation : TransferOperation)
    (chunkIndex : Option UInt64) (proofId : Bytes 16) (issuedAtMillis : UInt64)
    (ruled : operation.requiresChunkIndex = chunkIndex.isSome) (sendable : SendableToken auth.token) :
    ∃ proof common, CarriedProof scheme auth operation chunkIndex proofId issuedAtMillis proof common := by
  obtain ⟨signed,built,layout,created⟩ := @createdProof scheme auth operation chunkIndex proofId issuedAtMillis ruled
  obtain ⟨rebuilt,written,holds,_⟩ := writtenProofTranscript (.fromTokenBytes scheme.toCrypto auth.token)
    (auth.transcriptInput scheme.toCrypto operation chunkIndex proofId issuedAtMillis).fields
  have same : rebuilt.buf = signed.buf := holds.trans layout.symm
  have length : signed.buf.length = 137 := by rw [layout,proofTranscriptLength]
  have verified : verifyProofSignature scheme.toCrypto (scheme.publicKey auth.proofKey).val rebuilt.buf
      ⟨(scheme.sign auth.proofKey signed.buf).val,(scheme.sign auth.proofKey signed.buf).property⟩ = true := by
    rw [same]
    exact scheme.accepts auth.proofKey signed.buf
  refine ⟨_,_,created,carriedCommon sendable _,rfl,?_,rfl,?_,signed,rebuilt,built,rfl,written,same,length,verified⟩
  · rw [ProofId.parseWireValue,parseFixedEncode proofId rfl]
    rfl
  · rw [ProofSignature.parseWireValue,parseFixedEncode (scheme.sign auth.proofKey signed.buf) rfl]
    rfl

-- A scheme whose signatures repeat the key.
def echoScheme : SigningScheme where
  sha256 := fun _ => ⟨.filled 32 7⟩
  verifyStrict := fun key _ signature => signature = key ++ key
  publicKey := id
  sign := fun secret _ => ⟨secret.val ++ secret.val,by simp [secret.property]⟩
  accepts := by simp

def authWith (token : String) : AgentTransferAuthorization := ⟨.filled 32 5,token,3,4,.agentToServer⟩

theorem sendableLiteral : SendableToken "token" := by
  have all : "token".toList.all (fun c => decide (VisibleAscii c)) = true := by decide
  exact ⟨by decide,fun c mem => of_decide_eq_true (List.all_eq_true.mp all c mem)⟩

theorem agentProofVerifiesUpload : SendableToken "token" ∧ ∃ proof common,
    CarriedProof echoScheme (authWith "token") .chunkUpload (some 7) (.filled 16 9) 1000 proof common :=
  ⟨sendableLiteral,agentProofVerifies echoScheme (authWith "token") .chunkUpload (some 7) (.filled 16 9) 1000 rfl
    sendableLiteral⟩

def echoBinding : CapabilityBinding :=
  ⟨⟨1⟩,⟨3⟩,⟨4⟩,.agentToServer,⟨2⟩,(Bytes.filled 32 5).val,2000,0⟩

theorem agentRequestAuthorizedUpload : ∃ proof common,
    (authWith "token").createProof echoScheme .chunkUpload (some 7) (.filled 16 9) 1 = some (.ok proof) ∧
      parseCommon ((authWith "token").headers proof) = some common ∧
      (common.query .chunkUpload ⟨3⟩ (some 7)).authorizeLocally echoScheme.toCrypto 0 echoBinding 1000 =
        some ⟨(Bytes.filled 16 9).val,(Bytes.filled 16 9).property⟩ :=
  agentRequestAuthorized echoScheme (authWith "token") .chunkUpload (some 7) (.filled 16 9) 1 rfl sendableLiteral
    echoBinding ⟨rfl,rfl,rfl,rfl⟩ 0 1000

-- A proof is made, and the Worker reads nothing of the request that carries it.
def Unread (token : String) : Prop := ∃ proof,
  (authWith token).createProof echoScheme .resumeDiscovery none (.filled 16 9) 1000 = some (.ok proof) ∧
    parseCommon ((authWith token).headers proof) = none

-- Neither an empty token nor one outside ASCII is read, whatever proof comes with it.
theorem tokenUnread : Unread "" ∧ Unread "é" := by
  have created := fun token => @createdProof echoScheme (authWith token) .resumeDiscovery none (.filled 16 9) 1000 rfl
  obtain ⟨_,_,_,empty⟩ := created ""
  obtain ⟨_,_,_,wide⟩ := created "é"
  exact ⟨⟨_,empty,rfl⟩,⟨_,wide,rfl⟩⟩

end Bamep
