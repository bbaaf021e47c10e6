import Bamep.Domain.Proof
import Bamep.Worker.Http

/-! The Agent's proof of one data-plane request: its own builder of the signed transcript, the key it signs with, and
the headers that carry the proof. -/
namespace Bamep.Simulator
open Layout

/- SHA-256 and Ed25519, where a signature is accepted under the public half of the key that made it. -/
structure SigningScheme extends Crypto where
  publicKey : Bytes 32 → Bytes 32
  sign : Bytes 32 → List UInt8 → Bytes 64
  accepts : ∀ secret message, verifyStrict (publicKey secret).val message (sign secret message).val = true

inductive TransferOperation where
  | chunkUpload | resumeDiscovery | sealManifest
  deriving DecidableEq, Repr

namespace TransferOperation

def transcriptByte : TransferOperation → UInt8
  | .chunkUpload => 1
  | .resumeDiscovery => 2
  | .sealManifest => 3

def requiresChunkIndex : TransferOperation → Bool
  | .chunkUpload => true
  | .resumeDiscovery | .sealManifest => false

-- What the Server calls the operation of the route.
def requested : TransferOperation → AuthorizationOperation
  | .chunkUpload => .chunkUpload
  | .resumeDiscovery => .resumeDiscovery
  | .sealManifest => .sealManifest

end TransferOperation

inductive TransferDirection where
  | agentToServer
  deriving DecidableEq, Repr

namespace TransferDirection

def transcriptByte : TransferDirection → UInt8
  | .agentToServer => 1

def requested : TransferDirection → Bamep.TransferDirection
  | .agentToServer => .agentToServer

end TransferDirection

inductive ProofError where
  | chunkIndexRuleViolation
  deriving DecidableEq, Repr

def transcriptDomain : List UInt8 := "bamep.m1.data-plane-transfer.proof".toList.map fun c => .ofNat c.toNat

def transcriptSchemaVersion : Nat := 1

def proofTranscriptLen : Nat := 137

/- What the transcript is built from, in the order it is written. -/
structure TranscriptInput where
  capabilityId : Bytes 32
  operation : TransferOperation
  transferId : Nat
  artifactId : Nat
  direction : TransferDirection
  chunkIndex : Option UInt64
  proofId : Bytes 16
  issuedAtMillis : UInt64
  deriving DecidableEq, Repr

def TranscriptInput.parts (input : TranscriptInput) : List (List UInt8) :=
  [bigEndian 2 transcriptDomain.length,transcriptDomain,bigEndian 2 transcriptSchemaVersion,
    input.capabilityId.val,[input.operation.transcriptByte],bigEndian 16 input.transferId,
    bigEndian 16 input.artifactId,[input.direction.transcriptByte],[if input.chunkIndex.isSome then 1 else 0],
    bigEndian 8 (input.chunkIndex.getD 0).toNat,input.proofId.val,bigEndian 8 input.issuedAtMillis.toNat]

-- The closure `put`: the bytes go to the offset, which moves by their length; `none` is a panic.
def put (c : Cursor UInt8) (bytes : List UInt8) : Option (Cursor UInt8) := c.copy bytes.length bytes

def buildProofTranscript (input : TranscriptInput) : Option (Cursor UInt8) :=
  (input.parts.foldlM put (Cursor.new (List.replicate proofTranscriptLen 0))).bind fun c =>
    -- `debug_assert_eq!(offset, PROOF_TRANSCRIPT_LEN)`
    if c.offset = proofTranscriptLen then some c else none

structure TransferProof where
  proofIdWire : String
  issuedAtMillis : UInt64
  signature : Bytes 64
  deriving DecidableEq, Repr

namespace TransferProof

def signatureWire (proof : TransferProof) : String := Base64Url.encode proof.signature.val

def headerValue (proof : TransferProof) : String :=
  proof.proofIdWire ++ "." ++ proof.issuedAtMillis.toNat.repr ++ "." ++ proof.signatureWire

end TransferProof

structure AgentTransferAuthorization where
  proofKey : Bytes 32
  token : String
  transferId : Nat
  artifactId : Nat
  direction : TransferDirection
  deriving DecidableEq, Repr

namespace AgentTransferAuthorization
variable (auth : AgentTransferAuthorization)

def capabilityIdBytes (crypto : Crypto) : Bytes 32 := (crypto.sha256 auth.token.toUTF8.data.toList).bytes

def transcriptInput (crypto : Crypto) (operation : TransferOperation) (chunkIndex : Option UInt64) (proofId : Bytes 16)
    (issuedAtMillis : UInt64) : TranscriptInput :=
  ⟨auth.capabilityIdBytes crypto,operation,auth.transferId,auth.artifactId,auth.direction,chunkIndex,proofId,
    issuedAtMillis⟩

/- The generated proof id is an argument; `none` is a panic of the builder. -/
def createProof (scheme : SigningScheme) (operation : TransferOperation) (chunkIndex : Option UInt64)
    (proofId : Bytes 16) (issuedAtMillis : UInt64) : Option (Except ProofError TransferProof) :=
  if operation.requiresChunkIndex ≠ chunkIndex.isSome then some (.error .chunkIndexRuleViolation)
  else (buildProofTranscript (auth.transcriptInput scheme.toCrypto operation chunkIndex proofId issuedAtMillis)).map
    fun transcript => .ok ⟨Base64Url.encode proofId.val,issuedAtMillis,scheme.sign auth.proofKey transcript.buf⟩

-- The two headers every data-plane request of the Agent carries.
def headers (proof : TransferProof) : HeaderMap :=
  ⟨[(headerCapability,.ofText auth.token),(headerTransferProof,.ofText proof.headerValue)]⟩

end AgentTransferAuthorization

section Transcript
variable (input : TranscriptInput)

-- The fields of the transcript in the Server's words.
def TranscriptInput.fields : ProofTranscriptFields :=
  ⟨input.operation.requested,⟨input.transferId⟩,⟨input.artifactId⟩,input.direction.requested,
    input.chunkIndex.map UInt64.toNat,⟨input.proofId.val,input.proofId.property⟩,input.issuedAtMillis.toNat⟩

theorem operationByte (operation : TransferOperation) :
    operation.requested.transcriptByte = operation.transcriptByte := by
  cases operation <;> rfl

theorem directionByte (direction : TransferDirection) :
    direction.requested.transcriptByte = direction.transcriptByte := by
  cases direction
  rfl

theorem chunkIndexBytes (chunkIndex : Option UInt64) :
    (chunkIndex.map UInt64.toNat).getD 0 = (chunkIndex.getD 0).toNat := by
  cases chunkIndex <;> rfl

/- The two builders were written apart and list the same parts. -/
theorem partsLayout : input.parts.flatten = Bamep.buildProofTranscript ⟨input.capabilityId⟩ input.fields := by
  simp only [TranscriptInput.parts,Bamep.buildProofTranscript,TranscriptInput.fields,operationByte,directionByte,
    chunkIndexBytes,Option.isSome_map,List.flatten_cons,List.flatten_nil,List.append_assoc,List.append_nil]
  rfl

theorem putFill (c : Cursor UInt8) (parts : List (List UInt8)) :
    parts.foldlM put c = c.fill (parts.map fun bytes => (bytes.length,bytes)) := by
  unfold Cursor.fill
  rw [List.foldlM_map]
  rfl

/- The Agent's builder does not panic and gives the documented layout. -/
theorem agentTranscript : ∃ c, buildProofTranscript input = some c ∧
    c.buf = Bamep.buildProofTranscript ⟨input.capabilityId⟩ input.fields := by
  have widths : ∀ part ∈ input.parts.map fun bytes => (bytes.length,bytes), part.2.length = part.1 := by
    intro part mem
    obtain ⟨bytes,_,rfl⟩ := List.mem_map.mp mem
    rfl
  have flat : (input.parts.map fun bytes => (bytes.length,bytes)).flatMap Prod.snd = input.parts.flatten := by
    simp [List.flatMap_def,Function.comp_def]
  have whole : ((input.parts.map fun bytes => (bytes.length,bytes)).flatMap Prod.snd).length =
      (List.replicate proofTranscriptLen (0 : UInt8)).length := by
    rw [flat,partsLayout,proofTranscriptLength,List.length_replicate,proofTranscriptLen]
  obtain ⟨c,filled,holds,offset,_⟩ := Cursor.fillWhole widths whole
  rw [List.length_replicate] at offset
  refine ⟨c,?_,by rw [holds,flat,partsLayout]⟩
  rw [buildProofTranscript,putFill,filled,Option.bind_some,if_pos offset]

end Transcript
end Bamep.Simulator
