import Bamep.Library.Layout
import Bamep.Domain.TransferAuthorization
import Bamep.Domain.Wire

/-! The signed proof of a data-plane request: its identity and signature on the wire, the canonical
transcript, and the deadline up to which an accepted proof is remembered. SHA-256 and Ed25519 are the
fixed functions of `Crypto`. -/
namespace Bamep
open Layout

@[ext] structure ProofId where
  bytes : List UInt8
  sized : bytes.length = 16
  deriving DecidableEq, Repr

def ProofId.parseWireValue (value : String) : Except FixedWireError ProofId :=
  (parseFixed 22 16 value).map fun bytes => ⟨bytes.val,bytes.property⟩

theorem proofIdCanonical {value proofId}
    (ok : ProofId.parseWireValue value = .ok proofId) : value = Base64Url.encode proofId.bytes := by
  unfold ProofId.parseWireValue at ok
  cases parsed : parseFixed 22 16 value with
  | error e => rw [parsed] at ok; contradiction
  | ok bytes =>
    rw [parsed] at ok
    cases ok
    exact parseFixedOk parsed

structure ProofSignature where
  bytes : List UInt8
  sized : bytes.length = 64
  deriving DecidableEq, Repr

def ProofSignature.parseWireValue (value : String) : Except FixedWireError ProofSignature :=
  (parseFixed 86 64 value).map fun bytes => ⟨bytes.val,bytes.property⟩

@[ext] structure CapabilityId where
  bytes : Bytes 32
  deriving DecidableEq, Repr

structure Crypto where
  sha256 : List UInt8 → CapabilityId
  verifyStrict : List UInt8 → List UInt8 → List UInt8 → Bool

def CapabilityId.fromTokenBytes (crypto : Crypto) (token : String) : CapabilityId :=
  crypto.sha256 token.toUTF8.data.toList

@[ext] structure ProofTranscriptFields where
  operation : AuthorizationOperation
  transferId : TransferId
  artifactId : ArtifactId
  direction : TransferDirection
  chunkIndex : Option Nat
  proofId : ProofId
  issuedAtMillis : Nat
  deriving DecidableEq, Repr

def AuthorizationOperation.transcriptByte : AuthorizationOperation → UInt8
  | .chunkUpload => 1
  | .resumeDiscovery => 2
  | .sealManifest => 3

def TransferDirection.transcriptByte : TransferDirection → UInt8
  | .agentToServer => 1

def proofTranscriptDomain : List UInt8 :=
  "bamep.m1.data-plane-transfer.proof".toList.map fun c => .ofNat c.toNat

def proofTranscriptSchemaVersion : Nat := 1

def buildProofTranscript (capabilityId : CapabilityId) (fields : ProofTranscriptFields) : List UInt8 :=
  bigEndian 2 proofTranscriptDomain.length ++ proofTranscriptDomain ++
    bigEndian 2 proofTranscriptSchemaVersion ++ capabilityId.bytes.val ++ [fields.operation.transcriptByte] ++
    bigEndian 16 fields.transferId.uuid ++ bigEndian 16 fields.artifactId.uuid ++
    [fields.direction.transcriptByte] ++ [if fields.chunkIndex.isSome then 1 else 0] ++
    bigEndian 8 (fields.chunkIndex.getD 0) ++ fields.proofId.bytes ++ bigEndian 8 fields.issuedAtMillis

def proofTranscriptLen : Nat := 137

/- The writes of `build_proof_transcript`, each with the width it advances by. -/
def proofTranscriptWrites (capabilityId : CapabilityId) (fields : ProofTranscriptFields) :
    List (Nat × List UInt8) :=
  [(2,bigEndian 2 proofTranscriptDomain.length),
    (proofTranscriptDomain.length,proofTranscriptDomain),
    (2,bigEndian 2 proofTranscriptSchemaVersion),
    (32,capabilityId.bytes.val),
    (1,[fields.operation.transcriptByte]),
    (16,bigEndian 16 fields.transferId.uuid),
    (16,bigEndian 16 fields.artifactId.uuid),
    (1,[fields.direction.transcriptByte]),
    (1,[if fields.chunkIndex.isSome then 1 else 0]),
    (8,bigEndian 8 (fields.chunkIndex.getD 0)),
    (16,fields.proofId.bytes),
    (8,bigEndian 8 fields.issuedAtMillis)]

/- The body of `build_proof_transcript` on its buffer; `buildProofTranscript` is the documented layout. -/
def writeProofTranscript (capabilityId : CapabilityId) (fields : ProofTranscriptFields) :
    Option (Cursor UInt8) :=
  ((Cursor.new (List.replicate proofTranscriptLen 0)).fill (proofTranscriptWrites capabilityId fields)).bind fun c =>
    -- `debug_assert_eq!(offset, PROOF_TRANSCRIPT_LEN)`
    if c.offset = proofTranscriptLen then some c else none

/- The ranges of the source's types: a UUID has 128 bits, `chunk_index` and `issued_at` are `u64`. -/
structure ProofTranscriptFields.InRange (fields : ProofTranscriptFields) : Prop where
  transferId : fields.transferId.uuid < 256 ^ 16
  artifactId : fields.artifactId.uuid < 256 ^ 16
  chunkIndex : fields.chunkIndex.getD 0 < 256 ^ 8
  issuedAtMillis : fields.issuedAtMillis < 256 ^ 8

theorem proofTranscriptLayout (capabilityId : CapabilityId) (fields : ProofTranscriptFields) :
    (proofTranscriptWrites capabilityId fields).flatMap Prod.snd = buildProofTranscript capabilityId fields := by
  simp only [proofTranscriptWrites,buildProofTranscript,List.flatMap_cons,List.flatMap_nil,List.append_assoc,
    List.append_nil]

theorem proofTranscriptWidths (capabilityId : CapabilityId) (fields : ProofTranscriptFields) :
    ∀ write ∈ proofTranscriptWrites capabilityId fields, write.2.length = write.1 := by
  simp [proofTranscriptWrites,capabilityId.bytes.property,fields.proofId.sized]

theorem proofTranscriptLength (capabilityId : CapabilityId) (fields : ProofTranscriptFields) :
    (buildProofTranscript capabilityId fields).length = 137 := by
  have domain : proofTranscriptDomain.length = 34 := by decide
  simp only [buildProofTranscript,List.length_append,bigEndianLength,domain,capabilityId.bytes.property,
    List.length_singleton,fields.proofId.sized]

theorem transcriptByteInjective {a b : AuthorizationOperation} (same : a.transcriptByte = b.transcriptByte) :
    a = b := by
  cases a <;> cases b <;> first | rfl | cases same

/- The presence byte tells an absent index from index `0`. -/
theorem chunkIndexInjective {a b : Option Nat} (presence : (if a.isSome then (1 : UInt8) else 0) = if b.isSome then 1 else 0)
    (value : a.getD 0 = b.getD 0) : a = b := by
  cases a <;> cases b <;> simp_all

/- The fields have fixed widths, so equal layouts have equal fields; they are peeled from the end. -/
theorem buildProofTranscriptInjective {capabilityId other fields others}
    (ranged : fields.InRange) (rangedOthers : others.InRange)
    (same : buildProofTranscript capabilityId fields = buildProofTranscript other others) :
    capabilityId = other ∧ fields = others := by
  unfold buildProofTranscript at same
  obtain ⟨same,issuedAt⟩ := List.append_inj' same (by simp)
  obtain ⟨same,proofId⟩ := List.append_inj' same (by simp [fields.proofId.sized,others.proofId.sized])
  obtain ⟨same,chunkIndex⟩ := List.append_inj' same (by simp)
  obtain ⟨same,presence⟩ := List.append_inj' same rfl
  obtain ⟨same,_⟩ := List.append_inj' same rfl
  obtain ⟨same,artifactId⟩ := List.append_inj' same (by simp)
  obtain ⟨same,transferId⟩ := List.append_inj' same (by simp)
  obtain ⟨same,operation⟩ := List.append_inj' same rfl
  obtain ⟨_,capability⟩ := List.append_inj' same (by simp [capabilityId.bytes.property,other.bytes.property])
  have direction : fields.direction = others.direction := by
    cases fields.direction; cases others.direction; rfl
  have sameOperation := transcriptByteInjective (List.singleton_inj.mp operation)
  have sameTransfer := bigEndianInjective ranged.transferId rangedOthers.transferId transferId
  have sameArtifact := bigEndianInjective ranged.artifactId rangedOthers.artifactId artifactId
  have sameIndex := chunkIndexInjective (List.singleton_inj.mp presence)
    (bigEndianInjective ranged.chunkIndex rangedOthers.chunkIndex chunkIndex)
  have sameIssued := bigEndianInjective ranged.issuedAtMillis rangedOthers.issuedAtMillis issuedAt
  exact ⟨CapabilityId.ext (Subtype.ext capability),ProofTranscriptFields.ext sameOperation
    (congrArg Id.mk sameTransfer) (congrArg Id.mk sameArtifact) direction sameIndex
    (ProofId.ext proofId) sameIssued⟩

theorem writtenProofTranscript (capabilityId : CapabilityId) (fields : ProofTranscriptFields) :
    ∃ c, writeProofTranscript capabilityId fields = some c ∧ c.buf = buildProofTranscript capabilityId fields ∧
      ∀ i, c.writesAt i = if i < 137 then 1 else 0 := by
  have whole : ((proofTranscriptWrites capabilityId fields).flatMap Prod.snd).length =
      (List.replicate proofTranscriptLen (0 : UInt8)).length := by
    rw [proofTranscriptLayout,proofTranscriptLength,List.length_replicate,proofTranscriptLen]
  obtain ⟨c,filled,holds,offset,once⟩ := Cursor.fillWhole (proofTranscriptWidths capabilityId fields) whole
  rw [List.length_replicate] at offset once
  refine ⟨c,?_,by rw [holds,proofTranscriptLayout],once⟩
  rw [writeProofTranscript,filled,Option.bind_some,if_pos offset]

theorem proofTranscriptFaithful (capabilityId : CapabilityId) (fields : ProofTranscriptFields)
    (ranged : fields.InRange) :
    (∃ c, writeProofTranscript capabilityId fields = some c ∧ c.buf = buildProofTranscript capabilityId fields ∧
      c.buf.length = 137 ∧ ∀ i, c.writesAt i = if i < 137 then 1 else 0) ∧
    ∀ other others, others.InRange →
      (writeProofTranscript capabilityId fields).map Cursor.buf = (writeProofTranscript other others).map Cursor.buf →
      capabilityId = other ∧ fields = others := by
  obtain ⟨c,written,holds,once⟩ := writtenProofTranscript capabilityId fields
  refine ⟨⟨c,written,holds,by rw [holds,proofTranscriptLength],once⟩,?_⟩
  intro other others rangedOthers same
  obtain ⟨c',written',holds',_⟩ := writtenProofTranscript other others
  rw [written,written',Option.map_some,Option.map_some,holds,holds'] at same
  exact buildProofTranscriptInjective ranged rangedOthers (Option.some.inj same)

theorem proofTranscriptFaithfulUpload :
    let fields : ProofTranscriptFields := ⟨.chunkUpload,⟨3⟩,⟨4⟩,.agentToServer,some 0,⟨.replicate 16 7,rfl⟩,9⟩
    fields.InRange ∧ ∀ other others, others.InRange →
      (writeProofTranscript ⟨⟨.replicate 32 1,Digest.zero.sized⟩⟩ fields).map Cursor.buf =
        (writeProofTranscript other others).map Cursor.buf →
      ⟨⟨.replicate 32 1,Digest.zero.sized⟩⟩ = other ∧ fields = others := by
  intro fields
  have ranged : fields.InRange := by constructor <;> decide
  exact ⟨ranged,(proofTranscriptFaithful _ _ ranged).2⟩

def verifyProofSignature (crypto : Crypto) (publicKey transcript : List UInt8) (signature : ProofSignature) :
    Bool :=
  crypto.verifyStrict publicKey transcript signature.bytes

-- `DateTime::<Utc>::MAX_UTC`, the last nanosecond of the year 262142; no clock reading is later.
def maxUtc : Instant := 8210266876799999999999

/- `DateTime::from_timestamp_millis(millis.clamp(i64::MIN, i64::MAX)).unwrap_or(MAX_UTC)`: what the
clamp changes is out of the range of `DateTime` anyway. -/
def replayValidUntil (issuedAtMillis : Nat) : Instant :=
  let millis := proofReplayValidUntilMillis issuedAtMillis
  if millis ≤ timestampMillis maxUtc then millis * 1000000 else maxUtc

-- Once an entry is evicted in a later millisecond than its deadline, its proof is stale for good.
theorem evictedStale {issuedAtMillis} {now later : Int} (bounded : now ≤ maxUtc)
    (evicted : (replayValidUntil issuedAtMillis : Int) < now)
    (past : timestampMillis (replayValidUntil issuedAtMillis) < timestampMillis now) (after : now ≤ later) :
    proofIsFresh issuedAtMillis later = .error .proofTooStale := by
  have passed : proofReplayValidUntilMillis issuedAtMillis < timestampMillis later := by
    unfold replayValidUntil at evicted past
    simp only at evicted past
    split at evicted
    · rename_i representable
      rw [if_pos representable] at past
      unfold timestampMillis at past ⊢
      omega
    · exact absurd evicted (Int.not_lt.mpr bounded)
  unfold proofIsFresh
  simp only [proofReplayValidUntilMillis] at passed
  rw [if_pos (by omega)]

end Bamep
