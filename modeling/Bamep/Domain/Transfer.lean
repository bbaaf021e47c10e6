import Mathlib.Data.List.Perm.Subperm
import Bamep.Domain.Job

/-! Transfers, Artifacts and chunk manifests.
`BTreeMap<u32, _>` is an extensional tree map on `Nat`; a digest is always 32 bytes long and a chunk
size is a positive `u32`, as their constructors enforce. -/
namespace Bamep

abbrev TransferId := Id .transfer
abbrev ArtifactId := Id .artifact

inductive DigestAlgorithm where
  | sha256
  deriving DecidableEq, Repr

def DigestAlgorithm.digestLen : DigestAlgorithm → Nat
  | .sha256 => 32

inductive TransferDirection where
  | agentToServer
  deriving DecidableEq, Repr

structure Digest where
  bytes : List UInt8
  sized : bytes.length = 32
  deriving DecidableEq, Repr

def Digest.zero : Digest := ⟨List.replicate 32 0,rfl⟩

-- `none` is `InvalidDigestLength`.
def Digest.new (algorithm : DigestAlgorithm) (bytes : List UInt8) : Option Digest :=
  if sized : bytes.length = algorithm.digestLen then
    some ⟨bytes,by cases algorithm; exact sized⟩
  else none

theorem digestNewSome {algorithm bytes digest}
    (ok : Digest.new algorithm bytes = some digest) : digest.bytes = bytes := by
  unfold Digest.new at ok
  split at ok
  · cases Option.some.inj ok; rfl
  · contradiction

structure ChunkSize where
  bytes : Nat
  positive : 0 < bytes
  fits : bytes < 2 ^ 32
  deriving DecidableEq, Repr

-- The size the concrete runs use.
def ChunkSize.pair : ChunkSize := ⟨2,by decide,by decide⟩

structure ExpectedChunk where
  index : Nat
  size : Nat
  digest : Digest
  deriving DecidableEq, Repr

structure ChunkManifest where
  artifactId : ArtifactId
  digestAlgorithm : DigestAlgorithm
  chunkSize : ChunkSize
  chunks : Std.ExtTreeMap Nat ExpectedChunk compare
  sealed : Bool
  chunkCount : Option Nat
  artifactDigest : Option Digest

def ChunkManifest.new (artifactId : ArtifactId) (algorithm : DigestAlgorithm) (chunkSize : ChunkSize) :
    ChunkManifest :=
  ⟨artifactId,algorithm,chunkSize,∅,false,none,none⟩

inductive ChunkRecordOutcome where
  | added (manifest : ChunkManifest)
  | alreadyRecorded

inductive ChunkRecordError where
  | conflict (index : Nat)
  | notContinuable
  | invalidDigestLength
  deriving DecidableEq, Repr

def ChunkManifest.recordExpectedChunk (manifest : ChunkManifest) (index size : Nat)
    (digestBytes : List UInt8) : Except ChunkRecordError ChunkRecordOutcome :=
  match Digest.new manifest.digestAlgorithm digestBytes with
  | none => .error .invalidDigestLength
  | some digest =>
    match manifest.chunks[index]? with
    | some existing =>
      if existing.size = size ∧ existing.digest = digest then .ok .alreadyRecorded
      else .error (.conflict index)
    | none =>
      if manifest.sealed then .error .notContinuable
      else .ok (.added { manifest with chunks := manifest.chunks.insert index ⟨index,size,digest⟩ })

theorem recordAdded {manifest candidate : ChunkManifest} {index size bytes}
    (ok : manifest.recordExpectedChunk index size bytes = .ok (.added candidate)) :
    manifest.sealed = false ∧ manifest.chunks[index]? = none ∧
      ∃ digest : Digest, digest.bytes = bytes ∧
        candidate = { manifest with chunks := manifest.chunks.insert index ⟨index,size,digest⟩ } := by
  unfold ChunkManifest.recordExpectedChunk at ok
  split at ok
  · contradiction
  rename_i digest built
  split at ok
  · split at ok <;> cases ok
  rename_i absent
  split at ok
  · contradiction
  rename_i unsealed
  exact ⟨by simpa using unsealed,absent,digest,digestNewSome built,
    (ChunkRecordOutcome.added.inj (Except.ok.inj ok)).symm⟩

theorem recordAlready {manifest : ChunkManifest} {index size bytes}
    (ok : manifest.recordExpectedChunk index size bytes = .ok .alreadyRecorded) : index ∈ manifest.chunks := by
  unfold ChunkManifest.recordExpectedChunk at ok
  split at ok
  · contradiction
  split at ok
  · rename_i found
    exact Std.ExtTreeMap.mem_iff_isSome_getElem?.mpr (by rw [found]; rfl)
  · split at ok <;> cases ok

inductive SealOutcome where
  | sealed (manifest : ChunkManifest)
  | alreadySealed

inductive SealError where
  | incompleteChunkSet | nonContiguousIndices | conflictingReseal | invalidDigestLength
  deriving DecidableEq, Repr

def ChunkManifest.seal (manifest : ChunkManifest) (chunkCount : Nat) (digestBytes : List UInt8) :
    Except SealError SealOutcome :=
  match Digest.new manifest.digestAlgorithm digestBytes with
  | none => .error .invalidDigestLength
  | some artifactDigest =>
    if manifest.sealed then
      if manifest.chunkCount = some chunkCount ∧ manifest.artifactDigest = some artifactDigest then
        .ok .alreadySealed
      else .error .conflictingReseal
    else if manifest.chunks.size ≠ chunkCount then .error .incompleteChunkSet
    else if !(List.range chunkCount).all (fun i => manifest.chunks.contains i) then
      .error .nonContiguousIndices
    else .ok (.sealed { manifest with
      sealed := true, chunkCount := some chunkCount, artifactDigest := some artifactDigest })

structure Sealable (manifest : ChunkManifest) (chunkCount : Nat) : Prop where
  unsealed : manifest.sealed = false
  size : manifest.chunks.size = chunkCount
  contiguous : ∀ i < chunkCount, i ∈ manifest.chunks

theorem Sealable.memChunks {manifest chunkCount}
    (sealable : Sealable manifest chunkCount) {i} : i ∈ manifest.chunks ↔ i < chunkCount := by
  have inside : List.range chunkCount ⊆ manifest.chunks.keys := by
    intro j mem
    exact Std.ExtTreeMap.mem_keys.mpr (sealable.contiguous j (List.mem_range.mp mem))
  have same : (List.range chunkCount).Perm manifest.chunks.keys :=
    (List.subperm_of_subset List.nodup_range inside).perm_of_length_le
      (by simp [sealable.size])
  rw [← Std.ExtTreeMap.mem_keys,← same.mem_iff,List.mem_range]

theorem sealSealed {manifest candidate chunkCount bytes}
    (ok : manifest.seal chunkCount bytes = .ok (.sealed candidate)) :
    Sealable manifest chunkCount ∧ ∃ digest : Digest, digest.bytes = bytes ∧ candidate = { manifest with
      sealed := true, chunkCount := some chunkCount, artifactDigest := some digest } := by
  unfold ChunkManifest.seal at ok
  split at ok
  · contradiction
  rename_i digest built
  split at ok
  · split at ok <;> cases ok
  rename_i unsealed
  split at ok
  · contradiction
  rename_i size
  split at ok
  · contradiction
  rename_i contiguous
  refine ⟨⟨by simpa using unsealed,not_not.mp size,by simpa using contiguous⟩,digest,digestNewSome built,?_⟩
  exact (SealOutcome.sealed.inj (Except.ok.inj ok)).symm

inductive ArtifactState where
  | incomplete | pendingVerification | verified | failed
  deriving DecidableEq, Repr

inductive CaptureConsistency where
  | notApplicable | notEstablished | established
  deriving DecidableEq, Repr

structure Artifact where
  id : ArtifactId
  state : ArtifactState
  captureConsistency : CaptureConsistency
  deriving DecidableEq, Repr

def Artifact.newIncomplete (id : ArtifactId) : Artifact := ⟨id,.incomplete,.notEstablished⟩

inductive ArtifactTransitionError where
  | notIncomplete | notPendingVerification | manifestNotSealed | manifestMismatch | incompleteChunks
  deriving DecidableEq, Repr

def beginVerification (artifact : Artifact) (manifest : ChunkManifest) (held : List Nat) :
    Except ArtifactTransitionError Artifact :=
  if artifact.state ≠ .incomplete then .error .notIncomplete
  else if manifest.artifactId ≠ artifact.id then .error .manifestMismatch
  else if !manifest.sealed then .error .manifestNotSealed
  else if !manifest.chunks.keys.all (fun index => index ∈ held) then .error .incompleteChunks
  else .ok { artifact with state := .pendingVerification }

theorem beginVerificationHeld {artifact updated manifest held}
    (ok : beginVerification artifact manifest held = .ok updated) :
    ∀ i ∈ manifest.chunks, i ∈ held := by
  unfold beginVerification at ok
  repeat' first | contradiction | split at ok
  rename_i complete
  intro i mem
  simp only [Bool.not_eq_true,Bool.not_eq_false',List.all_eq_true,decide_eq_true_eq] at complete
  exact complete i (Std.ExtTreeMap.mem_keys.mpr mem)

def completeVerification (artifact : Artifact) (digestMatches : Bool) :
    Except ArtifactTransitionError Artifact :=
  if artifact.state ≠ .pendingVerification then .error .notPendingVerification
  else .ok { artifact with state := if digestMatches then .verified else .failed }

theorem completeVerificationOk {artifact updated digestMatches}
    (ok : completeVerification artifact digestMatches = .ok updated) :
    artifact.state = .pendingVerification ∧
      updated = { artifact with state := if digestMatches then .verified else .failed } := by
  unfold completeVerification at ok
  split at ok
  · contradiction
  · rename_i pending
    exact ⟨not_not.mp pending,(Except.ok.inj ok).symm⟩

def failIncomplete (artifact : Artifact) : Except ArtifactTransitionError Artifact :=
  if artifact.state ≠ .incomplete then .error .notIncomplete
  else .ok { artifact with state := .failed }

structure Transfer where
  id : TransferId
  endpointId : EndpointId
  jobId : JobId
  jobStepId : JobStepId
  artifactId : ArtifactId
  direction : TransferDirection
  digestAlgorithm : DigestAlgorithm
  chunkSize : ChunkSize
  sourceProvenance : String
  attemptId : Option AttemptId
  deriving DecidableEq, Repr

structure TransferContext where
  transfer : Transfer
  artifact : Artifact
  manifest : ChunkManifest

def createTransferContext (id : TransferId) (artifactId : ArtifactId) (endpointId : EndpointId)
    (jobId : JobId) (jobStepId : JobStepId) (direction : TransferDirection)
    (algorithm : DigestAlgorithm) (chunkSize : ChunkSize) (provenance : String) : TransferContext :=
  { transfer := ⟨id,endpointId,jobId,jobStepId,artifactId,direction,algorithm,chunkSize,provenance,none⟩
    artifact := Artifact.newIncomplete artifactId
    manifest := ChunkManifest.new artifactId algorithm chunkSize }

inductive TransferBindingError where
  | wrongJobStep | conflictingRebind
  deriving DecidableEq, Repr

def bindAttempt (transfer : Transfer) (attempt : Attempt) : Except TransferBindingError Transfer :=
  if attempt.jobStepId ≠ transfer.jobStepId then .error .wrongJobStep
  else match transfer.attemptId with
    | some existing =>
      if existing ≠ attempt.id then .error .conflictingRebind
      else .ok { transfer with attemptId := some attempt.id }
    | none => .ok { transfer with attemptId := some attempt.id }

end Bamep
