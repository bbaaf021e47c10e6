import Bamep.Domain.Wire
import Bamep.Store.TransferRepository

/-! The Worker's durable requests: chunk acceptance, manifest seal and Artifact verification.
The seal is authorized inside its transaction; what is decided before it needs no durable state. -/
namespace Bamep

def decideChunkAcceptance (index size : Nat) (digestWire : String) (facts : TransferLockedFacts)
    (attempt : Option Attempt) : ChunkAcceptanceDecided :=
  let hasIdentity := facts.manifest.chunks[index]?.isSome
  match dataPlaneOperationIsCurrent .chunkUpload facts.artifact.state facts.manifest.sealed hasIdentity with
  | .error _ => .rejectNotContinuable
  | .ok _ =>
    if attempt.map Attempt.state ≠ some .inProgress then .rejectNotContinuable
    else if size = 0 ∨ size > facts.manifest.chunkSize.bytes then .failClosed
    else match Digest.parseWireValue facts.manifest.digestAlgorithm digestWire with
      | .error _ => .failClosed
      | .ok digest =>
        match facts.manifest.chunks[index]? with
        | some existing =>
          if existing.digest ≠ digest then .rejectConflict
          else if existing.size ≠ size then .failClosed
          else record digest
        | none => record digest
where
  record (digest : Digest) : ChunkAcceptanceDecided :=
    match facts.manifest.recordExpectedChunk index size digest.bytes with
    | .ok outcome => .commit outcome
    | .error (.conflict _) => .failClosed
    | .error .notContinuable => .rejectNotContinuable
    | .error .invalidDigestLength => .failClosed

-- `chunkIndex` is a `u64`, `size` a `u32`.
def Store.acceptChunk (s : Store) (transferId : TransferId) (chunkIndex : Nat) (digestWire : String)
    (size : Nat) : Store × Except RepositoryError ChunkAcceptanceCommit :=
  if 2 ^ 32 ≤ chunkIndex then (s,.ok .failClosed)
  else match s.commitChunkAcceptance transferId chunkIndex
      (decideChunkAcceptance chunkIndex size digestWire) with
    | (s',.ok result) => (s',.ok result)
    | (s',.error (.transferNotFound _)) => (s',.ok .failClosed)
    | (s',.error (.repository e)) => (s',.error e)

-- The checks the seal makes before it consumes the proof.
def sealAuthorized (binding : CapabilityBinding) (digestWire : String)
    (state : AuthorizationDurableState) : Except ManifestSealDecided Digest :=
  if state.transfer.endpointId ≠ binding.endpointId ∨ state.transfer.artifactId ≠ binding.artifactId ∨
      state.transfer.direction ≠ binding.direction then .error .denied
  else match state.attempt with
    | none => .error .denied
    | some attempt =>
      if attempt.id ≠ binding.attemptId ∨ attempt.state ≠ .inProgress then .error .denied
      else if !state.credentialActive then .error .denied
      else match dataPlaneOperationIsCurrent .sealManifest state.artifact.state state.manifest.sealed false with
        | .error _ => .error .denied
        | .ok _ =>
          match Digest.parseWireValue state.manifest.digestAlgorithm digestWire with
          | .error _ => .error .failClosed
          | .ok digest => .ok digest

theorem sealRefused {binding digestWire state decided}
    (refused : sealAuthorized binding digestWire state = .error decided) :
    decided = .denied ∨ decided = .failClosed := by
  unfold sealAuthorized at refused
  repeat' split at refused
  all_goals cases refused
  all_goals first | exact .inl rfl | exact .inr rfl

def sealOutcome (chunkCount : Nat) (digest : Digest) (state : AuthorizationDurableState) :
    ManifestSealDecided :=
  match state.artifact.state with
  | .incomplete =>
    if state.manifest.sealed then .failClosed
    else match state.manifest.seal chunkCount digest.bytes with
      | .ok (.sealed candidate) =>
        match beginVerification state.artifact candidate state.heldChunkIndices with
        | .ok _ => .seal chunkCount digest
        | .error .incompleteChunks => .rejectIncomplete
        | .error _ => .failClosed
      | .error .incompleteChunkSet | .error .nonContiguousIndices => .rejectIncomplete
      | _ => .failClosed
  | .pendingVerification =>
    if !state.manifest.sealed then .failClosed
    else match state.manifest.seal chunkCount digest.bytes with
      | .ok .alreadySealed => .alreadyPending
      | .error .conflictingReseal => .rejectAlreadySealed
      | _ => .failClosed
  | .verified | .failed => .denied

-- `replayAccepted` is the answer of the replay cache, asked only by an authorized request.
def decideManifestSeal (binding : CapabilityBinding) (chunkCount : Nat) (digestWire : String)
    (replayAccepted : Bool) (state : AuthorizationDurableState) : ManifestSealDecided :=
  match sealAuthorized binding digestWire state with
  | .error decided => decided
  | .ok digest => if !replayAccepted then .denied else sealOutcome chunkCount digest state

-- `chunkCount` is a `u64`.
def Store.sealManifest (s : Store) (transferId : TransferId) (binding : CapabilityBinding)
    (endpoint : Option Bool) (chunkCount : Nat) (digestWire : String) (replayAccepted : Bool) :
    Store × Except RepositoryError ManifestSealCommit :=
  if 2 ^ 32 ≤ chunkCount then (s,.ok .failClosed)
  else match s.commitManifestSeal transferId endpoint
      (decideManifestSeal binding chunkCount digestWire replayAccepted) with
    | (s',.ok result) => (s',.ok result)
    | (s',.error (.transferNotFound _)) => (s',.ok .denied)
    | (s',.error (.repository e)) => (s',.error e)

structure ArtifactVerificationInput where
  transferId : TransferId
  artifactId : ArtifactId
  chunkCount : Nat
  boundExpectedArtifactDigest : String
  computedArtifactDigest : String
  deriving DecidableEq, Repr

def decideArtifactVerification (input : ArtifactVerificationInput) (facts : TransferLockedFacts) :
    ArtifactVerificationDecided :=
  if facts.artifact.id ≠ input.artifactId ∨ facts.transfer.artifactId ≠ input.artifactId ∨
      facts.artifact.state ≠ .pendingVerification ∨ facts.manifest.sealed = false ∨
      facts.manifest.chunkCount ≠ some input.chunkCount then .failClosed
  else match facts.manifest.artifactDigest with
    | none => .failClosed
    | some expected =>
      if expected.toWireValue ≠ input.boundExpectedArtifactDigest then .failClosed
      else match Digest.parseWireValue facts.manifest.digestAlgorithm input.computedArtifactDigest with
        | .error _ => .failClosed
        | .ok computed =>
          match completeVerification facts.artifact (computed.bytes = expected.bytes) with
          | .ok updated => .commit updated
          | .error _ => .failClosed

def Store.verifyArtifact (s : Store) (input : ArtifactVerificationInput) :
    Store × Except RepositoryError ArtifactVerificationCommit :=
  match s.commitArtifactVerification input.transferId (decideArtifactVerification input) with
  | (s',.ok result) => (s',.ok result)
  | (s',.error (.transferNotFound _)) => (s',.ok .failClosed)
  | (s',.error (.repository e)) => (s',.error e)

end Bamep
