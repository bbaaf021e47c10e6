import Bamep.Domain.TransferAuthorization
import Bamep.Store.JobRepository

/-! The transactions that touch Transfers, Artifacts, manifests and chunks after creation. Each loads
the rows it locks, lets the service decide and commits the rows of the decision. -/
namespace Bamep
open Relational

structure TransferEvidenceFacts where
  job : Job
  jobStep : JobStep
  attempt : Attempt
  transfer : Transfer
  artifact : Artifact
  deriving DecidableEq, Repr

inductive TransferEvidenceDecision where
  | noOp
  | conflict
  | failClosed
  | applied (applied : Applied) (artifactFailed : Option Artifact)
  deriving DecidableEq, Repr

inductive TransferEvidenceResult where
  | notTransferAction
  | noOp
  | conflict
  | failClosed
  | applied (applied : Applied)
  deriving DecidableEq, Repr

def TransferEvidenceResult.applied? : TransferEvidenceResult → Option Applied
  | .applied decided => some decided
  | .notTransferAction | .noOp | .conflict | .failClosed => none

-- `transfers JOIN attempts` on the bound Attempt, restricted to one action.
def Store.transferOfAction (s : Store) (actionId : ActionId) : Option Transfer :=
  s.transfer.transfers.rows.find? fun x =>
    s.workflow.attempts.rows.any fun a => x.attemptId = some a.id && a.actionId = actionId

-- The guarded update; `none` when it affects no row.
def TransferRows.persistIncompleteArtifactFailed (t : TransferRows) (artifactId : ArtifactId) :
    Option TransferRows :=
  match t.artifacts.find? artifactId with
  | none => none
  | some artifact =>
    if artifact.state = .incomplete then some (t.setArtifactState artifactId .failed) else none

def Store.persistTransferEvidence (s : Store) (facts : TransferEvidenceFacts) :
    TransferEvidenceDecision → Store × Except ApplyActionEvidenceError TransferEvidenceResult
  | .noOp => (s,.ok .noOp)
  | .conflict => (s,.ok .conflict)
  | .failClosed => (s,.ok .failClosed)
  | .applied applied artifactFailed =>
    match if artifactFailed.isSome then s.transfer.persistIncompleteArtifactFailed facts.artifact.id
        else some s.transfer with
    | none => (s,.ok .failClosed)
    | some t =>
      match (s.workflow.persistApplied? applied).bind fun w => commit w t with
      | none => (s,.error (.repository .database))
      | some s' => (s',.ok (.applied applied))

def Store.applyTransferTerminalEvidence (s : Store) (actionId : ActionId) (endpointId : EndpointId)
    (decide : TransferEvidenceFacts → TransferEvidenceDecision) :
    Store × Except ApplyActionEvidenceError TransferEvidenceResult :=
  match s.transferOfAction actionId with
  | none => (s,.ok .notTransferAction)
  | some resolved =>
    match s.transfer.loadLockedTransferAndArtifact resolved.id with
    | .error e => (s,.error (.repository e))
    | .ok none =>
      (s,.error (.repository (.backend "transfer disappeared between resolution and lock")))
    | .ok (some (transfer,artifact)) =>
      match transfer.attemptId with
      | none => (s,.ok .notTransferAction)
      | some bound =>
        match s.workflow.attempts.find? bound with
        | none => (s,.error (.repository (.backend "transfer bound to a nonexistent attempt")))
        | some attempt =>
          if attempt.actionId ≠ actionId then
            (s,.error (.repository (.backend "transfer attempt does not own the resolved action")))
          else match s.workflow.loadOwners attempt with
            | .error e => (s,.error (.repository e))
            | .ok owners =>
              if owners.job.endpointId ≠ endpointId then (s,.error .unknownAction)
              else
                let facts := ⟨owners.job,owners.jobStep,attempt,transfer,artifact⟩
                s.persistTransferEvidence facts (decide facts)

def Store.actionHasBoundTransfer (s : Store) (actionId : ActionId) : Bool :=
  (s.transferOfAction actionId).isSome

-- `attempts JOIN job_steps JOIN jobs`.
def Store.actionTargetsEndpoint (s : Store) (actionId : ActionId) (endpointId : EndpointId) : Bool :=
  s.workflow.attempts.rows.any fun a => a.actionId = actionId &&
    s.workflow.jobSteps.rows.any fun step => step.id = a.jobStepId &&
      s.workflow.jobs.rows.any fun job => job.id = step.jobId && job.endpointId = endpointId

inductive CommitTransferError where
  | transferNotFound (id : TransferId)
  | repository (error : RepositoryError)
  deriving DecidableEq, Repr

inductive ChunkAcceptanceDecided where
  | commit (outcome : ChunkRecordOutcome)
  | rejectConflict
  | rejectNotContinuable
  | failClosed

inductive ChunkAcceptanceCommit where
  | committed | alreadyCommitted | rejectedConflict | rejectedNotContinuable | failClosed
  deriving DecidableEq, Repr

def TransferRows.insertChunk? (t : TransferRows) (row : ChunkRow) : Option TransferRows :=
  (t.chunks.insert? row).map fun chunks => { t with chunks := chunks }

def TransferRows.setHeld (t : TransferRows) (artifactId : ArtifactId) (chunkIndex : Int) : TransferRows :=
  { t with
    chunks := t.chunks.update (artifactId,chunkIndex) (fun row => { row with held := true }) fun _ => rfl }

def Store.commitTransferRows (s : Store) (t : Option TransferRows) : Option Store :=
  t.bind (commit s.workflow)

def Store.commitChunkAcceptance (s : Store) (transferId : TransferId) (index : Nat)
    (decide : TransferLockedFacts → Option Attempt → ChunkAcceptanceDecided) :
    Store × Except CommitTransferError ChunkAcceptanceCommit :=
  match s.transfer.loadLockedFacts transferId with
  | .error e => (s,.error (.repository e))
  | .ok none => (s,.error (.transferNotFound transferId))
  | .ok (some facts) =>
    match decide facts (facts.transfer.attemptId.bind s.workflow.attempts.find?) with
    | .rejectConflict => (s,.ok .rejectedConflict)
    | .rejectNotContinuable => (s,.ok .rejectedNotContinuable)
    | .failClosed => (s,.ok .failClosed)
    | .commit (.added manifest) =>
      match manifest.chunks[index]? with
      | none =>
        (s,.error (.repository (.backend "decided manifest is missing the accepted chunk identity")))
      | some expected =>
        match s.commitTransferRows (s.transfer.insertChunk?
            ⟨facts.artifact.id,asI32 index,asI32 expected.size,expected.digest.bytes,true⟩) with
        | none => (s,.error (.repository .database))
        | some s' => (s',.ok .committed)
    | .commit .alreadyRecorded =>
      if index ∈ facts.heldChunkIndices then (s,.ok .alreadyCommitted)
      else match s.commitTransferRows (some (s.transfer.setHeld facts.artifact.id (asI32 index))) with
        | none => (s,.error (.repository .database))
        | some s' => (s',.ok .committed)

-- The snapshot the seal is decided over; the Endpoint counts only through its credential.
structure AuthorizationDurableState extends TransferLockedFacts where
  attempt : Option Attempt
  credentialActive : Bool

inductive ManifestSealDecided where
  | denied
  | failClosed
  | rejectIncomplete
  | rejectAlreadySealed
  | alreadyPending
  | seal (chunkCount : Nat) (artifactDigest : Digest)
  deriving DecidableEq, Repr

structure SealedManifestDurableFacts where
  artifactId : ArtifactId
  digestAlgorithm : DigestAlgorithm
  chunkSize : ChunkSize
  chunkCount : Nat
  expectedArtifactDigest : Digest
  deriving DecidableEq, Repr

inductive ManifestSealCommit where
  | denied
  | failClosed
  | rejectedIncomplete
  | rejectedAlreadySealed
  | alreadyPending (facts : SealedManifestDurableFacts)
  | sealed (facts : SealedManifestDurableFacts)
  deriving DecidableEq, Repr

def TransferRows.setSealed (t : TransferRows) (artifactId : ArtifactId) (chunkCount : Nat)
    (digest : Digest) : TransferRows :=
  { t with
    manifests := t.manifests.update artifactId (fun row =>
      { row with
        sealed := true
        chunkCount := some (asI32 chunkCount)
        artifactDigest := some digest.bytes }) fun _ => rfl }

def TransferLockedFacts.sealedFacts (facts : TransferLockedFacts) (chunkCount : Nat) (digest : Digest) :
    SealedManifestDurableFacts :=
  ⟨facts.artifact.id,facts.manifest.digestAlgorithm,facts.manifest.chunkSize,chunkCount,digest⟩

def Store.persistManifestSeal (s : Store) (facts : TransferLockedFacts) :
    ManifestSealDecided → Store × Except CommitTransferError ManifestSealCommit
  | .denied => (s,.ok .denied)
  | .failClosed => (s,.ok .failClosed)
  | .rejectIncomplete => (s,.ok .rejectedIncomplete)
  | .rejectAlreadySealed => (s,.ok .rejectedAlreadySealed)
  | .alreadyPending =>
    match facts.manifest.chunkCount,facts.manifest.artifactDigest with
    | none,_ => (s,.error (.repository (.backend
        "already-PendingVerification artifact has an unsealed durable manifest")))
    | some _,none => (s,.error (.repository (.backend
        "already-sealed durable manifest is missing its artifact_digest")))
    | some count,some digest => (s,.ok (.alreadyPending (facts.sealedFacts count digest)))
  | .seal chunkCount digest =>
    match s.commitTransferRows (some
        ((s.transfer.setSealed facts.artifact.id chunkCount digest).setArtifactState
          facts.artifact.id .pendingVerification)) with
    | none => (s,.error (.repository .database))
    | some s' => (s',.ok (.sealed (facts.sealedFacts chunkCount digest)))

-- `endpoint` is `none` when the locked Endpoint row is missing, else whether its credential is active.
def Store.commitManifestSeal (s : Store) (transferId : TransferId) (endpoint : Option Bool)
    (decide : AuthorizationDurableState → ManifestSealDecided) :
    Store × Except CommitTransferError ManifestSealCommit :=
  match s.transfer.loadLockedFacts transferId with
  | .error e => (s,.error (.repository e))
  | .ok none => (s,.error (.transferNotFound transferId))
  | .ok (some facts) =>
    match endpoint with
    | none => (s,.error (.repository (.backend "transfer durably references missing endpoint")))
    | some credentialActive =>
      s.persistManifestSeal facts
        (decide ⟨facts,facts.transfer.attemptId.bind s.workflow.attempts.find?,credentialActive⟩)

inductive ArtifactVerificationDecided where
  | failClosed
  | commit (updated : Artifact)
  deriving DecidableEq, Repr

inductive ArtifactVerificationCommit where
  | failClosed
  | committed (verified : Bool)
  deriving DecidableEq, Repr

def Store.commitArtifactVerification (s : Store) (transferId : TransferId)
    (decide : TransferLockedFacts → ArtifactVerificationDecided) :
    Store × Except CommitTransferError ArtifactVerificationCommit :=
  match s.transfer.loadLockedFacts transferId with
  | .error e => (s,.error (.repository e))
  | .ok none => (s,.error (.transferNotFound transferId))
  | .ok (some facts) =>
    match decide facts with
    | .failClosed => (s,.ok .failClosed)
    | .commit updated =>
      match s.commitTransferRows (some (s.transfer.setArtifactState updated.id updated.state)) with
      | none => (s,.error (.repository .database))
      | some s' => (s',.ok (.committed (updated.state = .verified)))

end Bamep
