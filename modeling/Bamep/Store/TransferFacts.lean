import Bamep.Store.Rows

/-! Transfer contexts as the repository creates and reloads them. A manifest is not stored as such:
it is replayed from its chunk rows in index order and then sealed again if it was sealed. -/
namespace Bamep
open Relational

inductive RepositoryError where
  | backend (message : String)
  | database
  deriving DecidableEq, Repr

structure TransferLockedFacts where
  transfer : Transfer
  artifact : Artifact
  manifest : ChunkManifest
  heldChunkIndices : List Nat

/- The `as u32` cast of a stored `INTEGER`. -/
def asU32 (n : Int) : Nat := (n % 2 ^ 32).toNat

def replayChunk (manifest : ChunkManifest) (row : ChunkRow) : Option ChunkManifest :=
  match manifest.recordExpectedChunk (asU32 row.chunkIndex) (asU32 row.size) row.digest with
  | .ok (.added next) => some next
  | _ => none

namespace TransferRows

def chunkRows (t : TransferRows) (artifactId : ArtifactId) : List ChunkRow :=
  (t.chunks.select fun row => row.artifactId = artifactId).insertionSort
    fun a b => a.chunkIndex ≤ b.chunkIndex

def loadManifest (t : TransferRows) (transfer : Transfer) (row : ManifestRow) :
    Except RepositoryError ChunkManifest :=
  let fresh := ChunkManifest.new transfer.artifactId transfer.digestAlgorithm transfer.chunkSize
  match (t.chunkRows transfer.artifactId).foldlM replayChunk fresh with
  | none => .error (.backend "persisted chunk identities could not be reconstructed into a manifest")
  | some manifest =>
    if row.sealed then
      match row.chunkCount,row.artifactDigest with
      | none,_ => .error (.backend "sealed manifest is missing its durable chunk_count")
      | some _,none => .error (.backend "sealed manifest is missing its durable artifact_digest")
      | some count,some digest =>
        match manifest.seal (asU32 count) digest with
        | .ok (.sealed again) => .ok again
        | _ => .error (.backend "persisted sealed manifest facts could not be reconstructed")
    else .ok manifest

def loadLockedFacts (t : TransferRows) (transferId : TransferId) :
    Except RepositoryError (Option TransferLockedFacts) :=
  match t.transfers.find? transferId with
  | none => .ok none
  | some transfer =>
    match t.artifacts.find? transfer.artifactId,t.manifests.find? transfer.artifactId with
    | some artifact,some row =>
      match t.loadManifest transfer row with
      | .error e => .error e
      | .ok manifest => .ok (some
          { transfer := transfer
            artifact := artifact
            manifest := manifest
            heldChunkIndices := ((t.chunkRows transfer.artifactId).filter (·.held)).map
              fun row => asU32 row.chunkIndex })
    | _,_ => .error .database

structure Loaded (t : TransferRows) (transferId : TransferId) (facts : TransferLockedFacts)
    (row : ManifestRow) : Prop where
  transfer : facts.transfer ∈ t.transfers
  named : facts.transfer.id = transferId
  artifact : facts.artifact ∈ t.artifacts
  owned : facts.artifact.id = facts.transfer.artifactId
  stored : row ∈ t.manifests
  manifestOf : row.artifactId = facts.transfer.artifactId
  manifest : t.loadManifest facts.transfer row = .ok facts.manifest
  held : facts.heldChunkIndices = ((t.chunkRows facts.transfer.artifactId).filter (·.held)).map
    fun row => asU32 row.chunkIndex

theorem loadLockedFactsOk {t transferId facts}
    (loaded : t.loadLockedFacts transferId = .ok (some facts)) : ∃ row, Loaded t transferId facts row := by
  unfold loadLockedFacts at loaded
  split at loaded
  · cases loaded
  rename_i transfer found
  split at loaded
  · rename_i artifact row artifactFound rowFound
    split at loaded
    · contradiction
    rename_i manifest replayed
    cases Option.some.inj (Except.ok.inj loaded)
    obtain ⟨present,named⟩ := Table.findIff.mp found
    obtain ⟨artifactMem,owned⟩ := Table.findIff.mp artifactFound
    obtain ⟨rowMem,manifestOf⟩ := Table.findIff.mp rowFound
    exact ⟨row,present,named,artifactMem,owned,rowMem,manifestOf,replayed,rfl⟩
  · contradiction

def loadLockedTransferAndArtifact (t : TransferRows) (transferId : TransferId) :
    Except RepositoryError (Option (Transfer × Artifact)) :=
  match t.transfers.find? transferId with
  | none => .ok none
  | some transfer =>
    match t.artifacts.find? transfer.artifactId with
    | none => .error .database
    | some artifact => .ok (some (transfer,artifact))

def setAttemptBinding (t : TransferRows) (transferId : TransferId) (attemptId : AttemptId) :
    TransferRows :=
  { t with transfers :=
      t.transfers.update transferId (fun x => { x with attemptId := some attemptId }) fun _ => rfl }

def setArtifactState (t : TransferRows) (artifactId : ArtifactId) (state : ArtifactState) :
    TransferRows :=
  { t with artifacts := t.artifacts.update artifactId (fun a => { a with state := state }) fun _ => rfl }

end TransferRows

inductive CreateTransferError where
  | endpointNotFound (id : EndpointId)
  | jobNotFound (id : JobId)
  | jobEndpointMismatch (id : JobId) (endpointId : EndpointId)
  | jobStepNotFound (id : JobStepId) (jobId : JobId)
  | repository (error : RepositoryError)
  deriving DecidableEq, Repr

def insertContext? (t : TransferRows) (context : TransferContext) : Option TransferRows := do
  let artifacts ← t.artifacts.insert? context.artifact
  let transfers ← t.transfers.insert? context.transfer
  let manifests ← t.manifests.insert? ⟨context.artifact.id,false,none,none⟩
  some { t with transfers := transfers, artifacts := artifacts, manifests := manifests }

def Store.createTransferContext (s : Store) (endpointExists : Bool) (context : TransferContext) :
    Store × Except CreateTransferError Unit :=
  let transfer := context.transfer
  if !endpointExists then (s,.error (.endpointNotFound transfer.endpointId))
  else match s.workflow.jobs.find? transfer.jobId with
    | none => (s,.error (.jobNotFound transfer.jobId))
    | some job =>
      if job.endpointId ≠ transfer.endpointId then
        (s,.error (.jobEndpointMismatch transfer.jobId transfer.endpointId))
      else if (s.workflow.jobSteps.select fun step =>
          step.id = transfer.jobStepId && step.jobId = transfer.jobId).isEmpty then
        (s,.error (.jobStepNotFound transfer.jobStepId transfer.jobId))
      else match (insertContext? s.transfer context).bind (commit s.workflow) with
        | none => (s,.error (.repository .database))
        | some s' => (s',.ok ())

end Bamep
