import Mathlib.Data.List.Sort
import Mathlib.Tactic.MkIffOfInductiveProp
import Bamep.Library.Table
import Bamep.Domain.EvidenceStep
import Bamep.Domain.Dispatch

/-! The durable rows and the constraints of the schema.
A transaction computes new rows and commits them only if every constraint holds, so the
constraints are fields of `Store` and hold in every stored state. Endpoints, credentials and audit
records are not rows here: no operation of this layer reads back what it writes to them. -/
namespace Bamep
open Relational

structure JobRow where
  id : JobId
  endpointId : EndpointId
  state : JobState
  deriving DecidableEq, Repr

structure ManifestRow where
  artifactId : ArtifactId
  sealed : Bool
  chunkCount : Option Int
  artifactDigest : Option (List UInt8)
  deriving DecidableEq, Repr

structure ChunkRow where
  artifactId : ArtifactId
  chunkIndex : Int
  size : Int
  digest : List UInt8
  held : Bool
  deriving DecidableEq, Repr

def ChunkRow.key (row : ChunkRow) : ArtifactId × Int := (row.artifactId,row.chunkIndex)

structure WorkflowRows where
  jobs : Table JobRow.id
  jobSteps : Table JobStep.id
  attempts : Table Attempt.id
  events : Table DomainEvent.eventId

structure TransferRows where
  transfers : Table Transfer.id
  artifacts : Table Artifact.id
  manifests : Table ManifestRow.artifactId
  chunks : Table ChunkRow.key

@[mk_iff]
structure WorkflowRows.Valid (w : WorkflowRows) : Prop where
  exclusive : ∀ a ∈ w.jobs, ∀ b ∈ w.jobs, a.state.occupiesEndpoint = true →
    b.state.occupiesEndpoint = true → a.endpointId = b.endpointId → a = b
  orderNonneg : ∀ step ∈ w.jobSteps, 0 ≤ step.order
  orderUnique : ∀ a ∈ w.jobSteps, ∀ b ∈ w.jobSteps, a.jobId = b.jobId → a.order = b.order → a = b
  stepJob : ∀ step ∈ w.jobSteps, ∃ job ∈ w.jobs, job.id = step.jobId
  actionUnique : ∀ a ∈ w.attempts, ∀ b ∈ w.attempts, a.actionId = b.actionId → a = b
  attemptStep : ∀ attempt ∈ w.attempts, ∃ step ∈ w.jobSteps, step.id = attempt.jobStepId

instance (w : WorkflowRows) : Decidable w.Valid := decidable_of_iff' _ (WorkflowRows.valid_iff w)

@[mk_iff]
structure TransferRows.Valid (t : TransferRows) (w : WorkflowRows) : Prop where
  chunkSizePositive : ∀ x ∈ t.transfers, 0 < asI32 x.chunkSize.bytes
  artifactUnique : ∀ x ∈ t.transfers, ∀ y ∈ t.transfers, x.artifactId = y.artifactId → x = y
  attemptUnique : ∀ x ∈ t.transfers, ∀ y ∈ t.transfers, x.attemptId.isSome = true →
    x.attemptId = y.attemptId → x = y
  transferArtifact : ∀ x ∈ t.transfers, ∃ a ∈ t.artifacts, a.id = x.artifactId
  transferJob : ∀ x ∈ t.transfers, ∃ j ∈ w.jobs, j.id = x.jobId
  transferStep : ∀ x ∈ t.transfers, ∃ s ∈ w.jobSteps, s.id = x.jobStepId
  transferAttempt : ∀ x ∈ t.transfers, x.attemptId = none ∨ ∃ a ∈ w.attempts, some a.id = x.attemptId
  manifestArtifact : ∀ m ∈ t.manifests, ∃ a ∈ t.artifacts, a.id = m.artifactId
  manifestCount : ∀ m ∈ t.manifests, ∀ n ∈ m.chunkCount, 0 ≤ n
  manifestDigest : ∀ m ∈ t.manifests, ∀ d ∈ m.artifactDigest, d.length = 32
  manifestFacts : ∀ m ∈ t.manifests,
    (m.sealed = false ∧ m.chunkCount = none ∧ m.artifactDigest = none) ∨
    (m.sealed = true ∧ m.chunkCount.isSome = true ∧ m.artifactDigest.isSome = true)
  chunkArtifact : ∀ c ∈ t.chunks, ∃ a ∈ t.artifacts, a.id = c.artifactId
  chunkIndexNonneg : ∀ c ∈ t.chunks, 0 ≤ c.chunkIndex
  chunkSize : ∀ c ∈ t.chunks, 0 < c.size
  chunkDigest : ∀ c ∈ t.chunks, c.digest.length = 32

instance (t : TransferRows) (w : WorkflowRows) : Decidable (t.Valid w) :=
  decidable_of_iff' _ (TransferRows.valid_iff t w)

structure Store where
  workflow : WorkflowRows
  transfer : TransferRows
  workflowValid : workflow.Valid
  transferValid : transfer.Valid workflow

def WorkflowRows.empty : WorkflowRows := ⟨.empty,.empty,.empty,.empty⟩

def TransferRows.empty : TransferRows := ⟨.empty,.empty,.empty,.empty⟩

def Store.empty : Store := ⟨.empty,.empty,by decide,by decide⟩

def commit (workflow : WorkflowRows) (transfer : TransferRows) : Option Store :=
  if valid : workflow.Valid ∧ transfer.Valid workflow then
    some ⟨workflow,transfer,valid.1,valid.2⟩
  else none

theorem commitSome {workflow transfer store}
    (ok : commit workflow transfer = some store) :
    store.workflow = workflow ∧ store.transfer = transfer := by
  unfold commit at ok
  split at ok
  · cases Option.some.inj ok; exact ⟨rfl,rfl⟩
  · contradiction

end Bamep
