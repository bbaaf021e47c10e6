import Bamep.Library.Table
import Bamep.Domain.Transfer

/-! The Worker connection generation and the transient bindings of one generation. Every method of a
store runs under the shared state lock of the registry, and every method that changes the registry's
state takes that lock exclusively, so each is one step. -/
namespace Bamep
open Relational

structure ConnectionGeneration where
  value : UInt64
  deriving DecidableEq, Repr

inductive WorkerControlState where
  | noConnection
  | active (generation : ConnectionGeneration) (workerInstanceId : Nat)
  deriving DecidableEq, Repr

-- `observedOperations` is the `Weak` of a store, as the number of that store.
structure WorkerAuthorityRegistry where
  state : WorkerControlState
  observedOperations : Option Nat
  operationsCapacity : Nat
  nextGeneration : UInt64
  deriving DecidableEq, Repr

inductive TransientOperationError where
  | saturated | idCollision | staleGeneration | unknownHandle | wrongKind | bindingMismatch
  deriving DecidableEq, Repr

namespace WorkerAuthorityRegistry
variable (registry : WorkerAuthorityRegistry) (generation : ConnectionGeneration)

def withOperationsCapacity (operationsCapacity : Nat) : WorkerAuthorityRegistry :=
  ⟨.noConnection,none,max operationsCapacity 1,1⟩

def isCurrent : Bool :=
  match registry.state with
  | .active current _ => current = generation
  | .noConnection => false

def linearizedOn {α : Type} (critical : α) : Option α :=
  match registry.state with
  | .active current _ => if current = generation then some critical else none
  | .noConnection => none

def withCurrentGeneration {α : Type} (op : α) : Except TransientOperationError α :=
  match registry.linearizedOn generation op with
  | some out => .ok out
  | none => .error .staleGeneration

def setCurrentOperations (store : Nat) : WorkerAuthorityRegistry :=
  (registry.linearizedOn generation { registry with observedOperations := some store }).getD registry

-- `fetch_add` wraps.
def beginGeneration (workerInstanceId : Nat) : WorkerAuthorityRegistry × ConnectionGeneration :=
  let generation : ConnectionGeneration := ⟨registry.nextGeneration⟩
  ({ registry with
      state := .active generation workerInstanceId
      observedOperations := none
      nextGeneration := registry.nextGeneration + 1 },generation)

def endGeneration : WorkerAuthorityRegistry :=
  match registry.state with
  | .active current _ =>
    if current = generation then { registry with state := .noConnection, observedOperations := none }
    else registry
  | .noConnection => registry

variable {registry generation}

theorem linearizedOnCurrent {α : Type} (critical : α) :
    registry.linearizedOn generation critical = if registry.isCurrent generation then some critical else none := by
  unfold linearizedOn isCurrent
  split
  · simp only [decide_eq_true_eq]
  · rfl

theorem withCurrentGenerationCurrent {α : Type} (op : α) : registry.withCurrentGeneration generation op =
    if registry.isCurrent generation then .ok op else .error .staleGeneration := by
  unfold withCurrentGeneration
  rw [linearizedOnCurrent]
  cases registry.isCurrent generation <;> rfl

theorem setCurrentOperationsCurrent (current : registry.isCurrent generation) (store : Nat) :
    registry.setCurrentOperations generation store = { registry with observedOperations := some store } := by
  unfold setCurrentOperations
  rw [linearizedOnCurrent,if_pos current]
  rfl

theorem setCurrentOperationsStale (stale : ¬registry.isCurrent generation) (store : Nat) :
    registry.setCurrentOperations generation store = registry := by
  unfold setCurrentOperations
  rw [linearizedOnCurrent,if_neg stale]
  rfl

theorem endGenerationCurrent (current : registry.isCurrent generation) : registry.endGeneration generation =
    { registry with state := .noConnection, observedOperations := none } := by
  unfold endGeneration
  unfold isCurrent at current
  cases active : registry.state with
  | noConnection => rw [active] at current; contradiction
  | active other id =>
    rw [active] at current
    exact if_pos (of_decide_eq_true current)

theorem endGenerationStale (stale : ¬registry.isCurrent generation) :
    registry.endGeneration generation = registry := by
  unfold endGeneration
  split
  · rename_i current _ active
    refine if_neg fun same => stale ?_
    unfold isCurrent
    rw [active]
    exact decide_eq_true same
  · rfl

end WorkerAuthorityRegistry

inductive HandleKind where
  | acceptance | verification | resumeCursor
  deriving DecidableEq, Repr

structure AcceptanceBinding where
  transferId : TransferId
  chunkIndex : Nat
  proofId : String
  deriving DecidableEq, Repr

structure VerificationBinding where
  transferId : TransferId
  artifactId : ArtifactId
  chunkCount : Nat
  expectedArtifactDigest : String
  proofId : String
  deriving DecidableEq, Repr

structure ResumeCursorState where
  snapshotId : Nat
  nextChunkIndex : Nat
  deriving DecidableEq, Repr

structure ResumeCursorBinding where
  transferId : TransferId
  proofId : String
  state : ResumeCursorState
  deriving DecidableEq, Repr

inductive Binding where
  | acceptance (binding : AcceptanceBinding)
  | verification (binding : VerificationBinding)
  | resumeCursor (binding : ResumeCursorBinding)
  deriving DecidableEq, Repr

structure HeldChunkEntry where
  chunkIndex : Nat
  digest : String
  deriving DecidableEq, Repr

structure ResumeSnapshot where
  transferId : TransferId
  sealed : Bool
  digestAlgorithm : DigestAlgorithm
  chunkSize : Nat
  expectedChunkCount : Option Nat
  held : List HeldChunkEntry
  deriving DecidableEq, Repr

structure LiveBinding where
  handle : String
  binding : Binding
  deriving DecidableEq, Repr

structure LiveSnapshot where
  id : Nat
  snapshot : ResumeSnapshot
  deriving DecidableEq, Repr

structure TransientWorkerOperationStore where
  generation : ConnectionGeneration
  capacity : Nat
  resumeSnapshotCapacity : Nat
  bindings : Table LiveBinding.handle
  resumeSnapshots : Table LiveSnapshot.id

/- The ids the process draws, in order: the `n`-th draw is a handle of the kind asked for, or a UUID. -/
structure IdSource where
  handle : Nat → HandleKind → String
  uuid : Nat → Nat

def IdSource.Fresh (ids : IdSource) : Prop :=
  ∀ i j kind other, ids.handle i kind = ids.handle j other → i = j

def mintAttempts : Nat := 4

-- The loop over `MINT_ATTEMPTS`; returns how far the source was read.
def chooseId {ι : Type} (source : Nat → ι) (taken : ι → Bool) : Nat → Nat → Option ι × Nat
  | 0,drawn => (none,drawn)
  | attempts + 1,drawn =>
    if taken (source drawn) then chooseId source taken attempts (drawn + 1)
    else (some (source drawn),drawn + 1)

theorem chooseIdDrawn {ι : Type} (source : Nat → ι) (taken : ι → Bool) (attempts drawn : Nat) :
    drawn ≤ (chooseId source taken attempts drawn).2 ∧
      ∀ id, (chooseId source taken attempts drawn).1 = some id →
        taken id = false ∧ ∃ n, drawn ≤ n ∧ n < (chooseId source taken attempts drawn).2 ∧ id = source n := by
  induction attempts generalizing drawn with
  | zero => exact ⟨le_rfl,by rintro _ ⟨⟩⟩
  | succ attempts ih =>
    unfold chooseId
    split
    · obtain ⟨advances,chosen⟩ := ih (drawn + 1)
      refine ⟨by omega,fun id ok => ?_⟩
      obtain ⟨absent,n,low,high,same⟩ := chosen id ok
      exact ⟨absent,n,by omega,high,same⟩
    · rename_i absent
      refine ⟨Nat.le_succ _,?_⟩
      rintro _ ⟨⟩
      exact ⟨by simpa using absent,drawn,le_rfl,Nat.lt_succ_self _,rfl⟩

namespace TransientWorkerOperationStore

def defaultResumeSnapshotCapacity : Nat := 64

def new (generation : ConnectionGeneration) (capacity : Nat) : TransientWorkerOperationStore :=
  ⟨generation,max capacity 1,defaultResumeSnapshotCapacity,.empty,.empty⟩

def withResumeSnapshotCapacity (store : TransientWorkerOperationStore) (resumeSnapshotCapacity : Nat) :
    TransientWorkerOperationStore :=
  { store with resumeSnapshotCapacity := max resumeSnapshotCapacity 1 }

section Methods
variable (registry : WorkerAuthorityRegistry) (ids : IdSource) (store : TransientWorkerOperationStore)

-- `op` gets the map and the number of ids drawn so far, and leaves both.
def withBindings {α : Type} (drawn : Nat)
    (op : Table LiveBinding.handle → (Table LiveBinding.handle × Nat) × Except TransientOperationError α) :
    (TransientWorkerOperationStore × Nat) × Except TransientOperationError α :=
  match registry.withCurrentGeneration store.generation (op store.bindings) with
  | .error e => ((store,drawn),.error e)
  | .ok ((bindings,drawn'),result) => (({ store with bindings := bindings },drawn'),result)

def withBindingsRead {α : Type} (op : Table LiveBinding.handle → α) : Option α :=
  (registry.withCurrentGeneration store.generation (op store.bindings)).toOption

def withSnapshots {α : Type} (drawn : Nat)
    (op : Table LiveSnapshot.id → (Table LiveSnapshot.id × Nat) × Except TransientOperationError α) :
    (TransientWorkerOperationStore × Nat) × Except TransientOperationError α :=
  match registry.withCurrentGeneration store.generation (op store.resumeSnapshots) with
  | .error e => ((store,drawn),.error e)
  | .ok ((snapshots,drawn'),result) => (({ store with resumeSnapshots := snapshots },drawn'),result)

def registerResumeSnapshot (drawn : Nat) (snapshot : ResumeSnapshot) :
    (TransientWorkerOperationStore × Nat) × Except TransientOperationError Nat :=
  store.withSnapshots registry drawn fun map =>
    if store.resumeSnapshotCapacity ≤ map.rows.length then ((map,drawn),.error .saturated)
    else match chooseId ids.uuid (fun id => (map.find? id).isSome) mintAttempts drawn with
      | (none,drawn') => ((map,drawn'),.error .idCollision)
      | (some id,drawn') =>
        match map.insert? ⟨id,snapshot⟩ with
        | some map' => ((map',drawn'),.ok id)
        -- the id is absent from the map
        | none => ((map,drawn'),.error .idCollision)

def resumeSnapshot (snapshotId : Nat) : Option ResumeSnapshot :=
  ((registry.withCurrentGeneration store.generation (store.resumeSnapshots.find? snapshotId)).toOption.join).map
    LiveSnapshot.snapshot

def dropResumeSnapshot (drawn : Nat) (snapshotId : Nat) : TransientWorkerOperationStore :=
  (store.withSnapshots registry drawn fun map => ((map.retain fun row => row.id ≠ snapshotId,drawn),.ok ())).1.1

def insertFresh (drawn : Nat) (kind : HandleKind) (binding : Binding) :
    (TransientWorkerOperationStore × Nat) × Except TransientOperationError String :=
  store.withBindings registry drawn fun map =>
    if store.capacity ≤ map.rows.length then ((map,drawn),.error .saturated)
    else match chooseId (ids.handle · kind) (fun id => (map.find? id).isSome) mintAttempts drawn with
      | (none,drawn') => ((map,drawn'),.error .idCollision)
      | (some id,drawn') =>
        match map.insert? ⟨id,binding⟩ with
        | some map' => ((map',drawn'),.ok id)
        -- the id is absent from the map
        | none => ((map,drawn'),.error .idCollision)

def mintAcceptance (drawn : Nat) (binding : AcceptanceBinding) :
    (TransientWorkerOperationStore × Nat) × Except TransientOperationError String :=
  store.insertFresh registry ids drawn .acceptance (.acceptance binding)

def mintVerification (drawn : Nat) (binding : VerificationBinding) :
    (TransientWorkerOperationStore × Nat) × Except TransientOperationError String :=
  store.insertFresh registry ids drawn .verification (.verification binding)

def mintResumeCursor (drawn : Nat) (binding : ResumeCursorBinding) :
    (TransientWorkerOperationStore × Nat) × Except TransientOperationError String :=
  store.insertFresh registry ids drawn .resumeCursor (.resumeCursor binding)

def consumeAcceptance (drawn : Nat) (handle : String) (transferId : TransferId) (chunkIndex : Nat) :
    (TransientWorkerOperationStore × Nat) × Except TransientOperationError AcceptanceBinding :=
  store.withBindings registry drawn fun map =>
    match map.find? handle with
    | none => ((map,drawn),.error .unknownHandle)
    | some ⟨_,.acceptance b⟩ =>
      if !(b.transferId = transferId && b.chunkIndex = chunkIndex) then ((map,drawn),.error .bindingMismatch)
      else ((map.retain fun row => row.handle ≠ handle,drawn),.ok b)
    | some _ => ((map,drawn),.error .wrongKind)

def consumeVerification (drawn : Nat) (handle : String) :
    (TransientWorkerOperationStore × Nat) × Except TransientOperationError VerificationBinding :=
  store.withBindings registry drawn fun map =>
    match map.find? handle with
    | none => ((map,drawn),.error .unknownHandle)
    | some ⟨_,.verification b⟩ => ((map.retain fun row => row.handle ≠ handle,drawn),.ok b)
    | some _ => ((map,drawn),.error .wrongKind)

-- The successor is chosen before the presented cursor is removed.
def advanceResumeCursor (drawn : Nat) (cursor : String) (transferId : TransferId)
    (next : Option ResumeCursorState) :
    (TransientWorkerOperationStore × Nat) × Except TransientOperationError (Option String) :=
  store.withBindings registry drawn fun map =>
    match map.find? cursor with
    | none => ((map,drawn),.error .unknownHandle)
    | some ⟨_,.resumeCursor b⟩ =>
      if b.transferId ≠ transferId then ((map,drawn),.error .bindingMismatch)
      else match next with
        | none => ((map.retain fun row => row.handle ≠ cursor,drawn),.ok none)
        | some state =>
          match chooseId (ids.handle · .resumeCursor) (fun id => id = cursor || (map.find? id).isSome)
              mintAttempts drawn with
          | (none,drawn') => ((map,drawn'),.error .idCollision)
          | (some id,drawn') =>
            match (map.retain fun row => row.handle ≠ cursor).insert? ⟨id,.resumeCursor ⟨transferId,b.proofId,state⟩⟩ with
            | some map' => ((map',drawn'),.ok (some id))
            -- the id is absent from the map
            | none => ((map,drawn'),.error .idCollision)
    | some _ => ((map,drawn),.error .wrongKind)

def acceptanceBinding (handle : String) : Option AcceptanceBinding :=
  (store.withBindingsRead registry fun map =>
    match map.find? handle with
    | some ⟨_,.acceptance b⟩ => some b
    | _ => none).join

def verificationBinding (handle : String) : Option VerificationBinding :=
  (store.withBindingsRead registry fun map =>
    match map.find? handle with
    | some ⟨_,.verification b⟩ => some b
    | _ => none).join

def resumeCursorBinding (cursor : String) : Option ResumeCursorBinding :=
  (store.withBindingsRead registry fun map =>
    match map.find? cursor with
    | some ⟨_,.resumeCursor b⟩ => some b
    | _ => none).join

end Methods

section Linearized
variable {registry : WorkerAuthorityRegistry} {store : TransientWorkerOperationStore} {α : Type} {drawn : Nat}

theorem withBindingsCurrent
    {op : Table LiveBinding.handle → (Table LiveBinding.handle × Nat) × Except TransientOperationError α} :
    store.withBindings registry drawn op = if registry.isCurrent store.generation then
      (({ store with bindings := (op store.bindings).1.1 },(op store.bindings).1.2),(op store.bindings).2)
    else ((store,drawn),.error .staleGeneration) := by
  unfold withBindings
  rw [WorkerAuthorityRegistry.withCurrentGenerationCurrent]
  cases registry.isCurrent store.generation <;> rfl

theorem withSnapshotsCurrent
    {op : Table LiveSnapshot.id → (Table LiveSnapshot.id × Nat) × Except TransientOperationError α} :
    store.withSnapshots registry drawn op = if registry.isCurrent store.generation then
      (({ store with resumeSnapshots := (op store.resumeSnapshots).1.1 },(op store.resumeSnapshots).1.2),
        (op store.resumeSnapshots).2)
    else ((store,drawn),.error .staleGeneration) := by
  unfold withSnapshots
  rw [WorkerAuthorityRegistry.withCurrentGenerationCurrent]
  cases registry.isCurrent store.generation <;> rfl

end Linearized
end TransientWorkerOperationStore
end Bamep
