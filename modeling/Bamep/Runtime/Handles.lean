import Bamep.Library.Run
import Bamep.Runtime.WorkerOperations

/-! Any number of connection generations with any number of stores, called in any order. Beside the
registry and the stores a run keeps what was begun, minted and used. -/
namespace Bamep
open Relational Transition

inductive StoreCall where
  | mintAcceptance (binding : AcceptanceBinding)
  | mintVerification (binding : VerificationBinding)
  | mintResumeCursor (binding : ResumeCursorBinding)
  | consumeAcceptance (handle : String) (transferId : TransferId) (chunkIndex : Nat)
  | consumeVerification (handle : String)
  | advanceResumeCursor (cursor : String) (transferId : TransferId) (next : Option ResumeCursorState)
  | acceptanceBinding (handle : String)
  | verificationBinding (handle : String)
  | resumeCursorBinding (cursor : String)
  | registerResumeSnapshot (snapshot : ResumeSnapshot)
  | resumeSnapshot (id : Nat)
  | dropResumeSnapshot (id : Nat)
  deriving DecidableEq, Repr

inductive StoreAnswer where
  | minted (handle : String)
  | accepted (binding : AcceptanceBinding)
  | verified (binding : VerificationBinding)
  | advanced (successor : Option String)
  | read (binding : Option Binding)
  | registered (id : Nat)
  | snapshot (snapshot : Option ResumeSnapshot)
  | dropped
  deriving DecidableEq, Repr

namespace StoreCall

-- The handle or cursor a call would use up.
def presents : StoreCall → Option String
  | .consumeAcceptance handle .. | .consumeVerification handle | .advanceResumeCursor handle .. => some handle
  | _ => none

def mints : StoreCall → Option Binding
  | .mintAcceptance binding => some (.acceptance binding)
  | .mintVerification binding => some (.verification binding)
  | .mintResumeCursor binding => some (.resumeCursor binding)
  | _ => none

-- The binding is of the call's own kind, its fields are the presented ones, and the answer returns it.
def Accepts : StoreCall → Binding → StoreAnswer → Prop
  | .consumeAcceptance _ transferId chunkIndex,binding,answer =>
    ∃ b, binding = .acceptance b ∧ b.transferId = transferId ∧ b.chunkIndex = chunkIndex ∧ answer = .accepted b
  | .consumeVerification _,binding,answer => ∃ b, binding = .verification b ∧ answer = .verified b
  | .advanceResumeCursor _ transferId next,binding,answer =>
    ∃ b successor, binding = .resumeCursor b ∧ b.transferId = transferId ∧ answer = .advanced successor ∧
      successor.isSome = next.isSome
  | _,_,_ => False

def perform (registry : WorkerAuthorityRegistry) (ids : IdSource) (store : TransientWorkerOperationStore)
    (drawn : Nat) : StoreCall →
      (TransientWorkerOperationStore × Nat) × Except TransientOperationError StoreAnswer
  | .mintAcceptance binding => (store.mintAcceptance registry ids drawn binding).map id (·.map .minted)
  | .mintVerification binding => (store.mintVerification registry ids drawn binding).map id (·.map .minted)
  | .mintResumeCursor binding => (store.mintResumeCursor registry ids drawn binding).map id (·.map .minted)
  | .consumeAcceptance handle transferId chunkIndex =>
    (store.consumeAcceptance registry drawn handle transferId chunkIndex).map id (·.map .accepted)
  | .consumeVerification handle => (store.consumeVerification registry drawn handle).map id (·.map .verified)
  | .advanceResumeCursor cursor transferId next =>
    (store.advanceResumeCursor registry ids drawn cursor transferId next).map id (·.map .advanced)
  | .acceptanceBinding handle =>
    ((store,drawn),.ok (.read ((store.acceptanceBinding registry handle).map .acceptance)))
  | .verificationBinding handle =>
    ((store,drawn),.ok (.read ((store.verificationBinding registry handle).map .verification)))
  | .resumeCursorBinding cursor =>
    ((store,drawn),.ok (.read ((store.resumeCursorBinding registry cursor).map .resumeCursor)))
  | .registerResumeSnapshot snapshot =>
    (store.registerResumeSnapshot registry ids drawn snapshot).map id (·.map .registered)
  | .resumeSnapshot id => ((store,drawn),.ok (.snapshot (store.resumeSnapshot registry id)))
  | .dropResumeSnapshot id => ((store.dropResumeSnapshot registry drawn id,drawn),.ok .dropped)

end StoreCall

def StoreAnswer.handle? : StoreAnswer → Option String
  | .minted handle => some handle
  | .advanced successor => successor
  | _ => none

/- What a call can do, by the map it changes. -/
inductive Performed (registry : WorkerAuthorityRegistry) (ids : IdSource) (store : TransientWorkerOperationStore)
    (drawn : Nat) :
    StoreCall → (TransientWorkerOperationStore × Nat) × Except TransientOperationError StoreAnswer → Prop where
  | failed {call : StoreCall} {drawn' : Nat} {e : TransientOperationError} (advances : drawn ≤ drawn') :
    Performed registry ids store drawn call ((store,drawn'),.error e)
  | minted {call : StoreCall} {binding : Binding} {handle : String} {bindings : Table LiveBinding.handle}
    {drawn' : Nat} (mints : call.mints = some binding) (unused : call.presents = none)
    (space : store.bindings.rows.length < store.capacity)
    (inserted : store.bindings.insert? ⟨handle,binding⟩ = some bindings)
    (fresh : ∃ n kind, drawn ≤ n ∧ n < drawn' ∧ handle = ids.handle n kind) :
    Performed registry ids store drawn call (({ store with bindings := bindings },drawn'),.ok (.minted handle))
  | used {call : StoreCall} {handle : String} {binding : Binding} {answer : StoreAnswer}
    (presents : call.presents = some handle) (current : registry.isCurrent store.generation)
    (live : ⟨handle,binding⟩ ∈ store.bindings) (accepts : call.Accepts binding answer)
    (last : answer.handle? = none) :
    Performed registry ids store drawn call
      (({ store with bindings := store.bindings.retain fun row => row.handle ≠ handle },drawn),.ok answer)
  | advanced {cursor id : String} {state : ResumeCursorState} {b : ResumeCursorBinding}
    {bindings : Table LiveBinding.handle} {drawn' : Nat} (current : registry.isCurrent store.generation)
    (live : ⟨cursor,.resumeCursor b⟩ ∈ store.bindings)
    (inserted : (store.bindings.retain fun row => row.handle ≠ cursor).insert?
      ⟨id,.resumeCursor ⟨b.transferId,b.proofId,state⟩⟩ = some bindings)
    (fresh : ∃ n kind, drawn ≤ n ∧ n < drawn' ∧ id = ids.handle n kind) :
    Performed registry ids store drawn (.advanceResumeCursor cursor b.transferId (some state))
      (({ store with bindings := bindings },drawn'),.ok (.advanced (some id)))
  | read {call : StoreCall} {answer : StoreAnswer} (unused : call.presents = none)
    (last : answer.handle? = none) : Performed registry ids store drawn call ((store,drawn),.ok answer)
  | snapshots {call : StoreCall} {answer : StoreAnswer} {snapshots : Table LiveSnapshot.id} {drawn' : Nat}
    (unused : call.presents = none) (last : answer.handle? = none) (advances : drawn ≤ drawn')
    (bounded : snapshots.rows.length ≤ max store.resumeSnapshots.rows.length store.resumeSnapshotCapacity) :
    Performed registry ids store drawn call
      (({ store with resumeSnapshots := snapshots },drawn'),.ok answer)

section Calls
variable {registry : WorkerAuthorityRegistry} {ids : IdSource} {store : TransientWorkerOperationStore} {drawn : Nat}

theorem insertFreshEnds {call} (kind : HandleKind) {binding}
    (mints : call.mints = some binding) (unused : call.presents = none) :
    Performed registry ids store drawn call
      ((store.insertFresh registry ids drawn kind binding).map id (·.map .minted)) := by
  unfold TransientWorkerOperationStore.insertFresh
  rw [TransientWorkerOperationStore.withBindingsCurrent]
  by_cases current : registry.isCurrent store.generation
  · rw [if_pos current]
    by_cases full : store.capacity ≤ store.bindings.rows.length
    · simp only [if_pos full]
      exact .failed le_rfl
    simp only [if_neg full]
    have drawing := chooseIdDrawn (ids.handle · kind) (fun id => (store.bindings.find? id).isSome) mintAttempts drawn
    generalize chooseId (ids.handle · kind) (fun id => (store.bindings.find? id).isSome) mintAttempts drawn
      = chosen at drawing
    obtain ⟨chosen,drawn'⟩ := chosen
    cases chosen with
    | none => exact .failed drawing.1
    | some id =>
      obtain ⟨_,n,low,high,same⟩ := drawing.2 id rfl
      cases inserted : store.bindings.insert? ⟨id,binding⟩ with
      | none =>
        simp only [inserted]
        exact .failed drawing.1
      | some bindings =>
        simp only [inserted]
        exact .minted mints unused (not_le.mp full) inserted ⟨n,kind,low,high,same⟩
  · rw [if_neg current]
    exact .failed le_rfl

theorem consumeAcceptanceEnds (handle : String) (transferId : TransferId) (chunkIndex : Nat) :
    Performed registry ids store drawn (.consumeAcceptance handle transferId chunkIndex)
      ((store.consumeAcceptance registry drawn handle transferId chunkIndex).map id (·.map .accepted)) := by
  unfold TransientWorkerOperationStore.consumeAcceptance
  rw [TransientWorkerOperationStore.withBindingsCurrent]
  by_cases current : registry.isCurrent store.generation
  · rw [if_pos current]
    cases found : store.bindings.find? handle with
    | none => exact .failed le_rfl
    | some row =>
      obtain ⟨mem,same⟩ := Table.findIff.mp found
      obtain ⟨name,binding⟩ := row
      cases same
      cases binding with
      | acceptance b =>
        by_cases matched : b.transferId = transferId ∧ b.chunkIndex = chunkIndex
        · have accepts : (StoreCall.consumeAcceptance name transferId chunkIndex).Accepts (.acceptance b) (.accepted b) :=
            ⟨b,rfl,matched.1,matched.2,rfl⟩
          simp only [matched,decide_true,Bool.and_self,Bool.not_true,Bool.false_eq_true,if_false]
          exact .used rfl current mem accepts rfl
        · have mismatch : (!(decide (b.transferId = transferId) && decide (b.chunkIndex = chunkIndex))) = true := by
            simp only [Bool.not_eq_true',Bool.and_eq_false_iff,decide_eq_false_iff_not]
            exact Decidable.not_and_iff_or_not.mp matched
          simp only [mismatch,if_true]
          exact .failed le_rfl
      | verification b => exact .failed le_rfl
      | resumeCursor b => exact .failed le_rfl
  · rw [if_neg current]
    exact .failed le_rfl

theorem consumeVerificationEnds (handle : String) :
    Performed registry ids store drawn (.consumeVerification handle)
      ((store.consumeVerification registry drawn handle).map id (·.map .verified)) := by
  unfold TransientWorkerOperationStore.consumeVerification
  rw [TransientWorkerOperationStore.withBindingsCurrent]
  by_cases current : registry.isCurrent store.generation
  · rw [if_pos current]
    cases found : store.bindings.find? handle with
    | none => exact .failed le_rfl
    | some row =>
      obtain ⟨mem,same⟩ := Table.findIff.mp found
      obtain ⟨name,binding⟩ := row
      cases same
      cases binding with
      | acceptance b => exact .failed le_rfl
      | verification b =>
        have accepts : (StoreCall.consumeVerification name).Accepts (.verification b) (.verified b) := ⟨b,rfl,rfl⟩
        exact .used rfl current mem accepts rfl
      | resumeCursor b => exact .failed le_rfl
  · rw [if_neg current]
    exact .failed le_rfl

theorem advanceResumeCursorEnds (cursor : String) (transferId : TransferId) (next : Option ResumeCursorState) :
    Performed registry ids store drawn (.advanceResumeCursor cursor transferId next)
      ((store.advanceResumeCursor registry ids drawn cursor transferId next).map id (·.map .advanced)) := by
  unfold TransientWorkerOperationStore.advanceResumeCursor
  rw [TransientWorkerOperationStore.withBindingsCurrent]
  by_cases current : registry.isCurrent store.generation
  · rw [if_pos current]
    cases found : store.bindings.find? cursor with
    | none => exact .failed le_rfl
    | some row =>
      obtain ⟨mem,same⟩ := Table.findIff.mp found
      obtain ⟨name,binding⟩ := row
      cases same
      cases binding with
      | acceptance b => exact .failed le_rfl
      | verification b => exact .failed le_rfl
      | resumeCursor b =>
        by_cases matched : b.transferId = transferId
        · subst matched
          simp only [ne_eq,not_true_eq_false,if_false]
          cases next with
          | none =>
            have accepts : (StoreCall.advanceResumeCursor name b.transferId none).Accepts (.resumeCursor b)
                (.advanced none) := ⟨b,none,rfl,rfl,rfl,rfl⟩
            exact .used rfl current mem accepts rfl
          | some state =>
            have drawing := chooseIdDrawn (ids.handle · .resumeCursor)
              (fun id => id = name || (store.bindings.find? id).isSome) mintAttempts drawn
            generalize chooseId (ids.handle · .resumeCursor)
              (fun id => id = name || (store.bindings.find? id).isSome) mintAttempts drawn = chosen at drawing
            obtain ⟨chosen,drawn'⟩ := chosen
            cases chosen with
            | none => exact .failed drawing.1
            | some id =>
              obtain ⟨_,n,low,high,same⟩ := drawing.2 id rfl
              cases inserted : (store.bindings.retain fun row => row.handle ≠ name).insert?
                  ⟨id,.resumeCursor ⟨b.transferId,b.proofId,state⟩⟩ with
              | none =>
                simp only [inserted]
                exact .failed drawing.1
              | some bindings =>
                simp only [inserted]
                exact .advanced current mem inserted ⟨n,.resumeCursor,low,high,same⟩
        · simp only [ne_eq,matched,not_false_eq_true,if_true]
          exact .failed le_rfl
  · rw [if_neg current]
    exact .failed le_rfl

theorem registerResumeSnapshotEnds (snapshot : ResumeSnapshot) :
    Performed registry ids store drawn (.registerResumeSnapshot snapshot)
      ((store.registerResumeSnapshot registry ids drawn snapshot).map id (·.map .registered)) := by
  unfold TransientWorkerOperationStore.registerResumeSnapshot
  rw [TransientWorkerOperationStore.withSnapshotsCurrent]
  by_cases current : registry.isCurrent store.generation
  · rw [if_pos current]
    by_cases full : store.resumeSnapshotCapacity ≤ store.resumeSnapshots.rows.length
    · simp only [if_pos full]
      exact .failed le_rfl
    simp only [if_neg full]
    have drawing := chooseIdDrawn ids.uuid (fun id => (store.resumeSnapshots.find? id).isSome) mintAttempts drawn
    generalize chooseId ids.uuid (fun id => (store.resumeSnapshots.find? id).isSome) mintAttempts drawn
      = chosen at drawing
    obtain ⟨chosen,drawn'⟩ := chosen
    cases chosen with
    | none => exact .failed drawing.1
    | some id =>
      cases inserted : store.resumeSnapshots.insert? ⟨id,snapshot⟩ with
      | none =>
        simp only [inserted]
        exact .failed drawing.1
      | some snapshots =>
        simp only [inserted]
        refine .snapshots rfl rfl drawing.1 ?_
        rw [Table.insertRows inserted,List.length_append,List.length_singleton]
        omega
  · rw [if_neg current]
    exact .failed le_rfl

theorem dropResumeSnapshotEnds (id : Nat) :
    Performed registry ids store drawn (.dropResumeSnapshot id)
      ((store.dropResumeSnapshot registry drawn id,drawn),.ok .dropped) := by
  unfold TransientWorkerOperationStore.dropResumeSnapshot
  rw [TransientWorkerOperationStore.withSnapshotsCurrent]
  by_cases current : registry.isCurrent store.generation
  · rw [if_pos current]
    exact .snapshots rfl rfl le_rfl (Nat.le_trans (List.length_filter_le _ _) (Nat.le_max_left _ _))
  · rw [if_neg current]
    exact .read rfl rfl

theorem performEnds (call : StoreCall) :
    Performed registry ids store drawn call (call.perform registry ids store drawn) := by
  cases call with
  | mintAcceptance binding => exact insertFreshEnds .acceptance rfl rfl
  | mintVerification binding => exact insertFreshEnds .verification rfl rfl
  | mintResumeCursor binding => exact insertFreshEnds .resumeCursor rfl rfl
  | consumeAcceptance handle transferId chunkIndex => exact consumeAcceptanceEnds handle transferId chunkIndex
  | consumeVerification handle => exact consumeVerificationEnds handle
  | advanceResumeCursor cursor transferId next => exact advanceResumeCursorEnds cursor transferId next
  | acceptanceBinding handle => exact .read rfl rfl
  | verificationBinding handle => exact .read rfl rfl
  | resumeCursorBinding cursor => exact .read rfl rfl
  | registerResumeSnapshot snapshot => exact registerResumeSnapshotEnds snapshot
  | resumeSnapshot id => exact .read rfl rfl
  | dropResumeSnapshot id => exact dropResumeSnapshotEnds id

end Calls

/- A minted handle or cursor: the store and binding it was filed with, and the first cursor of its query. -/
structure Minted where
  store : Nat
  handle : String
  binding : Binding
  query : String
  deriving DecidableEq, Repr

structure WorkerRuntime where
  registry : WorkerAuthorityRegistry
  stores : List TransientWorkerOperationStore
  drawn : Nat
  begun : List ConnectionGeneration
  minted : List Minted
  used : List String

inductive WorkerOp where
  | beginGeneration (workerInstanceId : Nat)
  | newStore (generation : ConnectionGeneration) (capacity : Nat) (resumeSnapshotCapacity : Option Nat)
  | setCurrentOperations (generation : ConnectionGeneration) (store : Nat)
  | endGeneration (generation : ConnectionGeneration)
  | call (store : Nat) (call : StoreCall)

namespace WorkerRuntime

def start (operationsCapacity : Nat) : WorkerRuntime :=
  ⟨.withOperationsCapacity operationsCapacity,[],0,[],[],[]⟩

def queryOf (s : WorkerRuntime) (cursor : String) : String :=
  ((s.minted.find? fun m => m.handle = cursor).map Minted.query).getD cursor

-- A handle that was returned, with what the store now holds under it.
def newlyMinted (s : WorkerRuntime) (i : Nat) (store : TransientWorkerOperationStore) (call : StoreCall)
    (answer : Except TransientOperationError StoreAnswer) : List Minted :=
  match answer.toOption.bind StoreAnswer.handle? with
  | none => []
  | some handle =>
    match store.bindings.find? handle with
    | none => []
    | some row => [⟨i,handle,row.binding,call.presents.elim handle s.queryOf⟩]

def newlyUsed (call : StoreCall) (answer : Except TransientOperationError StoreAnswer) : List String :=
  if answer.isOk then call.presents.toList else []

def afterCall (ids : IdSource) (s : WorkerRuntime) (i : Nat) (call : StoreCall) : WorkerRuntime :=
  match s.stores[i]? with
  | none => s
  | some store =>
    let ((store',drawn),answer) := call.perform s.registry ids store s.drawn
    { s with
      stores := s.stores.set i store'
      drawn := drawn
      minted := s.minted ++ s.newlyMinted i store' call answer
      used := s.used ++ newlyUsed call answer }

def after (ids : IdSource) (s : WorkerRuntime) : WorkerOp → WorkerRuntime
  | .beginGeneration workerInstanceId =>
    let (registry,generation) := s.registry.beginGeneration workerInstanceId
    { s with registry := registry, begun := s.begun ++ [generation] }
  | .newStore generation capacity none =>
    { s with stores := s.stores ++ [.new generation capacity] }
  | .newStore generation capacity (some snapshots) =>
    { s with stores := s.stores ++ [(TransientWorkerOperationStore.new generation capacity).withResumeSnapshotCapacity
        snapshots] }
  | .setCurrentOperations generation store =>
    { s with registry := s.registry.setCurrentOperations generation store }
  | .endGeneration generation => { s with registry := s.registry.endGeneration generation }
  | .call i call => s.afterCall ids i call

def reached (ids : IdSource) (operationsCapacity : Nat) (ops : List WorkerOp) : WorkerRuntime :=
  run (after ids) (start operationsCapacity) ops

end WorkerRuntime

-- The Transfer and the proof an operation was authorized for, with the kind of the binding.
def Binding.operation : Binding → HandleKind × TransferId × String
  | .acceptance b => (.acceptance,b.transferId,b.proofId)
  | .verification b => (.verification,b.transferId,b.proofId)
  | .resumeCursor b => (.resumeCursor,b.transferId,b.proofId)

/- `first` opens the query of `m`, in the same store and for the same Transfer and proof. -/
structure FirstOf (m first : Minted) : Prop where
  query : first.handle = m.query
  opens : first.query = first.handle
  store : first.store = m.store
  operation : first.binding.operation = m.binding.operation

structure Handles (ids : IdSource) (s : WorkerRuntime) : Prop where
  drawn : ∀ m ∈ s.minted, ∃ n kind, n < s.drawn ∧ m.handle = ids.handle n kind
  distinct : (s.minted.map Minted.handle).Nodup
  live : ∀ i store, s.stores[i]? = some store → ∀ row ∈ store.bindings, row.handle ∉ s.used ∧
    ∃ m ∈ s.minted, m.store = i ∧ m.handle = row.handle ∧ m.binding = row.binding
  spent : ∀ handle ∈ s.used, ∃ m ∈ s.minted, m.handle = handle
  once : s.used.Nodup
  queries : ∀ m ∈ s.minted, ∃ first ∈ s.minted, FirstOf m first
  bounded : ∀ store ∈ s.stores, store.bindings.rows.length ≤ store.capacity ∧
    store.resumeSnapshots.rows.length ≤ store.resumeSnapshotCapacity

section Step
variable {ids : IdSource} {s : WorkerRuntime} {i : Nat} {store : TransientWorkerOperationStore}

-- A freshly drawn handle is none of those minted before.
theorem freshUnminted (fresh : ids.Fresh) (handles : Handles ids s) {handle drawn'}
    (new : ∃ n kind, s.drawn ≤ n ∧ n < drawn' ∧ handle = ids.handle n kind) :
    ∀ m ∈ s.minted, m.handle ≠ handle := by
  intro m mem same
  obtain ⟨n,kind,low,_,drawn⟩ := new
  obtain ⟨earlier,other,high,name⟩ := handles.drawn m mem
  have := fresh earlier n other kind (name.symm.trans (same.trans drawn))
  omega

theorem queryOfMinted (handles : Handles ids s) {m} (mem : m ∈ s.minted) :
    s.queryOf m.handle = m.query := by
  unfold WorkerRuntime.queryOf
  cases found : s.minted.find? fun x => x.handle = m.handle with
  | none => exact absurd (List.find?_eq_none.mp found m mem) (by simp)
  | some other =>
    have same : other = m := List.inj_on_of_nodup_map handles.distinct (List.mem_of_find?_eq_some found) mem
      (by simpa using List.find?_some found)
    rw [same]
    rfl

/- Minting one more handle into store `i`, whose map then holds `kept` and the new row. -/
theorem mintedKeeps (fresh : ids.Fresh) (handles : Handles ids s) {drawn' m}
    (new : ∃ n kind, s.drawn ≤ n ∧ n < drawn' ∧ m.handle = ids.handle n kind)
    (first : ∃ first ∈ s.minted ++ [m], FirstOf m first) :
    (∀ x ∈ s.minted ++ [m], ∃ n kind, n < drawn' ∧ x.handle = ids.handle n kind) ∧
      ((s.minted ++ [m]).map Minted.handle).Nodup ∧
      ∀ x ∈ s.minted ++ [m], ∃ first ∈ s.minted ++ [m], FirstOf x first := by
  have absent := freshUnminted fresh handles new
  obtain ⟨n,kind,low,high,name⟩ := new
  refine ⟨fun x mem => ?_,?_,fun x mem => ?_⟩
  · rcases List.mem_append.mp mem with old | added
    · obtain ⟨earlier,other,before,same⟩ := handles.drawn x old
      exact ⟨earlier,other,by omega,same⟩
    · cases List.mem_singleton.mp added
      exact ⟨n,kind,high,name⟩
  · rw [List.map_append,List.nodup_append]
    refine ⟨handles.distinct,List.nodup_singleton _,fun a old b added same => ?_⟩
    obtain ⟨x,mem,rfl⟩ := List.mem_map.mp old
    exact absent x mem (same.trans (List.mem_singleton.mp added))
  · rcases List.mem_append.mp mem with old | added
    · obtain ⟨first,present,of⟩ := handles.queries x old
      exact ⟨first,List.mem_append_left _ present,of⟩
    · cases List.mem_singleton.mp added
      exact first

theorem liveElsewhere (handles : Handles ids s) (found : s.stores[i]? = some store) {handle binding}
    (held : ⟨handle,binding⟩ ∈ store.bindings) {j other}
    (elsewhere : i ≠ j) (present : s.stores[j]? = some other) {row} (mem : row ∈ other.bindings) :
    row.handle ≠ handle := by
  intro same
  obtain ⟨_,m,minted,at_,name,_⟩ := handles.live i store found _ held
  obtain ⟨_,m',minted',at',name',_⟩ := handles.live j other present row mem
  have unique : m = m' :=
    List.inj_on_of_nodup_map handles.distinct minted minted' (name.trans (same.symm.trans name'.symm))
  exact elsewhere (at_.symm.trans ((congrArg Minted.store unique).trans at'))

/- What a call on store `i` has to establish: about the handles it mints, about the rows its store is
left with, and about the handle it uses. -/
theorem handlesSet (handles : Handles ids s) (found : s.stores[i]? = some store)
    {store' drawn' ms us}
    (grown : (∀ x ∈ s.minted ++ ms, ∃ n kind, n < drawn' ∧ x.handle = ids.handle n kind) ∧
      ((s.minted ++ ms).map Minted.handle).Nodup ∧ ∀ x ∈ s.minted ++ ms, ∃ first ∈ s.minted ++ ms, FirstOf x first)
    (here : ∀ row ∈ store'.bindings, row.handle ∉ s.used ++ us ∧
      ∃ m ∈ s.minted ++ ms, m.store = i ∧ m.handle = row.handle ∧ m.binding = row.binding)
    (held : ∀ handle ∈ us, handle ∉ s.used ∧ ∃ binding, (⟨handle,binding⟩ : LiveBinding) ∈ store.bindings)
    (single : us.Nodup)
    (bounded : store'.bindings.rows.length ≤ store'.capacity ∧
      store'.resumeSnapshots.rows.length ≤ store'.resumeSnapshotCapacity) :
    Handles ids { s with
      stores := s.stores.set i store', drawn := drawn', minted := s.minted ++ ms, used := s.used ++ us } where
  drawn := grown.1
  distinct := grown.2.1
  live j other present row mem := by
    rw [List.getElem?_set] at present
    split at present
    · rename_i same
      cases same
      split at present
      · cases present
        exact here row mem
      · cases present
    · rename_i elsewhere
      obtain ⟨unused,m,minted,facts⟩ := handles.live j other present row mem
      refine ⟨fun used => ?_,m,List.mem_append_left _ minted,facts⟩
      rcases List.mem_append.mp used with old | now
      · exact unused old
      · obtain ⟨binding,live⟩ := (held _ now).2
        exact liveElsewhere handles found live elsewhere present mem rfl
  spent handle mem := by
    rcases List.mem_append.mp mem with old | now
    · obtain ⟨m,minted,same⟩ := handles.spent handle old
      exact ⟨m,List.mem_append_left _ minted,same⟩
    · obtain ⟨binding,live⟩ := (held handle now).2
      obtain ⟨_,m,minted,_,same,_⟩ := handles.live i store found _ live
      exact ⟨m,List.mem_append_left _ minted,same⟩
  once := List.nodup_append.mpr ⟨handles.once,single,fun a old b now same => (held b now).1 (same ▸ old)⟩
  queries := grown.2.2
  bounded other mem := by
    rcases List.mem_or_eq_of_mem_set mem with old | rfl
    · exact handles.bounded other old
    · exact bounded

theorem keptGrown (handles : Handles ids s) {drawn'} (advances : s.drawn ≤ drawn') :
    (∀ x ∈ s.minted ++ [], ∃ n kind, n < drawn' ∧ x.handle = ids.handle n kind) ∧
      ((s.minted ++ []).map Minted.handle).Nodup ∧
      ∀ x ∈ s.minted ++ [], ∃ first ∈ s.minted ++ [], FirstOf x first := by
  rw [List.append_nil]
  refine ⟨fun x mem => ?_,handles.distinct,handles.queries⟩
  obtain ⟨n,kind,before,same⟩ := handles.drawn x mem
  exact ⟨n,kind,by omega,same⟩

theorem handlesUnbound (handles : Handles ids s) (found : s.stores[i]? = some store)
    {store' drawn'} (advances : s.drawn ≤ drawn')
    (same : store'.bindings = store.bindings) (capacity : store'.capacity = store.capacity)
    (snapshots : store'.resumeSnapshots.rows.length ≤ store'.resumeSnapshotCapacity) :
    Handles ids { s with
      stores := s.stores.set i store', drawn := drawn', minted := s.minted ++ [], used := s.used ++ [] } := by
  refine handlesSet handles found (keptGrown handles advances) (fun row mem => ?_) (by simp) List.nodup_nil
    ⟨?_,snapshots⟩
  · rw [List.append_nil,List.append_nil]
    exact handles.live i store found row (same ▸ mem)
  · rw [same,capacity]
    exact (handles.bounded store (List.mem_of_getElem? found)).1

theorem handlesMinted (fresh : ids.Fresh) (handles : Handles ids s) (found : s.stores[i]? = some store)
    {binding handle bindings drawn'}
    (space : store.bindings.rows.length < store.capacity)
    (inserted : store.bindings.insert? ⟨handle,binding⟩ = some bindings)
    (new : ∃ n kind, s.drawn ≤ n ∧ n < drawn' ∧ handle = ids.handle n kind) :
    Handles ids { s with
      stores := s.stores.set i { store with bindings := bindings }, drawn := drawn'
      minted := s.minted ++ [⟨i,handle,binding,handle⟩], used := s.used ++ [] } := by
  have absent := freshUnminted fresh handles new
  have added : (⟨i,handle,binding,handle⟩ : Minted) ∈ s.minted ++ [⟨i,handle,binding,handle⟩] :=
    List.mem_append_right _ (List.mem_singleton.mpr rfl)
  refine handlesSet handles found (mintedKeeps fresh handles new ⟨_,added,rfl,rfl,rfl,rfl⟩) (fun row mem => ?_)
    (by simp) List.nodup_nil ⟨?_,(handles.bounded store (List.mem_of_getElem? found)).2⟩
  · rw [List.append_nil]
    rcases (Table.memInsert inserted).mp mem with old | rfl
    · obtain ⟨unused,m,minted,facts⟩ := handles.live i store found row old
      exact ⟨unused,m,List.mem_append_left _ minted,facts⟩
    · refine ⟨fun used => ?_,_,added,rfl,rfl,rfl⟩
      obtain ⟨m,minted,same⟩ := handles.spent handle used
      exact absent m minted same
  · change bindings.rows.length ≤ store.capacity
    rw [Table.insertRows inserted,List.length_append,List.length_singleton]
    omega

theorem handlesUsed (handles : Handles ids s) (found : s.stores[i]? = some store) {handle binding}
    (live : ⟨handle,binding⟩ ∈ store.bindings) :
    Handles ids { s with
      stores := s.stores.set i { store with bindings := store.bindings.retain fun row => row.handle ≠ handle }
      drawn := s.drawn, minted := s.minted ++ [], used := s.used ++ [handle] } := by
  have full := handles.bounded store (List.mem_of_getElem? found)
  refine handlesSet handles found (keptGrown handles le_rfl) (fun row mem => ?_) ?_ (List.nodup_singleton _)
    ⟨Nat.le_trans (List.length_filter_le _ _) full.1,full.2⟩
  · obtain ⟨old,other⟩ := Table.memRetain.mp mem
    obtain ⟨unused,m,minted,facts⟩ := handles.live i store found row old
    rw [List.append_nil]
    refine ⟨fun used => ?_,m,minted,facts⟩
    rcases List.mem_append.mp used with old | now
    · exact unused old
    · exact (of_decide_eq_true other) (List.mem_singleton.mp now)
  · intro name mem
    cases List.mem_singleton.mp mem
    exact ⟨(handles.live i store found _ live).1,binding,live⟩

theorem handlesAdvanced (fresh : ids.Fresh) (handles : Handles ids s) (found : s.stores[i]? = some store)
    {cursor id state b bindings drawn'} (live : ⟨cursor,.resumeCursor b⟩ ∈ store.bindings)
    (inserted : (store.bindings.retain fun row => row.handle ≠ cursor).insert?
      ⟨id,.resumeCursor ⟨b.transferId,b.proofId,state⟩⟩ = some bindings)
    (new : ∃ n kind, s.drawn ≤ n ∧ n < drawn' ∧ id = ids.handle n kind) :
    Handles ids { s with
      stores := s.stores.set i { store with bindings := bindings }, drawn := drawn'
      minted := s.minted ++ [⟨i,id,.resumeCursor ⟨b.transferId,b.proofId,state⟩,s.queryOf cursor⟩]
      used := s.used ++ [cursor] } := by
  have full := handles.bounded store (List.mem_of_getElem? found)
  have absent := freshUnminted fresh handles new
  obtain ⟨unused,m,minted,at_,named,bound⟩ := handles.live i store found _ live
  obtain ⟨first,opened,of⟩ := handles.queries m minted
  have follows : FirstOf ⟨i,id,.resumeCursor ⟨b.transferId,b.proofId,state⟩,s.queryOf cursor⟩ first := by
    refine ⟨?_,of.opens,of.store.trans at_,?_⟩
    · rw [of.query]
      exact (named ▸ queryOfMinted handles minted).symm
    · rw [of.operation,bound]
      rfl
  refine handlesSet handles found (mintedKeeps fresh handles new ⟨first,List.mem_append_left _ opened,follows⟩)
    (fun row mem => ?_) ?_ (List.nodup_singleton _) ⟨?_,full.2⟩
  · rcases (Table.memInsert inserted).mp mem with kept | rfl
    · obtain ⟨old,other⟩ := Table.memRetain.mp kept
      obtain ⟨unused,m,minted,facts⟩ := handles.live i store found row old
      refine ⟨fun used => ?_,m,List.mem_append_left _ minted,facts⟩
      rcases List.mem_append.mp used with old | now
      · exact unused old
      · exact (of_decide_eq_true other) (List.mem_singleton.mp now)
    · refine ⟨fun used => ?_,_,List.mem_append_right _ (List.mem_singleton.mpr rfl),rfl,rfl,rfl⟩
      rcases List.mem_append.mp used with old | now
      · obtain ⟨m,minted,same⟩ := handles.spent id old
        exact absent m minted same
      · exact absent m minted (named.trans (List.mem_singleton.mp now).symm)
  · intro name mem
    cases List.mem_singleton.mp mem
    exact ⟨unused,_,live⟩
  · -- the presented cursor made room for its successor
    change bindings.rows.length ≤ store.capacity
    have room : store.bindings.rows.length =
        (store.bindings.retain fun row => row.handle ≠ cursor).rows.length + 1 := (Table.retainPerm live).length_eq
    rw [Table.insertRows inserted,List.length_append,List.length_singleton,← room]
    exact full.1

theorem handlesCall (fresh : ids.Fresh) (handles : Handles ids s) (i : Nat) (call : StoreCall) :
    Handles ids (s.afterCall ids i call) := by
  unfold WorkerRuntime.afterCall
  split
  · exact handles
  rename_i store found
  have full := handles.bounded store (List.mem_of_getElem? found)
  have ends := @performEnds s.registry ids store s.drawn call
  generalize call.perform s.registry ids store s.drawn = result at ends
  cases ends with
  | failed advances => exact handlesUnbound handles found advances rfl rfl full.2
  | @minted _ binding handle bindings drawn' mints unused space inserted new =>
    have row : bindings.find? handle = some ⟨handle,binding⟩ :=
      Table.findIff.mpr ⟨(Table.memInsert inserted).mpr (.inr rfl),rfl⟩
    have recorded := handlesMinted fresh handles found space inserted new
    simp only [WorkerRuntime.newlyMinted,WorkerRuntime.newlyUsed,Except.toOption,Option.bind,StoreAnswer.handle?,
      row,unused]
    exact recorded
  | used presents current live accepts last =>
    have recorded := handlesUsed handles found live
    simp only [WorkerRuntime.newlyMinted,WorkerRuntime.newlyUsed,Except.toOption,Option.bind,last,presents]
    exact recorded
  | @advanced cursor id state b bindings drawn' current live inserted new =>
    have row : bindings.find? id = some ⟨id,.resumeCursor ⟨b.transferId,b.proofId,state⟩⟩ :=
      Table.findIff.mpr ⟨(Table.memInsert inserted).mpr (.inr rfl),rfl⟩
    have recorded := handlesAdvanced fresh handles found live inserted new
    simp only [WorkerRuntime.newlyMinted,WorkerRuntime.newlyUsed,Except.toOption,Option.bind,StoreAnswer.handle?,row]
    exact recorded
  | read unused last =>
    have recorded := @handlesUnbound ids s i store handles found store s.drawn le_rfl rfl rfl full.2
    simp only [WorkerRuntime.newlyMinted,WorkerRuntime.newlyUsed,Except.toOption,Option.bind,last,unused]
    exact recorded
  | @snapshots _ answer snapshots drawn' unused last advances bounded =>
    have recorded := @handlesUnbound ids s i store handles found { store with resumeSnapshots := snapshots } _ advances
      rfl rfl (Nat.le_trans bounded (Nat.max_le.mpr ⟨full.2,le_rfl⟩))
    simp only [WorkerRuntime.newlyMinted,WorkerRuntime.newlyUsed,Except.toOption,Option.bind,last,unused]
    exact recorded

theorem handlesOpened (handles : Handles ids s) {store}
    (bindings : store.bindings = .empty) (snapshots : store.resumeSnapshots = .empty) :
    Handles ids { s with stores := s.stores ++ [store] } where
  drawn := handles.drawn
  distinct := handles.distinct
  live i other found row mem := by
    rw [List.getElem?_append] at found
    split at found
    · exact handles.live i other found row mem
    · have opened := List.mem_of_getElem? found
      cases List.mem_singleton.mp opened
      rw [bindings] at mem
      exact absurd mem (Table.notMemEmpty _)
  spent := handles.spent
  once := handles.once
  queries := handles.queries
  bounded other mem := by
    rcases List.mem_append.mp mem with old | opened
    · exact handles.bounded other old
    · cases List.mem_singleton.mp opened
      rw [bindings,snapshots]
      exact ⟨Nat.zero_le _,Nat.zero_le _⟩

theorem handlesStep (fresh : ids.Fresh) (handles : Handles ids s) (op : WorkerOp) :
    Handles ids (s.after ids op) := by
  obtain ⟨drawn,distinct,live,spent,once,queries,bounded⟩ := handles
  cases op with
  | beginGeneration workerInstanceId => exact ⟨drawn,distinct,live,spent,once,queries,bounded⟩
  | newStore generation capacity snapshots =>
    cases snapshots <;> exact handlesOpened ⟨drawn,distinct,live,spent,once,queries,bounded⟩ rfl rfl
  | setCurrentOperations generation store => exact ⟨drawn,distinct,live,spent,once,queries,bounded⟩
  | endGeneration generation => exact ⟨drawn,distinct,live,spent,once,queries,bounded⟩
  | call i call => exact handlesCall fresh ⟨drawn,distinct,live,spent,once,queries,bounded⟩ i call

end Step

/- The generations begun so far; the current one is the last of them. -/
structure Begun (s : WorkerRuntime) : Prop where
  next : s.registry.nextGeneration = .ofNat (s.begun.length + 1)
  begun : s.begun = (List.range s.begun.length).map fun i => ⟨.ofNat (i + 1)⟩
  current : ∀ generation, s.registry.isCurrent generation = true → s.begun.getLast? = some generation

section Generations
variable {s : WorkerRuntime}

theorem begunStep (ids : IdSource) (begun : Begun s) (op : WorkerOp) : Begun (s.after ids op) := by
  cases op with
  | beginGeneration workerInstanceId =>
    refine ⟨?_,?_,fun generation current => ?_⟩
    · change s.registry.nextGeneration + 1 = .ofNat ((s.begun ++ [_]).length + 1)
      rw [begun.next,List.length_append,List.length_singleton,UInt64.ofNat_add (s.begun.length + 1) 1]
      rfl
    · change s.begun ++ [⟨s.registry.nextGeneration⟩] =
        (List.range (s.begun ++ [_]).length).map fun i => ⟨.ofNat (i + 1)⟩
      rw [List.length_append,List.length_singleton,List.range_succ,List.map_append,← begun.begun,begun.next]
      rfl
    · have same : (⟨s.registry.nextGeneration⟩ : ConnectionGeneration) = generation := of_decide_eq_true current
      change (s.begun ++ [(⟨s.registry.nextGeneration⟩ : ConnectionGeneration)]).getLast? = some generation
      rw [List.getLast?_append,same]
      rfl
  | newStore generation capacity snapshots => cases snapshots <;> exact ⟨begun.next,begun.begun,begun.current⟩
  | setCurrentOperations generation store =>
    by_cases current : s.registry.isCurrent generation
    · simp only [WorkerRuntime.after,WorkerAuthorityRegistry.setCurrentOperationsCurrent current]
      exact ⟨begun.next,begun.begun,begun.current⟩
    · simp only [WorkerRuntime.after,WorkerAuthorityRegistry.setCurrentOperationsStale current]
      exact begun
  | endGeneration generation =>
    by_cases current : s.registry.isCurrent generation
    · simp only [WorkerRuntime.after,WorkerAuthorityRegistry.endGenerationCurrent current]
      exact ⟨begun.next,begun.begun,by rintro _ ⟨⟩⟩
    · simp only [WorkerRuntime.after,WorkerAuthorityRegistry.endGenerationStale current]
      exact begun
  | call i call =>
    unfold WorkerRuntime.after WorkerRuntime.afterCall
    simp only
    split
    · exact begun
    · exact ⟨begun.next,begun.begun,begun.current⟩

end Generations

section Laws
variable {ids : IdSource} {s : WorkerRuntime} {i : Nat} {store : TransientWorkerOperationStore} {call : StoreCall}

end Laws

-- Handles of growing length.
def unaryIds : IdSource := ⟨fun n _ => String.ofList (List.replicate (n + 1) 'h'),id⟩

theorem unaryFresh : unaryIds.Fresh := by
  intro i j kind other same
  simpa [unaryIds] using congrArg String.length same

end Bamep
