import Mathlib.Data.Set.Insert
import Bamep.Library.Text
import Bamep.Runtime.LiveBindings

/-! The resume cursors and snapshots of one store, as sets: what was issued, what is live, and what each call the
resume handlers make does to them. -/
namespace Bamep
open Relational

def HandleKind.handlePrefix : HandleKind → String
  | .acceptance => "acc"
  | .verification => "ver"
  | .resumeCursor => "res"

/- The opaque text `csprng_id_source` makes of one version 4 UUID. -/
def csprngHandle (kind : HandleKind) (uuid : Nat) : String :=
  .ofList (kind.handlePrefix.toList ++ '_' :: Text.hex 32 uuid)

theorem csprngHandlePlain (kind : HandleKind) (uuid : Nat) :
    ∃ chars, csprngHandle kind uuid = String.ofList chars ∧ Text.Plain chars ∧ chars.length = 36 := by
  refine ⟨_,rfl,Text.plainAppend ?_ ?_,?_⟩
  · cases kind <;> decide
  · intro c mem
    rcases List.mem_cons.mp mem with rfl | digit
    · decide
    · exact Text.hexPlain 32 _ c digit
  · cases kind <;> simp [HandleKind.handlePrefix]

structure CursorBook where
  current : Prop
  drawn : Nat
  issued : Set (String × ResumeCursorBinding)
  live : Set (String × ResumeCursorBinding)
  snapshots : Set (Nat × ResumeSnapshot)

def WorkerRuntime.book (s : WorkerRuntime) (i : Nat) (store : TransientWorkerOperationStore) : CursorBook where
  current := s.registry.isCurrent store.generation
  drawn := s.drawn
  issued := {c | ∃ m ∈ s.minted, m.store = i ∧ m.handle = c.1 ∧ m.binding = .resumeCursor c.2}
  live := {c | ⟨c.1,.resumeCursor c.2⟩ ∈ store.bindings}
  snapshots := {row | ⟨row.1,row.2⟩ ∈ store.resumeSnapshots}

inductive Answered (ids : IdSource) (book : CursorBook) : StoreCall → Option StoreAnswer → CursorBook → Prop where
  | registered {snapshot : ResumeSnapshot} {id drawn' : Nat} (current : book.current)
    (fresh : ∃ n, book.drawn ≤ n ∧ n < drawn' ∧ id = ids.uuid n) :
    Answered ids book (.registerResumeSnapshot snapshot) (some (.registered id))
      { book with drawn := drawn', snapshots := insert (id,snapshot) book.snapshots }
  | unregistered {snapshot : ResumeSnapshot} {drawn' : Nat} (advances : book.drawn ≤ drawn') :
    Answered ids book (.registerResumeSnapshot snapshot) none { book with drawn := drawn' }
  | minted {binding : ResumeCursorBinding} {n drawn' : Nat} {kind : HandleKind} (low : book.drawn ≤ n)
    (high : n < drawn') (fresh : ∀ c ∈ book.issued, c.1 ≠ ids.handle n kind) :
    Answered ids book (.mintResumeCursor binding) (some (.minted (ids.handle n kind)))
      { book with
        drawn := drawn'
        issued := insert (ids.handle n kind,binding) book.issued
        live := insert (ids.handle n kind,binding) book.live }
  | unminted {binding : ResumeCursorBinding} {drawn' : Nat} (advances : book.drawn ≤ drawn') :
    Answered ids book (.mintResumeCursor binding) none { book with drawn := drawn' }
  | found {cursor : String} {binding : ResumeCursorBinding} (live : (cursor,binding) ∈ book.live) :
    Answered ids book (.resumeCursorBinding cursor) (some (.read (some (.resumeCursor binding)))) book
  | unknown {cursor : String} : Answered ids book (.resumeCursorBinding cursor) (some (.read none)) book
  | held {id : Nat} {snapshot : ResumeSnapshot} (mem : (id,snapshot) ∈ book.snapshots) :
    Answered ids book (.resumeSnapshot id) (some (.snapshot (some snapshot))) book
  | notHeld {id : Nat} : Answered ids book (.resumeSnapshot id) (some (.snapshot none)) book
  | advanced {cursor : String} {b : ResumeCursorBinding} {state : ResumeCursorState} {n drawn' : Nat}
    {kind : HandleKind} (current : book.current) (live : (cursor,b) ∈ book.live) (low : book.drawn ≤ n)
    (high : n < drawn') (fresh : ∀ c ∈ book.issued, c.1 ≠ ids.handle n kind) :
    Answered ids book (.advanceResumeCursor cursor b.transferId (some state))
      (some (.advanced (some (ids.handle n kind))))
      { book with
        drawn := drawn'
        issued := insert (ids.handle n kind,⟨b.transferId,b.proofId,state⟩) book.issued
        live := insert (ids.handle n kind,⟨b.transferId,b.proofId,state⟩) {c ∈ book.live | c.1 ≠ cursor} }
  | exhausted {cursor : String} {b : ResumeCursorBinding} (current : book.current)
    (live : (cursor,b) ∈ book.live) :
    Answered ids book (.advanceResumeCursor cursor b.transferId none) (some (.advanced none))
      { book with live := {c ∈ book.live | c.1 ≠ cursor} }
  | refused {cursor : String} {transferId : TransferId} {next : Option ResumeCursorState} {drawn' : Nat}
    (advances : book.drawn ≤ drawn')
    (unable : book.current → ∀ b, (cursor,b) ∈ book.live → b.transferId ≠ transferId) :
    Answered ids book (.advanceResumeCursor cursor transferId next) none { book with drawn := drawn' }
  | dropped {id : Nat} (current : book.current) :
    Answered ids book (.dropResumeSnapshot id) (some .dropped)
      { book with snapshots := {row ∈ book.snapshots | row.1 ≠ id} }
  | kept {id : Nat} (stale : ¬book.current) : Answered ids book (.dropResumeSnapshot id) (some .dropped) book

-- The calls the resume handlers make.
def StoreCall.resumes : StoreCall → Bool
  | .mintResumeCursor _ | .advanceResumeCursor .. | .resumeCursorBinding _ | .registerResumeSnapshot _
  | .resumeSnapshot _ | .dropResumeSnapshot _ => true
  | _ => false

section Calls
variable {ids : IdSource} {s : WorkerRuntime} {i : Nat} {store : TransientWorkerOperationStore} {call : StoreCall}

def WorkerRuntime.returned (s : WorkerRuntime) (i : Nat) (call : StoreCall)
    (result : (TransientWorkerOperationStore × Nat) × Except TransientOperationError StoreAnswer) : WorkerRuntime :=
  { s with
    stores := s.stores.set i result.1.1
    drawn := result.1.2
    minted := s.minted ++ s.newlyMinted i result.1.1 call result.2
    used := s.used ++ newlyUsed call result.2 }

theorem afterReturned (found : s.stores[i]? = some store) :
    s.after ids (.call i call) = s.returned i call (call.perform s.registry ids store s.drawn) ∧
      s.answer ids i call = (call.perform s.registry ids store s.drawn).2.toOption := by
  constructor
  · simp only [WorkerRuntime.after,WorkerRuntime.afterCall,found]
    rfl
  · simp [WorkerRuntime.answer,found]

theorem returnedStore (found : s.stores[i]? = some store)
    {result} :
    (s.returned i call result).stores[i]? = some result.1.1 :=
  List.getElem?_set_self (List.getElem?_eq_some_iff.mp found).1

theorem returnedBook {result}
    (generation : result.1.1.generation = store.generation) : (s.returned i call result).book i result.1.1 =
    ⟨(s.book i store).current,result.1.2,
      (s.book i store).issued ∪ {c | ∃ m ∈ s.newlyMinted i result.1.1 call result.2, m.store = i ∧ m.handle = c.1 ∧
        m.binding = .resumeCursor c.2},
      {c | ⟨c.1,.resumeCursor c.2⟩ ∈ result.1.1.bindings},{row | ⟨row.1,row.2⟩ ∈ result.1.1.resumeSnapshots}⟩ := by
  simp only [WorkerRuntime.book,WorkerRuntime.returned,generation,CursorBook.mk.injEq,true_and,and_true]
  ext c
  simp only [List.mem_append,Set.mem_ofPred_eq,Set.mem_union,or_and_right,exists_or]

theorem returnedUnissued {drawn' store' answer} (generation : store'.generation = store.generation)
    (none : answer.toOption.bind StoreAnswer.handle? = none) :
    (s.returned i call ((store',drawn'),answer)).book i store' = ⟨(s.book i store).current,drawn',
      (s.book i store).issued,{c | ⟨c.1,.resumeCursor c.2⟩ ∈ store'.bindings},
      {row | ⟨row.1,row.2⟩ ∈ store'.resumeSnapshots}⟩ := by
  have nothing : s.newlyMinted i store' call answer = [] := by
    unfold WorkerRuntime.newlyMinted
    rw [none]
  rw [@returnedBook s i store call ((store',drawn'),answer) generation]
  simp [nothing]

theorem returnedIssued {drawn' store' answer handle b}
    (generation : store'.generation = store.generation)
    (issues : answer.handle? = some handle) (filed : ⟨handle,.resumeCursor b⟩ ∈ store'.bindings) :
    (s.returned i call ((store',drawn'),.ok answer)).book i store' = ⟨(s.book i store).current,drawn',
      insert (handle,b) (s.book i store).issued,{c | ⟨c.1,.resumeCursor c.2⟩ ∈ store'.bindings},
      {row | ⟨row.1,row.2⟩ ∈ store'.resumeSnapshots}⟩ := by
  have row : store'.bindings.find? handle = some ⟨handle,.resumeCursor b⟩ := Table.findIff.mpr ⟨filed,rfl⟩
  have one : s.newlyMinted i store' call (.ok answer) =
      [⟨i,handle,.resumeCursor b,call.presents.elim handle s.queryOf⟩] := by
    simp [WorkerRuntime.newlyMinted,Except.toOption,issues,row]
  rw [@returnedBook s i store call ((store',drawn'),.ok answer) generation]
  simp only [one,CursorBook.mk.injEq,true_and,and_true]
  ext c
  simp only [Set.mem_union,Set.mem_ofPred_eq,List.mem_singleton,exists_eq_left,Binding.resumeCursor.injEq,true_and,
    Set.mem_insert_iff,Prod.ext_iff]
  constructor
  · intro issued
    exact issued.elim .inr fun new => .inl ⟨new.1.symm,new.2.symm⟩
  · intro issued
    exact issued.elim (fun new => .inr ⟨new.1.symm,new.2.symm⟩) .inl

/- The call is answered over the book of its store, and the store keeps its place and generation. -/
def WorkerRuntime.Serves (ids : IdSource) (s : WorkerRuntime) (i : Nat) (store : TransientWorkerOperationStore)
    (call : StoreCall) : Prop :=
  ∃ store', (s.after ids (.call i call)).stores[i]? = some store' ∧ store'.generation = store.generation ∧
    Answered ids (s.book i store) call (s.answer ids i call) ((s.after ids (.call i call)).book i store')

theorem servesReturned (found : s.stores[i]? = some store)
    {result}
    (performed : call.perform s.registry ids store s.drawn = result)
    (generation : result.1.1.generation = store.generation)
    (answered : Answered ids (s.book i store) call result.2.toOption ((s.returned i call result).book i result.1.1)) :
    s.Serves ids i store call := by
  obtain ⟨after,answer⟩ := @afterReturned ids s i store call found
  rw [performed] at after answer
  refine ⟨result.1.1,?_,generation,?_⟩
  · rw [after]
    exact returnedStore found
  · rw [after,answer]
    exact answered

theorem unissuedFresh (fresh : ids.Fresh) (handles : Handles ids s) {n drawn' kind}
    (low : s.drawn ≤ n) (high : n < drawn') : ∀ c ∈ (s.book i store).issued, c.1 ≠ ids.handle n kind := by
  intro c issued
  obtain ⟨m,minted,_,named,_⟩ := issued
  exact named ▸ freshUnminted fresh handles ⟨n,kind,low,high,rfl⟩ m minted

theorem servesRegister (found : s.stores[i]? = some store) (snapshot : ResumeSnapshot) :
    s.Serves ids i store (.registerResumeSnapshot snapshot) := by
  generalize performed : StoreCall.perform s.registry ids store s.drawn (.registerResumeSnapshot snapshot) = result
  have unfolded := performed
  simp only [StoreCall.perform,TransientWorkerOperationStore.registerResumeSnapshot,
    TransientWorkerOperationStore.withSnapshotsCurrent] at unfolded
  have failed : ∀ drawn' e, s.drawn ≤ drawn' → result = ((store,drawn'),.error e) →
      s.Serves ids i store (.registerResumeSnapshot snapshot) := by
    intro drawn' e advances same
    subst same
    refine servesReturned found performed rfl ?_
    rw [returnedUnissued rfl rfl]
    exact .unregistered advances
  by_cases current : s.registry.isCurrent store.generation
  · rw [if_pos current] at unfolded
    by_cases full : store.resumeSnapshotCapacity ≤ store.resumeSnapshots.rows.length
    · simp only [if_pos full] at unfolded
      exact failed _ _ le_rfl unfolded.symm
    simp only [if_neg full] at unfolded
    have drawing := chooseIdDrawn ids.uuid (fun id => (store.resumeSnapshots.find? id).isSome) mintAttempts s.drawn
    generalize chooseId ids.uuid (fun id => (store.resumeSnapshots.find? id).isSome) mintAttempts s.drawn = chosen
      at drawing unfolded
    obtain ⟨chosen,drawn'⟩ := chosen
    cases chosen with
    | none => exact failed _ _ drawing.1 unfolded.symm
    | some id =>
      obtain ⟨_,n,low,high,same⟩ := drawing.2 id rfl
      cases inserted : store.resumeSnapshots.insert? ⟨id,snapshot⟩ with
      | none =>
        simp only [inserted] at unfolded
        exact failed _ _ drawing.1 unfolded.symm
      | some snapshots =>
        simp only [inserted] at unfolded
        subst unfolded
        refine servesReturned found performed rfl ?_
        have filed : {row : Nat × ResumeSnapshot | ⟨row.1,row.2⟩ ∈ snapshots} =
            insert (id,snapshot) (s.book i store).snapshots := by
          ext row
          simp only [Set.mem_ofPred_eq,Table.memInsert inserted,Set.mem_insert_iff,WorkerRuntime.book,
            LiveSnapshot.mk.injEq,Prod.ext_iff,or_comm]
        have after := @returnedUnissued s i store (.registerResumeSnapshot snapshot) drawn'
          { store with resumeSnapshots := snapshots } (.ok (.registered id)) rfl rfl
        simp only [filed] at after
        exact after ▸ .registered current ⟨n,low,high,same⟩
  · rw [if_neg current] at unfolded
    exact failed _ _ le_rfl unfolded.symm

theorem servesMint (fresh : ids.Fresh) (handles : Handles ids s) (found : s.stores[i]? = some store)
    (binding : ResumeCursorBinding) : s.Serves ids i store (.mintResumeCursor binding) := by
  have ends := @performEnds s.registry ids store s.drawn (.mintResumeCursor binding)
  have shape : ∀ answer, (StoreCall.perform s.registry ids store s.drawn (.mintResumeCursor binding)).2 = .ok answer →
      ∃ handle, answer = .minted handle := by
    intro answer ok
    simp only [StoreCall.perform,Prod.map] at ok
    cases minted : (store.mintResumeCursor s.registry ids s.drawn binding).2 with
    | error e => rw [minted] at ok; cases ok
    | ok handle => rw [minted] at ok; cases ok; exact ⟨handle,rfl⟩
  generalize performed : StoreCall.perform s.registry ids store s.drawn (.mintResumeCursor binding) = result
    at ends shape
  cases ends with
  | failed advances =>
    refine servesReturned found performed rfl ?_
    rw [returnedUnissued rfl rfl]
    exact .unminted advances
  | @minted _ filed handle bindings drawn' mints _ _ inserted new =>
    cases mints
    obtain ⟨n,kind,low,high,rfl⟩ := new
    refine servesReturned found performed rfl ?_
    have live : {c : String × ResumeCursorBinding | ⟨c.1,.resumeCursor c.2⟩ ∈ bindings} =
        insert (ids.handle n kind,binding) (s.book i store).live := by
      ext c
      simp only [Set.mem_ofPred_eq,Table.memInsert inserted,Set.mem_insert_iff,WorkerRuntime.book,LiveBinding.mk.injEq,
        Binding.resumeCursor.injEq,Prod.ext_iff,or_comm]
    have after := @returnedIssued s i store (.mintResumeCursor binding) drawn' { store with bindings := bindings }
      (.minted (ids.handle n kind)) _ binding rfl rfl ((Table.memInsert inserted).mpr (.inr rfl))
    simp only [live] at after
    exact after ▸ .minted low high (unissuedFresh fresh handles low high)
  | used presents => cases presents
  | read unused last =>
    obtain ⟨handle,rfl⟩ := shape _ rfl
    cases last
  | snapshots unused last =>
    obtain ⟨handle,rfl⟩ := shape _ rfl
    cases last

theorem servesCursorBinding (found : s.stores[i]? = some store) (cursor : String) :
    s.Serves ids i store (.resumeCursorBinding cursor) := by
  refine servesReturned found rfl rfl ?_
  rw [show StoreCall.perform s.registry ids store s.drawn (.resumeCursorBinding cursor) = ((store,s.drawn),
    .ok (.read ((store.resumeCursorBinding s.registry cursor).map .resumeCursor))) from rfl,returnedUnissued rfl rfl]
  cases read : store.resumeCursorBinding s.registry cursor with
  | none => exact .unknown
  | some binding =>
    refine .found ?_
    simp only [TransientWorkerOperationStore.resumeCursorBinding,TransientWorkerOperationStore.withBindingsRead,
      WorkerAuthorityRegistry.withCurrentGenerationCurrent] at read
    split at read
    · simp only [Except.toOption,Option.join_some] at read
      split at read
      · rename_i row b located
        cases read
        obtain ⟨mem,named⟩ := Table.findIff.mp located
        cases named
        exact mem
      · cases read
    · cases read

theorem servesSnapshot (found : s.stores[i]? = some store) (id : Nat) : s.Serves ids i store (.resumeSnapshot id) := by
  refine servesReturned found rfl rfl ?_
  rw [show StoreCall.perform s.registry ids store s.drawn (.resumeSnapshot id) = ((store,s.drawn),
    .ok (.snapshot (store.resumeSnapshot s.registry id))) from rfl,returnedUnissued rfl rfl]
  cases read : store.resumeSnapshot s.registry id with
  | none => exact .notHeld
  | some snapshot =>
    refine .held ?_
    simp only [TransientWorkerOperationStore.resumeSnapshot,WorkerAuthorityRegistry.withCurrentGenerationCurrent] at read
    split at read
    · simp only [Except.toOption,Option.join_some] at read
      obtain ⟨row,located,same⟩ := Option.map_eq_some_iff.mp read
      obtain ⟨mem,named⟩ := Table.findIff.mp located
      cases same
      cases named
      exact mem
    · cases read

theorem servesDrop (found : s.stores[i]? = some store) (id : Nat) :
    s.Serves ids i store (.dropResumeSnapshot id) := by
  generalize performed : StoreCall.perform s.registry ids store s.drawn (.dropResumeSnapshot id) = result
  have unfolded := performed
  simp only [StoreCall.perform,TransientWorkerOperationStore.dropResumeSnapshot,
    TransientWorkerOperationStore.withSnapshotsCurrent] at unfolded
  by_cases current : s.registry.isCurrent store.generation
  · simp only [if_pos current] at unfolded
    subst unfolded
    refine servesReturned found performed rfl ?_
    have after := @returnedUnissued s i store (.dropResumeSnapshot id) s.drawn
      { store with resumeSnapshots := store.resumeSnapshots.retain fun row => row.id ≠ id } (.ok .dropped) rfl rfl
    simp only [Table.memRetain,decide_eq_true_eq] at after
    exact after ▸ .dropped current
  · simp only [if_neg current] at unfolded
    subst unfolded
    refine servesReturned found performed rfl ?_
    rw [returnedUnissued rfl rfl]
    exact .kept current

/- A fresh successor is found at the first draw. -/
theorem advanceSucceeds (fresh : ids.Fresh) (handles : Handles ids s) (found : s.stores[i]? = some store)
    (current : s.registry.isCurrent store.generation) {cursor b}
    (live : ⟨cursor,.resumeCursor b⟩ ∈ store.bindings) (next : Option ResumeCursorState) :
    ∃ answer, (StoreCall.perform s.registry ids store s.drawn (.advanceResumeCursor cursor b.transferId next)).2 =
      .ok answer := by
  have row : store.bindings.find? cursor = some ⟨cursor,.resumeCursor b⟩ := Table.findIff.mpr ⟨live,rfl⟩
  have unused : ∀ x ∈ store.bindings, x.handle ≠ ids.handle s.drawn .resumeCursor := by
    intro x mem same
    obtain ⟨_,m,minted,_,named,_⟩ := handles.live i store found x mem
    exact freshUnminted fresh handles ⟨s.drawn,.resumeCursor,le_rfl,Nat.lt_succ_self _,rfl⟩ m minted (named.trans same)
  have same : ¬b.transferId ≠ b.transferId := fun different => different rfl
  simp only [StoreCall.perform,TransientWorkerOperationStore.advanceResumeCursor,
    TransientWorkerOperationStore.withBindingsCurrent,if_pos current,row,if_neg same]
  cases next with
  | none => exact ⟨_,rfl⟩
  | some state =>
    have absent : (store.bindings.find? (ids.handle s.drawn .resumeCursor)).isSome = false := by
      cases other : store.bindings.find? (ids.handle s.drawn .resumeCursor) with
      | none => rfl
      | some x =>
        obtain ⟨mem,named⟩ := Table.findIff.mp other
        exact absurd named (unused x mem)
    have drawn : ¬ids.handle s.drawn .resumeCursor = cursor := fun same => unused _ live same.symm
    have chosen : chooseId (ids.handle · .resumeCursor) (fun id => id = cursor || (store.bindings.find? id).isSome)
        mintAttempts s.drawn = (some (ids.handle s.drawn .resumeCursor),s.drawn + 1) := by
      simp [mintAttempts,chooseId,absent,drawn]
    obtain ⟨bindings,inserted⟩ := @Table.insertIsSome _ _ _ _ (store.bindings.retain fun row => row.handle ≠ cursor)
      ⟨ids.handle s.drawn .resumeCursor,.resumeCursor ⟨b.transferId,b.proofId,state⟩⟩
      fun x mem => unused x (Table.memRetain.mp mem).1
    rw [chosen]
    simp only [inserted]
    exact ⟨_,rfl⟩

theorem servesAdvance (fresh : ids.Fresh) (handles : Handles ids s) (found : s.stores[i]? = some store)
    (cursor : String) (transferId : TransferId) (next : Option ResumeCursorState) :
    s.Serves ids i store (.advanceResumeCursor cursor transferId next) := by
  have ends := @performEnds s.registry ids store s.drawn (.advanceResumeCursor cursor transferId next)
  have succeeds : s.registry.isCurrent store.generation → ∀ b, ⟨cursor,.resumeCursor b⟩ ∈ store.bindings →
      b.transferId = transferId → ∃ answer,
        (StoreCall.perform s.registry ids store s.drawn (.advanceResumeCursor cursor transferId next)).2 = .ok answer :=
    fun current b live same => same ▸ advanceSucceeds fresh handles found current live next
  generalize performed : StoreCall.perform s.registry ids store s.drawn
    (.advanceResumeCursor cursor transferId next) = result at ends succeeds
  cases ends with
  | failed advances =>
    refine servesReturned found performed rfl ?_
    rw [returnedUnissued rfl rfl]
    refine .refused advances fun current b live same => ?_
    obtain ⟨answer,ok⟩ := succeeds current b live same
    cases ok
  | minted mints => cases mints
  | used presents current live accepts last =>
    cases presents
    obtain ⟨b,successor,rfl,rfl,rfl,ends⟩ := accepts
    cases last
    cases next with
    | some state => cases ends
    | none =>
      refine servesReturned found performed rfl ?_
      have after := @returnedUnissued s i store (.advanceResumeCursor cursor b.transferId none) s.drawn
        { store with bindings := store.bindings.retain fun row => row.handle ≠ cursor } (.ok (.advanced none)) rfl rfl
      simp only [Table.memRetain,decide_eq_true_eq] at after
      exact after ▸ .exhausted current live
  | @advanced _ id state b bindings drawn' current live inserted new =>
    obtain ⟨n,kind,low,high,rfl⟩ := new
    refine servesReturned found performed rfl ?_
    have filed : {c : String × ResumeCursorBinding | ⟨c.1,.resumeCursor c.2⟩ ∈ bindings} =
        insert (ids.handle n kind,⟨b.transferId,b.proofId,state⟩) {c ∈ (s.book i store).live | c.1 ≠ cursor} := by
      ext c
      simp only [Set.mem_ofPred_eq,Table.memInsert inserted,Table.memRetain,decide_eq_true_eq,Set.mem_insert_iff,
        WorkerRuntime.book,LiveBinding.mk.injEq,Binding.resumeCursor.injEq,Prod.ext_iff,or_comm]
    have after := @returnedIssued s i store (.advanceResumeCursor cursor b.transferId (some state)) drawn'
      { store with bindings := bindings } (.advanced (some (ids.handle n kind))) _ _ rfl rfl
      ((Table.memInsert inserted).mpr (.inr rfl))
    simp only [filed] at after
    exact after ▸ .advanced current live low high (unissuedFresh fresh handles low high)
  | read unused => cases unused
  | snapshots unused => cases unused

theorem servesResume (fresh : ids.Fresh) (handles : Handles ids s) (found : s.stores[i]? = some store)
    (resumes : call.resumes) : s.Serves ids i store call := by
  cases call with
  | mintResumeCursor binding => exact servesMint fresh handles found binding
  | advanceResumeCursor cursor transferId next => exact servesAdvance fresh handles found cursor transferId next
  | resumeCursorBinding cursor => exact servesCursorBinding found cursor
  | registerResumeSnapshot snapshot => exact servesRegister found snapshot
  | resumeSnapshot id => exact servesSnapshot found id
  | dropResumeSnapshot id => exact servesDrop found id
  | mintAcceptance | mintVerification | consumeAcceptance | consumeVerification | acceptanceBinding
  | verificationBinding => cases resumes

theorem withBindingsSnapshots {α : Type} {registry drawn}
    {op : Table LiveBinding.handle → (Table LiveBinding.handle × Nat) × Except TransientOperationError α} :
    (store.withBindings registry drawn op).1.1.resumeSnapshots = store.resumeSnapshots := by
  rw [TransientWorkerOperationStore.withBindingsCurrent]
  split <;> rfl

theorem performSnapshots (other : call.resumes = false) :
    (call.perform s.registry ids store s.drawn).1.1.resumeSnapshots = store.resumeSnapshots := by
  cases call with
  | mintAcceptance | mintVerification =>
    simp only [StoreCall.perform,Prod.map,id,TransientWorkerOperationStore.mintAcceptance,
      TransientWorkerOperationStore.mintVerification,TransientWorkerOperationStore.insertFresh,withBindingsSnapshots]
  | consumeAcceptance | consumeVerification =>
    simp only [StoreCall.perform,Prod.map,id,TransientWorkerOperationStore.consumeAcceptance,
      TransientWorkerOperationStore.consumeVerification,withBindingsSnapshots]
  | acceptanceBinding | verificationBinding => rfl
  | mintResumeCursor | advanceResumeCursor | resumeCursorBinding | registerResumeSnapshot | resumeSnapshot
  | dropResumeSnapshot => cases other

-- The binding such a call files or uses up.
theorem otherMints (other : call.resumes = false) {binding} (mints : call.mints = some binding)
    (b : ResumeCursorBinding) : binding ≠ .resumeCursor b := by
  cases call with
  | mintAcceptance | mintVerification =>
    cases mints
    simp
  | consumeAcceptance | consumeVerification | acceptanceBinding | verificationBinding => cases mints
  | mintResumeCursor | advanceResumeCursor | resumeCursorBinding | registerResumeSnapshot | resumeSnapshot
  | dropResumeSnapshot => cases other

theorem otherUses (other : call.resumes = false) {binding answer}
    (accepts : call.Accepts binding answer) (b : ResumeCursorBinding) : binding ≠ .resumeCursor b := by
  cases call with
  | consumeAcceptance | consumeVerification =>
    obtain ⟨_,rfl,_⟩ := accepts
    simp
  | mintAcceptance | mintVerification | acceptanceBinding | verificationBinding => exact accepts.elim
  | mintResumeCursor | advanceResumeCursor | resumeCursorBinding | registerResumeSnapshot | resumeSnapshot
  | dropResumeSnapshot => cases other

theorem servesOther (found : s.stores[i]? = some store) (other : call.resumes = false) :
    ∃ store' drawn', (s.after ids (.call i call)).stores[i]? = some store' ∧ store'.generation = store.generation ∧
      s.drawn ≤ drawn' ∧ (s.after ids (.call i call)).book i store' = { s.book i store with drawn := drawn' } := by
  have after := (@afterReturned ids s i store call found).1
  have ends := @performEnds s.registry ids store s.drawn call
  have untouched := @performSnapshots ids s store call other
  generalize call.perform s.registry ids store s.drawn = result at ends after untouched
  rw [after]
  cases ends with
  | @failed _ drawn' _ advances => exact ⟨store,drawn',returnedStore found,rfl,advances,returnedUnissued rfl rfl⟩
  | @minted _ binding handle bindings drawn' mints _ _ inserted new =>
    obtain ⟨n,_,low,high,_⟩ := new
    refine ⟨_,drawn',returnedStore found,rfl,by omega,?_⟩
    have row : bindings.find? handle = some ⟨handle,binding⟩ :=
      Table.findIff.mpr ⟨(Table.memInsert inserted).mpr (.inr rfl),rfl⟩
    have never := otherMints other mints
    have book := @returnedBook s i store call (({ store with bindings := bindings },drawn'),.ok (.minted handle)) rfl
    simp only [WorkerRuntime.newlyMinted,Except.toOption,Option.bind,StoreAnswer.handle?,row,List.mem_singleton,
      exists_eq_left,never,and_false,Table.memInsert inserted,LiveBinding.mk.injEq] at book
    rw [book]
    simp [WorkerRuntime.book,fun b => Ne.symm (never b)]
  | @used _ handle binding answer _ _ live accepts last =>
    refine ⟨_,s.drawn,returnedStore found,rfl,le_rfl,?_⟩
    have never := otherUses other accepts
    have kept : ∀ c : String × ResumeCursorBinding, ⟨c.1,.resumeCursor c.2⟩ ∈ store.bindings → c.1 ≠ handle := by
      intro c mem same
      have rows := Table.eqOfKey live mem same.symm
      exact never c.2 (congrArg LiveBinding.binding rows)
    have none : (Except.toOption (.ok answer : Except TransientOperationError StoreAnswer)).bind StoreAnswer.handle? =
        none := last
    rw [returnedUnissued rfl none]
    simp only [WorkerRuntime.book,Table.memRetain,decide_eq_true_eq,CursorBook.mk.injEq,true_and,and_true]
    ext c
    exact ⟨fun mem => mem.1,fun mem => ⟨mem,kept c mem⟩⟩
  | advanced => cases other
  | read _ last => exact ⟨store,s.drawn,returnedStore found,rfl,le_rfl,returnedUnissued rfl last⟩
  | @snapshots _ answer snapshots drawn' _ last advances =>
    have same : snapshots = store.resumeSnapshots := untouched
    subst same
    refine ⟨_,drawn',returnedStore found,rfl,advances,?_⟩
    have none : (Except.toOption (.ok answer : Except TransientOperationError StoreAnswer)).bind StoreAnswer.handle? =
        none := last
    exact returnedUnissued rfl none

theorem newlyMintedStore {store' answer} :
    ∀ m ∈ s.newlyMinted i store' call answer, m.store = i := by
  intro m mem
  unfold WorkerRuntime.newlyMinted at mem
  split at mem
  · cases mem
  split at mem
  · cases mem
  · cases List.mem_singleton.mp mem
    rfl

/- A call on one store leaves the books of the others, up to the ids drawn. -/
theorem servesElsewhere (found : s.stores[i]? = some store) {j} (apart : i ≠ j)
    (other : TransientWorkerOperationStore) : ∃ drawn',
      (s.after ids (.call i call)).stores[j]? = s.stores[j]? ∧ s.drawn ≤ drawn' ∧
        (s.after ids (.call i call)).book j other = { s.book j other with drawn := drawn' } := by
  have after := (@afterReturned ids s i store call found).1
  have ends := @performEnds s.registry ids store s.drawn call
  generalize call.perform s.registry ids store s.drawn = result at ends after
  have advances : s.drawn ≤ result.1.2 := by
    cases ends with
    | failed advances => exact advances
    | minted _ _ _ _ new => obtain ⟨n,_,low,high,_⟩ := new; exact Nat.le_of_lt (Nat.lt_of_le_of_lt low high)
    | advanced _ _ _ new => obtain ⟨n,_,low,high,_⟩ := new; exact Nat.le_of_lt (Nat.lt_of_le_of_lt low high)
    | used | read => exact le_rfl
    | snapshots _ _ advances => exact advances
  refine ⟨result.1.2,?_,advances,?_⟩
  · rw [after]
    exact List.getElem?_set_ne apart
  · rw [after]
    simp only [WorkerRuntime.book,WorkerRuntime.returned,CursorBook.mk.injEq,true_and,and_true]
    ext c
    constructor
    · intro issued
      obtain ⟨m,mem,at_,rest⟩ := issued
      rcases List.mem_append.mp mem with old | new
      · exact ⟨m,old,at_,rest⟩
      · exact absurd ((newlyMintedStore m new).symm.trans at_) apart
    · intro issued
      obtain ⟨m,mem,rest⟩ := issued
      exact ⟨m,List.mem_append_left _ mem,rest⟩

end Calls
end Bamep
