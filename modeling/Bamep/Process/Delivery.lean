import Bamep.Process.Ownership

/-! How often an `ActionDispatch` is handed to the transport. Only the call that registers an Attempt
sends, and the registry remembers an Attempt until its terminal evidence takes the mapping. -/
namespace Bamep
open Relational Transition

def ServiceCall.sends : ServiceCall → Option AttemptId
  | .registered _ attemptId _ => some attemptId
  | .acquired .. | .refused _ | .settled _ | .taken .. => none

namespace Process
variable (p : Process)

def Registered (id : AttemptId) : Prop := ∃ row ∈ p.registry, row.attemptId = id

def Called (id : AttemptId) : Prop := ∃ d ∈ p.called, d.attempt.id = id

/- A call is repeated only while its Attempt is registered, and a terminal path takes no mapping whose
message was not handed over yet. -/
def Timely : ProcessOp → Prop
  | .dispatchAgain k _ _ => ∀ d ∈ p.called[k]?, ∃ row ∈ p.registry, row.attemptId = d.attempt.id
  | .take i => ∀ call ∈ p.calls[i]?, ∀ other ∈ p.calls, ∀ id ∈ other.sends, call ≠ .settled id
  | _ => True

end Process

instance Process.timelyDecide (p : Process) : (op : ProcessOp) → Decidable (p.Timely op)
  | .dispatchAgain k _ _ =>
    inferInstanceAs (Decidable (∀ d ∈ p.called[k]?, ∃ row ∈ p.registry, row.attemptId = d.attempt.id))
  | .take i => inferInstanceAs
      (Decidable (∀ call ∈ p.calls[i]?, ∀ other ∈ p.calls, ∀ id ∈ other.sends, call ≠ .settled id))
  | .acquire .. | .commit .. | .commitFails _ | .dispatch .. | .send _ | .evidence .. | .release _
  | .control .. | .dataPlane _ => .isTrue trivial

structure Delivery (p : Process) : Prop where
  once : (p.handed.map Handover.attemptId ++ p.calls.filterMap ServiceCall.sends).Nodup
  origin : ∀ id ∈ p.handed.map Handover.attemptId ++ p.calls.filterMap ServiceCall.sends, p.Called id
  pending : ∀ id ∈ p.calls.filterMap ServiceCall.sends, p.Registered id
  mapped : ∀ row ∈ p.registry, p.Called row.attemptId
  gone : ∀ id, (id ∈ p.freed ∨ ∃ reservation, .taken id reservation ∈ p.calls) → p.Called id ∧ ¬ p.Registered id

section Steps
variable {p : Process}

theorem deliveryStart (store : Store) (capacities : List (Count ResourceKind)) :
    Delivery (.start store capacities) :=
  ⟨List.nodup_nil,nofun,nofun,nofun,fun _ left => left.elim nofun nofun⟩

theorem deliveryCalls (inv : Delivery p) {q} (handed : q.handed = p.handed)
    (registry : q.registry = p.registry) (called : q.called = p.called)
    (sends : (q.calls.filterMap ServiceCall.sends).Perm (p.calls.filterMap ServiceCall.sends))
    (gone : ∀ id, (id ∈ q.freed ∨ ∃ reservation, .taken id reservation ∈ q.calls) →
      id ∈ p.freed ∨ ∃ reservation, .taken id reservation ∈ p.calls) : Delivery q := by
  have order := sends.append_left (p.handed.map Handover.attemptId)
  refine ⟨?_,fun id mem => ?_,fun id mem => ?_,?_,fun id left => ?_⟩
  · rw [handed]
    exact order.nodup_iff.mpr inv.once
  · rw [handed] at mem
    rw [Process.Called,called]
    exact inv.origin id (order.mem_iff.mp mem)
  · rw [Process.Registered,registry]
    exact inv.pending id (sends.mem_iff.mp mem)
  · rw [registry]
    simpa only [Process.Called,called] using inv.mapped
  · rw [Process.Called,Process.Registered,called,registry]
    exact inv.gone id (gone id left)

theorem sendsPerm {i call} (found : p.calls[i]? = some call) :
    (p.calls.filterMap ServiceCall.sends).Perm
      (call.sends.toList ++ (p.calls.eraseIdx i).filterMap ServiceCall.sends) := by
  refine ((erasePerm found).filterMap ServiceCall.sends).trans (.of_eq ?_)
  cases sent : call.sends <;> simp [sent]

theorem sendsErase {i call} (found : p.calls[i]? = some call) (silent : call.sends = none) :
    ((p.calls.eraseIdx i).filterMap ServiceCall.sends).Perm (p.calls.filterMap ServiceCall.sends) := by
  have order := sendsPerm found
  rw [silent] at order
  exact order.symm

theorem sendsAdvance {i call next} (found : p.calls[i]? = some call)
    (silent : call.sends = none) (still : next.sends = none) :
    ((p.calls.eraseIdx i ++ [next]).filterMap ServiceCall.sends).Perm (p.calls.filterMap ServiceCall.sends) := by
  rw [List.filterMap_append,List.filterMap_cons_none still,List.filterMap_nil,List.append_nil]
  exact sendsErase found silent

theorem deliverySend (inv : Delivery p) {i endpointId attemptId message}
    (found : p.calls[i]? = some (.registered endpointId attemptId message)) :
    Delivery { p with
      calls := p.calls.eraseIdx i
      handed := p.handed ++ [⟨endpointId,attemptId,message⟩] } := by
  have order := sendsPerm found
  have whole : ((p.handed ++ [(⟨endpointId,attemptId,message⟩ : Handover)]).map Handover.attemptId ++
      (p.calls.eraseIdx i).filterMap ServiceCall.sends).Perm
      (p.handed.map Handover.attemptId ++ p.calls.filterMap ServiceCall.sends) := by
    rw [List.map_append,List.append_assoc]
    exact order.symm.append_left _
  refine ⟨whole.nodup_iff.mpr inv.once,fun id mem => inv.origin id (whole.mem_iff.mp mem),
    fun id mem => inv.pending id (order.mem_iff.mpr (List.mem_append_right _ mem)),inv.mapped,fun id left => ?_⟩
  refine inv.gone id (left.imp_right ?_)
  rintro ⟨reservation,mem⟩
  exact ⟨reservation,(eraseMem found).mpr (.inr mem)⟩

theorem deliveryDispatch (issued : Issued p) (inv : Delivery p) {k d}
    (found : p.waiting[k]? = some d) {registry}
    (inserted : p.registry.insert? ⟨d.attempt.id,d.reservation⟩ = some registry) (endpointId : EndpointId)
    (message : ActionDispatchMessage) :
    Delivery { p with
      registry := registry
      calls := p.calls ++ [.registered endpointId d.attempt.id message]
      waiting := p.waiting.eraseIdx k
      called := p.called ++ [d] } := by
  have older : ∀ id, p.Called id → id ≠ d.attempt.id ∧ ∃ e ∈ p.called ++ [d], e.attempt.id = id := by
    rintro id ⟨e,called,rfl⟩
    exact ⟨issued.apart (List.mem_of_getElem? found) called,e,List.mem_append_left _ called,rfl⟩
  have newest : ∃ e ∈ p.called ++ [d], e.attempt.id = d.attempt.id := ⟨d,by simp,rfl⟩
  have rows : ∀ row, row ∈ registry ↔ row ∈ p.registry ∨ row = ⟨d.attempt.id,d.reservation⟩ := fun _ =>
    Table.memInsert inserted
  have sends : (p.calls ++ [ServiceCall.registered endpointId d.attempt.id message]).filterMap ServiceCall.sends =
      p.calls.filterMap ServiceCall.sends ++ [d.attempt.id] := List.filterMap_append
  refine ⟨?_,fun id mem => ?_,fun id mem => ?_,fun row mem => ?_,fun id left => ?_⟩
  · rw [sends,← List.append_assoc]
    refine List.nodup_append.mpr ⟨inv.once,List.nodup_singleton _,fun id mem other new => ?_⟩
    rw [List.mem_singleton.mp new]
    exact (older id (inv.origin id mem)).1
  · rw [sends,← List.append_assoc] at mem
    rcases List.mem_append.mp mem with old | new
    · exact (older id (inv.origin id old)).2
    · rw [List.mem_singleton.mp new]
      exact newest
  · rw [sends] at mem
    rcases List.mem_append.mp mem with old | new
    · obtain ⟨row,present,named⟩ := inv.pending id old
      exact ⟨row,(rows row).mpr (.inl present),named⟩
    · exact ⟨_,(rows _).mpr (.inr rfl),(List.mem_singleton.mp new).symm⟩
  · rcases (rows row).mp mem with old | rfl
    · exact (older _ (inv.mapped row old)).2
    · exact newest
  · have before : id ∈ p.freed ∨ ∃ reservation, .taken id reservation ∈ p.calls := by simpa using left
    obtain ⟨called,absent⟩ := inv.gone id before
    refine ⟨(older id called).2,fun ⟨row,mem,named⟩ => ?_⟩
    rcases (rows row).mp mem with old | rfl
    · exact absent ⟨row,old,named⟩
    · exact (older id called).1 named.symm

theorem deliveryTake (inv : Delivery p) {i} (timely : p.Timely (.take i)) : Delivery (p.take i) := by
  unfold Process.take
  split <;> try exact inv
  rename_i attemptId found
  have quiet : ∀ id ∈ p.calls.filterMap ServiceCall.sends, id ≠ attemptId := by
    intro id mem same
    obtain ⟨other,present,sent⟩ := List.mem_filterMap.mp mem
    exact timely _ found other present id sent (by rw [same])
  have kept : ∀ row, row ∈ p.registry.retain (fun row => row.attemptId ≠ attemptId) ↔
      row ∈ p.registry ∧ row.attemptId ≠ attemptId := fun row => by simp
  have pending : ∀ id ∈ p.calls.filterMap ServiceCall.sends,
      ∃ row ∈ p.registry.retain (fun row => row.attemptId ≠ attemptId), row.attemptId = id := by
    intro id mem
    obtain ⟨row,present,named⟩ := inv.pending id mem
    exact ⟨row,(kept row).mpr ⟨present,named ▸ quiet id mem⟩,named⟩
  have mapped : ∀ row ∈ p.registry.retain (fun row => row.attemptId ≠ attemptId), p.Called row.attemptId :=
    fun row mem => inv.mapped row ((kept row).mp mem).1
  have gone : ∀ id, (id ∈ p.freed ∨ ∃ reservation, .taken id reservation ∈ p.calls) → p.Called id ∧
      ¬ ∃ row ∈ p.registry.retain (fun row => row.attemptId ≠ attemptId), row.attemptId = id := by
    intro id left
    obtain ⟨called,absent⟩ := inv.gone id left
    refine ⟨called,fun held => absent ?_⟩
    obtain ⟨row,mem,named⟩ := held
    exact ⟨row,((kept row).mp mem).1,named⟩
  have before : ∀ id reservation, .taken id reservation ∈ p.calls.eraseIdx i → .taken id reservation ∈ p.calls :=
    fun id reservation mem => (eraseMem found).mpr (.inr mem)
  simp only [AttemptReservationRegistry.take]
  cases looked : p.registry.find? attemptId with
  | none =>
    have sends := sendsErase found rfl
    have order := sends.append_left (p.handed.map Handover.attemptId)
    exact ⟨order.nodup_iff.mpr inv.once,fun id mem => inv.origin id (order.mem_iff.mp mem),
      fun id mem => pending id (sends.mem_iff.mp mem),mapped,fun id left => gone id
        (left.imp_right (Exists.imp (before id)))⟩
  | some row =>
    obtain ⟨present,rfl⟩ := Table.findIff.mp looked
    have sends := @sendsAdvance p i _ (.taken row.attemptId row.reservation) found rfl rfl
    have order := sends.append_left (p.handed.map Handover.attemptId)
    refine ⟨order.nodup_iff.mpr inv.once,fun id mem => inv.origin id (order.mem_iff.mp mem),
      fun id mem => pending id (sends.mem_iff.mp mem),mapped,fun id left => ?_⟩
    rcases left with freed | ⟨reservation,mem⟩
    · exact gone id (.inl freed)
    rcases List.mem_append.mp mem with old | new
    · exact gone id (.inr ⟨reservation,before id reservation old⟩)
    · obtain ⟨rfl,_⟩ := ServiceCall.taken.inj (List.mem_singleton.mp new)
      exact ⟨inv.mapped row present,fun held => by
        obtain ⟨x,mem,named⟩ := held
        exact ((kept x).mp mem).2 named⟩

theorem deliveryStep (issued : Issued p) (inv : Delivery p) {op} (timely : p.Timely op) :
    Delivery (p.after op) := by
  have later : ∀ {q : Process} (next : ServiceCall), next.sends = none → (∀ id r, next ≠ .taken id r) →
      q.handed = p.handed → q.registry = p.registry → q.called = p.called → q.freed = p.freed →
      q.calls = p.calls ++ [next] → Delivery q := by
    intro q next silent keeps handed registry called freed calls
    refine deliveryCalls inv handed registry called ?_ fun id left => ?_
    · rw [calls,List.filterMap_append,List.filterMap_cons_none silent,List.filterMap_nil,List.append_nil]
    · rw [freed,calls] at left
      refine left.imp_right (Exists.imp fun reservation mem => ?_)
      rcases List.mem_append.mp mem with old | new
      · exact old
      · exact absurd (List.mem_singleton.mp new).symm (keeps id reservation)
  have idle : ∀ {q : Process}, q.handed = p.handed → q.registry = p.registry → q.called = p.called →
      q.freed = p.freed → q.calls = p.calls → Delivery q := fun handed registry called freed calls =>
    deliveryCalls inv handed registry called (.of_eq (by rw [calls])) fun id left => by rwa [freed,calls] at left
  have advanced : ∀ {q : Process} {i : Nat} {request : DispatchRequest} {reservation : ReservationId},
      p.calls[i]? = some (.acquired request reservation) → q.handed = p.handed → q.registry = p.registry →
      q.called = p.called → q.freed = p.freed → q.calls = p.calls.eraseIdx i ++ [.refused reservation] →
      Delivery q := by
    intro q i request reservation found handed registry called freed calls
    refine deliveryCalls inv handed registry called (calls ▸ sendsAdvance found rfl rfl) fun id left => ?_
    rw [freed,calls] at left
    exact left.imp_right (Exists.imp fun r mem => (eraseMem found).mpr (.inr (by simpa using mem)))
  cases op with
  | acquire request claims =>
    simp only [Process.after,Process.acquire]
    split
    · exact inv
    · exact later (.acquired request _) rfl (by simp) rfl rfl rfl rfl rfl
  | commit i facts attemptId actionId =>
    simp only [Process.after,Process.commit]
    split <;> try exact inv
    rename_i request reservation found
    split
    · refine deliveryCalls inv rfl rfl rfl (sendsErase found rfl) fun id left => ?_
      exact left.imp_right (Exists.imp fun r mem => (eraseMem found).mpr (.inr mem))
    · exact advanced found rfl rfl rfl rfl rfl
  | commitFails i =>
    simp only [Process.after,Process.commitFails]
    split <;> try exact inv
    rename_i found
    exact advanced found rfl rfl rfl rfl rfl
  | dispatch k endpointId transfer =>
    simp only [Process.after,Process.dispatch]
    split
    · exact inv
    rename_i d found
    have mem : d ∈ p.waiting := List.mem_of_getElem? found
    obtain ⟨_,taken⟩ | ⟨registry,inserted,same⟩ := dispatchMessageCases
      { p with waiting := p.waiting.eraseIdx k, called := p.called ++ [d] } endpointId d.attempt d.reservation
      (actionDispatch d.attempt transfer)
    · obtain ⟨row,present,named⟩ := taken (issued.fresh d (List.mem_append_left _ mem))
      obtain ⟨e,called,same⟩ := inv.mapped row present
      exact absurd (same.trans named) (issued.apart mem called)
    · rw [same]
      exact deliveryDispatch issued inv found inserted endpointId _
  | dispatchAgain k endpointId transfer =>
    simp only [Process.after,Process.dispatchAgain]
    split
    · exact inv
    rename_i d found
    obtain ⟨row,present,named⟩ := timely d found
    obtain ⟨same,_⟩ | ⟨registry,inserted,_⟩ := dispatchMessageCases p endpointId d.attempt d.reservation
      (actionDispatch d.attempt transfer)
    · rw [same]
      exact inv
    · exact absurd named (Table.insertAbsent inserted present)
  | send i =>
    simp only [Process.after,Process.send]
    split <;> try exact inv
    rename_i found
    exact deliverySend inv found
  | evidence call stamp =>
    simp only [Process.after,Process.evidence]
    split
    · split
      · exact later (.settled _) rfl (by simp) rfl rfl rfl rfl rfl
      · exact idle rfl rfl rfl rfl rfl
    · exact idle rfl rfl rfl rfl rfl
  | take i => exact deliveryTake inv timely
  | release i =>
    simp only [Process.after,Process.release]
    split <;> try exact inv
    · rename_i found
      refine deliveryCalls inv rfl rfl rfl (sendsErase found rfl) fun id left => ?_
      exact left.imp_right (Exists.imp fun r mem => (eraseMem found).mpr (.inr mem))
    · rename_i attemptId reservation found
      refine deliveryCalls inv rfl rfl rfl (sendsErase found rfl) fun id left => ?_
      rcases left with freed | ⟨r,mem⟩
      · rcases List.mem_append.mp freed with old | new
        · exact .inl old
        · rw [List.mem_singleton.mp new]
          exact .inr ⟨reservation,List.mem_of_getElem? found⟩
      · exact .inr ⟨r,(eraseMem found).mpr (.inr mem)⟩
  | control | dataPlane => exact idle rfl rfl rfl rfl rfl

theorem handedStep (p : Process) (op : ProcessOp) : (p.after op).handed = p.handed ∨
    ∃ i h, op = .send i ∧ p.calls[i]? = some (.registered h.endpointId h.attemptId h.message) ∧
      (p.after op).handed = p.handed ++ [h] := by
  cases op with
  | send i =>
    simp only [Process.after,Process.send]
    split
    · rename_i endpointId attemptId message found
      exact .inr ⟨i,⟨endpointId,attemptId,message⟩,rfl,found,rfl⟩
    · exact .inl rfl
  | dispatch k endpointId transfer =>
    refine .inl ?_
    simp only [Process.after,Process.dispatch]
    split
    · rfl
    obtain ⟨same,_⟩ | ⟨_,_,same⟩ := dispatchMessageCases { p with
      waiting := p.waiting.eraseIdx k, called := p.called ++ [_] } endpointId _ _ _ <;> rw [same]
  | dispatchAgain k endpointId transfer =>
    refine .inl ?_
    simp only [Process.after,Process.dispatchAgain]
    split
    · rfl
    obtain ⟨same,_⟩ | ⟨_,_,same⟩ := dispatchMessageCases p endpointId _ _ _ <;> rw [same]
  | acquire | commit | commitFails | evidence | take | release =>
    refine .inl ?_
    simp only [Process.after,Process.acquire,Process.commit,Process.commitFails,Process.evidence,Process.take,
      Process.release]
    repeat' first | rfl | split
  | control | dataPlane => exact .inl rfl

end Steps

structure DeliveryLaws (p : Process) : Prop where
  once : (p.handed.map Handover.attemptId).Nodup
  live : ∀ op handover, (p.after op).handed = p.handed ++ [handover] → handover.attemptId ∉ p.freed

theorem actionDispatchHandedOnce (store : Store) (capacities : List (Count ResourceKind)) (ops : List ProcessOp)
    (timely : Meets Process.after Process.Timely (.start store capacities) ops) :
    DeliveryLaws (Process.reached store capacities ops) := by
  obtain ⟨_,inv⟩ : Issued (Process.reached store capacities ops) ∧ Delivery (Process.reached store capacities ops) :=
    @runInvariant _ _ Process.after _ (fun p => Issued p ∧ Delivery p) (fun p op inv ok =>
        ⟨issuedStep inv.1 op,deliveryStep inv.1 inv.2 ok⟩) _ _
      ⟨issuedStart store capacities,deliveryStart store capacities⟩ timely
  refine ⟨(List.nodup_append.mp inv.once).1,fun op handover grown freed => ?_⟩
  obtain same | ⟨i,h,_,found,added⟩ := handedStep (Process.reached store capacities ops) op
  · rw [same] at grown
    exact absurd (congrArg List.length grown) (by simp)
  · cases List.singleton_injective (List.append_cancel_left (added.symm.trans grown))
    refine (inv.gone _ (.inl freed)).2 (inv.pending _ ?_)
    exact List.mem_filterMap.mpr ⟨_,List.mem_of_getElem? found,rfl⟩

def deliveredDispatch : List ProcessOp :=
  committedDispatch ++ [.dispatch 0 ⟨7⟩ none,.dispatchAgain 0 ⟨7⟩ none,.send 0,
    .evidence (.action ⟨5⟩ ⟨7⟩ .resultSucceeded) (ticket 2),.take 0,.release 0]

theorem actionDispatchHandedOnceCompleted :
    DeliveryLaws (Process.reached .empty [⟨⟨"network"⟩,1⟩] deliveredDispatch) ∧
      (Process.reached .empty [⟨⟨"network"⟩,1⟩] deliveredDispatch).handed.map Handover.attemptId = [⟨5⟩] :=
  ⟨actionDispatchHandedOnce _ _ _ (by decide +kernel),by decide +kernel⟩

/- The mapping is gone with the terminal evidence, and the caller still holds its Attempt as it was
committed: the same call registers and sends again. -/
theorem dispatchedAfterRelease :
    let p := Process.reached .empty [⟨⟨"network"⟩,1⟩] (deliveredDispatch ++ [.dispatchAgain 0 ⟨7⟩ none])
    p.store.active ⟨5⟩ = false ∧ p.freed = [⟨5⟩] ∧ p.handed.map Handover.attemptId = [⟨5⟩] ∧
      (p.after (.send 0)).handed.map Handover.attemptId = [⟨5⟩,⟨5⟩] := by
  decide +kernel

end Bamep
