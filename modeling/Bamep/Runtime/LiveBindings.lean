import Bamep.Runtime.Handles

/-! A live verification binding. It is filed by the call that returns its handle, under a handle no live
binding had, and only the call that consumes it removes it. Nothing is assumed of the ids drawn. -/
namespace Bamep
open Relational

namespace WorkerRuntime

-- What a call on the `i`-th store answers now.
def answer (ids : IdSource) (s : WorkerRuntime) (i : Nat) (call : StoreCall) : Option StoreAnswer :=
  s.stores[i]?.bind fun store => (call.perform s.registry ids store s.drawn).2.toOption

def Live (s : WorkerRuntime) (i : Nat) (handle : String) (binding : VerificationBinding) : Prop :=
  ∃ store, s.stores[i]? = some store ∧ ⟨handle,.verification binding⟩ ∈ store.bindings

end WorkerRuntime

section Live
variable {ids : IdSource} {s : WorkerRuntime} {i : Nat} {store : TransientWorkerOperationStore} {call : StoreCall}
  {handle : String} {binding : VerificationBinding}

theorem liveOpened (live : s.Live i handle binding) {opened} {s' : WorkerRuntime}
    (stores : s'.stores = s.stores ++ [opened]) : s'.Live i handle binding := by
  obtain ⟨store,found,mem⟩ := live
  obtain ⟨inside,_⟩ := List.getElem?_eq_some_iff.mp found
  exact ⟨store,by rw [stores,List.getElem?_append_left inside,found],mem⟩

/- The row stays in its own store whatever call but its consumption runs there. -/
theorem liveRow (mem : ⟨handle,.verification binding⟩ ∈ store.bindings) {registry drawn}
    (other : call ≠ .consumeVerification handle) :
    ⟨handle,.verification binding⟩ ∈ (call.perform registry ids store drawn).1.1.bindings := by
  have ends := @performEnds registry ids store drawn call
  generalize call.perform registry ids store drawn = result at ends
  cases ends with
  | failed | read | snapshots => exact mem
  | minted mints unused space inserted => exact (Table.memInsert inserted).mpr (.inl mem)
  | @used _ consumed accepted _ presents current live accepts =>
    refine Table.memRetain.mpr ⟨mem,decide_eq_true ?_⟩
    rintro rfl
    cases Table.eqOfKey live mem rfl
    cases call with
    | consumeVerification => exact other (congrArg _ (Option.some.inj presents))
    | consumeAcceptance => obtain ⟨_,⟨⟩,_⟩ := accepts
    | advanceResumeCursor => obtain ⟨_,_,⟨⟩,_⟩ := accepts
    | _ => exact accepts
  | advanced current live inserted =>
    refine (Table.memInsert inserted).mpr (.inl (Table.memRetain.mpr ⟨mem,decide_eq_true ?_⟩))
    rintro rfl
    cases Table.eqOfKey live mem rfl

theorem liveKept (live : s.Live i handle binding) {op : WorkerOp}
    (other : op ≠ .call i (.consumeVerification handle)) : (s.after ids op).Live i handle binding := by
  cases op with
  | beginGeneration | setCurrentOperations | endGeneration => exact live
  | newStore generation capacity snapshots => cases snapshots <;> exact liveOpened live rfl
  | call j call =>
    obtain ⟨store,found,mem⟩ := live
    simp only [WorkerRuntime.after,WorkerRuntime.afterCall]
    split
    · exact ⟨store,found,mem⟩
    rename_i called at_
    by_cases same : j = i
    · subst same
      cases Option.some.inj (at_.symm.trans found)
      obtain ⟨inside,_⟩ := List.getElem?_eq_some_iff.mp found
      refine ⟨_,List.getElem?_set_self inside,liveRow mem ?_⟩
      rintro rfl
      exact other rfl
    · exact ⟨store,(List.getElem?_set_ne same).trans found,mem⟩

theorem verificationMinted
    (minted : s.answer ids i (.mintVerification binding) = some (.minted handle)) :
    (s.after ids (.call i (.mintVerification binding))).Live i handle binding ∧
      ∀ earlier, ¬s.Live i handle earlier := by
  obtain ⟨store,found,answered⟩ := Option.bind_eq_some_iff.mp minted
  have ends := @performEnds s.registry ids store s.drawn (.mintVerification binding)
  simp only [WorkerRuntime.after,WorkerRuntime.afterCall,found]
  generalize StoreCall.perform s.registry ids store s.drawn (.mintVerification binding) = result at ends answered
  cases ends with
  | failed => cases answered
  | minted mints unused space inserted =>
    cases mints
    cases answered
    obtain ⟨inside,_⟩ := List.getElem?_eq_some_iff.mp found
    refine ⟨⟨_,List.getElem?_set_self inside,(Table.memInsert inserted).mpr (.inr rfl)⟩,?_⟩
    rintro earlier ⟨other,found',mem⟩
    cases Option.some.inj (found'.symm.trans found)
    exact Table.insertAbsent inserted mem rfl
  | used presents => cases presents
  | read unused last => cases answered; cases last
  | snapshots unused last => cases answered; cases last

theorem verificationConsumed (consumed : s.answer ids i (.consumeVerification handle) = some (.verified binding)) :
    s.Live i handle binding := by
  obtain ⟨store,found,answered⟩ := Option.bind_eq_some_iff.mp consumed
  have ends := @performEnds s.registry ids store s.drawn (.consumeVerification handle)
  generalize StoreCall.perform s.registry ids store s.drawn (.consumeVerification handle) = result at ends answered
  cases ends with
  | failed => cases answered
  | minted mints => cases mints
  | used presents current live accepts =>
    cases presents
    cases answered
    obtain ⟨_,rfl,⟨⟩⟩ := accepts
    exact ⟨store,found,live⟩
  | read unused => cases unused
  | snapshots unused => cases unused

end Live
end Bamep
