import Bamep.Library.Evolution
import Bamep.Store.Linear

/-! What every operation keeps of the rows it finds: Jobs keep their Endpoint, JobSteps their Job and
place, Attempts their JobStep and action, and an Attempt moves only along `AttemptState.moves`. -/
namespace Bamep
open Relational

def JobOp.closesIndeterminate : JobOp → Bool
  | .closeIndeterminate _ _ => true
  | _ => false

structure AttemptMove (op : JobOp) (before after : Attempt) : Prop where
  kept : after = { before with state := after.state }
  moves : after.state = before.state ∨ before.state.moves after.state = true
  closing : after.state = .indeterminate →
    before.state = .indeterminate ∨ op.closesIndeterminate = true

def SamePlace (before after : JobStep) : Prop :=
  after.jobId = before.jobId ∧ after.order = before.order

def SameIntent (before after : JobStep) : Prop :=
  ∀ intent, before.destructiveIntent = some intent → after.destructiveIntent = some intent

theorem AttemptMove.still (op : JobOp) (attempt : Attempt) : AttemptMove op attempt attempt :=
  ⟨rfl,.inl rfl,fun h => .inl h⟩

theorem samePlaceRefl (step : JobStep) : SamePlace step step := ⟨rfl,rfl⟩

theorem markMove {op attempt}
    (certain : attempt.state = .dispatched ∨ attempt.state = .inProgress) :
    AttemptMove op attempt { attempt with state := .awaitingReconciliation } :=
  ⟨rfl,.inr (by rcases certain with h | h <;> rw [h] <;> rfl),nofun⟩

section Effects
variable {w w' : WorkflowRows} {op : JobOp}

theorem decidesMove {facts applied} (decides : op.Decides facts applied) :
    AttemptMove op facts.attempt applied.attempt := by
  have step := decidesStep decides
  refine ⟨step.identity.1,step.moves,fun closed => ?_⟩
  cases op <;> try exact decides.elim
  case closeIndeterminate => exact .inr rfl
  case applyActionEvidence => exact absurd closed (actionEvidenceStep decides.2.2).2.2
  case applyCancelAck => exact .inl ((cancelAckStep decides.2.2).2.2.2 closed)
  case applyStatusReport => exact absurd closed (statusReportStep decides.2.2).2.2

theorem attemptsEvolve (effect : Effect w op w') :
    Evolves (AttemptMove op) (fun a => a.state = .dispatched ∧ op.dispatches = true) w.attempts w'.attempts := by
  have still : ∀ a ∈ w.attempts, AttemptMove op a a := fun a _ => .still op a
  cases effect with
  | unchanged | authorized | satisfied | reverted | cancelling => exact .refl still
  | created built ok =>
    obtain ⟨_,_,ok⟩ := Option.bind_eq_some_iff.mp ok
    obtain ⟨_,_,ok⟩ := Option.bind_eq_some_iff.mp ok
    cases Option.some.inj ok
    exact .refl still
  | admitted mem pending owned started ok =>
    rw [(insertEventsSome ok).2.2.1]
    exact .refl still
  | cancelledNow mem running idle owned closing ok =>
    rw [(insertEventsSome ok).2.2.1]
    exact .refl still
  | dispatched job running mem owner satisfied current target fresh ok dispatches =>
    obtain ⟨attempts,inserted,same⟩ := Option.map_eq_some_iff.mp ok
    subst same
    exact .insert inserted still ⟨fresh,dispatches⟩
  | @marked _ attempt mem certain =>
    refine .update (by exact fun _ => rfl) still fun a present named => ?_
    cases Table.eqOfKey present mem named
    exact markMove certain
  | markedAll =>
    refine .updateWhere markKeepsId still fun a present chosen => ?_
    unfold markAwaitingReconciliation
    split
    · rename_i h; exact markMove (.inl h)
    · rename_i h; exact markMove (.inr h)
    · exact .still op a
  | @evidence _ facts applied _ locked decides ok =>
    obtain ⟨_,_,attempts,_⟩ := persistAppliedSome ok
    have move := decidesMove decides
    rw [attempts]
    refine .update (by exact fun _ => rfl) still fun a present named => ?_
    have sameId : applied.attempt.id = facts.attempt.id := by rw [move.kept]
    cases Table.eqOfKey present locked.attempt (named.trans sameId)
    rw [← move.kept]
    exact move

theorem persistedAttempt {facts applied} (locked : Locked w facts)
    (decides : op.Decides facts applied) (ok : w.persistApplied? applied = some w') {a b}
    (old : a ∈ w.attempts) (mem : b ∈ w'.attempts) (same : b.id = a.id) :
    b = a ∨ facts.attempt = a ∧ applied.attempt = b := by
  have move := decidesMove decides
  rw [(persistAppliedSome ok).2.2.1] at mem
  rcases WorkflowRows.memSetAttemptState.mp mem with ⟨present,_⟩ | ⟨c,present,named,eq⟩
  · exact .inl (Table.eqOfKey present old same)
  · have sameId : applied.attempt.id = facts.attempt.id := by rw [move.kept]
    cases Table.eqOfKey present locked.attempt (named.trans sameId)
    rw [← move.kept] at eq
    subst eq
    exact .inr ⟨Table.eqOfKey present old (sameId.symm.trans same),rfl⟩

theorem persistedMem {facts applied} (locked : Locked w facts)
    (decides : op.Decides facts applied) (ok : w.persistApplied? applied = some w') :
    applied.attempt ∈ w'.attempts := by
  have move := decidesMove decides
  rw [(persistAppliedSome ok).2.2.1]
  have named : facts.attempt.id = applied.attempt.id := by rw [move.kept]
  exact WorkflowRows.memSetAttemptState.mpr (.inr ⟨facts.attempt,locked.attempt,named,move.kept⟩)

theorem attemptCause (effect : Effect w op w') {a b} (old : a ∈ w.attempts)
    (mem : b ∈ w'.attempts) (same : b.id = a.id) :
    b = a ∨ b.state = .awaitingReconciliation ∨ ∃ facts applied, Locked w facts ∧
      op.Decides facts applied ∧ facts.attempt = a ∧ applied.attempt = b := by
  have still : b ∈ w.attempts → b = a := fun present => Table.eqOfKey present old same
  cases effect with
  | unchanged | authorized | satisfied | reverted | cancelling => exact .inl (still mem)
  | created built ok =>
    obtain ⟨_,_,ok⟩ := Option.bind_eq_some_iff.mp ok
    obtain ⟨_,_,ok⟩ := Option.bind_eq_some_iff.mp ok
    cases Option.some.inj ok
    exact .inl (still mem)
  | admitted _ _ _ _ ok => exact .inl (still (by rw [(insertEventsSome ok).2.2.1] at mem; exact mem))
  | cancelledNow _ _ _ _ _ ok => exact .inl (still (by rw [(insertEventsSome ok).2.2.1] at mem; exact mem))
  | dispatched job running step owner satisfied current target fresh ok =>
    obtain ⟨attempts,inserted,eq⟩ := Option.map_eq_some_iff.mp ok
    subst eq
    rcases (Table.memInsert inserted).mp mem with present | new
    · exact .inl (still present)
    · exact absurd (by rw [← same,new]) (Table.insertAbsent inserted old)
  | marked =>
    rcases WorkflowRows.memSetAttemptState.mp mem with ⟨present,_⟩ | ⟨_,_,_,rfl⟩
    · exact .inl (still present)
    · exact .inr (.inl rfl)
  | markedAll =>
    obtain ⟨c,present,eq⟩ := (Table.memUpdateWhere markKeepsId).mp mem
    split at eq
    · rename_i chosen
      refine .inr (.inl ?_)
      rw [eq]
      simp only [Bool.or_eq_true,decide_eq_true_eq] at chosen
      rcases chosen with h | h <;> simp [markAwaitingReconciliation,h]
    · exact .inl (still (by rw [eq]; exact present))
  | @evidence _ facts applied _ locked decides ok =>
    rcases persistedAttempt locked decides ok old mem same with kept | moved
    · exact .inl kept
    · exact .inr (.inr ⟨facts,applied,locked,decides,moved⟩)

theorem stepsKept (effect : Effect w op w') :
    Evolves (fun before after => SamePlace before after ∧ SameIntent before after)
      (fun step => ∀ row ∈ w.jobs, step.jobId ≠ row.id) w.jobSteps w'.jobSteps := by
  have still : ∀ step ∈ w.jobSteps, SamePlace step step ∧ SameIntent step step :=
    fun step _ => ⟨samePlaceRefl step,fun _ => id⟩
  cases effect with
  | unchanged | cancelling | marked | markedAll => exact .refl still
  | satisfied | reverted =>
    exact .update (by exact fun _ => rfl) still fun _ _ _ => ⟨⟨rfl,rfl⟩,fun _ => id⟩
  | authorized absent =>
    refine .update (by exact fun _ => rfl) still fun step mem named => ⟨⟨rfl,rfl⟩,fun intent present => ?_⟩
    rw [absent step mem named] at present
    cases present
  | created built ok =>
    have owned := workflowStepsPending built
    obtain ⟨jobs,jobInserted,ok⟩ := Option.bind_eq_some_iff.mp ok
    obtain ⟨steps,inserted,ok⟩ := Option.bind_eq_some_iff.mp ok
    cases Option.some.inj ok
    refine .insertAll inserted still fun step new row mem same => ?_
    exact Table.insertAbsent jobInserted mem (same.symm.trans (owned step new).1)
  | admitted mem pending owned started ok =>
    rw [(insertEventsSome ok).2.1]
    exact .refl still
  | cancelledNow mem running idle owned closing ok =>
    rw [(insertEventsSome ok).2.1]
    exact .refl still
  | dispatched job running mem owner satisfied current target fresh ok =>
    obtain ⟨attempts,inserted,same⟩ := Option.map_eq_some_iff.mp ok
    subst same
    exact .update (by exact fun _ => rfl) still fun _ _ _ => ⟨⟨rfl,rfl⟩,fun _ => id⟩
  | evidence locked decides ok =>
    rw [(persistAppliedSome ok).2.1]
    exact .update (by exact fun _ => rfl) still fun _ _ _ => ⟨⟨rfl,rfl⟩,fun _ => id⟩

theorem stepsEvolve (effect : Effect w op w') :
    Evolves SamePlace (fun step => ∀ row ∈ w.jobs, step.jobId ≠ row.id) w.jobSteps w'.jobSteps :=
  (stepsKept effect).mono (fun _ _ kept => kept.1) fun _ => id

theorem jobsEvolve (effect : Effect w op w') :
    Evolves (fun before after => after.endpointId = before.endpointId) (fun row => row.state = .pending)
      w.jobs w'.jobs := by
  have still : ∀ row ∈ w.jobs, row.endpointId = row.endpointId := fun _ _ => rfl
  cases effect with
  | unchanged | authorized | satisfied | reverted | marked | markedAll => exact .refl still
  | created built ok =>
    obtain ⟨_,same⟩ := createWorkflowSome built
    obtain ⟨jobs,inserted,ok⟩ := Option.bind_eq_some_iff.mp ok
    obtain ⟨_,_,ok⟩ := Option.bind_eq_some_iff.mp ok
    cases Option.some.inj ok
    exact .insert inserted still (by rw [same])
  | admitted mem pending owned started ok =>
    rw [(insertEventsSome ok).1]
    exact .update (by exact fun _ => rfl) still fun _ _ _ => rfl
  | cancelling => exact .update (by exact fun _ => rfl) still fun _ _ _ => rfl
  | cancelledNow mem running idle owned closing ok =>
    rw [(insertEventsSome ok).1]
    exact .update (by exact fun _ => rfl) still fun _ _ _ => rfl
  | dispatched job running mem owner satisfied current target fresh ok =>
    obtain ⟨attempts,inserted,same⟩ := Option.map_eq_some_iff.mp ok
    subst same
    exact .refl still
  | evidence locked decides ok =>
    rw [(persistAppliedSome ok).1]
    exact .update (by exact fun _ => rfl) still fun _ _ _ => rfl

end Effects
end Bamep
