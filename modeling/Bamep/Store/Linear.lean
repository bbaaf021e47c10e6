import Bamep.Store.JobOp

/-! The linear workflow. Whatever evidence arrives, and whichever Attempt it addresses, a JobStep's
state and failure reason are those its only Attempt stands for, and the JobSteps of a Job are
succeeded up to the current one and pending after it. The Job's own state plays no part here. -/
namespace Bamep
open Relational
open WorkflowRows (memSetStepState memSetStepOutcome memSetAttemptState memSetJobState)

def Shape (steps : Table JobStep.id) : Prop :=
  ∀ x ∈ steps, ∀ y ∈ steps, x.jobId = y.jobId → x.order < y.order →
    x.state = .succeeded ∨ y.state = .pending

structure Linear (w : WorkflowRows) : Prop where
  shape : Shape w.jobSteps
  agrees : ∀ a ∈ w.attempts, ∀ step ∈ w.jobSteps, step.id = a.jobStepId →
    step.state = a.state.stepState ∧ step.failureReason = a.state.failureReason
  single : ∀ a ∈ w.attempts, ∀ b ∈ w.attempts, a.jobStepId = b.jobStepId → a = b
  untouched : ∀ step ∈ w.jobSteps, (∀ a ∈ w.attempts, a.jobStepId ≠ step.id) →
    (step.state = .pending ∨ step.state = .preconditionsSatisfied) ∧ step.failureReason = none

theorem linearEmpty : Linear .empty :=
  ⟨fun _ mem => absurd mem (Table.notMemEmpty _),fun _ mem => absurd mem (Table.notMemEmpty _),
    fun _ mem => absurd mem (Table.notMemEmpty _),fun _ mem => absurd mem (Table.notMemEmpty _)⟩

section Shape
variable {steps : Table JobStep.id}

/- A JobStep that has not succeeded may change its state if it becomes pending or everything before
it has succeeded: what follows it is pending already. -/
theorem shapeUpdate {f} (keeps : ∀ row, (f row).id = row.id) {step}
    (shape : Shape steps) (mem : step ∈ steps)
    (framed : ∀ row, (f row).jobId = row.jobId ∧ (f row).order = row.order)
    (legal : (f step).state = step.state ∨ step.state ≠ .succeeded ∧ ((f step).state = .pending ∨
      ∀ s ∈ steps, s.jobId = step.jobId → s.order < step.order → s.state = .succeeded)) :
    Shape (steps.update step.id f keeps) := by
  intro x memX y memY same before
  rcases (Table.memUpdate keeps).mp memX with ⟨oldX,otherX⟩ | ⟨x,oldX,namedX,rfl⟩
  · rcases (Table.memUpdate keeps).mp memY with ⟨oldY,otherY⟩ | ⟨y,oldY,namedY,rfl⟩
    · exact shape x oldX y oldY same before
    · cases Table.eqOfKey oldY mem namedY
      rw [(framed step).1] at same
      rw [(framed step).2] at before
      rcases legal with kept | ⟨_,pending | current⟩
      · rw [kept]
        exact shape x oldX step mem same before
      · exact .inr pending
      · exact .inl (current x oldX same before)
  · cases Table.eqOfKey oldX mem namedX
    rw [(framed step).1] at same
    rw [(framed step).2] at before
    rcases (Table.memUpdate keeps).mp memY with ⟨oldY,otherY⟩ | ⟨y,oldY,namedY,rfl⟩
    · have old := shape step mem y oldY same before
      rcases legal with kept | ⟨unfinished,_⟩
      · rw [kept]
        exact old
      · exact .inr (old.resolve_left unfinished)
    · cases Table.eqOfKey oldY mem namedY
      rw [(framed step).2] at before
      exact absurd before (lt_irrefl _)

theorem shapeCurrent {step} (shape : Shape steps) (mem : step ∈ steps)
    (started : step.state ≠ .pending) :
    ∀ s ∈ steps, s.jobId = step.jobId → s.order < step.order → s.state = .succeeded :=
  fun s present same before => (shape s present step mem same before).resolve_right started

end Shape

section Steps
variable {w : WorkflowRows}

theorem linearRelabel {p g keeps}
    (linear : Linear w)
    (stands : ∀ a ∈ w.attempts, p a = true → (g a).jobStepId = a.jobStepId ∧
      (g a).state.stepState = a.state.stepState ∧ (g a).state.failureReason = a.state.failureReason) :
    Linear { w with attempts := w.attempts.updateWhere p g keeps } := by
  have back : ∀ a ∈ w.attempts.updateWhere p g keeps, ∃ old ∈ w.attempts, a.id = old.id ∧
      a.jobStepId = old.jobStepId ∧ a.state.stepState = old.state.stepState ∧
      a.state.failureReason = old.state.failureReason ∧ (a = if p old then g old else old) := by
    intro a mem
    obtain ⟨old,present,same⟩ := (Table.memUpdateWhere keeps).mp mem
    refine ⟨old,present,?_⟩
    by_cases chosen : p old = true
    · rw [if_pos chosen] at same ⊢
      subst same
      obtain ⟨owner,state,reason⟩ := stands old present chosen
      exact ⟨keeps old,owner,state,reason,rfl⟩
    · rw [if_neg chosen] at same ⊢
      subst same
      exact ⟨rfl,rfl,rfl,rfl,rfl⟩
  refine ⟨linear.shape,?_,?_,?_⟩
  · intro a mem step present named
    obtain ⟨old,oldMem,_,owner,state,reason,_⟩ := back a mem
    rw [state,reason]
    exact linear.agrees old oldMem step present (named.trans owner)
  · intro a memA b memB same
    obtain ⟨oldA,presentA,_,ownerA,_,_,eqA⟩ := back a memA
    obtain ⟨oldB,presentB,_,ownerB,_,_,eqB⟩ := back b memB
    have same' := linear.single oldA presentA oldB presentB (by rw [← ownerA,← ownerB,same])
    rw [eqA,eqB,same']
  · intro step present free
    apply linear.untouched step present
    intro a mem named
    have kept : (if p a then g a else a).jobStepId = a.jobStepId := by
      split
      · rename_i chosen
        exact (stands a mem chosen).1
      · rfl
    have still : (if p a then g a else a) ∈ w.attempts.updateWhere p g keeps :=
      (Table.memUpdateWhere keeps).mpr ⟨a,mem,rfl⟩
    exact free _ still (kept.trans named)

theorem linearReintent {p g keeps}
    (linear : Linear w) (framed : ∀ x, (g x).jobId = x.jobId ∧ (g x).order = x.order ∧
      (g x).state = x.state ∧ (g x).failureReason = x.failureReason) :
    Linear { w with jobSteps := w.jobSteps.updateWhere p g keeps } := by
  have back : ∀ x ∈ w.jobSteps.updateWhere p g keeps, ∃ old ∈ w.jobSteps, x.id = old.id ∧
      x.jobId = old.jobId ∧ x.order = old.order ∧ x.state = old.state ∧
      x.failureReason = old.failureReason := by
    intro x mem
    obtain ⟨old,present,same⟩ := (Table.memUpdateWhere keeps).mp mem
    refine ⟨old,present,?_⟩
    rw [same]
    split
    · exact ⟨keeps old,framed old⟩
    · exact ⟨rfl,rfl,rfl,rfl,rfl⟩
  refine ⟨?_,?_,linear.single,?_⟩
  · intro x memX y memY same before
    obtain ⟨oldX,presentX,_,jobX,orderX,stateX,_⟩ := back x memX
    obtain ⟨oldY,presentY,_,jobY,orderY,stateY,_⟩ := back y memY
    rw [stateX,stateY]
    exact linear.shape oldX presentX oldY presentY (by rw [← jobX,← jobY,same])
      (by rw [← orderX,← orderY]; exact before)
  · intro a present x mem named
    obtain ⟨old,oldMem,id,_,_,state,reason⟩ := back x mem
    rw [state,reason]
    exact linear.agrees a present old oldMem (id.symm.trans named)
  · intro x mem free
    obtain ⟨old,oldMem,id,_,_,state,reason⟩ := back x mem
    rw [state,reason]
    exact linear.untouched old oldMem (by rw [← id]; exact free)

theorem linearBeforeDispatch {step state} (linear : Linear w)
    (mem : step ∈ w.jobSteps) (free : ∀ a ∈ w.attempts, a.jobStepId ≠ step.id)
    (early : state = .pending ∨ state = .preconditionsSatisfied)
    (legal : state = .pending ∨
      ∀ s ∈ w.jobSteps, s.jobId = step.jobId → s.order < step.order → s.state = .succeeded) :
    Linear (w.setStepState step.id state) := by
  have open' : step.state ≠ .succeeded := by
    rcases (linear.untouched step mem free).1 with h | h <;> rw [h] <;> decide
  have shape : Shape (w.setStepState step.id state).jobSteps :=
    shapeUpdate (f := fun row => { row with state := state }) (fun _ => rfl) linear.shape mem
      (fun _ => ⟨rfl,rfl⟩) (.inr ⟨open',legal⟩)
  refine ⟨shape,?_,linear.single,?_⟩
  · intro a present row updated named
    rcases memSetStepState.mp updated with ⟨old,_⟩ | ⟨old,_,same,rfl⟩
    · exact linear.agrees a present row old named
    · exact absurd (named.symm.trans same) (free a present)
  · intro row updated unowned
    rcases memSetStepState.mp updated with ⟨old,_⟩ | ⟨old,oldMem,same,rfl⟩
    · exact linear.untouched row old unowned
    · cases Table.eqOfKey oldMem mem same
      exact ⟨early,(linear.untouched step mem free).2⟩

theorem freeBeforeDispatch {step} (linear : Linear w) (mem : step ∈ w.jobSteps)
    (early : step.state = .pending ∨ step.state = .preconditionsSatisfied) :
    ∀ a ∈ w.attempts, a.jobStepId ≠ step.id := by
  intro a present named
  have state := (linear.agrees a present step mem named.symm).1
  rw [state] at early
  revert early
  cases a.state <;> simp [AttemptState.stepState]

theorem linearDispatched {step attempt w'} (linear : Linear w)
    (mem : step ∈ w.jobSteps) (satisfied : step.state = .preconditionsSatisfied)
    (current : ∀ s ∈ w.jobSteps, s.jobId = step.jobId → s.order < step.order → s.state = .succeeded)
    (target : attempt.jobStepId = step.id) (fresh : attempt.state = .dispatched)
    (ok : (w.setStepState step.id .dispatching).insertAttempt? attempt = some w') : Linear w' := by
  obtain ⟨attempts,inserted,same⟩ := Option.map_eq_some_iff.mp ok
  subst same
  have free := freeBeforeDispatch linear mem (.inr satisfied)
  have shape : Shape (w.setStepState step.id .dispatching).jobSteps :=
    shapeUpdate (f := fun row => { row with state := .dispatching }) (fun _ => rfl) linear.shape mem
      (fun _ => ⟨rfl,rfl⟩) (.inr ⟨by rw [satisfied]; decide,.inr current⟩)
  refine ⟨shape,?_,?_,?_⟩
  · intro a present row updated named
    rcases (Table.memInsert inserted).mp present with was | rfl
    · rcases memSetStepState.mp updated with ⟨old,_⟩ | ⟨old,_,same,rfl⟩
      · exact linear.agrees a was row old named
      · exact absurd (named.symm.trans same) (free a was)
    · rcases memSetStepState.mp updated with ⟨_,other⟩ | ⟨old,oldMem,same,rfl⟩
      · exact absurd (named.trans target) other
      · cases Table.eqOfKey oldMem mem same
        rw [fresh]
        exact ⟨rfl,(linear.untouched step mem free).2⟩
  · intro a memA b memB owners
    rcases (Table.memInsert inserted).mp memA with wasA | rfl <;>
      rcases (Table.memInsert inserted).mp memB with wasB | rfl
    · exact linear.single a wasA b wasB owners
    · exact absurd (owners.trans target) (free a wasA)
    · exact absurd (owners.symm.trans target) (free b wasB)
    · rfl
  · intro row updated unowned
    rcases memSetStepState.mp updated with ⟨old,_⟩ | ⟨old,_,same,rfl⟩
    · exact linear.untouched row old fun a was => unowned a ((Table.memInsert inserted).mpr (.inl was))
    · exact absurd (target.trans same.symm) (unowned attempt ((Table.memInsert inserted).mpr (.inr rfl)))

theorem linearCreated {job w'} (valid : w.Valid) (linear : Linear w)
    (pending : ∀ step ∈ job.steps, step.jobId = job.id ∧ step.state = .pending ∧ step.failureReason = none)
    (ok : w.insertWorkflow? job = some w') : Linear w' := by
  obtain ⟨jobs,jobInserted,ok⟩ := Option.bind_eq_some_iff.mp ok
  obtain ⟨steps,inserted,ok⟩ := Option.bind_eq_some_iff.mp ok
  cases Option.some.inj ok
  -- a new JobStep belongs to a Job id that no stored JobStep names
  have apart : ∀ x ∈ w.jobSteps, ∀ y ∈ job.steps, x.jobId ≠ y.jobId := by
    intro x old y new same
    obtain ⟨row,mem,owner⟩ := valid.stepJob x old
    exact Table.insertAbsent jobInserted mem (owner.trans (same.trans (pending y new).1))
  refine ⟨?_,?_,linear.single,?_⟩
  · intro x memX y memY same before
    rcases (Table.memInsertAll inserted).mp memX with oldX | newX <;>
      rcases (Table.memInsertAll inserted).mp memY with oldY | newY
    · exact linear.shape x oldX y oldY same before
    · exact .inr (pending y newY).2.1
    · exact absurd same.symm (apart y oldY x newX)
    · exact .inr (pending y newY).2.1
  · intro a present row mem named
    rcases (Table.memInsertAll inserted).mp mem with old | new
    · exact linear.agrees a present row old named
    · obtain ⟨owner,ownerMem,ownerNamed⟩ := valid.attemptStep a present
      exact absurd (ownerNamed.trans named.symm) (Table.insertAllAbsent inserted ownerMem new)
  · intro row mem unowned
    rcases (Table.memInsertAll inserted).mp mem with old | new
    · exact linear.untouched row old unowned
    · exact ⟨.inl (pending row new).2.1,(pending row new).2.2⟩

theorem persistAppliedSome {applied w'}
    (ok : w.persistApplied? applied = some w') :
    w'.jobs = (w.setJobState applied.job.id applied.job.state).jobs ∧
      w'.jobSteps = (w.setStepOutcome applied.jobStep.id applied.jobStep.state
        applied.jobStep.failureReason).jobSteps ∧
      w'.attempts = (w.setAttemptState applied.attempt.id applied.attempt.state).attempts ∧
      w.events.insertAll? applied.events = some w'.events := by
  obtain ⟨events,inserted,same⟩ := Option.map_eq_some_iff.mp ok
  subst same
  exact ⟨rfl,rfl,rfl,inserted⟩

theorem movesDispatching {before after : AttemptState} (moves : before.moves after = true) :
    before.stepState = .dispatching := by
  revert moves
  cases before <;> cases after <;>
    simp [AttemptState.moves,AttemptState.progresses,AttemptState.fails,AttemptState.isActive,
      AttemptState.stepState]

theorem evidenceLegal {facts applied} (linear : Linear w)
    (locked : Locked w facts) (step : EvidenceStep facts.job facts.jobStep facts.attempt applied) :
    applied.jobStep.state = facts.jobStep.state ∨ facts.jobStep.state ≠ .succeeded ∧
      (applied.jobStep.state = .pending ∨ ∀ s ∈ w.jobSteps, s.jobId = facts.jobStep.jobId →
        s.order < facts.jobStep.order → s.state = .succeeded) := by
  obtain ⟨state,reason⟩ := linear.agrees _ locked.attempt _ locked.step locked.owner
  rcases step.moves with kept | moved
  · exact .inl (by rw [(step.agrees state reason).1,state,kept])
  · have dispatching : facts.jobStep.state = .dispatching := state.trans (movesDispatching moved)
    refine .inr ⟨by rw [dispatching]; decide,.inr ?_⟩
    exact shapeCurrent linear.shape locked.step (by rw [dispatching]; decide)

theorem linearEvidence {facts applied w'}
    (linear : Linear w) (locked : Locked w facts)
    (step : EvidenceStep facts.job facts.jobStep facts.attempt applied)
    (ok : w.persistApplied? applied = some w') : Linear w' := by
  obtain ⟨_,steps,attempts,_⟩ := persistAppliedSome ok
  obtain ⟨attemptKept,stepId,_,_⟩ := step.identity
  have attemptId : applied.attempt.id = facts.attempt.id := by rw [attemptKept]
  obtain ⟨state,reason⟩ := linear.agrees _ locked.attempt _ locked.step locked.owner
  obtain ⟨state',reason'⟩ := step.agrees state reason
  rw [stepId] at steps
  rw [attemptId] at attempts
  have shape : Shape w'.jobSteps := by
    rw [steps]
    exact shapeUpdate (f := fun row =>
      { row with state := applied.jobStep.state, failureReason := applied.jobStep.failureReason })
      (fun _ => rfl) linear.shape locked.step (fun _ => ⟨rfl,rfl⟩) (evidenceLegal linear locked step)
  -- every Attempt stands where one with its owner stood, and only the addressed one has changed
  have origin : ∀ a ∈ w'.attempts, (a ∈ w.attempts ∧ a.id ≠ facts.attempt.id) ∨
      a = { facts.attempt with state := applied.attempt.state } := by
    intro a mem
    rw [attempts] at mem
    rcases memSetAttemptState.mp mem with old | ⟨old,present,same,rfl⟩
    · exact .inl old
    · exact .inr (by rw [Table.eqOfKey present locked.attempt same])
  refine ⟨shape,?_,?_,?_⟩
  · intro a present row updated named
    rw [steps] at updated
    rcases memSetStepOutcome.mp updated with ⟨oldRow,otherRow⟩ | ⟨oldRow,memRow,sameRow,rfl⟩
    · rcases origin a present with ⟨old,_⟩ | rfl
      · exact linear.agrees a old row oldRow named
      · exact absurd (named.trans locked.owner.symm) otherRow
    · rcases origin a present with ⟨old,other⟩ | rfl
      · have owners : a.jobStepId = facts.attempt.jobStepId :=
          named.symm.trans (sameRow.trans locked.owner)
        exact absurd (by rw [linear.single a old _ locked.attempt owners]) other
      · exact ⟨state',reason'⟩
  · intro a memA b memB owners
    rcases origin a memA with ⟨oldA,otherA⟩ | rfl <;> rcases origin b memB with ⟨oldB,otherB⟩ | rfl
    · exact linear.single a oldA b oldB owners
    · exact absurd (by rw [linear.single a oldA _ locked.attempt owners]) otherA
    · exact absurd (by rw [linear.single b oldB _ locked.attempt owners.symm]) otherB
    · rfl
  · intro row updated unowned
    rw [attempts] at unowned
    rw [steps] at updated
    rcases memSetStepOutcome.mp updated with ⟨oldRow,_⟩ | ⟨oldRow,_,sameRow,rfl⟩
    · refine linear.untouched row oldRow fun a present named => ?_
      by_cases chosen : a.id = facts.attempt.id
      · exact unowned _ (memSetAttemptState.mpr (.inr ⟨a,present,chosen,rfl⟩)) named
      · exact unowned a (memSetAttemptState.mpr (.inl ⟨present,chosen⟩)) named
    · have moved : { facts.attempt with state := applied.attempt.state } ∈
          (w.setAttemptState facts.attempt.id applied.attempt.state).attempts :=
        memSetAttemptState.mpr (.inr ⟨_,locked.attempt,rfl,rfl⟩)
      exact (unowned _ moved (locked.owner.symm.trans sameRow.symm)).elim

theorem insertEventsSome {events w'}
    (ok : w.insertEvents? events = some w') :
    w'.jobs = w.jobs ∧ w'.jobSteps = w.jobSteps ∧ w'.attempts = w.attempts ∧
      w.events.insertAll? events = some w'.events := by
  obtain ⟨table,inserted,same⟩ := Option.map_eq_some_iff.mp ok
  subst same
  exact ⟨rfl,rfl,rfl,inserted⟩

theorem linearFrame {w'} (linear : Linear w) (steps : w'.jobSteps = w.jobSteps)
    (attempts : w'.attempts = w.attempts) : Linear w' := by
  refine ⟨?_,?_,?_,?_⟩
  · rw [steps]; exact linear.shape
  · rw [steps,attempts]; exact linear.agrees
  · rw [attempts]; exact linear.single
  · rw [steps,attempts]; exact linear.untouched

theorem workflowStepsPending {jobId stepId endpointId stepCount job}
    (built : Bamep.createWorkflow jobId stepId endpointId stepCount = some job) :
    ∀ step ∈ job.steps, step.jobId = job.id ∧ step.state = .pending ∧ step.failureReason = none := by
  obtain ⟨_,same⟩ := createWorkflowSome built
  subst same
  intro step mem
  obtain ⟨order,_,same⟩ := List.mem_map.mp mem
  subst same
  exact ⟨rfl,rfl,rfl⟩

theorem linearEffect {op w'} (valid : w.Valid) (linear : Linear w)
    (effect : Effect w op w') : Linear w' := by
  cases effect with
  | unchanged => exact linear
  | created built ok => exact linearCreated valid linear (workflowStepsPending built) ok
  | authorized => exact linearReintent linear fun _ => ⟨rfl,rfl,rfl,rfl⟩
  | admitted mem pending owned started ok =>
    obtain ⟨_,steps,attempts,_⟩ := insertEventsSome ok
    exact linearFrame linear steps attempts
  | satisfied mem pending current =>
    exact linearBeforeDispatch linear mem (freeBeforeDispatch linear mem (.inl pending)) (.inr rfl)
      (.inr current)
  | reverted mem satisfied =>
    exact linearBeforeDispatch linear mem (freeBeforeDispatch linear mem (.inr satisfied)) (.inl rfl)
      (.inl rfl)
  | dispatched job running mem owner satisfied current target fresh ok =>
    exact linearDispatched linear mem satisfied current target fresh ok
  | cancelling => exact linearFrame linear rfl rfl
  | cancelledNow mem running idle owned closing ok =>
    obtain ⟨_,steps,attempts,_⟩ := insertEventsSome ok
    exact linearFrame linear steps attempts
  | @marked _ attempt mem certain =>
    refine linearRelabel linear fun a present chosen => ?_
    cases Table.eqOfKey present mem (of_decide_eq_true chosen)
    rcases certain with h | h <;> rw [h] <;> exact ⟨rfl,rfl,rfl⟩
  | markedAll =>
    refine linearRelabel linear fun a present _ => ?_
    unfold markAwaitingReconciliation
    split
    · rename_i h; rw [h]; exact ⟨rfl,rfl,rfl⟩
    · rename_i h; rw [h]; exact ⟨rfl,rfl,rfl⟩
    · exact ⟨rfl,rfl,rfl⟩
  | evidence locked decides ok => exact linearEvidence linear locked (decidesStep decides) ok

end Steps

section Dispatching
variable {w : WorkflowRows}

theorem oneDispatching (valid : w.Valid) (linear : Linear w) {x y} (memX : x ∈ w.jobSteps)
    (memY : y ∈ w.jobSteps) (same : x.jobId = y.jobId) (stateX : x.state = .dispatching)
    (stateY : y.state = .dispatching) : x = y := by
  rcases lt_trichotomy x.order y.order with before | equal | after
  · rcases linear.shape x memX y memY same before with h | h
    · rw [stateX] at h; contradiction
    · rw [stateY] at h; contradiction
  · exact valid.orderUnique x memX y memY same equal
  · rcases linear.shape y memY x memX same.symm after with h | h
    · rw [stateY] at h; contradiction
    · rw [stateX] at h; contradiction

theorem dispatchingOwned (linear : Linear w) {step} (mem : step ∈ w.jobSteps)
    (dispatching : step.state = .dispatching) :
    ∃ a ∈ w.attempts, a.jobStepId = step.id ∧ a.state.isActive = true := by
  by_contra none
  have free : ∀ a ∈ w.attempts, a.jobStepId ≠ step.id := by
    intro a present named
    have state := (linear.agrees a present step mem named.symm).1
    refine none ⟨a,present,named,?_⟩
    rw [dispatching] at state
    revert state
    cases a.state <;> simp [AttemptState.stepState,AttemptState.isActive]
  rcases (linear.untouched step mem free).1 with h | h <;> rw [dispatching] at h <;> contradiction

end Dispatching

theorem linearAfter (s : Store) (op : JobOp) (linear : Linear s.workflow) :
    Linear (s.after op).workflow :=
  linearEffect s.workflowValid linear (afterEffect s op)

theorem linearRun {s} (linear : Linear s.workflow) (ops : List JobOp) :
    Linear (Transition.run Store.after s ops).workflow :=
  Transition.runAlways (fun s op => linearAfter s op) linear ops

end Bamep
