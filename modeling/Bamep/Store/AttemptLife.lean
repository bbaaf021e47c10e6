import Bamep.Store.Evolution

/-! The life of an Attempt under every operation, and the absence of cancellation in a Job for which
nobody requested it. -/
namespace Bamep
open Relational
open WorkflowRows (memSetJobState memSetStepState memSetStepOutcome memSetStepIntent)

def JobOp.requestsCancellation (jobId : JobId) : JobOp → Bool
  | .requestCancellation id _ => id = jobId
  | _ => false

def JobState.cancels : JobState → Bool
  | .cancelling | .cancelled => true
  | .pending | .running | .succeeded | .failed => false

structure Uncancelled (jobId : JobId) (w : WorkflowRows) : Prop where
  job : ∀ row ∈ w.jobs, row.id = jobId → row.state.cancels = false
  steps : ∀ step ∈ w.jobSteps, step.jobId = jobId → step.state ≠ .cancelled

theorem movesOut {before after : AttemptState} (moves : before.moves after = true) :
    before.isActive = true ∧ (after = .rejected → before = .dispatched) ∧
      (after = .indeterminate → before = .awaitingReconciliation) := by
  revert moves
  cases before <;> cases after <;>
    simp [AttemptState.moves,AttemptState.progresses,AttemptState.fails,AttemptState.isActive]

theorem AttemptMove.settled {op a b} (move : AttemptMove op a b)
    (settled : a.state.isActive = false) : b = a := by
  rcases move.moves with same | moves
  · rw [move.kept,same]
  · rw [(movesOut moves).1] at settled
    contradiction

theorem AttemptMove.wasActive {op a b} (move : AttemptMove op a b)
    (active : b.state.isActive = true) : a.state.isActive = true := by
  rcases move.moves with same | moves
  · rw [← same]
    exact active
  · exact (movesOut moves).1

section Effects
variable {w w' : WorkflowRows} {op : JobOp} {jobId : JobId}

theorem jobKeepsUncancelled {id state}
    (free : ∀ row ∈ w.jobs, row.id = jobId → row.state.cancels = false)
    (safe : id = jobId → state.cancels = false) :
    ∀ row ∈ (w.setJobState id state).jobs, row.id = jobId → row.state.cancels = false := by
  intro row mem named
  rcases memSetJobState.mp mem with ⟨old,_⟩ | ⟨old,_,chosen,rfl⟩
  · exact free row old named
  · exact safe (chosen.symm.trans named)

theorem stepKeepsUncancelled {id f} (keeps : ∀ x, (f x).id = x.id)
    (free : ∀ step ∈ w.jobSteps, step.jobId = jobId → step.state ≠ .cancelled)
    (owner : ∀ x, (f x).jobId = x.jobId)
    (safe : ∀ step ∈ w.jobSteps, step.id = id → step.jobId = jobId → (f step).state ≠ .cancelled) :
    ∀ step ∈ w.jobSteps.update id f keeps, step.jobId = jobId → step.state ≠ .cancelled := by
  intro step mem named
  rcases (Table.memUpdate keeps).mp mem with ⟨old,_⟩ | ⟨old,oldMem,chosen,rfl⟩
  · exact free step old named
  · exact safe old oldMem chosen ((owner old).symm.trans named)

theorem evidenceUncancelled {facts applied} (free : Uncancelled jobId w)
    (locked : Locked w facts) (step : EvidenceStep facts.job facts.jobStep facts.attempt applied)
    (ok : w.persistApplied? applied = some w') : Uncancelled jobId w' := by
  obtain ⟨jobs,steps,_,_⟩ := persistAppliedSome ok
  obtain ⟨_,stepId,appliedId,_⟩ := step.identity
  obtain ⟨row,mem,named,factsNamed,_,state,_⟩ := lockedJob locked
  -- nothing of the decision matters unless the addressed Job is the one in question
  have mine : row.id = jobId → applied.job.state.cancels = false ∧ applied.jobStep.state ≠ .cancelled := by
    intro same
    have open' := free.job row mem same
    rw [← state] at open'
    have uncancelling : facts.job.state ≠ .cancelling := by intro h; rw [h] at open'; contradiction
    obtain ⟨job,_,jobStep⟩ := step.uncancelled uncancelling
    constructor
    · by_contra cancels
      have moved : applied.job.state = .cancelling ∨ applied.job.state = .cancelled := by
        revert cancels
        cases applied.job.state <;> simp [JobState.cancels]
      rw [job moved] at cancels
      exact cancels open'
    · intro cancelled
      exact free.steps facts.jobStep locked.step (named.symm.trans same) (jobStep cancelled)
  constructor
  · rw [jobs,appliedId,factsNamed]
    exact jobKeepsUncancelled free.job fun same => (mine same).1
  · rw [steps,stepId]
    refine stepKeepsUncancelled (by exact fun _ => rfl) free.steps (fun _ => rfl) fun x present same owner => ?_
    cases Table.eqOfKey present locked.step same
    exact (mine (named.trans owner)).2

theorem uncancelledEffect (free : Uncancelled jobId w) (quiet : op.requestsCancellation jobId = false)
    (effect : Effect w op w') : Uncancelled jobId w' := by
  have others : ∀ {id : JobId} {stamp : Stamp},
      (JobOp.requestCancellation id stamp).requestsCancellation jobId = false → id ≠ jobId := by
    intro id stamp quiet same
    simp [JobOp.requestsCancellation,same] at quiet
  cases effect with
  | unchanged | marked | markedAll => exact ⟨free.job,free.steps⟩
  | created built ok =>
    have pending := workflowStepsPending built
    obtain ⟨_,same⟩ := createWorkflowSome built
    obtain ⟨jobs,jobInserted,ok⟩ := Option.bind_eq_some_iff.mp ok
    obtain ⟨steps,inserted,ok⟩ := Option.bind_eq_some_iff.mp ok
    cases Option.some.inj ok
    constructor
    · intro row mem named
      rcases (Table.memInsert jobInserted).mp mem with old | new
      · exact free.job row old named
      · rw [new,same]; rfl
    · intro step mem named
      rcases (Table.memInsertAll inserted).mp mem with old | new
      · exact free.steps step old named
      · rw [(pending step new).2.1]; nofun
  | authorized =>
    exact ⟨free.job,stepKeepsUncancelled (by exact fun _ => rfl) free.steps (fun _ => rfl)
      fun step mem _ named => free.steps step mem named⟩
  | admitted mem pending owned started ok =>
    obtain ⟨jobs,steps,_,_⟩ := insertEventsSome ok
    exact ⟨by rw [jobs]; exact jobKeepsUncancelled free.job fun _ => rfl,by rw [steps]; exact free.steps⟩
  | satisfied | reverted =>
    exact ⟨free.job,stepKeepsUncancelled (by exact fun _ => rfl) free.steps (fun _ => rfl)
      fun _ _ _ _ => nofun⟩
  | dispatched job running mem owner satisfied current target fresh ok =>
    obtain ⟨attempts,inserted,same⟩ := Option.map_eq_some_iff.mp ok
    subst same
    exact ⟨free.job,stepKeepsUncancelled (by exact fun _ => rfl) free.steps (fun _ => rfl)
      fun _ _ _ _ => nofun⟩
  | cancelling =>
    exact ⟨jobKeepsUncancelled free.job fun same => absurd same (others quiet),free.steps⟩
  | cancelledNow mem running idle owned closing ok =>
    obtain ⟨jobs,steps,_,_⟩ := insertEventsSome ok
    exact ⟨by rw [jobs]; exact jobKeepsUncancelled free.job fun same => absurd same (others quiet),
      by rw [steps]; exact free.steps⟩
  | evidence locked decides ok => exact evidenceUncancelled free locked (decidesStep decides) ok

end Effects
structure Undisturbed (jobId : JobId) (s : Store) : Prop where
  linear : Linear s.workflow
  free : Uncancelled jobId s.workflow

theorem undisturbedAfter (jobId : JobId) (s : Store) (op : JobOp) (h : Undisturbed jobId s)
    (quiet : op.requestsCancellation jobId = false) : Undisturbed jobId (s.after op) :=
  ⟨linearAfter s op h.linear,uncancelledEffect h.free quiet (afterEffect s op)⟩

theorem undisturbedRun {jobId ops}
    (quiet : ∀ op ∈ ops, op.requestsCancellation jobId = false) :
    Undisturbed jobId (Transition.run Store.after .empty ops) := by
  have start : Undisturbed jobId .empty :=
    ⟨linearEmpty,fun _ mem => absurd mem (Table.notMemEmpty _),fun _ mem => absurd mem (Table.notMemEmpty _)⟩
  exact Transition.runInvariant (undisturbedAfter jobId) start
    (Transition.meetsOf (fun op mem _ => quiet op mem) _)

theorem attemptUncancelled {w jobId} (linear : Linear w)
    (free : Uncancelled jobId w) {step} (mem : step ∈ w.jobSteps) (owner : step.jobId = jobId)
    {a} (present : a ∈ w.attempts) (named : a.jobStepId = step.id) : a.state ≠ .cancelled := by
  intro cancelled
  have stands := (linear.agrees a present step mem named.symm).1
  rw [cancelled] at stands
  exact free.steps step mem owner stands

def Settles (s s' : Store) : Prop :=
  ∀ a ∈ s.workflow.attempts, a.state.isActive = false → a ∈ s'.workflow.attempts

theorem settlesAfter (s : Store) (op : JobOp) : Settles s (s.after op) := by
  intro a mem settled
  obtain ⟨b,present,_,move⟩ := (attemptsEvolve (afterEffect s op)).forward mem
  rw [move.settled settled] at present
  exact present

theorem settlesRun (s : Store) (ops : List JobOp) : Settles s (Transition.run Store.after s ops) :=
  Transition.runRelatesAlways (fun _ _ mem _ => mem)
    (fun _ _ _ first second a mem settled => second a (first a mem settled) settled) settlesAfter s ops

theorem attemptLifecycle (ops later : List JobOp) (op : JobOp) (jobId : JobId) :
    let s := Transition.run Store.after .empty ops
    let w := s.workflow
    let w' := (s.after op).workflow
    (∀ a ∈ w.attempts, ∃ b ∈ w'.attempts, b = { a with state := b.state } ∧
      (b.state = a.state ∨ a.state.moves b.state = true) ∧
      (b.state = .rejected → a.state = .rejected ∨ a.state = .dispatched) ∧
      (b.state = .indeterminate → a.state = .indeterminate ∨
        a.state = .awaitingReconciliation ∧ op.closesIndeterminate = true)) ∧
    (∀ b ∈ w'.attempts, (∃ a ∈ w.attempts, b.id = a.id) ∨ b.state = .dispatched) ∧
    (∀ a ∈ w.attempts, a.state.isActive = false →
      a ∈ (Transition.run Store.after s later).workflow.attempts) ∧
    ((∀ op ∈ ops, op.requestsCancellation jobId = false) →
      (∀ row ∈ w.jobs, row.id = jobId → row.state ≠ .cancelling ∧ row.state ≠ .cancelled) ∧
      ∀ step ∈ w.jobSteps, step.jobId = jobId → step.state ≠ .cancelled ∧
        ∀ a ∈ w.attempts, a.jobStepId = step.id → a.state ≠ .cancelled) := by
  intro s w w'
  have evolves := attemptsEvolve (afterEffect s op)
  refine ⟨fun a mem => ?_,fun b mem => ?_,settlesRun s later,fun quiet => ?_⟩
  · obtain ⟨b,present,_,move⟩ := evolves.forward mem
    refine ⟨b,present,move.kept,move.moves,fun rejected => ?_,fun closed => ?_⟩
    · rcases move.moves with same | moves
      · exact .inl (same.symm.trans rejected)
      · exact .inr ((movesOut moves).2.1 rejected)
    · rcases move.moves with same | moves
      · exact .inl (same.symm.trans closed)
      · have awaiting := (movesOut moves).2.2 closed
        have here := (move.closing closed).resolve_left (by rw [awaiting]; nofun)
        exact .inr ⟨awaiting,here⟩
  · rcases evolves.back mem with ⟨a,present,named,_⟩ | new
    · exact .inl ⟨a,present,named⟩
    · exact .inr new.1
  · obtain ⟨linear,free⟩ := undisturbedRun quiet
    constructor
    · intro row mem named
      have state := free.job row mem named
      constructor <;> intro h <;> rw [h] at state <;> contradiction
    · intro step mem owner
      exact ⟨free.steps step mem owner,fun a present named =>
        attemptUncancelled linear free mem owner present named⟩

end Bamep
