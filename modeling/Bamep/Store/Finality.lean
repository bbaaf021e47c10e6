import Bamep.Store.Exclusive

/-! Finished Jobs. `JobMove` is everything a timely step does to the Job rows and to the events: at
most one open Job moves, and the events it emits close it exactly when the new state is terminal.
From it a finished Job keeps its state and has exactly one closing event. -/
namespace Bamep
open Relational
open WorkflowRows (memSetJobState)

def JobState.report (state : JobState) : List JobState := if state.isTerminal then [state] else []

def WorkflowRows.eventsOf (w : WorkflowRows) (jobId : JobId) : List DomainEvent :=
  w.events.select fun e => e.jobId = jobId

inductive JobMove (w w' : WorkflowRows) : Prop where
  | quiet (jobs : w'.jobs = w.jobs) (events : w'.events = w.events)
  | created {row : JobRow} (inserted : w.jobs.insert? row = some w'.jobs) (pending : row.state = .pending)
      (events : w'.events = w.events)
  | moved {row : JobRow} {state : JobState} {emitted : List DomainEvent} (mem : row ∈ w.jobs)
      (unfinished : row.state.isTerminal = false) (jobs : w'.jobs = (w.setJobState row.id state).jobs)
      (owned : ∀ e ∈ emitted, e.jobId = row.id) (closes : closings emitted = state.report)
      (events : w.events.insertAll? emitted = some w'.events)

section Steps
variable {w : WorkflowRows}

theorem occupiesUnfinished {state : JobState} (occupies : state.occupiesEndpoint = true) :
    state.isTerminal = false := by
  revert occupies
  cases state <;> simp [JobState.occupiesEndpoint,JobState.isTerminal]

theorem evidenceMove {facts applied w'}
    (linear : Linear w) (live : Live w) (locked : Locked w facts)
    (active : facts.attempt.state.isActive = true)
    (step : EvidenceStep facts.job facts.jobStep facts.attempt applied)
    (ok : w.persistApplied? applied = some w') : JobMove w w' := by
  obtain ⟨jobs,_,_,events⟩ := persistAppliedSome ok
  obtain ⟨_,_,jobId,_⟩ := step.identity
  obtain ⟨row,mem,named,factsNamed,_,state,_⟩ := lockedJob locked
  have owns : w.owns row facts.attempt := ⟨facts.jobStep,locked.step,locked.owner,named.symm⟩
  have unfinished := occupiesUnfinished (activeOccupies linear live mem locked.attempt active owns)
  rw [jobId,factsNamed] at jobs
  refine .moved mem unfinished jobs ?_ ?_ events
  · intro e present
    exact (step.eventsOwned e present).trans factsNamed
  · rcases step.closes with ⟨_,kept,_,silent,_⟩ | ⟨_,_,⟨final,closed⟩ | ⟨running,_,closed⟩⟩
    · rw [kept,silent,state,JobState.report,unfinished]
      rfl
    · rw [closed,JobState.report,final]
      rfl
    · rw [closed,running]
      rfl

theorem jobMove {op w'} (valid : w.Valid) (linear : Linear w) (live : Live w)
    (timely : op.lateCompletion w = false) (effect : Effect w op w') : JobMove w w' := by
  cases effect with
  | unchanged => exact .quiet rfl rfl
  | created built ok =>
    obtain ⟨_,same⟩ := createWorkflowSome built
    obtain ⟨jobs,inserted,ok⟩ := Option.bind_eq_some_iff.mp ok
    obtain ⟨steps,_,ok⟩ := Option.bind_eq_some_iff.mp ok
    cases Option.some.inj ok
    exact .created inserted (by rw [same]) rfl
  | authorized => exact .quiet rfl rfl
  | admitted mem pending owned started ok =>
    obtain ⟨jobs,_,_,events⟩ := insertEventsSome ok
    refine .moved mem (by rw [pending]; rfl) jobs (by simpa using owned) ?_ events
    simp [closings,started,DomainEventKind.closes,JobState.report,JobState.isTerminal]
  | satisfied => exact .quiet rfl rfl
  | reverted => exact .quiet rfl rfl
  | dispatched job running mem owner satisfied current target fresh ok =>
    obtain ⟨attempts,_,same⟩ := Option.map_eq_some_iff.mp ok
    subst same
    exact .quiet rfl rfl
  | @cancelling row _ mem running =>
    have silent : ∀ e ∈ ([] : List DomainEvent), e.jobId = row.id :=
      fun _ mem => absurd mem List.not_mem_nil
    exact .moved mem (by rw [running]; rfl) rfl silent rfl rfl
  | cancelledNow mem running idle owned closing ok =>
    obtain ⟨jobs,_,_,events⟩ := insertEventsSome ok
    refine .moved mem (by rw [running]; rfl) jobs (by simpa using owned) ?_ events
    simp [closings,closing,DomainEventKind.closes,JobState.report,JobState.isTerminal]
  | marked => exact .quiet rfl rfl
  | markedAll => exact .quiet rfl rfl
  | evidence locked decides ok =>
    exact evidenceMove linear live locked (decidesActive valid locked timely decides)
      (decidesStep decides) ok

theorem JobMove.finished {w'} (move : JobMove w w') {row} (mem : row ∈ w.jobs)
    (final : row.state.isTerminal = true) : row ∈ w'.jobs := by
  cases move with
  | quiet jobs => rw [jobs]; exact mem
  | created inserted => exact (Table.memInsert inserted).mpr (.inl mem)
  | @moved moving state _ moved unfinished jobs =>
    rw [jobs]
    refine memSetJobState.mpr (.inl ⟨mem,fun same => ?_⟩)
    rw [Table.eqOfKey mem moved same,unfinished] at final
    contradiction

theorem JobMove.appends {w'} (move : JobMove w w') : w.events.rows <+: w'.events.rows := by
  cases move with
  | quiet _ events => exact events ▸ List.prefix_refl _
  | created _ _ events => exact events ▸ List.prefix_refl _
  | moved _ _ _ _ _ events => rw [Table.insertAllRows events]; exact List.prefix_append _ _

end Steps

structure Reported (w : WorkflowRows) : Prop where
  owned : ∀ e ∈ w.events, ∃ row ∈ w.jobs, row.id = e.jobId
  closed : ∀ row ∈ w.jobs, closings (w.eventsOf row.id) = row.state.report

theorem unknownSilent {w} (reported : Reported w) {jobId}
    (unknown : ∀ row ∈ w.jobs, row.id ≠ jobId) : w.eventsOf jobId = [] := by
  refine List.filter_eq_nil_iff.mpr fun e mem named => ?_
  obtain ⟨row,present,same⟩ := reported.owned e mem
  exact unknown row present (same.trans (of_decide_eq_true named))

theorem reportedMove {w w'} (reported : Reported w) (move : JobMove w w') : Reported w' := by
  cases move with
  | quiet jobs events =>
    refine ⟨?_,?_⟩
    · rw [jobs,events]; exact reported.owned
    · unfold WorkflowRows.eventsOf
      rw [jobs,events]; exact reported.closed
  | @created new inserted pending events =>
    refine ⟨fun e mem => ?_,fun row mem => ?_⟩
    · rw [events] at mem
      obtain ⟨row,present,same⟩ := reported.owned e mem
      exact ⟨row,(Table.memInsert inserted).mpr (.inl present),same⟩
    · have kept : w'.eventsOf row.id = w.eventsOf row.id := by unfold WorkflowRows.eventsOf; rw [events]
      rw [kept]
      rcases (Table.memInsert inserted).mp mem with old | same
      · exact reported.closed row old
      · subst same
        rw [unknownSilent reported fun old present => Table.insertAbsent inserted present,pending]
        rfl
  | @moved moving state emitted mem unfinished jobs owned closes events =>
    have rows := Table.insertAllRows events
    refine ⟨fun e present => ?_,fun row present => ?_⟩
    · have known : ∃ old ∈ w.jobs, old.id = e.jobId := by
        rcases (Table.memInsertAll events).mp present with old | new
        · exact reported.owned e old
        · exact ⟨moving,mem,(owned e new).symm⟩
      obtain ⟨old,oldMem,named⟩ := known
      obtain ⟨later,present,kept,_⟩ := Table.updateKept (k := moving.id)
        (f := fun job : JobRow => { job with state := state }) (by exact fun _ => rfl) oldMem
      exact ⟨later,jobs ▸ present,kept.trans named⟩
    · rw [jobs] at present
      have split : w'.eventsOf row.id =
          w.eventsOf row.id ++ emitted.filter fun e => e.jobId = row.id := by
        unfold WorkflowRows.eventsOf Table.select
        rw [rows,List.filter_append]
      rcases memSetJobState.mp present with ⟨old,chosen⟩ | ⟨old,oldMem,chosen,rfl⟩
      · have other : emitted.filter (fun e => e.jobId = row.id) = [] := by
          refine List.filter_eq_nil_iff.mpr fun e present named => ?_
          exact chosen ((of_decide_eq_true named).symm.trans (owned e present))
        rw [split,other,List.append_nil]
        exact reported.closed row old
      · -- the moved Job had no closing event before
        cases Table.eqOfKey oldMem mem chosen
        have mine : emitted.filter (fun e => e.jobId = moving.id) = emitted :=
          List.filter_eq_self.mpr fun e present => decide_eq_true (owned e present)
        have before := reported.closed moving mem
        rw [JobState.report,unfinished] at before
        unfold closings at before closes ⊢
        rw [split,mine,List.filterMap_append,before,closes]
        rfl

structure Accounted (s : Store) : Prop extends Orderly s where
  reported : Reported s.workflow

theorem accountedEmpty : Accounted .empty :=
  ⟨orderlyEmpty,fun _ mem => absurd mem (Table.notMemEmpty _),
    fun _ mem => absurd mem (Table.notMemEmpty _)⟩

theorem afterMove (s : Store) (op : JobOp) (orderly : Orderly s) (timely : Timely s op) :
    JobMove s.workflow (s.after op).workflow :=
  jobMove s.workflowValid orderly.linear orderly.live timely (afterEffect s op)

theorem accountedAfter (s : Store) (op : JobOp) (accounted : Accounted s) (timely : Timely s op) :
    Accounted (s.after op) :=
  ⟨orderlyAfter s op accounted.toOrderly timely,
    reportedMove accounted.reported (afterMove s op accounted.toOrderly timely)⟩

structure Extends (s s' : Store) : Prop where
  finished : ∀ row ∈ s.workflow.jobs, row.state.isTerminal = true → row ∈ s'.workflow.jobs
  appends : s.workflow.events.rows <+: s'.workflow.events.rows

theorem extendsRefl (s : Store) : Extends s s := ⟨fun _ mem _ => mem,List.prefix_refl _⟩

theorem extendsTrans (a b c : Store) (first : Extends a b) (second : Extends b c) : Extends a c :=
  ⟨fun row mem final => second.finished row (first.finished row mem final) final,
    first.appends.trans second.appends⟩

theorem extendsAfter (s : Store) (op : JobOp) (accounted : Accounted s) (timely : Timely s op) :
    Extends s (s.after op) :=
  have move := afterMove s op accounted.toOrderly timely
  ⟨fun _ => move.finished,move.appends⟩

theorem emittedClosings {s s' emitted} (before : Reported s.workflow)
    (after : Reported s'.workflow) (extends' : Extends s s')
    (rows : s'.workflow.events.rows = s.workflow.events.rows ++ emitted) {row}
    (mem : row ∈ s'.workflow.jobs) :
    closings (emitted.filter fun e => e.jobId = row.id) =
      if row.state.isTerminal = true ∧ row ∉ s.workflow.jobs then [row.state] else [] := by
  have total : closings (s.workflow.eventsOf row.id) ++
      closings (emitted.filter fun e => e.jobId = row.id) = row.state.report := by
    rw [← after.closed row mem,WorkflowRows.eventsOf,WorkflowRows.eventsOf,Table.select,Table.select,
      rows,List.filter_append]
    exact List.filterMap_append.symm
  by_cases final : row.state.isTerminal = true
  · rw [JobState.report,if_pos final] at total
    by_cases old : row ∈ s.workflow.jobs
    · rw [before.closed row old,JobState.report,if_pos final] at total
      rw [if_neg (by simp [old])]
      exact List.append_cancel_left (total.trans (List.append_nil _).symm)
    · rw [if_pos ⟨final,old⟩,← total]
      suffices silent : closings (s.workflow.eventsOf row.id) = [] by rw [silent]; rfl
      -- a Job that was already finished would be this very row
      by_cases known : ∃ r ∈ s.workflow.jobs, r.id = row.id
      · obtain ⟨r,present,named⟩ := known
        rw [← named,before.closed r present,JobState.report,if_neg]
        intro finished
        exact old (Table.eqOfKey (extends'.finished r present finished) mem named ▸ present)
      · rw [unknownSilent before fun r present named => known ⟨r,present,named⟩]
        rfl
  · rw [JobState.report,if_neg final] at total
    rw [if_neg fun both => final both.1]
    exact (List.append_eq_nil_iff.mp total).2

theorem atMostOneClosing {w} (reported : Reported w) (jobId : JobId) :
    (closings (w.eventsOf jobId)).length ≤ 1 := by
  by_cases known : ∃ row ∈ w.jobs, row.id = jobId
  · obtain ⟨row,mem,named⟩ := known
    rw [← named,reported.closed row mem,JobState.report]
    split <;> simp
  · rw [unknownSilent reported fun row mem named => known ⟨row,mem,named⟩]
    exact Nat.zero_le _

theorem finishedJobsFinal {ops later : List JobOp}
    (timely : Transition.Meets Store.after Timely .empty (ops ++ later)) :
    let w := (Transition.run Store.after .empty ops).workflow
    let w' := (Transition.run Store.after .empty (ops ++ later)).workflow
    (∀ row ∈ w.jobs, row.state.isTerminal = true → row ∈ w'.jobs) ∧
    (∀ jobId, (closings (w'.eventsOf jobId)).length ≤ 1) ∧
    ∃ emitted, w'.events.rows = w.events.rows ++ emitted ∧ ∀ row ∈ w'.jobs,
      closings (emitted.filter fun e => e.jobId = row.id) =
        if row.state.isTerminal = true ∧ row ∉ w.jobs then [row.state] else [] := by
  obtain ⟨first,second⟩ := Transition.meetsAppend.mp timely
  have before := Transition.runInvariant accountedAfter accountedEmpty first
  have after := Transition.runInvariant accountedAfter accountedEmpty timely
  have kept := Transition.runRelates extendsRefl extendsTrans accountedAfter extendsAfter before second
  rw [← Transition.runAppend] at kept
  obtain ⟨emitted,rows⟩ := kept.appends
  exact ⟨kept.finished,atMostOneClosing after.reported,emitted,rows.symm,
    fun row mem => emittedClosings before.reported after.reported kept rows.symm mem⟩

theorem finishedJobsFinalCancelled :
    let w := (Transition.run Store.after .empty cancelledAtSecondStep).workflow
    let w' := (Transition.run Store.after .empty
      (cancelledAtSecondStep ++ [.applyCancelAck ⟨11⟩ ⟨0⟩ .cancelled (ticket 4)])).workflow
    ∃ emitted, w'.events.rows = w.events.rows ++ emitted ∧ ∀ row ∈ w'.jobs,
      closings (emitted.filter fun e => e.jobId = row.id) =
        if row.state.isTerminal = true ∧ row ∉ w.jobs then [row.state] else [] :=
  (finishedJobsFinal (by decide)).2.2

-- After the late acknowledgement the stranded Attempt still succeeds and finishes its Job again.
theorem lateAckReopensJob :
    let w := (Transition.run Store.after .empty (cancelledAtSecondStep ++ [lateAck])).workflow
    let w' := (Transition.run Store.after .empty (cancelledAtSecondStep ++ [lateAck] ++
      [.applyActionEvidence ⟨11⟩ ⟨0⟩ .resultSucceeded (ticket 5)])).workflow
    ⟨⟨1⟩,⟨0⟩,.cancelled⟩ ∈ w.jobs ∧ ⟨⟨1⟩,⟨0⟩,.succeeded⟩ ∈ w'.jobs ∧
      closings (w'.eventsOf ⟨1⟩) = [.cancelled,.succeeded] := by
  decide

end Bamep
