import Bamep.Domain.Evidence

/-! What an applied decision can do to an Attempt, its JobStep and its Job, independently of the
evidence that caused it. The four decision functions are shown to take only such steps. -/
namespace Bamep

def AttemptState.progresses : AttemptState → AttemptState → Bool
  | .dispatched,.inProgress | .dispatched,.awaitingReconciliation => true
  | .inProgress,.awaitingReconciliation | .awaitingReconciliation,.inProgress => true
  | _,_ => false

def AttemptState.fails : AttemptState → AttemptState → Bool
  | .dispatched,.rejected | .awaitingReconciliation,.indeterminate => true
  | .dispatched,.failed | .inProgress,.failed | .awaitingReconciliation,.failed => true
  | _,_ => false

-- Every move of an Attempt: progress, failure, or from an active state to success or cancellation.
def AttemptState.moves (before after : AttemptState) : Bool :=
  before.progresses after || before.fails after ||
    (before.isActive && (after = .succeeded || after = .cancelled))

-- The JobStep state and failure reason that an Attempt state stands for.
def AttemptState.stepState : AttemptState → JobStepState
  | .dispatched | .inProgress | .awaitingReconciliation => .dispatching
  | .succeeded => .succeeded
  | .cancelled => .cancelled
  | .failed | .rejected | .indeterminate => .failed

def AttemptState.failureReason : AttemptState → Option JobStepFailureReason
  | .failed => some .executionFailed
  | .rejected => some .dispatchRejected
  | .indeterminate => some .reconciliationIndeterminate
  | _ => none

def DomainEventKind.closes : DomainEventKind → Option JobState
  | .jobSucceeded => some .succeeded
  | .jobFailed => some .failed
  | .jobCancelled => some .cancelled
  | .jobStarted | .jobStepFailed _ | .attemptIndeterminate _ _ => none

def closings (events : List DomainEvent) : List JobState := events.filterMap fun e => e.kind.closes

inductive EvidenceStep (job : Job) (jobStep : JobStep) (attempt : Attempt) : Applied → Prop where
  | progressed {state} (edge : attempt.state.progresses state = true) :
      EvidenceStep job jobStep attempt (attemptOnly job jobStep attempt state)
  | succeeded (stamp) (active : attempt.state.isActive = true) :
      EvidenceStep job jobStep attempt (terminalSuccess job jobStep attempt stamp)
  | failed {state notes final} (edge : attempt.state.fails state = true)
      (quiet : ∀ e ∈ notes, e.jobId = job.id ∧ e.kind.closes = none)
      (last : final.jobId = job.id ∧
        final.kind = if job.state = .cancelling then .jobCancelled else .jobFailed) :
      EvidenceStep job jobStep attempt
        { attempt := { attempt with state := state }
          jobStep := { jobStep with state := .failed, failureReason := state.failureReason }
          job := { job with
            state := if job.state = .cancelling then .cancelled else .failed
            steps := replaceStep job.steps
              { jobStep with state := .failed, failureReason := state.failureReason } }
          events := notes ++ [final]
          terminal := true }
  | cancelled (stamp) (active : attempt.state.isActive = true) (cancelling : job.state = .cancelling) :
      EvidenceStep job jobStep attempt (cancelTerminal job jobStep attempt stamp)
  | completed (stamp) (settled : attempt.state.isActive = false) (cancelling : job.state = .cancelling) :
      EvidenceStep job jobStep attempt (completeCancellationNow job jobStep attempt stamp)

theorem progressesActive {before after : AttemptState} (edge : before.progresses after = true) :
    before.isActive = true ∧ after.isActive = true := by
  revert edge
  cases before <;> cases after <;> simp [AttemptState.progresses,AttemptState.isActive]

theorem failsActive {before after : AttemptState} (edge : before.fails after = true) :
    before.isActive = true ∧ after.isActive = false ∧ after.stepState = .failed ∧ after ≠ .cancelled := by
  revert edge
  cases before <;> cases after <;> simp [AttemptState.fails,AttemptState.isActive,AttemptState.stepState]

theorem activeStands {state : AttemptState} (active : state.isActive = true) :
    state.stepState = .dispatching ∧ state.failureReason = none := by
  revert active
  cases state <;> simp [AttemptState.isActive,AttemptState.stepState,AttemptState.failureReason]

section Functions
variable {job : Job} {jobStep : JobStep} {attempt : Attempt} {stamp : Stamp} {applied : Applied}

theorem terminalFailureStep {state reason} (edge : attempt.state.fails state = true)
    (named : state.failureReason = some reason) :
    EvidenceStep job jobStep attempt (terminalFailure job jobStep attempt state reason stamp) := by
  unfold terminalFailure
  rw [← named]
  have quiet : ∀ e ∈ [job.event stamp 0 (.jobStepFailed jobStep.id)],
      e.jobId = job.id ∧ e.kind.closes = none := by simp [Job.event,DomainEventKind.closes]
  exact .failed edge quiet ⟨rfl,rfl⟩

theorem actionEvidenceStep {evidence}
    (ok : applyActionEvidence job jobStep attempt evidence stamp = .applied applied) :
    EvidenceStep job jobStep attempt applied ∧ attempt.state.isActive = true ∧
      applied.attempt.state ≠ .indeterminate := by
  unfold applyActionEvidence at ok
  split at ok <;> split at ok <;> try contradiction
  all_goals
    rename_i state
    cases ActionEvidenceOutcome.applied.inj ok
  · exact ⟨.progressed (by simp [state,AttemptState.progresses]),by simp [state,AttemptState.isActive],nofun⟩
  · exact ⟨terminalFailureStep (by simp [state,AttemptState.fails]) rfl,
      by simp [state,AttemptState.isActive],nofun⟩
  · exact ⟨.succeeded stamp (by simp [state,AttemptState.isActive]),by simp [state,AttemptState.isActive],nofun⟩
  · exact ⟨.succeeded stamp (by simp [state,AttemptState.isActive]),by simp [state,AttemptState.isActive],nofun⟩
  · exact ⟨terminalFailureStep (by simp [state,AttemptState.fails]) rfl,
      by simp [state,AttemptState.isActive],nofun⟩
  · exact ⟨terminalFailureStep (by simp [state,AttemptState.fails]) rfl,
      by simp [state,AttemptState.isActive],nofun⟩

theorem enteredCancelling {active job' attemptId actionId}
    (ok : requestCancellation job active stamp = some (.enteredCancelling job' attemptId actionId)) :
    job.state = .running ∧ (∃ a ∈ active, a.id = attemptId ∧ a.actionId = actionId) ∧
      job' = { job with state := .cancelling } := by
  unfold requestCancellation at ok
  cases state : job.state with
  | running =>
    cases active with
    | none => simp [state] at ok
    | some attempt =>
      simp only [state,Option.some.injEq,CancellationRequestOutcome.enteredCancelling.injEq] at ok
      exact ⟨rfl,⟨attempt,rfl,ok.2⟩,ok.1.symm⟩
  | _ => simp [state] at ok

theorem completedImmediately {active job' event}
    (ok : requestCancellation job active stamp = some (.completedImmediately job' event)) :
    job.state = .running ∧ active = none ∧ job' = { job with state := .cancelled } ∧
      event = job.event stamp 0 .jobCancelled := by
  unfold requestCancellation at ok
  cases state : job.state with
  | running =>
    cases active with
    | none =>
      simp only [state,Option.some.injEq,CancellationRequestOutcome.completedImmediately.injEq] at ok
      exact ⟨rfl,rfl,ok.1.symm,ok.2.symm⟩
    | some attempt => simp [state] at ok
  | _ => simp [state] at ok

theorem cancelAckStep {evidence}
    (ok : applyCancelAck job jobStep attempt evidence stamp = some applied) :
    EvidenceStep job jobStep attempt applied ∧ job.state = .cancelling ∧
      (attempt.state.isActive = false → evidence = .alreadyCompleted) ∧
      (applied.attempt.state = .indeterminate → attempt.state = .indeterminate) := by
  unfold applyCancelAck at ok
  split at ok
  · contradiction
  rename_i cancelling
  have cancelling := not_not.mp cancelling
  split at ok
  · split at ok <;> try contradiction
    all_goals
      rename_i state
      cases Option.some.inj ok
      exact ⟨.cancelled stamp (by simp [state,AttemptState.isActive]) cancelling,cancelling,
        by simp [state,AttemptState.isActive],nofun⟩
  · split at ok
    · rename_i state
      cases Option.some.inj ok
      exact ⟨.progressed (by simp [state,AttemptState.progresses]),cancelling,fun _ => rfl,nofun⟩
    · rename_i state
      cases Option.some.inj ok
      exact ⟨.progressed (by simp [state,AttemptState.progresses]),cancelling,fun _ => rfl,nofun⟩
    · contradiction
    · rename_i notDispatched notInProgress notAwaiting
      cases Option.some.inj ok
      have settled : attempt.state.isActive = false := by
        cases state : attempt.state <;> simp_all [AttemptState.isActive]
      exact ⟨.completed stamp settled cancelling,cancelling,fun _ => rfl,id⟩
  · contradiction
  · split at ok <;> try contradiction
    all_goals
      rename_i state
      cases Option.some.inj ok
      exact ⟨.progressed (by simp [state,AttemptState.progresses]),cancelling,
        by simp [state,AttemptState.isActive],nofun⟩

theorem statusReportStep {evidence}
    (ok : applyStatusReport job jobStep attempt evidence stamp = some applied) :
    EvidenceStep job jobStep attempt applied ∧ attempt.state = .awaitingReconciliation ∧
      applied.attempt.state ≠ .indeterminate := by
  unfold applyStatusReport at ok
  split at ok
  · contradiction
  rename_i awaiting
  have awaiting := not_not.mp awaiting
  have active : attempt.state.isActive = true := by rw [awaiting]; rfl
  have resumes : attempt.state.progresses .inProgress = true := by rw [awaiting]; rfl
  have fails : attempt.state.fails .failed = true := by rw [awaiting]; rfl
  split at ok
  · cases Option.some.inj ok
    exact ⟨.progressed resumes,awaiting,nofun⟩
  · cases Option.some.inj ok
    exact ⟨.progressed resumes,awaiting,nofun⟩
  · cases Option.some.inj ok
    exact ⟨.succeeded stamp active,awaiting,nofun⟩
  · cases Option.some.inj ok
    exact ⟨terminalFailureStep fails rfl,awaiting,nofun⟩
  · split at ok
    · rename_i cancelling
      cases Option.some.inj ok
      exact ⟨.cancelled stamp active cancelling,awaiting,nofun⟩
    · contradiction
  · contradiction

theorem closeIndeterminateStep
    (ok : closeIndeterminate job jobStep attempt stamp = .applied applied) :
    EvidenceStep job jobStep attempt applied ∧ attempt.state = .awaitingReconciliation := by
  unfold closeIndeterminate at ok
  split at ok <;> try contradiction
  rename_i awaiting
  cases CloseIndeterminateOutcome.applied.inj ok
  have quiet : ∀ e ∈ [job.event stamp 0 (.attemptIndeterminate jobStep.id attempt.id),
      job.event stamp 1 (.jobStepFailed jobStep.id)], e.jobId = job.id ∧ e.kind.closes = none := by
    simp [Job.event,DomainEventKind.closes]
  have edge : attempt.state.fails .indeterminate = true := by rw [awaiting]; rfl
  exact ⟨.failed edge quiet ⟨rfl,rfl⟩,awaiting⟩

end Functions

section Consequences
variable {job : Job} {jobStep : JobStep} {attempt : Attempt} {applied : Applied}

theorem EvidenceStep.identity (h : EvidenceStep job jobStep attempt applied) :
    applied.attempt = { attempt with state := applied.attempt.state } ∧
      applied.jobStep.id = jobStep.id ∧ applied.job.id = job.id ∧
      applied.job.endpointId = job.endpointId := by
  cases h <;> exact ⟨rfl,rfl,rfl,rfl⟩

theorem EvidenceStep.agrees (h : EvidenceStep job jobStep attempt applied)
    (state : jobStep.state = attempt.state.stepState)
    (reason : jobStep.failureReason = attempt.state.failureReason) :
    applied.jobStep.state = applied.attempt.state.stepState ∧
      applied.jobStep.failureReason = applied.attempt.state.failureReason := by
  cases h with
  | progressed edge =>
    obtain ⟨before,after⟩ := progressesActive edge
    have now := activeStands after
    have was := activeStands before
    exact ⟨(state.trans was.1).trans now.1.symm,(reason.trans was.2).trans now.2.symm⟩
  | succeeded stamp active => exact ⟨rfl,reason.trans (activeStands active).2⟩
  | failed edge => exact ⟨(failsActive edge).2.2.1.symm,rfl⟩
  | cancelled stamp active => exact ⟨rfl,reason.trans (activeStands active).2⟩
  | completed => exact ⟨state,reason⟩

theorem EvidenceStep.moves (h : EvidenceStep job jobStep attempt applied) :
    applied.attempt.state = attempt.state ∨ attempt.state.moves applied.attempt.state = true := by
  cases h with
  | progressed edge => exact .inr (by simp [attemptOnly,AttemptState.moves,edge])
  | succeeded stamp active => exact .inr (by simp [terminalSuccess,AttemptState.moves,active])
  | failed edge => exact .inr (by simp [AttemptState.moves,edge])
  | cancelled stamp active => exact .inr (by simp [cancelTerminal,AttemptState.moves,active])
  | completed => exact .inl rfl

theorem EvidenceStep.eventsOwned (h : EvidenceStep job jobStep attempt applied) :
    ∀ e ∈ applied.events, e.jobId = job.id := by
  cases h with
  | progressed => simp [attemptOnly]
  | succeeded =>
    simp only [terminalSuccess]
    split
    · simp [Job.event]
    · split <;> simp [Job.event]
  | failed edge quiet last =>
    intro e mem
    rcases List.mem_append.mp mem with note | final
    · exact (quiet e note).1
    · rw [List.mem_singleton.mp final]; exact last.1
  | cancelled => simp [cancelTerminal,Job.event]
  | completed => simp [completeCancellationNow,Job.event]

-- A decision that is not terminal leaves the Job; a terminal one reports the state it closes the Job in.
theorem EvidenceStep.closes (h : EvidenceStep job jobStep attempt applied) :
    (applied.terminal = false ∧ applied.job = job ∧ applied.jobStep = jobStep ∧ applied.events = [] ∧
      applied.attempt.state.isActive = true) ∨
    (applied.terminal = true ∧ applied.attempt.state.isActive = false ∧
      ((applied.job.state.isTerminal = true ∧ closings applied.events = [applied.job.state]) ∨
        (applied.job.state = .running ∧ job.state ≠ .cancelling ∧ closings applied.events = []))) := by
  cases h with
  | progressed edge => exact .inl ⟨rfl,rfl,rfl,rfl,(progressesActive edge).2⟩
  | succeeded =>
    refine .inr ⟨rfl,rfl,?_⟩
    simp only [terminalSuccess]
    split
    · exact .inl ⟨rfl,rfl⟩
    · split
      · exact .inl ⟨rfl,rfl⟩
      · exact .inr ⟨rfl,by assumption,rfl⟩
  | @failed _ notes _ edge quiet last =>
    have silent : closings notes = [] := by
      unfold closings
      exact List.filterMap_eq_nil_iff.mpr fun e mem => (quiet e mem).2
    refine .inr ⟨rfl,(failsActive edge).2.1,.inl ?_⟩
    unfold closings at silent ⊢
    rw [List.filterMap_append,silent]
    by_cases cancelling : job.state = .cancelling
    · simp [cancelling,last.2,DomainEventKind.closes,JobState.isTerminal]
    · simp [cancelling,last.2,DomainEventKind.closes,JobState.isTerminal]
  | cancelled => exact .inr ⟨rfl,rfl,.inl ⟨rfl,rfl⟩⟩
  | completed stamp settled => exact .inr ⟨rfl,settled,.inl ⟨rfl,rfl⟩⟩

theorem EvidenceStep.uncancelled (h : EvidenceStep job jobStep attempt applied)
    (free : job.state ≠ .cancelling) :
    (applied.job.state = .cancelling ∨ applied.job.state = .cancelled → applied.job.state = job.state) ∧
      (applied.attempt.state = .cancelled → attempt.state = .cancelled) ∧
      (applied.jobStep.state = .cancelled → jobStep.state = .cancelled) := by
  cases h with
  | @progressed after edge =>
    refine ⟨fun _ => rfl,fun (same : after = .cancelled) => ?_,id⟩
    rw [same] at edge
    exact absurd (progressesActive edge).2 (by decide)
  | succeeded =>
    refine ⟨?_,nofun,nofun⟩
    simp only [terminalSuccess,if_neg free]
    split <;> simp
  | failed edge =>
    exact ⟨by simp [free],fun same => absurd same (failsActive edge).2.2.2,nofun⟩
  | cancelled stamp active cancelling => exact absurd cancelling free
  | completed stamp settled cancelling => exact absurd cancelling free

end Consequences
end Bamep
