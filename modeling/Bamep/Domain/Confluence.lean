import Bamep.Library.Run
import Bamep.Domain.Evidence

/-! One truthful outcome, learned in any order. Messages about one Attempt may be lost, repeated and
reordered, and the outcome may arrive as a direct result or in a status report after a disconnect;
the Attempt stays active without a trace, or everything ends as if the result alone had arrived. -/
namespace Bamep

inductive Outcome where
  | succeeded | failed
  deriving DecidableEq, Repr

inductive OutcomeMessage where
  | ackAccepted | reportAccepted | reportRunning | reportUnknown | markUncertain
  | result | report
  deriving DecidableEq, Repr

structure Observed where
  job : Job
  jobStep : JobStep
  attempt : Attempt
  events : List DomainEvent
  deriving DecidableEq, Repr

def Observed.persist (s : Observed) (applied : Applied) : Observed :=
  ⟨applied.job,applied.jobStep,applied.attempt,s.events ++ applied.events⟩

def Observed.action (s : Observed) (evidence : ActionEvidence) (stamp : Stamp) : Observed :=
  match applyActionEvidence s.job s.jobStep s.attempt evidence stamp with
  | .applied applied => s.persist applied
  | .noOp | .conflict => s

def Observed.status (s : Observed) (evidence : StatusReportEvidence) (stamp : Stamp) : Observed :=
  match applyStatusReport s.job s.jobStep s.attempt evidence stamp with
  | some applied => s.persist applied
  | none => s

def Outcome.result : Outcome → ActionEvidence
  | .succeeded => .resultSucceeded
  | .failed => .resultFailed

def Outcome.report : Outcome → StatusReportEvidence
  | .succeeded => .succeeded
  | .failed => .failed

def Observed.receive (outcome : Outcome) (s : Observed) : OutcomeMessage × Stamp → Observed
  | (.ackAccepted,stamp) => s.action .ackAccepted stamp
  | (.reportAccepted,stamp) => s.status .accepted stamp
  | (.reportRunning,stamp) => s.status .running stamp
  | (.reportUnknown,stamp) => s.status .unknown stamp
  | (.markUncertain,_) => { s with attempt := (markAwaitingReconciliation s.attempt).getD s.attempt }
  | (.result,stamp) => s.action outcome.result stamp
  | (.report,stamp) => s.status outcome.report stamp

def DomainEvent.content (event : DomainEvent) : JobId × EndpointId × DomainEventKind :=
  (event.jobId,event.endpointId,event.kind)

def Outcome.settle (outcome : Outcome) (job : Job) (jobStep : JobStep) (attempt : Attempt)
    (stamp : Stamp) : Applied :=
  match outcome with
  | .succeeded => terminalSuccess job jobStep attempt stamp
  | .failed => terminalFailure job jobStep attempt .failed .executionFailed stamp

section Settling
variable {job : Job} {jobStep : JobStep} {attempt : Attempt} {outcome : Outcome}

theorem settleIgnoresState (stamp : Stamp) (state : AttemptState) :
    outcome.settle job jobStep { attempt with state := state } stamp =
      outcome.settle job jobStep attempt stamp := by
  cases outcome <;> rfl

theorem settleIgnoresStamp (stamp other : Stamp) :
    (outcome.settle job jobStep attempt stamp).attempt = (outcome.settle job jobStep attempt other).attempt ∧
      (outcome.settle job jobStep attempt stamp).jobStep = (outcome.settle job jobStep attempt other).jobStep ∧
      (outcome.settle job jobStep attempt stamp).job = (outcome.settle job jobStep attempt other).job ∧
      (outcome.settle job jobStep attempt stamp).events.map DomainEvent.content =
        (outcome.settle job jobStep attempt other).events.map DomainEvent.content := by
  cases outcome
  · refine ⟨rfl,rfl,rfl,?_⟩
    simp only [Outcome.settle,terminalSuccess]
    split
    · rfl
    · split <;> rfl
  · exact ⟨rfl,rfl,rfl,rfl⟩

theorem actionResult {s : Observed} {stamp}
    (certain : s.attempt.state = .dispatched ∨ s.attempt.state = .inProgress) :
    s.action outcome.result stamp = s.persist (outcome.settle s.job s.jobStep s.attempt stamp) := by
  cases outcome <;> rcases certain with h | h <;>
    simp [Observed.action,Outcome.result,applyActionEvidence,h,Outcome.settle]

theorem statusOutcome {s : Observed} {stamp} (awaiting : s.attempt.state = .awaitingReconciliation) :
    s.status outcome.report stamp = s.persist (outcome.settle s.job s.jobStep s.attempt stamp) := by
  cases outcome <;> simp [Observed.status,Outcome.report,applyStatusReport,awaiting,Outcome.settle]

end Settling

-- The Attempt is active and nothing else has happened, or the outcome has been recorded once.
inductive Tracks (outcome : Outcome) (job : Job) (jobStep : JobStep) (attempt : Attempt) : Observed → Prop where
  | waiting (state) (active : state.isActive = true) :
      Tracks outcome job jobStep attempt ⟨job,jobStep,{ attempt with state := state },[]⟩
  | closed (stamp) : Tracks outcome job jobStep attempt
      (Observed.persist ⟨job,jobStep,attempt,[]⟩ (outcome.settle job jobStep attempt stamp))

section Tracking
variable {outcome : Outcome} {job : Job} {jobStep : JobStep} {attempt : Attempt}

theorem settledTracks (stamp : Stamp) (state : AttemptState) : Tracks outcome job jobStep attempt
    (Observed.persist ⟨job,jobStep,{ attempt with state := state },[]⟩
      (outcome.settle job jobStep { attempt with state := state } stamp)) := by
  rw [settleIgnoresState]
  exact .closed stamp

theorem receiveWaiting {state : AttemptState} (active : state.isActive = true)
    (message : OutcomeMessage × Stamp) : Tracks outcome job jobStep attempt
      (Observed.receive outcome ⟨job,jobStep,{ attempt with state := state },[]⟩ message) := by
  obtain ⟨kind,stamp⟩ := message
  -- a direct result counts before the disconnect, a status report only after it
  cases kind with
  | ackAccepted =>
    cases state <;> try contradiction
    · exact .waiting .inProgress rfl
    · exact .waiting .inProgress rfl
    · exact .waiting .awaitingReconciliation rfl
  | reportAccepted | reportRunning =>
    cases state <;> try contradiction
    · exact .waiting .dispatched rfl
    · exact .waiting .inProgress rfl
    · exact .waiting .inProgress rfl
  | reportUnknown =>
    cases state <;> try contradiction
    · exact .waiting .dispatched rfl
    · exact .waiting .inProgress rfl
    · exact .waiting .awaitingReconciliation rfl
  | markUncertain =>
    cases state <;> try contradiction
    all_goals exact .waiting .awaitingReconciliation rfl
  | result =>
    simp only [Observed.receive]
    cases state <;> try contradiction
    · rw [actionResult (.inl rfl)]
      exact settledTracks stamp _
    · rw [actionResult (.inr rfl)]
      exact settledTracks stamp _
    · cases outcome <;> exact .waiting .awaitingReconciliation rfl
  | report =>
    simp only [Observed.receive]
    cases state <;> try contradiction
    · exact .waiting .dispatched rfl
    · exact .waiting .inProgress rfl
    · rw [statusOutcome rfl]
      exact settledTracks stamp _

theorem receiveClosed (stamp : Stamp) (message : OutcomeMessage × Stamp) :
    let s := Observed.persist ⟨job,jobStep,attempt,[]⟩ (outcome.settle job jobStep attempt stamp)
    s.receive outcome message = s := by
  obtain ⟨kind,_⟩ := message
  cases outcome <;> cases kind <;> rfl

theorem receiveTracks (s : Observed) (message : OutcomeMessage × Stamp)
    (tracks : Tracks outcome job jobStep attempt s) :
    Tracks outcome job jobStep attempt (s.receive outcome message) := by
  cases tracks with
  | waiting state active => exact receiveWaiting active message
  | closed stamp =>
    rw [receiveClosed]
    exact .closed stamp

theorem outcomeLearnedOnce (dispatched : attempt.state = .dispatched)
    (dispatching : jobStep.state = .dispatching)
    (messages : List (OutcomeMessage × Stamp)) (stamp : Stamp) :
    let initial : Observed := ⟨job,jobStep,attempt,[]⟩
    let s := Transition.run (Observed.receive outcome) initial messages
    let single := initial.action outcome.result stamp
    (s.attempt.state.isActive = true ∧ s.jobStep.state = .dispatching ∧ s.job = job ∧ s.events = []) ∨
    (s.attempt = single.attempt ∧ s.jobStep = single.jobStep ∧ s.job = single.job ∧
      s.events.map DomainEvent.content = single.events.map DomainEvent.content) := by
  intro initial s single
  have start : Tracks outcome job jobStep attempt initial := by
    have now : attempt = { attempt with state := .dispatched } := by rw [← dispatched]
    have waiting : Tracks outcome job jobStep attempt _ := .waiting .dispatched rfl
    rwa [← now] at waiting
  have once : single = initial.persist (outcome.settle job jobStep attempt stamp) :=
    actionResult (s := initial) (.inl dispatched)
  have tracks : Tracks outcome job jobStep attempt s := Transition.runAlways receiveTracks start messages
  generalize s = s at tracks ⊢
  cases tracks with
  | waiting state active => exact .inl ⟨active,dispatching,rfl,rfl⟩
  | closed other =>
    rw [once]
    exact .inr (settleIgnoresStamp other stamp)

theorem outcomeLearnedOnceReconciled :
    let step : JobStep := ⟨⟨1⟩,⟨1⟩,0,.dispatching,none,none⟩
    let initial : Observed := ⟨⟨⟨1⟩,⟨0⟩,.cancelling,[step]⟩,step,⟨⟨1⟩,⟨1⟩,⟨1⟩,.dispatched⟩,[]⟩
    let stamp : Stamp := ⟨fun i => ⟨i⟩,0⟩
    let s := Transition.run (Observed.receive .failed) initial
      [(.markUncertain,stamp),(.result,stamp),(.report,stamp),(.ackAccepted,stamp),(.report,stamp)]
    let single := initial.action .resultFailed stamp
    s.attempt.state.isActive = false ∧ s.attempt = single.attempt ∧ s.jobStep = single.jobStep ∧ s.job = single.job ∧
      s.events.map DomainEvent.content = single.events.map DomainEvent.content :=
  ⟨by decide,(@outcomeLearnedOnce .failed _ _ _ rfl rfl _ _).resolve_left (by decide)⟩

end Tracking
end Bamep
