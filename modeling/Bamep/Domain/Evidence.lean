import Bamep.Domain.Job

/-! Decisions on Agent evidence, cancellation and reconciliation for one Attempt.
The three `Applied` records of the source have the same fields and are one record here, and so are
the private helpers `terminal_success`, `terminal_failure` and `cancel_terminal` it repeats.
`EvidenceStep` says once what an applied decision can do; every later invariant starts from it. -/
namespace Bamep

structure Applied where
  attempt : Attempt
  jobStep : JobStep
  job : Job
  events : List DomainEvent
  terminal : Bool
  deriving DecidableEq, Repr

def replaceStep (steps : List JobStep) (updated : JobStep) : List JobStep :=
  steps.map fun s => if s.id = updated.id then updated else s

def terminalFailure (job : Job) (jobStep : JobStep) (attempt : Attempt) (attemptState : AttemptState)
    (reason : JobStepFailureReason) (stamp : Stamp) : Applied :=
  let failedStep := { jobStep with state := .failed, failureReason := some reason }
  let cancelling := job.state = .cancelling
  { attempt := { attempt with state := attemptState }
    jobStep := failedStep
    job := { job with
      state := if cancelling then .cancelled else .failed
      steps := replaceStep job.steps failedStep }
    events := [job.event stamp 0 (.jobStepFailed failedStep.id),
      job.event stamp 1 (if cancelling then .jobCancelled else .jobFailed)]
    terminal := true }

def terminalSuccess (job : Job) (jobStep : JobStep) (attempt : Attempt) (stamp : Stamp) : Applied :=
  let succeededStep := { jobStep with state := .succeeded }
  let updatedSteps := replaceStep job.steps succeededStep
  let everyStepSucceeded := updatedSteps.all fun s => s.state = .succeeded
  { attempt := { attempt with state := .succeeded }
    jobStep := succeededStep
    job := { job with
      state := if job.state = .cancelling then .cancelled
        else if everyStepSucceeded then .succeeded else .running
      steps := updatedSteps }
    events := if job.state = .cancelling then [job.event stamp 0 .jobCancelled]
      else if everyStepSucceeded then [job.event stamp 0 .jobSucceeded] else []
    terminal := true }

def cancelTerminal (job : Job) (jobStep : JobStep) (attempt : Attempt) (stamp : Stamp) : Applied :=
  let cancelledStep := { jobStep with state := .cancelled }
  { attempt := { attempt with state := .cancelled }
    jobStep := cancelledStep
    job := { job with state := .cancelled, steps := replaceStep job.steps cancelledStep }
    events := [job.event stamp 0 .jobCancelled]
    terminal := true }

def completeCancellationNow (job : Job) (jobStep : JobStep) (attempt : Attempt) (stamp : Stamp) :
    Applied :=
  ⟨attempt,jobStep,{ job with state := .cancelled },[job.event stamp 0 .jobCancelled],true⟩

def attemptOnly (job : Job) (jobStep : JobStep) (attempt : Attempt) (state : AttemptState) : Applied :=
  ⟨{ attempt with state := state },jobStep,job,[],false⟩

inductive ActionEvidence where
  | ackAccepted | ackRejected | resultSucceeded | resultFailed
  deriving DecidableEq, Repr

inductive ActionEvidenceOutcome where
  | applied (applied : Applied)
  | noOp
  | conflict
  deriving DecidableEq, Repr

def applyActionEvidence (job : Job) (jobStep : JobStep) (attempt : Attempt)
    (evidence : ActionEvidence) (stamp : Stamp) : ActionEvidenceOutcome :=
  match evidence with
  | .ackAccepted =>
    match attempt.state with
    | .dispatched => .applied (attemptOnly job jobStep attempt .inProgress)
    | _ => .noOp
  | .ackRejected =>
    match attempt.state with
    | .dispatched => .applied (terminalFailure job jobStep attempt .rejected .dispatchRejected stamp)
    | .rejected => .noOp
    | _ => .conflict
  | .resultSucceeded =>
    match attempt.state with
    | .dispatched | .inProgress => .applied (terminalSuccess job jobStep attempt stamp)
    | .succeeded => .noOp
    | _ => .conflict
  | .resultFailed =>
    match attempt.state with
    | .dispatched | .inProgress =>
      .applied (terminalFailure job jobStep attempt .failed .executionFailed stamp)
    | .failed => .noOp
    | _ => .conflict

inductive CancellationRequestOutcome where
  | enteredCancelling (job : Job) (attemptId : AttemptId) (actionId : ActionId)
  | completedImmediately (job : Job) (event : DomainEvent)
  | alreadyCancelling
  | alreadyTerminal
  deriving DecidableEq, Repr

/-- `none` is `CancellationRequestError::NotEligible`. -/
def requestCancellation (job : Job) (activeAttempt : Option Attempt) (stamp : Stamp) :
    Option CancellationRequestOutcome :=
  match job.state with
  | .running =>
    match activeAttempt with
    | some attempt =>
      some (.enteredCancelling { job with state := .cancelling } attempt.id attempt.actionId)
    | none =>
      some (.completedImmediately { job with state := .cancelled } (job.event stamp 0 .jobCancelled))
  | .cancelling => some .alreadyCancelling
  | .succeeded | .failed | .cancelled => some .alreadyTerminal
  | .pending => none

inductive CancelAckEvidence where
  | cancelled | alreadyCompleted | cannotCancel | unknown
  deriving DecidableEq, Repr

/-- `CancelAckOutcome` and `ReconciliationOutcome`; `none` is `NoOp`. -/
abbrev EvidenceOutcome := Option Applied

def applyCancelAck (job : Job) (jobStep : JobStep) (attempt : Attempt) (evidence : CancelAckEvidence)
    (stamp : Stamp) : EvidenceOutcome :=
  if job.state ≠ .cancelling then none
  else match evidence with
    | .cancelled =>
      match attempt.state with
      | .dispatched | .inProgress | .awaitingReconciliation =>
        some (cancelTerminal job jobStep attempt stamp)
      | _ => none
    | .alreadyCompleted =>
      match attempt.state with
      | .dispatched | .inProgress =>
        some (attemptOnly job jobStep attempt .awaitingReconciliation)
      | .awaitingReconciliation => none
      | _ => some (completeCancellationNow job jobStep attempt stamp)
    | .cannotCancel => none
    | .unknown =>
      match attempt.state with
      | .dispatched | .inProgress =>
        some (attemptOnly job jobStep attempt .awaitingReconciliation)
      | _ => none

def markAwaitingReconciliation (attempt : Attempt) : Option Attempt :=
  match attempt.state with
  | .dispatched | .inProgress => some { attempt with state := .awaitingReconciliation }
  | _ => none

inductive StatusReportEvidence where
  | accepted | running | succeeded | failed | cancelled | unknown
  deriving DecidableEq, Repr

def applyStatusReport (job : Job) (jobStep : JobStep) (attempt : Attempt)
    (evidence : StatusReportEvidence) (stamp : Stamp) : EvidenceOutcome :=
  if attempt.state ≠ .awaitingReconciliation then none
  else match evidence with
    | .accepted | .running => some (attemptOnly job jobStep attempt .inProgress)
    | .succeeded => some (terminalSuccess job jobStep attempt stamp)
    | .failed => some (terminalFailure job jobStep attempt .failed .executionFailed stamp)
    | .cancelled =>
      if job.state = .cancelling then some (cancelTerminal job jobStep attempt stamp) else none
    | .unknown => none

inductive CloseIndeterminateOutcome where
  | applied (applied : Applied)
  | alreadyIndeterminate
  | notEligible
  deriving DecidableEq, Repr

def closeIndeterminate (job : Job) (jobStep : JobStep) (attempt : Attempt) (stamp : Stamp) :
    CloseIndeterminateOutcome :=
  match attempt.state with
  | .awaitingReconciliation =>
    let failedStep :=
      { jobStep with state := .failed, failureReason := some .reconciliationIndeterminate }
    let cancelling := job.state = .cancelling
    .applied
      { attempt := { attempt with state := .indeterminate }
        jobStep := failedStep
        job := { job with
          state := if cancelling then .cancelled else .failed
          steps := replaceStep job.steps failedStep }
        events := [job.event stamp 0 (.attemptIndeterminate failedStep.id attempt.id),
          job.event stamp 1 (.jobStepFailed failedStep.id),
          job.event stamp 2 (if cancelling then .jobCancelled else .jobFailed)]
        terminal := true }
  | .indeterminate => .alreadyIndeterminate
  | _ => .notEligible

end Bamep
