import Bamep.Store.TransferFacts

/-! The Job repository. Every method is one transaction: it loads the rows it locks, lets the domain
decide, and commits or leaves the store as it was. A denied dispatch commits the reverted JobStep
and still reports an error, so each method returns the store together with its result. -/
namespace Bamep
open Relational

namespace WorkflowRows

def setJobState (w : WorkflowRows) (id : JobId) (state : JobState) : WorkflowRows :=
  { w with jobs := w.jobs.update id (fun row => { row with state := state }) fun _ => rfl }

def setStepState (w : WorkflowRows) (id : JobStepId) (state : JobStepState) : WorkflowRows :=
  { w with jobSteps := w.jobSteps.update id (fun row => { row with state := state }) fun _ => rfl }

def setStepOutcome (w : WorkflowRows) (id : JobStepId) (state : JobStepState)
    (reason : Option JobStepFailureReason) : WorkflowRows :=
  { w with
    jobSteps := w.jobSteps.update id
      (fun row => { row with state := state, failureReason := reason }) fun _ => rfl }

def setStepIntent (w : WorkflowRows) (id : JobStepId) (intent : DestructiveIntent) : WorkflowRows :=
  { w with
    jobSteps := w.jobSteps.update id
      (fun row => { row with destructiveIntent := some intent }) fun _ => rfl }

def setAttemptState (w : WorkflowRows) (id : AttemptId) (state : AttemptState) : WorkflowRows :=
  { w with attempts := w.attempts.update id (fun row => { row with state := state }) fun _ => rfl }

section Rows
variable {w : WorkflowRows}

theorem memSetJobState {id state row} :
    row ∈ (w.setJobState id state).jobs ↔
      (row ∈ w.jobs ∧ row.id ≠ id) ∨ ∃ old ∈ w.jobs, old.id = id ∧ row = { old with state := state } :=
  Table.memUpdate (by exact fun _ => rfl)

theorem memSetStepState {id state row} :
    row ∈ (w.setStepState id state).jobSteps ↔ (row ∈ w.jobSteps ∧ row.id ≠ id) ∨
      ∃ old ∈ w.jobSteps, old.id = id ∧ row = { old with state := state } :=
  Table.memUpdate (by exact fun _ => rfl)

theorem memSetStepOutcome {id state reason row} :
    row ∈ (w.setStepOutcome id state reason).jobSteps ↔ (row ∈ w.jobSteps ∧ row.id ≠ id) ∨
      ∃ old ∈ w.jobSteps, old.id = id ∧ row = { old with state := state, failureReason := reason } :=
  Table.memUpdate (by exact fun _ => rfl)

theorem memSetStepIntent {id intent row} :
    row ∈ (w.setStepIntent id intent).jobSteps ↔ (row ∈ w.jobSteps ∧ row.id ≠ id) ∨
      ∃ old ∈ w.jobSteps, old.id = id ∧ row = { old with destructiveIntent := some intent } :=
  Table.memUpdate (by exact fun _ => rfl)

theorem memSetAttemptState {id state row} :
    row ∈ (w.setAttemptState id state).attempts ↔ (row ∈ w.attempts ∧ row.id ≠ id) ∨
      ∃ old ∈ w.attempts, old.id = id ∧ row = { old with state := state } :=
  Table.memUpdate (by exact fun _ => rfl)

end Rows

def insertEvents? (w : WorkflowRows) (events : List DomainEvent) : Option WorkflowRows :=
  (w.events.insertAll? events).map fun table => { w with events := table }

def insertAttempt? (w : WorkflowRows) (attempt : Attempt) : Option WorkflowRows :=
  (w.attempts.insert? attempt).map fun table => { w with attempts := table }

def insertWorkflow? (w : WorkflowRows) (job : Job) : Option WorkflowRows := do
  let jobs ← w.jobs.insert? ⟨job.id,job.endpointId,job.state⟩
  let jobSteps ← w.jobSteps.insertAll? job.steps
  some { w with jobs := jobs, jobSteps := jobSteps }

def fetchJobSteps (w : WorkflowRows) (jobId : JobId) : List JobStep :=
  (w.jobSteps.select fun step => step.jobId = jobId).insertionSort fun a b => a.order ≤ b.order

def loadJob (w : WorkflowRows) (jobId : JobId) : Option Job :=
  (w.jobs.find? jobId).map fun row => ⟨row.id,row.endpointId,row.state,w.fetchJobSteps jobId⟩

def existingActiveAttempt (w : WorkflowRows) (stepId : JobStepId) : Bool :=
  !(w.attempts.select fun a => a.jobStepId = stepId && a.state.isActive).isEmpty

-- `attempts JOIN job_steps`, restricted to Attempts of a dispatching JobStep of the Job.
def dispatchingAttempts (w : WorkflowRows) (jobId : JobId) (p : AttemptState → Bool) : List Attempt :=
  w.attempts.select fun a => p a.state && w.jobSteps.rows.any fun step =>
    step.id = a.jobStepId && step.jobId = jobId && step.state = .dispatching

def activeAttemptCandidateRows (w : WorkflowRows) (jobId : JobId) : List Attempt :=
  w.dispatchingAttempts jobId AttemptState.isActive

def endpointAttempts (w : WorkflowRows) (endpointId : EndpointId) : List Attempt :=
  w.attempts.select fun a => (a.state = .dispatched || a.state = .inProgress) &&
    w.jobSteps.rows.any fun step => step.id = a.jobStepId && step.state = .dispatching &&
      w.jobs.rows.any fun job => job.id = step.jobId && job.endpointId = endpointId

def persistApplied? (w : WorkflowRows) (applied : Applied) : Option WorkflowRows :=
  (((w.setAttemptState applied.attempt.id applied.attempt.state).setStepOutcome applied.jobStep.id
    applied.jobStep.state applied.jobStep.failureReason).setJobState applied.job.id
    applied.job.state).insertEvents? applied.events

end WorkflowRows

def Store.commitWorkflow (s : Store) (w : Option WorkflowRows) : Option Store :=
  w.bind fun w => commit w s.transfer

inductive CreateWorkflowError where
  | emptyWorkflow
  | endpointNotFound (id : EndpointId)
  | endpointNotEnrolled (id : EndpointId)
  | repository (error : RepositoryError)
  deriving DecidableEq, Repr

-- `identity` is the locked `identity_state` of the Endpoint row, if there is one.
def Store.createWorkflow (s : Store) (identity : Option IdentityState) (jobId : JobId)
    (stepId : Nat → JobStepId) (endpointId : EndpointId) (stepCount : Nat) :
    Store × Except CreateWorkflowError Job :=
  match Bamep.createWorkflow jobId stepId endpointId stepCount with
  | none => (s,.error .emptyWorkflow)
  | some job =>
    match identity with
    | none => (s,.error (.endpointNotFound endpointId))
    | some state =>
      if state ≠ .enrolled then (s,.error (.endpointNotEnrolled endpointId))
      else match s.commitWorkflow (s.workflow.insertWorkflow? job) with
        | none => (s,.error (.repository .database))
        | some s' => (s',.ok job)

inductive AuthorizeDestructiveIntentError where
  | jobStepNotFound (id : JobStepId) (jobId : JobId)
  | notEligible (id : JobStepId)
  | alreadyAuthorized (id : JobStepId)
  | repository (error : RepositoryError)
  deriving DecidableEq, Repr

def Store.authorizeDestructiveIntent (s : Store) (jobId : JobId) (stepId : JobStepId)
    (revision : InventoryRevisionId) (fingerprint : String) :
    Store × Except AuthorizeDestructiveIntentError DestructiveIntent :=
  match (s.workflow.jobSteps.find? stepId).filter fun step => step.jobId = jobId with
  | none => (s,.error (.jobStepNotFound stepId jobId))
  | some step =>
    match Bamep.authorizeDestructiveIntent step jobId revision fingerprint with
    | .error .wrongJob => (s,.error (.jobStepNotFound stepId jobId))
    | .error .notEligible => (s,.error (.notEligible stepId))
    | .error .alreadyAuthorized => (s,.error (.alreadyAuthorized stepId))
    | .ok intent =>
      match s.commitWorkflow (some (s.workflow.setStepIntent stepId intent)) with
      | none => (s,.error (.repository .database))
      | some s' => (s',.ok intent)

inductive AdmitJobError where
  | jobNotFound (id : JobId)
  | notEligible (id : JobId)
  | endpointNotAvailable
  | repository (error : RepositoryError)
  deriving DecidableEq, Repr

-- The first refusal is the partial unique index, the second a statement after it.
def Store.admitJob (s : Store) (jobId : JobId) (stamp : Stamp) : Store × Except AdmitJobError Job :=
  match s.workflow.loadJob jobId with
  | none => (s,.error (.jobNotFound jobId))
  | some job =>
    match Bamep.admitJob job stamp with
    | none => (s,.error (.notEligible jobId))
    | some outcome =>
      let admitted := s.workflow.setJobState jobId outcome.job.state
      match s.commitWorkflow (some admitted) with
      | none => (s,.error .endpointNotAvailable)
      | some _ =>
        match s.commitWorkflow (admitted.insertEvents? [outcome.event]) with
        | none => (s,.error (.repository .database))
        | some s' => (s',.ok outcome.job)

inductive SatisfyStepPreconditionsError where
  | jobNotFound (id : JobId)
  | jobNotRunning (id : JobId)
  | jobStepNotFound (id : JobStepId) (jobId : JobId)
  | notCurrent (id : JobStepId)
  | repository (error : RepositoryError)
  deriving DecidableEq, Repr

def Store.satisfyCurrentStepPreconditions (s : Store) (jobId : JobId) (stepId : JobStepId) :
    Store × Except SatisfyStepPreconditionsError JobStep :=
  match s.workflow.loadJob jobId with
  | none => (s,.error (.jobNotFound jobId))
  | some job =>
    match satisfyPreliminaryPreconditions job stepId with
    | .error .jobNotRunning => (s,.error (.jobNotRunning jobId))
    | .error .stepNotFound => (s,.error (.jobStepNotFound stepId jobId))
    | .error .notCurrent => (s,.error (.notCurrent stepId))
    | .ok step =>
      match s.commitWorkflow (some (s.workflow.setStepState stepId step.state)) with
      | none => (s,.error (.repository .database))
      | some s' => (s',.ok step)

def Store.revertStep (s : Store) (stepId : JobStepId) (pending : Option JobStep) : Store :=
  match pending with
  | none => s
  | some step => (s.commitWorkflow (some (s.workflow.setStepState stepId step.state))).getD s

inductive CommitDispatchError (rejection : Type) where
  | jobNotFound (id : JobId)
  | transferNotFound (id : TransferId)
  | rejected (reason : rejection)
  | repository (error : RepositoryError)
  deriving DecidableEq, Repr

-- `facts` stands for the locked Endpoint aggregate, its inventory revision, presence and target.
def Store.commitDestructiveDispatch (s : Store) (jobId : JobId) (stepId : JobStepId)
    (facts : EndpointFacts) (attemptId : AttemptId) (actionId : ActionId) :
    Store × Except (CommitDispatchError FinalDispatchRejection) FinalDispatchOutcome :=
  match s.workflow.loadJob jobId with
  | none => (s,.error (.jobNotFound jobId))
  | some job =>
    match evaluateFinalDestructiveDispatch job stepId (s.workflow.existingActiveAttempt stepId) facts
        attemptId actionId with
    | .error denial => (s.revertStep stepId denial.pendingJobStep,.error (.rejected denial.reason))
    | .ok outcome =>
      match s.commitWorkflow ((s.workflow.setStepState stepId outcome.jobStep.state).insertAttempt?
          outcome.attempt) with
      | none => (s,.error (.repository .database))
      | some s' => (s',.ok outcome)

def Store.commitTransferDispatch (s : Store) (jobId : JobId) (stepId : JobStepId)
    (transferId : TransferId) (attemptId : AttemptId) (actionId : ActionId) :
    Store × Except (CommitDispatchError TransferDispatchRejection) TransferDispatchOutcome :=
  match s.workflow.loadJob jobId with
  | none => (s,.error (.jobNotFound jobId))
  | some job =>
    match s.transfer.loadLockedFacts transferId with
    | .error e => (s,.error (.repository e))
    | .ok none => (s,.error (.transferNotFound transferId))
    | .ok (some facts) =>
      match evaluateTransferDispatch job stepId (s.workflow.existingActiveAttempt stepId)
          facts.transfer attemptId actionId with
      | .error denial => (s.revertStep stepId denial.pendingJobStep,.error (.rejected denial.reason))
      | .ok outcome =>
        match ((s.workflow.setStepState stepId outcome.jobStep.state).insertAttempt?
            outcome.attempt).bind fun w =>
              commit w (s.transfer.setAttemptBinding transferId outcome.attempt.id) with
        | none => (s,.error (.repository .database))
        | some s' => (s',.ok outcome)

structure EvidenceFacts where
  job : Job
  jobStep : JobStep
  attempt : Attempt
  deriving DecidableEq, Repr

inductive ApplyActionEvidenceError where
  | unknownAction
  | repository (error : RepositoryError)
  deriving DecidableEq, Repr

def WorkflowRows.findAction (w : WorkflowRows) (actionId : ActionId) : Option Attempt :=
  w.attempts.rows.find? fun a => a.actionId = actionId

def WorkflowRows.loadOwners (w : WorkflowRows) (attempt : Attempt) :
    Except RepositoryError EvidenceFacts :=
  match w.jobSteps.find? attempt.jobStepId with
  | none => .error (.backend "attempt references a job_step that no longer exists")
  | some jobStep =>
    match w.loadJob jobStep.jobId with
    | none => .error (.backend "job_step references a job that no longer exists")
    | some job => .ok ⟨job,jobStep,attempt⟩

inductive EvidenceDecision where
  | noOp
  | conflict
  | applied (applied : Applied)
  deriving DecidableEq, Repr

def EvidenceDecision.ofOutcome : EvidenceOutcome → EvidenceDecision
  | none => .noOp
  | some decided => .applied decided

def EvidenceDecision.applied? : EvidenceDecision → Option Applied
  | .applied decided => some decided
  | .noOp | .conflict => none

def EvidenceDecision.ofActionEvidence : ActionEvidenceOutcome → EvidenceDecision
  | .noOp => .noOp
  | .conflict => .conflict
  | .applied decided => .applied decided

-- The common body of `apply_action_evidence`, `apply_cancel_ack` and `apply_status_report`.
def Store.applyEvidence (s : Store) (actionId : ActionId) (endpointId : EndpointId)
    (decide : EvidenceFacts → EvidenceDecision) :
    Store × Except ApplyActionEvidenceError EvidenceDecision :=
  match s.workflow.findAction actionId with
  | none => (s,.error .unknownAction)
  | some attempt =>
    match s.workflow.loadOwners attempt with
    | .error e => (s,.error (.repository e))
    | .ok facts =>
      if facts.job.endpointId ≠ endpointId then (s,.error .unknownAction)
      else match decide facts with
        | .noOp => (s,.ok .noOp)
        | .conflict => (s,.ok .conflict)
        | .applied applied =>
          match s.commitWorkflow (s.workflow.persistApplied? applied) with
          | none => (s,.error (.repository .database))
          | some s' => (s',.ok (.applied applied))

def Store.applyActionEvidence (s : Store) (actionId : ActionId) (endpointId : EndpointId)
    (evidence : ActionEvidence) (stamp : Stamp) :
    Store × Except ApplyActionEvidenceError EvidenceDecision :=
  s.applyEvidence actionId endpointId fun facts =>
    .ofActionEvidence (Bamep.applyActionEvidence facts.job facts.jobStep facts.attempt evidence stamp)

def Store.applyCancelAck (s : Store) (actionId : ActionId) (endpointId : EndpointId)
    (evidence : CancelAckEvidence) (stamp : Stamp) :
    Store × Except ApplyActionEvidenceError EvidenceDecision :=
  s.applyEvidence actionId endpointId fun facts =>
    .ofOutcome (Bamep.applyCancelAck facts.job facts.jobStep facts.attempt evidence stamp)

def Store.applyStatusReport (s : Store) (actionId : ActionId) (endpointId : EndpointId)
    (evidence : StatusReportEvidence) (stamp : Stamp) :
    Store × Except ApplyActionEvidenceError EvidenceDecision :=
  s.applyEvidence actionId endpointId fun facts =>
    .ofOutcome (Bamep.applyStatusReport facts.job facts.jobStep facts.attempt evidence stamp)

inductive RequestCancellationError where
  | jobNotFound (id : JobId)
  | notEligible (id : JobId)
  | repository (error : RepositoryError)
  deriving DecidableEq, Repr

/- One atomic pass. The candidate scan before the lock and the re-scan under it read the same rows,
so a candidate never goes stale and the retry loop is entered once. -/
def Store.requestCancellation (s : Store) (jobId : JobId) (stamp : Stamp) :
    Store × Except RequestCancellationError CancellationRequestOutcome :=
  let candidates := s.workflow.activeAttemptCandidateRows jobId
  if 1 < candidates.length then
    (s,.error (.repository (.backend
      "invariant violation: more than one simultaneously active/uncertain attempt for job")))
  else match s.workflow.loadJob jobId with
    | none => (s,.error (.jobNotFound jobId))
    | some job =>
      match Bamep.requestCancellation job candidates.head? stamp with
      | none => (s,.error (.notEligible jobId))
      | some .alreadyCancelling => (s,.ok .alreadyCancelling)
      | some .alreadyTerminal => (s,.ok .alreadyTerminal)
      | some (.enteredCancelling job' attemptId actionId) =>
        match s.commitWorkflow (some (s.workflow.setJobState jobId job'.state)) with
        | none => (s,.error (.repository .database))
        | some s' => (s',.ok (.enteredCancelling job' attemptId actionId))
      | some (.completedImmediately job' event) =>
        match s.commitWorkflow ((s.workflow.setJobState jobId job'.state).insertEvents? [event]) with
        | none => (s,.error (.repository .database))
        | some s' => (s',.ok (.completedImmediately job' event))

-- The session-loss path: only the Attempt of the expected action is marked.
def Store.markEndpointUncertain (s : Store) (endpointId : EndpointId) (expected : ActionId) :
    Store × Except RepositoryError (Option AttemptId) :=
  let candidates := s.workflow.endpointAttempts endpointId
  if 1 < candidates.length then
    (s,.error (.backend "invariant violation: more than one active attempt for endpoint"))
  else match candidates.head? with
    | none => (s,.ok none)
    | some attempt =>
      match if attempt.actionId ≠ expected then none else markAwaitingReconciliation attempt with
      | none => (s,.ok none)
      | some updated =>
        match s.commitWorkflow (some (s.workflow.setAttemptState updated.id updated.state)) with
        | none => (s,.error .database)
        | some s' => (s',.ok (some updated.id))

theorem markKeepsId (attempt : Attempt) :
    ((markAwaitingReconciliation attempt).getD attempt).id = attempt.id := by
  unfold markAwaitingReconciliation
  split <;> rfl

def WorkflowRows.markAll (w : WorkflowRows) : WorkflowRows :=
  { w with
    attempts := w.attempts.updateWhere (fun a => a.state = .dispatched || a.state = .inProgress)
      (fun a => (markAwaitingReconciliation a).getD a) markKeepsId }

def Store.reconcileAllActiveAttemptsOnStartup (s : Store) : Store :=
  (s.commitWorkflow (some s.workflow.markAll)).getD s

inductive CloseIndeterminateError where
  | noUncertainAttempt (id : JobId)
  | jobNotFound (id : JobId)
  | repository (error : RepositoryError)
  deriving DecidableEq, Repr

def CloseIndeterminateOutcome.applied? : CloseIndeterminateOutcome → Option Applied
  | .applied decided => some decided
  | .alreadyIndeterminate | .notEligible => none

def Store.closeIndeterminate (s : Store) (jobId : JobId) (stamp : Stamp) :
    Store × Except CloseIndeterminateError CloseIndeterminateOutcome :=
  let candidates := s.workflow.dispatchingAttempts jobId (· = .awaitingReconciliation)
  if 1 < candidates.length then
    (s,.error (.repository (.backend
      "invariant violation: more than one AwaitingReconciliation attempt for job")))
  else match candidates.head? with
    | none => (s,.error (.noUncertainAttempt jobId))
    | some attempt =>
      match s.workflow.jobSteps.find? attempt.jobStepId with
      | none =>
        (s,.error (.repository (.backend "attempt references a job_step that no longer exists")))
      | some jobStep =>
        match s.workflow.loadJob jobId with
        | none => (s,.error (.jobNotFound jobId))
        | some job =>
          match Bamep.closeIndeterminate job jobStep attempt stamp with
          | .alreadyIndeterminate => (s,.ok .alreadyIndeterminate)
          | .notEligible => (s,.ok .notEligible)
          | .applied applied =>
            match s.commitWorkflow (s.workflow.persistApplied? applied) with
            | none => (s,.error (.repository .database))
            | some s' => (s',.ok (.applied applied))

end Bamep
