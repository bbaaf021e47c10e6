import Mathlib.Algebra.Ring.Int.Defs
import Mathlib.Algebra.Ring.Nat
import Mathlib.Data.List.Basic

/-! Jobs, JobSteps, Attempts and the events they emit, with workflow creation, authorization of a
destructive intent, admission and preliminary eligibility.
Generated UUIDs are arguments: `Stamp.eventId i` is the i-th event id one call generates.
Endpoint-scoped events are left out; no operation on a Job emits one. -/
namespace Bamep

inductive Entity where
  | endpoint | job | jobStep | attempt | action | transfer | artifact | event | inventoryRevision
  deriving DecidableEq, Repr

structure Id (entity : Entity) where
  uuid : Nat
  deriving DecidableEq, Repr

abbrev EndpointId := Id .endpoint
abbrev JobId := Id .job
abbrev JobStepId := Id .jobStep
abbrev AttemptId := Id .attempt
abbrev ActionId := Id .action
abbrev EventId := Id .event
abbrev InventoryRevisionId := Id .inventoryRevision

/-- Nanoseconds since the Unix epoch. -/
abbrev Instant := Int

inductive JobState where
  | pending | running | cancelling | succeeded | failed | cancelled
  deriving DecidableEq, Repr

inductive JobStepState where
  | pending | preconditionsSatisfied | dispatching | succeeded | failed | cancelled
  deriving DecidableEq, Repr

inductive JobStepFailureReason where
  | dispatchRejected | executionFailed | reconciliationIndeterminate
  deriving DecidableEq, Repr

inductive AttemptState where
  | dispatched | inProgress | awaitingReconciliation
  | succeeded | failed | cancelled | rejected | indeterminate
  deriving DecidableEq, Repr

def JobState.isTerminal : JobState → Bool
  | .succeeded | .failed | .cancelled => true
  | .pending | .running | .cancelling => false

/-- The predicate of the partial index `jobs_active_endpoint_exclusivity`. -/
def JobState.occupiesEndpoint : JobState → Bool
  | .running | .cancelling => true
  | .pending | .succeeded | .failed | .cancelled => false

def AttemptState.isActive : AttemptState → Bool
  | .dispatched | .inProgress | .awaitingReconciliation => true
  | .succeeded | .failed | .cancelled | .rejected | .indeterminate => false

structure DestructiveIntent where
  authorizedInventoryRevisionId : InventoryRevisionId
  authorizedTargetFingerprint : String
  deriving DecidableEq, Repr

structure JobStep where
  id : JobStepId
  jobId : JobId
  order : Int
  state : JobStepState
  destructiveIntent : Option DestructiveIntent
  failureReason : Option JobStepFailureReason
  deriving DecidableEq, Repr

structure Job where
  id : JobId
  endpointId : EndpointId
  state : JobState
  steps : List JobStep
  deriving DecidableEq, Repr

structure Attempt where
  id : AttemptId
  jobStepId : JobStepId
  actionId : ActionId
  state : AttemptState
  deriving DecidableEq, Repr

inductive DomainEventKind where
  | jobStarted
  | jobSucceeded
  | jobFailed
  | jobCancelled
  | jobStepFailed (jobStepId : JobStepId)
  | attemptIndeterminate (jobStepId : JobStepId) (attemptId : AttemptId)
  deriving DecidableEq, Repr

structure DomainEvent where
  eventId : EventId
  jobId : JobId
  endpointId : EndpointId
  occurredAt : Instant
  kind : DomainEventKind
  deriving DecidableEq, Repr

structure Stamp where
  eventId : Nat → EventId
  now : Instant

def Job.event (job : Job) (stamp : Stamp) (i : Nat) (kind : DomainEventKind) : DomainEvent :=
  ⟨stamp.eventId i,job.id,job.endpointId,stamp.now,kind⟩

/-- The `as i32` cast. -/
def asI32 (n : Nat) : Int := (n : Int).bmod (2 ^ 32)

theorem asI32Small {n} (small : n < 2 ^ 31) : asI32 n = n := by
  unfold asI32
  exact Int.bmod_eq_of_le (by omega) (by omega)

def workflowStep (jobId : JobId) (stepId : Nat → JobStepId) (order : Nat) : JobStep :=
  ⟨stepId order,jobId,asI32 order,.pending,none,none⟩

/-- `none` is `EmptyWorkflow`. -/
def createWorkflow (jobId : JobId) (stepId : Nat → JobStepId) (endpointId : EndpointId)
    (stepCount : Nat) : Option Job :=
  if stepCount = 0 then none
  else some ⟨jobId,endpointId,.pending,(List.range stepCount).map (workflowStep jobId stepId)⟩

inductive DestructiveIntentError where
  | wrongJob | notEligible | alreadyAuthorized
  deriving DecidableEq, Repr

def authorizeDestructiveIntent (step : JobStep) (jobId : JobId) (revision : InventoryRevisionId)
    (fingerprint : String) : Except DestructiveIntentError DestructiveIntent :=
  if step.jobId ≠ jobId then .error .wrongJob
  else if step.state ≠ .pending then .error .notEligible
  else if step.destructiveIntent.isSome then .error .alreadyAuthorized
  else .ok ⟨revision,fingerprint⟩

theorem authorizedOnce {step jobId revision fingerprint intent}
    (ok : authorizeDestructiveIntent step jobId revision fingerprint = .ok intent) :
    step.destructiveIntent = none := by
  unfold authorizeDestructiveIntent at ok
  repeat' split at ok <;> try contradiction
  rename_i absent
  simpa using absent

structure JobAdmissionOutcome where
  job : Job
  event : DomainEvent
  deriving DecidableEq, Repr

/-- `none` is `JobAdmissionError::NotPending`. -/
def admitJob (job : Job) (stamp : Stamp) : Option JobAdmissionOutcome :=
  if job.state ≠ .pending then none
  else some ⟨{ job with state := .running },job.event stamp 0 .jobStarted⟩

def Job.earlierSucceeded (job : Job) (step : JobStep) : Bool :=
  (job.steps.filter fun s => s.order < step.order).all fun s => s.state = .succeeded

inductive JobStepEligibilityError where
  | jobNotRunning | stepNotFound | notCurrent
  deriving DecidableEq, Repr

def satisfyPreliminaryPreconditions (job : Job) (stepId : JobStepId) :
    Except JobStepEligibilityError JobStep :=
  if job.state ≠ .running then .error .jobNotRunning
  else match job.steps.find? fun step => step.id = stepId with
    | none => .error .stepNotFound
    | some candidate =>
      if candidate.state ≠ .pending then .error .notCurrent
      else if !job.earlierSucceeded candidate then .error .notCurrent
      else .ok { candidate with state := .preconditionsSatisfied }

theorem earlierSucceededIff {job : Job} {step} :
    job.earlierSucceeded step = true ↔ ∀ s ∈ job.steps, s.order < step.order → s.state = .succeeded := by
  simp only [Job.earlierSucceeded,List.all_eq_true,List.mem_filter,decide_eq_true_eq,and_imp]

theorem admitJobSome {job stamp outcome}
    (ok : admitJob job stamp = some outcome) :
    job.state = .pending ∧ outcome = ⟨{ job with state := .running },job.event stamp 0 .jobStarted⟩ := by
  unfold admitJob at ok
  split at ok
  · contradiction
  · rename_i pending
    exact ⟨not_not.mp pending,(Option.some.inj ok).symm⟩

theorem findStepMem {job : Job} {stepId step}
    (found : job.steps.find? (fun step => step.id = stepId) = some step) :
    step ∈ job.steps ∧ step.id = stepId :=
  ⟨List.mem_of_find?_eq_some found,by simpa using List.find?_some found⟩

theorem satisfyPreliminaryPreconditionsOk {job : Job} {stepId updated}
    (ok : satisfyPreliminaryPreconditions job stepId = .ok updated) :
    job.state = .running ∧ ∃ step ∈ job.steps, step.id = stepId ∧ step.state = .pending ∧
      (∀ s ∈ job.steps, s.order < step.order → s.state = .succeeded) ∧
      updated = { step with state := .preconditionsSatisfied } := by
  unfold satisfyPreliminaryPreconditions at ok
  split at ok
  · contradiction
  rename_i running
  split at ok
  · contradiction
  rename_i step found
  split at ok
  · contradiction
  rename_i pending
  split at ok
  · contradiction
  rename_i earlier
  obtain ⟨mem,same⟩ := findStepMem found
  refine ⟨not_not.mp running,step,mem,same,not_not.mp pending,?_,(Except.ok.inj ok).symm⟩
  exact earlierSucceededIff.mp (by simpa using earlier)

theorem createWorkflowSome {jobId stepId endpointId stepCount job}
    (ok : createWorkflow jobId stepId endpointId stepCount = some job) :
    0 < stepCount ∧
      job = ⟨jobId,endpointId,.pending,(List.range stepCount).map (workflowStep jobId stepId)⟩ := by
  unfold createWorkflow at ok
  split at ok
  · contradiction
  · exact ⟨by omega,(Option.some.inj ok).symm⟩

end Bamep
