import Bamep.Domain.Endpoint
import Bamep.Domain.Transfer

/-! The two dispatch gates. A denial carries the JobStep to persist, if any: a failed final
revalidation reverts the JobStep to `pending`, a structural mismatch changes nothing. -/
namespace Bamep

structure EndpointFacts where
  identityEnrolled : Bool
  credentialActive : Bool
  agentPresent : Bool
  currentInventoryRevisionId : Option InventoryRevisionId
  currentTargetFingerprint : Option String
  hardwareConfidence : HardwareConfidence
  trustedBootstrapEstablished : Bool
  deriving DecidableEq, Repr

inductive FinalDispatchRejection where
  | stepNotFound | notPreconditionsSatisfied | jobNotRunning | notCurrentStep
  | existingActiveAttempt | noDestructiveIntent | identityNotEnrolled | credentialNotActive
  | agentNotPresent | staleInventory | targetMismatch | hardwareConfidenceNotConsistent
  | trustedBootstrapNotEstablished
  deriving DecidableEq, Repr

-- The checks of the destructive gate that read Endpoint facts, in the order the source makes them.
def EndpointFacts.rejection (facts : EndpointFacts) (intent : DestructiveIntent) :
    Option FinalDispatchRejection :=
  if !facts.identityEnrolled then some .identityNotEnrolled
  else if !facts.credentialActive then some .credentialNotActive
  else if !facts.agentPresent then some .agentNotPresent
  else if facts.currentInventoryRevisionId ≠ some intent.authorizedInventoryRevisionId then
    some .staleInventory
  else if facts.currentTargetFingerprint ≠ some intent.authorizedTargetFingerprint then
    some .targetMismatch
  else if facts.hardwareConfidence ≠ .consistent then some .hardwareConfidenceNotConsistent
  else if !facts.trustedBootstrapEstablished then some .trustedBootstrapNotEstablished
  else none

theorem rejectionNone {facts : EndpointFacts} {intent} :
    facts.rejection intent = none ↔ facts.identityEnrolled = true ∧ facts.credentialActive = true ∧
      facts.agentPresent = true ∧
      facts.currentInventoryRevisionId = some intent.authorizedInventoryRevisionId ∧
      facts.currentTargetFingerprint = some intent.authorizedTargetFingerprint ∧
      facts.hardwareConfidence = .consistent ∧ facts.trustedBootstrapEstablished = true := by
  unfold EndpointFacts.rejection
  constructor
  · intro cleared
    repeat' split at cleared <;> try contradiction
    simp_all
  · rintro ⟨enrolled,active,present,revision,target,hardware,trusted⟩
    simp [enrolled,active,present,revision,target,hardware,trusted]

structure Denial (rejection : Type) where
  reason : rejection
  pendingJobStep : Option JobStep
  deriving DecidableEq, Repr

def Denial.structural {rejection : Type} (reason : rejection) : Denial rejection := ⟨reason,none⟩

def Denial.revalidationFailure {rejection : Type} (reason : rejection) (step : JobStep) :
    Denial rejection :=
  ⟨reason,some { step with state := .pending }⟩

structure FinalDispatchOutcome where
  jobStep : JobStep
  attempt : Attempt
  deriving DecidableEq, Repr

def evaluateFinalDestructiveDispatch (job : Job) (stepId : JobStepId) (existingActiveAttempt : Bool)
    (facts : EndpointFacts) (attemptId : AttemptId) (actionId : ActionId) :
    Except (Denial FinalDispatchRejection) FinalDispatchOutcome :=
  match job.steps.find? fun s => s.id = stepId with
  | none => .error (.structural .stepNotFound)
  | some step =>
    if step.state ≠ .preconditionsSatisfied then .error (.structural .notPreconditionsSatisfied)
    else if job.state ≠ .running then .error (.revalidationFailure .jobNotRunning step)
    else if !job.earlierSucceeded step then .error (.revalidationFailure .notCurrentStep step)
    else if existingActiveAttempt then .error (.revalidationFailure .existingActiveAttempt step)
    else match step.destructiveIntent with
      | none => .error (.revalidationFailure .noDestructiveIntent step)
      | some intent =>
        match facts.rejection intent with
        | some reason => .error (.revalidationFailure reason step)
        | none => .ok ⟨{ step with state := .dispatching },⟨attemptId,step.id,actionId,.dispatched⟩⟩

inductive TransferDispatchRejection where
  | stepNotFound | notPreconditionsSatisfied | stepIsDestructive | transferCorrelationMismatch
  | jobNotRunning | notCurrentStep | existingActiveAttempt | transferAlreadyBound
  deriving DecidableEq, Repr

structure TransferDispatchOutcome where
  jobStep : JobStep
  attempt : Attempt
  transfer : Transfer
  deriving DecidableEq, Repr

def evaluateTransferDispatch (job : Job) (stepId : JobStepId) (existingActiveAttempt : Bool)
    (transfer : Transfer) (attemptId : AttemptId) (actionId : ActionId) :
    Except (Denial TransferDispatchRejection) TransferDispatchOutcome :=
  match job.steps.find? fun s => s.id = stepId with
  | none => .error (.structural .stepNotFound)
  | some step =>
    if step.state ≠ .preconditionsSatisfied then .error (.structural .notPreconditionsSatisfied)
    else if step.destructiveIntent.isSome then .error (.structural .stepIsDestructive)
    else if transfer.jobId ≠ job.id ∨ transfer.jobStepId ≠ stepId ∨
        transfer.endpointId ≠ job.endpointId then .error (.structural .transferCorrelationMismatch)
    else if job.state ≠ .running then .error (.revalidationFailure .jobNotRunning step)
    else if !job.earlierSucceeded step then .error (.revalidationFailure .notCurrentStep step)
    else if existingActiveAttempt then .error (.revalidationFailure .existingActiveAttempt step)
    else
      let attempt : Attempt := ⟨attemptId,step.id,actionId,.dispatched⟩
      match bindAttempt transfer attempt with
      | .error .conflictingRebind => .error (.revalidationFailure .transferAlreadyBound step)
      | .error .wrongJobStep => .error (.structural .transferCorrelationMismatch)
      | .ok bound => .ok ⟨{ step with state := .dispatching },attempt,bound⟩

structure Dispatchable (job : Job) (stepId : JobStepId) (existingActiveAttempt : Bool)
    (step : JobStep) : Prop where
  mem : step ∈ job.steps
  named : step.id = stepId
  satisfied : step.state = .preconditionsSatisfied
  running : job.state = .running
  current : ∀ s ∈ job.steps, s.order < step.order → s.state = .succeeded
  alone : existingActiveAttempt = false

def Reverts (job : Job) (stepId : JobStepId) {rejection : Type} (denial : Denial rejection) : Prop :=
  denial.pendingJobStep = none ∨ ∃ step ∈ job.steps, step.id = stepId ∧
    step.state = .preconditionsSatisfied ∧
    denial.pendingJobStep = some { step with state := .pending }

section Gates
variable {job : Job} {stepId : JobStepId} {active : Bool} {attemptId : AttemptId} {actionId : ActionId}

theorem finalDispatchOk {facts outcome}
    (ok : evaluateFinalDestructiveDispatch job stepId active facts attemptId actionId = .ok outcome) :
    ∃ step, Dispatchable job stepId active step ∧
      (∃ intent, step.destructiveIntent = some intent ∧ facts.rejection intent = none) ∧
      outcome = ⟨{ step with state := .dispatching },⟨attemptId,step.id,actionId,.dispatched⟩⟩ := by
  unfold evaluateFinalDestructiveDispatch at ok
  split at ok
  · contradiction
  rename_i step found
  split at ok
  · contradiction
  rename_i satisfied
  split at ok
  · contradiction
  rename_i running
  split at ok
  · contradiction
  rename_i current
  split at ok
  · contradiction
  rename_i alone
  split at ok
  · contradiction
  rename_i intent authorized
  split at ok
  · contradiction
  rename_i cleared
  obtain ⟨mem,named⟩ := findStepMem found
  refine ⟨step,⟨mem,named,not_not.mp satisfied,not_not.mp running,?_,by simpa using alone⟩,
    ⟨intent,authorized,cleared⟩,(Except.ok.inj ok).symm⟩
  exact earlierSucceededIff.mp (by simpa using current)

theorem transferDispatchOk {transfer outcome}
    (ok : evaluateTransferDispatch job stepId active transfer attemptId actionId = .ok outcome) :
    ∃ step, Dispatchable job stepId active step ∧ step.destructiveIntent = none ∧ transfer.jobStepId = stepId ∧
      (transfer.attemptId = none ∨ transfer.attemptId = some attemptId) ∧
      outcome = ⟨{ step with state := .dispatching },⟨attemptId,step.id,actionId,.dispatched⟩,
        { transfer with attemptId := some attemptId }⟩ := by
  unfold evaluateTransferDispatch at ok
  split at ok
  · contradiction
  rename_i step found
  split at ok
  · contradiction
  rename_i satisfied
  split at ok
  · contradiction
  rename_i plain
  split at ok
  · contradiction
  rename_i correlated
  split at ok
  · contradiction
  rename_i running
  split at ok
  · contradiction
  rename_i current
  split at ok
  · contradiction
  rename_i alone
  obtain ⟨mem,named⟩ := findStepMem found
  simp only [not_or,not_not] at correlated
  rw [Option.isSome_iff_ne_none,not_not] at plain
  have open' : Dispatchable job stepId active step :=
    ⟨mem,named,not_not.mp satisfied,not_not.mp running,
      earlierSucceededIff.mp (by simpa using current),by simpa using alone⟩
  simp only at ok
  split at ok <;> try contradiction
  rename_i bound binding
  cases Except.ok.inj ok
  unfold bindAttempt at binding
  split at binding
  · contradiction
  split at binding
  · split at binding
    · contradiction
    · rename_i existing same
      cases Except.ok.inj binding
      exact ⟨step,open',plain,correlated.2.1,.inr (existing.trans (congrArg some (not_not.mp same))),rfl⟩
  · cases Except.ok.inj binding
    exact ⟨step,open',plain,correlated.2.1,.inl ‹_›,rfl⟩

theorem finalDispatchDenied {facts denial}
    (denied : evaluateFinalDestructiveDispatch job stepId active facts attemptId actionId =
      .error denial) : Reverts job stepId denial := by
  unfold evaluateFinalDestructiveDispatch at denied
  split at denied
  · cases Except.error.inj denied; exact .inl rfl
  rename_i step found
  obtain ⟨mem,named⟩ := findStepMem found
  split at denied
  · cases Except.error.inj denied; exact .inl rfl
  rename_i satisfied
  have reverts : ∀ reason, Reverts job stepId
      (Denial.revalidationFailure (reason : FinalDispatchRejection) step) := fun reason =>
    .inr ⟨step,mem,named,not_not.mp satisfied,rfl⟩
  repeat' split at denied
  all_goals first
    | contradiction
    | (cases Except.error.inj denied; exact reverts _)

theorem transferDispatchDenied {transfer denial}
    (denied : evaluateTransferDispatch job stepId active transfer attemptId actionId =
      .error denial) : Reverts job stepId denial := by
  unfold evaluateTransferDispatch at denied
  split at denied
  · cases Except.error.inj denied; exact .inl rfl
  rename_i step found
  obtain ⟨mem,named⟩ := findStepMem found
  split at denied
  · cases Except.error.inj denied; exact .inl rfl
  rename_i satisfied
  have reverts : ∀ reason, Reverts job stepId
      (Denial.revalidationFailure (reason : TransferDispatchRejection) step) := fun reason =>
    .inr ⟨step,mem,named,not_not.mp satisfied,rfl⟩
  simp only at denied
  repeat' split at denied
  all_goals first
    | contradiction
    | (cases Except.error.inj denied; exact reverts _)
    | (cases Except.error.inj denied; exact .inl rfl)

end Gates
end Bamep
