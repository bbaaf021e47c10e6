import Bamep.Library.Run
import Bamep.Store.JobRepository

/-! The transition system of the Job repository: one operation is one atomic transaction.
`Effect` lists everything an operation can do to the workflow rows, with the guards it was decided
under; the invariants of the other modules are proved from it and never unfold an operation. -/
namespace Bamep
open Relational

inductive JobOp where
  | createWorkflow (identity : Option IdentityState) (jobId : JobId) (stepId : Nat → JobStepId)
      (endpointId : EndpointId) (stepCount : Nat)
  | authorizeDestructiveIntent (jobId : JobId) (stepId : JobStepId) (revision : InventoryRevisionId)
      (fingerprint : String)
  | createTransferContext (endpointExists : Bool) (id : TransferId) (artifactId : ArtifactId)
      (endpointId : EndpointId) (jobId : JobId) (stepId : JobStepId) (direction : TransferDirection)
      (algorithm : DigestAlgorithm) (chunkSize : ChunkSize) (provenance : String)
  | admitJob (jobId : JobId) (stamp : Stamp)
  | satisfyCurrentStepPreconditions (jobId : JobId) (stepId : JobStepId)
  | commitDestructiveDispatch (jobId : JobId) (stepId : JobStepId) (facts : EndpointFacts)
      (attemptId : AttemptId) (actionId : ActionId)
  | commitTransferDispatch (jobId : JobId) (stepId : JobStepId) (transferId : TransferId)
      (attemptId : AttemptId) (actionId : ActionId)
  | requestCancellation (jobId : JobId) (stamp : Stamp)
  | markEndpointUncertain (endpointId : EndpointId) (expected : ActionId)
  | reconcileAllActiveAttemptsOnStartup
  | closeIndeterminate (jobId : JobId) (stamp : Stamp)
  | applyActionEvidence (actionId : ActionId) (endpointId : EndpointId) (evidence : ActionEvidence)
      (stamp : Stamp)
  | applyCancelAck (actionId : ActionId) (endpointId : EndpointId) (evidence : CancelAckEvidence)
      (stamp : Stamp)
  | applyStatusReport (actionId : ActionId) (endpointId : EndpointId)
      (evidence : StatusReportEvidence) (stamp : Stamp)

def Store.after (s : Store) : JobOp → Store
  | .createWorkflow identity jobId stepId endpointId stepCount =>
    (s.createWorkflow identity jobId stepId endpointId stepCount).1
  | .authorizeDestructiveIntent jobId stepId revision fingerprint =>
    (s.authorizeDestructiveIntent jobId stepId revision fingerprint).1
  | .createTransferContext endpointExists id artifactId endpointId jobId stepId direction algorithm
      chunkSize provenance =>
    (s.createTransferContext endpointExists (Bamep.createTransferContext id artifactId endpointId jobId
      stepId direction algorithm chunkSize provenance)).1
  | .admitJob jobId stamp => (s.admitJob jobId stamp).1
  | .satisfyCurrentStepPreconditions jobId stepId => (s.satisfyCurrentStepPreconditions jobId stepId).1
  | .commitDestructiveDispatch jobId stepId facts attemptId actionId =>
    (s.commitDestructiveDispatch jobId stepId facts attemptId actionId).1
  | .commitTransferDispatch jobId stepId transferId attemptId actionId =>
    (s.commitTransferDispatch jobId stepId transferId attemptId actionId).1
  | .requestCancellation jobId stamp => (s.requestCancellation jobId stamp).1
  | .markEndpointUncertain endpointId expected => (s.markEndpointUncertain endpointId expected).1
  | .reconcileAllActiveAttemptsOnStartup => s.reconcileAllActiveAttemptsOnStartup
  | .closeIndeterminate jobId stamp => (s.closeIndeterminate jobId stamp).1
  | .applyActionEvidence actionId endpointId evidence stamp =>
    (s.applyActionEvidence actionId endpointId evidence stamp).1
  | .applyCancelAck actionId endpointId evidence stamp =>
    (s.applyCancelAck actionId endpointId evidence stamp).1
  | .applyStatusReport actionId endpointId evidence stamp =>
    (s.applyStatusReport actionId endpointId evidence stamp).1

def JobOp.dispatches : JobOp → Bool
  | .commitDestructiveDispatch .. | .commitTransferDispatch .. => true
  | _ => false

structure Locked (w : WorkflowRows) (facts : EvidenceFacts) : Prop where
  attempt : facts.attempt ∈ w.attempts
  step : facts.jobStep ∈ w.jobSteps
  owner : facts.jobStep.id = facts.attempt.jobStepId
  job : w.loadJob facts.jobStep.jobId = some facts.job

def JobOp.Decides (facts : EvidenceFacts) (applied : Applied) : JobOp → Prop
  | .applyActionEvidence actionId endpointId evidence stamp =>
    facts.attempt.actionId = actionId ∧ facts.job.endpointId = endpointId ∧
      Bamep.applyActionEvidence facts.job facts.jobStep facts.attempt evidence stamp = .applied applied
  | .applyCancelAck actionId endpointId evidence stamp =>
    facts.attempt.actionId = actionId ∧ facts.job.endpointId = endpointId ∧
      Bamep.applyCancelAck facts.job facts.jobStep facts.attempt evidence stamp = some applied
  | .applyStatusReport actionId endpointId evidence stamp =>
    facts.attempt.actionId = actionId ∧ facts.job.endpointId = endpointId ∧
      Bamep.applyStatusReport facts.job facts.jobStep facts.attempt evidence stamp = some applied
  | .closeIndeterminate jobId stamp =>
    facts.job.id = jobId ∧
      Bamep.closeIndeterminate facts.job facts.jobStep facts.attempt stamp = .applied applied
  | _ => False

inductive Effect (w : WorkflowRows) : JobOp → WorkflowRows → Prop where
  | unchanged (op) : Effect w op w
  | created {identity jobId stepId endpointId stepCount job w'}
      (built : Bamep.createWorkflow jobId stepId endpointId stepCount = some job)
      (ok : w.insertWorkflow? job = some w') :
      Effect w (.createWorkflow identity jobId stepId endpointId stepCount) w'
  | authorized {jobId stepId revision fingerprint intent}
      (absent : ∀ step ∈ w.jobSteps, step.id = stepId → step.destructiveIntent = none) :
      Effect w (.authorizeDestructiveIntent jobId stepId revision fingerprint)
        (w.setStepIntent stepId intent)
  | admitted {row stamp w'} {event : DomainEvent} (mem : row ∈ w.jobs) (pending : row.state = .pending)
      (owned : event.jobId = row.id) (started : event.kind = .jobStarted)
      (ok : (w.setJobState row.id .running).insertEvents? [event] = some w') :
      Effect w (.admitJob row.id stamp) w'
  | satisfied {jobId} {step : JobStep} (mem : step ∈ w.jobSteps) (pending : step.state = .pending)
      (current : ∀ s ∈ w.jobSteps, s.jobId = step.jobId → s.order < step.order → s.state = .succeeded) :
      Effect w (.satisfyCurrentStepPreconditions jobId step.id)
        (w.setStepState step.id .preconditionsSatisfied)
  | reverted {op} {step : JobStep} (mem : step ∈ w.jobSteps)
      (satisfied : step.state = .preconditionsSatisfied) : Effect w op (w.setStepState step.id .pending)
  | dispatched {op row w'} {step : JobStep} {attempt : Attempt} (job : row ∈ w.jobs)
      (running : row.state = .running) (mem : step ∈ w.jobSteps) (owner : step.jobId = row.id)
      (satisfied : step.state = .preconditionsSatisfied)
      (current : ∀ s ∈ w.jobSteps, s.jobId = step.jobId → s.order < step.order → s.state = .succeeded)
      (target : attempt.jobStepId = step.id) (fresh : attempt.state = .dispatched)
      (ok : (w.setStepState step.id .dispatching).insertAttempt? attempt = some w')
      (dispatches : op.dispatches = true) : Effect w op w'
  | cancelling {row stamp} (mem : row ∈ w.jobs) (running : row.state = .running)
      (candidate : w.activeAttemptCandidateRows row.id ≠ []) :
      Effect w (.requestCancellation row.id stamp) (w.setJobState row.id .cancelling)
  | cancelledNow {row stamp w'} {event : DomainEvent} (mem : row ∈ w.jobs)
      (running : row.state = .running) (idle : w.activeAttemptCandidateRows row.id = [])
      (owned : event.jobId = row.id) (closing : event.kind = .jobCancelled)
      (ok : (w.setJobState row.id .cancelled).insertEvents? [event] = some w') :
      Effect w (.requestCancellation row.id stamp) w'
  | marked {op} {attempt : Attempt} (mem : attempt ∈ w.attempts)
      (certain : attempt.state = .dispatched ∨ attempt.state = .inProgress) :
      Effect w op (w.setAttemptState attempt.id .awaitingReconciliation)
  | markedAll {op} : Effect w op w.markAll
  | evidence {op facts applied w'} (locked : Locked w facts) (decides : op.Decides facts applied)
      (ok : w.persistApplied? applied = some w') : Effect w op w'

inductive Evidenced (s : Store) (decides : EvidenceFacts → Applied → Prop) : Store × Option Applied → Prop where
  | kept : Evidenced s decides (s,none)
  | applied {facts applied s'} (locked : Locked s.workflow facts) (decided : decides facts applied)
      (ok : s.workflow.persistApplied? applied = some s'.workflow) : Evidenced s decides (s',some applied)

section Loading
variable {w : WorkflowRows} {s s' : Store}

theorem commitWorkflowSome {new} (ok : s.commitWorkflow new = some s') :
    new = some s'.workflow ∧ s'.transfer = s.transfer := by
  obtain ⟨w,found,committed⟩ := Option.bind_eq_some_iff.mp ok
  obtain ⟨rows,kept⟩ := commitSome committed
  exact ⟨found.trans (congrArg some rows.symm),kept⟩

@[simp] theorem memFetch {jobId step} :
    step ∈ w.fetchJobSteps jobId ↔ step ∈ w.jobSteps ∧ step.jobId = jobId := by
  simp [WorkflowRows.fetchJobSteps]

theorem loadJobSome {jobId job} (found : w.loadJob jobId = some job) :
    ∃ row ∈ w.jobs, row.id = jobId ∧ job = ⟨row.id,row.endpointId,row.state,w.fetchJobSteps jobId⟩ := by
  obtain ⟨row,present,same⟩ := Option.map_eq_some_iff.mp found
  obtain ⟨mem,named⟩ := Table.findIff.mp present
  exact ⟨row,mem,named,same.symm⟩

theorem currentOfJob {row : JobRow} {step : JobStep} (owner : step.jobId = row.id)
    (current : ∀ s ∈ w.fetchJobSteps row.id, s.order < step.order → s.state = .succeeded) :
    ∀ s ∈ w.jobSteps, s.jobId = step.jobId → s.order < step.order → s.state = .succeeded :=
  fun s mem same => current s (memFetch.mpr ⟨mem,same.trans owner⟩)

theorem loadOwnersOk {attempt facts} (mem : attempt ∈ w.attempts)
    (ok : w.loadOwners attempt = .ok facts) : Locked w facts ∧ facts.attempt = attempt := by
  unfold WorkflowRows.loadOwners at ok
  split at ok
  · contradiction
  rename_i step found
  split at ok
  · contradiction
  rename_i job loaded
  cases Except.ok.inj ok
  obtain ⟨present,named⟩ := Table.findIff.mp found
  exact ⟨⟨mem,present,named,loaded⟩,rfl⟩

theorem findActionMem {actionId attempt}
    (found : w.findAction actionId = some attempt) : attempt ∈ w.attempts ∧ attempt.actionId = actionId :=
  ⟨List.mem_of_find?_eq_some found,by simpa using List.find?_some found⟩

theorem memDispatching {jobId p attempt} :
    attempt ∈ w.dispatchingAttempts jobId p ↔ attempt ∈ w.attempts ∧ p attempt.state = true ∧
      ∃ step ∈ w.jobSteps, step.id = attempt.jobStepId ∧ step.jobId = jobId ∧
        step.state = .dispatching := by
  simp only [WorkflowRows.dispatchingAttempts,Table.memSelect,Bool.and_eq_true,List.any_eq_true,
    decide_eq_true_eq,Table.memRows,and_assoc]

theorem memHead {attempt} {rows : List Attempt} (first : rows.head? = some attempt) :
    attempt ∈ rows := List.mem_of_head? first

end Loading

section Methods
variable (s : Store)

theorem createWorkflowEffect (identity : Option IdentityState) (jobId : JobId)
    (stepId : Nat → JobStepId) (endpointId : EndpointId) (stepCount : Nat) :
    Effect s.workflow (.createWorkflow identity jobId stepId endpointId stepCount)
      (s.createWorkflow identity jobId stepId endpointId stepCount).1.workflow := by
  unfold Store.createWorkflow
  split
  · exact .unchanged _
  rename_i job built
  split
  · exact .unchanged _
  split
  · exact .unchanged _
  split
  · exact .unchanged _
  · rename_i s' committed
    exact .created built (commitWorkflowSome committed).1

theorem authorizeDestructiveIntentEffect (jobId : JobId) (stepId : JobStepId)
    (revision : InventoryRevisionId) (fingerprint : String) :
    Effect s.workflow (.authorizeDestructiveIntent jobId stepId revision fingerprint)
      (s.authorizeDestructiveIntent jobId stepId revision fingerprint).1.workflow := by
  unfold Store.authorizeDestructiveIntent
  split
  · exact .unchanged _
  rename_i step found
  split
  · exact .unchanged _
  · exact .unchanged _
  · exact .unchanged _
  rename_i intent decided
  split
  · exact .unchanged _
  · rename_i s' committed
    rw [← Option.some.inj (commitWorkflowSome committed).1]
    obtain ⟨mem,named⟩ := Table.findIff.mp (Option.filter_eq_some_iff.mp found).1
    refine .authorized fun other present same => ?_
    cases Table.eqOfKey present mem (same.trans named.symm)
    exact authorizedOnce decided

theorem createTransferContextWorkflow (endpointExists : Bool) (context : TransferContext) :
    (s.createTransferContext endpointExists context).1.workflow = s.workflow := by
  unfold Store.createTransferContext
  simp only
  split
  · rfl
  split
  · rfl
  split
  · rfl
  split
  · rfl
  split
  · rfl
  · rename_i s' committed
    obtain ⟨rows,_,committed⟩ := Option.bind_eq_some_iff.mp committed
    exact (commitSome committed).1

theorem admitJobEffect (jobId : JobId) (stamp : Stamp) :
    Effect s.workflow (.admitJob jobId stamp) (s.admitJob jobId stamp).1.workflow := by
  unfold Store.admitJob
  split
  · exact .unchanged _
  rename_i job loaded
  split
  · exact .unchanged _
  rename_i outcome admitted
  simp only
  split
  · exact .unchanged _
  split
  · exact .unchanged _
  rename_i s' committed
  obtain ⟨pending,outcome⟩ := admitJobSome admitted
  obtain ⟨row,mem,named,same⟩ := loadJobSome loaded
  subst named same outcome
  exact .admitted mem pending rfl rfl (commitWorkflowSome committed).1

theorem satisfyEffect (jobId : JobId) (stepId : JobStepId) :
    Effect s.workflow (.satisfyCurrentStepPreconditions jobId stepId)
      (s.satisfyCurrentStepPreconditions jobId stepId).1.workflow := by
  unfold Store.satisfyCurrentStepPreconditions
  split
  · exact .unchanged _
  rename_i job loaded
  split
  · exact .unchanged _
  · exact .unchanged _
  · exact .unchanged _
  rename_i updated decided
  split
  · exact .unchanged _
  rename_i s' committed
  obtain ⟨_,step,mem,named,pending,current,same⟩ := satisfyPreliminaryPreconditionsOk decided
  obtain ⟨row,_,rowNamed,jobSame⟩ := loadJobSome loaded
  subst named same rowNamed jobSame
  obtain ⟨present,owner⟩ := memFetch.mp mem
  rw [← Option.some.inj (commitWorkflowSome committed).1]
  exact .satisfied present pending (currentOfJob owner current)

theorem revertStepRows {rejection : Type} {row : JobRow} {stepId} {denial : Denial rejection}
    (reverts : Reverts ⟨row.id,row.endpointId,row.state,s.workflow.fetchJobSteps row.id⟩ stepId denial) :
    s.revertStep stepId denial.pendingJobStep = s ∨ ∃ step ∈ s.workflow.jobSteps, step.id = stepId ∧
      step.state = .preconditionsSatisfied ∧
      (s.revertStep stepId denial.pendingJobStep).workflow = s.workflow.setStepState stepId .pending ∧
      (s.revertStep stepId denial.pendingJobStep).transfer = s.transfer := by
  rcases reverts with nothing | ⟨step,mem,named,satisfied,pending⟩
  · rw [nothing]
    exact .inl rfl
  · rw [pending]
    unfold Store.revertStep
    cases committed : s.commitWorkflow (some (s.workflow.setStepState stepId .pending)) with
    | none => exact .inl (by simp [committed])
    | some s' =>
      simp only [committed,Option.getD_some]
      obtain ⟨workflow,transfer⟩ := commitWorkflowSome committed
      exact .inr ⟨step,(memFetch.mp mem).1,named,satisfied,(Option.some.inj workflow).symm,transfer⟩

theorem revertStepEffect {rejection : Type} (op : JobOp) {row : JobRow} {stepId}
    {denial : Denial rejection}
    (reverts : Reverts ⟨row.id,row.endpointId,row.state,s.workflow.fetchJobSteps row.id⟩ stepId denial) :
    Effect s.workflow op (s.revertStep stepId denial.pendingJobStep).workflow := by
  rcases revertStepRows s reverts with same | ⟨step,mem,rfl,satisfied,workflow,_⟩
  · rw [same]
    exact .unchanged _
  · rw [workflow]
    exact .reverted mem satisfied

theorem dispatchEffect (op : JobOp) {row : JobRow} {stepId active step attemptId actionId w'}
    (mem : row ∈ s.workflow.jobs)
    (gate : Dispatchable ⟨row.id,row.endpointId,row.state,s.workflow.fetchJobSteps row.id⟩ stepId
      active step)
    (ok : (s.workflow.setStepState stepId .dispatching).insertAttempt?
      ⟨attemptId,step.id,actionId,.dispatched⟩ = some w') (dispatches : op.dispatches = true) :
    Effect s.workflow op w' := by
  obtain ⟨present,owner⟩ := memFetch.mp gate.mem
  rw [← gate.named] at ok
  exact .dispatched mem gate.running present owner gate.satisfied (currentOfJob owner gate.current)
    rfl rfl ok dispatches

theorem commitDestructiveDispatchEffect (jobId : JobId) (stepId : JobStepId) (facts : EndpointFacts)
    (attemptId : AttemptId) (actionId : ActionId) (op : JobOp) (dispatches : op.dispatches = true) :
    Effect s.workflow op (s.commitDestructiveDispatch jobId stepId facts attemptId actionId).1.workflow := by
  unfold Store.commitDestructiveDispatch
  split
  · exact .unchanged _
  rename_i job loaded
  obtain ⟨row,mem,named,same⟩ := loadJobSome loaded
  subst named same
  split
  · rename_i denial denied
    exact revertStepEffect s op (finalDispatchDenied denied)
  rename_i outcome decided
  split
  · exact .unchanged _
  rename_i s' committed
  obtain ⟨step,gate,_,same⟩ := finalDispatchOk decided
  subst same
  exact dispatchEffect s op mem gate (commitWorkflowSome committed).1 dispatches

theorem commitTransferDispatchEffect (jobId : JobId) (stepId : JobStepId) (transferId : TransferId)
    (attemptId : AttemptId) (actionId : ActionId) (op : JobOp) (dispatches : op.dispatches = true) :
    Effect s.workflow op (s.commitTransferDispatch jobId stepId transferId attemptId actionId).1.workflow := by
  unfold Store.commitTransferDispatch
  split
  · exact .unchanged _
  rename_i job loaded
  obtain ⟨row,mem,named,same⟩ := loadJobSome loaded
  subst named same
  split
  · exact .unchanged _
  · exact .unchanged _
  rename_i facts found
  split
  · rename_i denial denied
    exact revertStepEffect s op (transferDispatchDenied denied)
  rename_i outcome decided
  split
  · exact .unchanged _
  rename_i s' committed
  obtain ⟨w',inserted,committed⟩ := Option.bind_eq_some_iff.mp committed
  obtain ⟨step,gate,_,_,_,same⟩ := transferDispatchOk decided
  subst same
  rw [(commitSome committed).1]
  exact dispatchEffect s op mem gate inserted dispatches

theorem requestCancellationEffect (jobId : JobId) (stamp : Stamp) :
    Effect s.workflow (.requestCancellation jobId stamp) (s.requestCancellation jobId stamp).1.workflow := by
  unfold Store.requestCancellation
  simp only
  split
  · exact .unchanged _
  split
  · exact .unchanged _
  rename_i job loaded
  obtain ⟨row,mem,named,same⟩ := loadJobSome loaded
  subst named same
  split
  · exact .unchanged _
  · exact .unchanged _
  · exact .unchanged _
  · rename_i job' attemptId actionId decided
    split
    · exact .unchanged _
    rename_i s' committed
    obtain ⟨running,⟨attempt,candidate,_⟩,same⟩ := enteredCancelling decided
    subst same
    rw [← Option.some.inj (commitWorkflowSome committed).1]
    exact .cancelling mem running fun none => by rw [none] at candidate; cases candidate
  · rename_i job' event decided
    split
    · exact .unchanged _
    rename_i s' committed
    obtain ⟨running,idle,same,named⟩ := completedImmediately decided
    subst same named
    exact .cancelledNow mem running (List.head?_eq_none_iff.mp idle) rfl rfl
      (commitWorkflowSome committed).1

theorem markSome {attempt updated} (ok : markAwaitingReconciliation attempt = some updated) :
    (attempt.state = .dispatched ∨ attempt.state = .inProgress) ∧
      updated = { attempt with state := .awaitingReconciliation } := by
  unfold markAwaitingReconciliation at ok
  split at ok <;> try contradiction
  · exact ⟨.inl ‹_›,(Option.some.inj ok).symm⟩
  · exact ⟨.inr ‹_›,(Option.some.inj ok).symm⟩

theorem markEndpointUncertainEffect (endpointId : EndpointId) (expected : ActionId) (op : JobOp) :
    Effect s.workflow op (s.markEndpointUncertain endpointId expected).1.workflow := by
  unfold Store.markEndpointUncertain
  simp only
  split
  · exact .unchanged _
  split
  · exact .unchanged _
  rename_i attempt candidate
  split
  · exact .unchanged _
  rename_i updated decided
  split
  · exact .unchanged _
  rename_i s' committed
  split at decided
  · contradiction
  obtain ⟨certain,same⟩ := markSome decided
  subst same
  have mem : attempt ∈ s.workflow.attempts := (Table.memSelect.mp (memHead candidate)).1
  have effect : Effect s.workflow op
      (s.workflow.setAttemptState attempt.id .awaitingReconciliation) := .marked mem certain
  rw [← Option.some.inj (commitWorkflowSome committed).1]
  exact effect

theorem reconcileEffect (op : JobOp) :
    Effect s.workflow op s.reconcileAllActiveAttemptsOnStartup.workflow := by
  unfold Store.reconcileAllActiveAttemptsOnStartup
  cases committed : s.commitWorkflow (some s.workflow.markAll) with
  | none => exact .unchanged _
  | some s' =>
    simp only [Option.getD_some]
    rw [← Option.some.inj (commitWorkflowSome committed).1]
    exact .markedAll

theorem Evidenced.effect {op result}
    (ends : Evidenced s (fun facts applied => op.Decides facts applied) result) :
    Effect s.workflow op result.1.workflow := by
  cases ends with
  | kept => exact .unchanged _
  | applied locked decided ok => exact .evidence locked decided ok

theorem closeIndeterminateEnds (jobId : JobId) (stamp : Stamp) :
    Evidenced s (fun facts applied => (JobOp.closeIndeterminate jobId stamp).Decides facts applied)
      ((s.closeIndeterminate jobId stamp).map id fun result =>
        result.toOption.bind CloseIndeterminateOutcome.applied?) := by
  unfold Store.closeIndeterminate
  simp only
  split
  · exact .kept
  split
  · exact .kept
  rename_i attempt candidate
  split
  · exact .kept
  rename_i jobStep found
  split
  · exact .kept
  rename_i job loaded
  split
  · exact .kept
  · exact .kept
  rename_i applied decided
  split
  · exact .kept
  rename_i s' committed
  obtain ⟨mem,_,step,present,named,owner,_⟩ := memDispatching.mp (memHead candidate)
  obtain ⟨stepMem,stepNamed⟩ := Table.findIff.mp found
  have same : step = jobStep := Table.eqOfKey present stepMem (named.trans stepNamed.symm)
  subst same
  obtain ⟨row,_,rowNamed,jobSame⟩ := loadJobSome loaded
  have locked : Locked s.workflow ⟨job,step,attempt⟩ := ⟨mem,present,named,by rw [owner]; exact loaded⟩
  exact .applied locked ⟨by rw [jobSame]; exact rowNamed,decided⟩ (commitWorkflowSome committed).1

theorem applyEvidenceEnds (op : JobOp) (actionId : ActionId) (endpointId : EndpointId)
    (decide : EvidenceFacts → EvidenceDecision)
    (decides : ∀ facts applied, facts.attempt.actionId = actionId → facts.job.endpointId = endpointId →
      decide facts = .applied applied → op.Decides facts applied) :
    Evidenced s (fun facts applied => op.Decides facts applied)
      ((s.applyEvidence actionId endpointId decide).map id fun result =>
        result.toOption.bind EvidenceDecision.applied?) := by
  unfold Store.applyEvidence
  split
  · exact .kept
  rename_i attempt found
  split
  · exact .kept
  rename_i facts owners
  split
  · exact .kept
  rename_i authenticated
  split
  · exact .kept
  · exact .kept
  rename_i applied decided
  split
  · exact .kept
  rename_i s' committed
  obtain ⟨mem,named⟩ := findActionMem found
  obtain ⟨locked,same⟩ := loadOwnersOk mem owners
  exact .applied locked (decides facts applied (by rw [same]; exact named) (not_not.mp authenticated)
    decided) (commitWorkflowSome committed).1

theorem ofOutcomeApplied {outcome applied}
    (same : EvidenceDecision.ofOutcome outcome = .applied applied) : outcome = some applied := by
  cases outcome with
  | none => contradiction
  | some decided => exact congrArg some (EvidenceDecision.applied.inj same)

theorem ofActionEvidenceApplied {outcome applied}
    (same : EvidenceDecision.ofActionEvidence outcome = .applied applied) :
    outcome = .applied applied := by
  cases outcome with
  | applied decided => exact congrArg _ (EvidenceDecision.applied.inj same)
  | noOp => contradiction
  | conflict => contradiction

theorem actionEvidenceEnds (actionId : ActionId) (endpointId : EndpointId) (evidence : ActionEvidence)
    (stamp : Stamp) :
    Evidenced s (fun facts applied =>
        (JobOp.applyActionEvidence actionId endpointId evidence stamp).Decides facts applied)
      ((s.applyActionEvidence actionId endpointId evidence stamp).map id fun result =>
        result.toOption.bind EvidenceDecision.applied?) :=
  applyEvidenceEnds s _ actionId endpointId _ fun _ _ named authenticated decided =>
    ⟨named,authenticated,ofActionEvidenceApplied decided⟩

theorem cancelAckEnds (actionId : ActionId) (endpointId : EndpointId) (evidence : CancelAckEvidence)
    (stamp : Stamp) :
    Evidenced s (fun facts applied =>
        (JobOp.applyCancelAck actionId endpointId evidence stamp).Decides facts applied)
      ((s.applyCancelAck actionId endpointId evidence stamp).map id fun result =>
        result.toOption.bind EvidenceDecision.applied?) :=
  applyEvidenceEnds s _ actionId endpointId _ fun _ _ named authenticated decided =>
    ⟨named,authenticated,ofOutcomeApplied decided⟩

theorem statusReportEnds (actionId : ActionId) (endpointId : EndpointId) (evidence : StatusReportEvidence)
    (stamp : Stamp) :
    Evidenced s (fun facts applied =>
        (JobOp.applyStatusReport actionId endpointId evidence stamp).Decides facts applied)
      ((s.applyStatusReport actionId endpointId evidence stamp).map id fun result =>
        result.toOption.bind EvidenceDecision.applied?) :=
  applyEvidenceEnds s _ actionId endpointId _ fun _ _ named authenticated decided =>
    ⟨named,authenticated,ofOutcomeApplied decided⟩

theorem afterEffect (op : JobOp) : Effect s.workflow op (s.after op).workflow := by
  cases op with
  | createWorkflow identity jobId stepId endpointId stepCount =>
    exact createWorkflowEffect s identity jobId stepId endpointId stepCount
  | authorizeDestructiveIntent jobId stepId revision fingerprint =>
    exact authorizeDestructiveIntentEffect s jobId stepId revision fingerprint
  | createTransferContext =>
    simp only [Store.after,createTransferContextWorkflow]
    exact .unchanged _
  | admitJob jobId stamp => exact admitJobEffect s jobId stamp
  | satisfyCurrentStepPreconditions jobId stepId => exact satisfyEffect s jobId stepId
  | commitDestructiveDispatch jobId stepId facts attemptId actionId =>
    exact commitDestructiveDispatchEffect s jobId stepId facts attemptId actionId _ rfl
  | commitTransferDispatch jobId stepId transferId attemptId actionId =>
    exact commitTransferDispatchEffect s jobId stepId transferId attemptId actionId _ rfl
  | requestCancellation jobId stamp => exact requestCancellationEffect s jobId stamp
  | markEndpointUncertain endpointId expected => exact markEndpointUncertainEffect s endpointId expected _
  | reconcileAllActiveAttemptsOnStartup => exact reconcileEffect s _
  | closeIndeterminate jobId stamp => exact (closeIndeterminateEnds s jobId stamp).effect
  | applyActionEvidence actionId endpointId evidence stamp =>
    exact (actionEvidenceEnds s actionId endpointId evidence stamp).effect
  | applyCancelAck actionId endpointId evidence stamp =>
    exact (cancelAckEnds s actionId endpointId evidence stamp).effect
  | applyStatusReport actionId endpointId evidence stamp =>
    exact (statusReportEnds s actionId endpointId evidence stamp).effect

end Methods

theorem decidesStep {op : JobOp} {facts applied}
    (decides : op.Decides facts applied) :
    EvidenceStep facts.job facts.jobStep facts.attempt applied := by
  cases op <;> first
    | exact decides.elim
    | exact (actionEvidenceStep decides.2.2).1
    | exact (cancelAckStep decides.2.2).1
    | exact (statusReportStep decides.2.2).1
    | exact (closeIndeterminateStep decides.2).1

theorem lockedJob {w facts} (locked : Locked w facts) :
    ∃ row ∈ w.jobs, row.id = facts.jobStep.jobId ∧ facts.job.id = row.id ∧
      facts.job.endpointId = row.endpointId ∧ facts.job.state = row.state ∧
      facts.job.steps = w.fetchJobSteps row.id := by
  obtain ⟨row,mem,named,same⟩ := loadJobSome locked.job
  rw [same]
  exact ⟨row,mem,named,rfl,rfl,rfl,by rw [named]⟩

def ticket (n : Nat) : Stamp := ⟨fun i => ⟨10 * n + i⟩,n⟩

def dispatchStep (jobId : JobId) (n : Nat) : List JobOp :=
  [.authorizeDestructiveIntent jobId ⟨n⟩ ⟨0⟩ "disk",
    .satisfyCurrentStepPreconditions jobId ⟨n⟩,
    .commitDestructiveDispatch jobId ⟨n⟩ ⟨true,true,true,some ⟨0⟩,some "disk",.consistent,true⟩ ⟨n⟩ ⟨n⟩]

end Bamep
