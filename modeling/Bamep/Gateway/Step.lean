import Bamep.Gateway.DataPlaneStep
import Bamep.Gateway.Decisions
import Bamep.Store.Evolution

/-! Everything a gateway step does to the store. `StoreStep` has one case per kind of transaction, with
the facts it was decided on; the results about Transfers and Artifacts are proved from it. -/
namespace Bamep
open Relational

structure TransferLocked (s : Store) (facts : TransferEvidenceFacts) : Prop where
  owners : Locked s.workflow facts.workflow
  transfer : facts.transfer ∈ s.transfer.transfers
  artifact : facts.artifact ∈ s.transfer.artifacts
  owned : facts.artifact.id = facts.transfer.artifactId
  bound : facts.transfer.attemptId = some facts.attempt.id

/- A generic transaction on an Attempt with a bound Transfer neither fails nor cancels it, and makes
it succeed only as the `StatusReport` in `report`. -/
def Routed (s : Store) (report : Option (ActionId × EndpointId)) (op : JobOp) : Prop :=
  ∀ facts applied, Locked s.workflow facts → op.Decides facts applied →
    (∃ x ∈ s.transfer.transfers, x.attemptId = some facts.attempt.id) →
      applied.attempt.state.lost = false ∧ (applied.attempt.state = .succeeded →
        facts.attempt.state = .awaitingReconciliation ∧
          report = some (facts.attempt.actionId,facts.job.endpointId))

inductive StoreStep (s : Store) : GatewayOp → Option (ActionId × EndpointId) → Store → Prop where
  | unchanged (op report) : StoreStep s op report s
  | job {op report s'} (jobOp : JobOp) (effect : Effect s.workflow jobOp s'.workflow)
      (kept : s'.transfer = s.transfer) (routed : Routed s report jobOp) : StoreStep s op report s'
  | created {control report s'} {context : TransferContext} (workflow : s'.workflow = s.workflow)
      (unbound : context.transfer.attemptId = none) (incomplete : context.artifact.state = .incomplete)
      (owned : context.transfer.artifactId = context.artifact.id)
      (ok : insertContext? s.transfer context = some s'.transfer) : StoreStep s (.control control) report s'
  | dispatched {control report s'} (jobOp : JobOp) {attempt : Attempt} {transferId : TransferId}
      (effect : Effect s.workflow jobOp s'.workflow)
      (inserted : s.workflow.attempts.insert? attempt = some s'.workflow.attempts)
      (fresh : attempt.state = .dispatched)
      (unbound : ∀ x ∈ s.transfer.transfers, x.id = transferId → x.attemptId = none)
      (bound : s'.transfer = s.transfer.setAttemptBinding transferId attempt.id) :
      StoreStep s (.control control) report s'
  | evidence {i stamp report s'} (jobOp : JobOp) {facts : TransferEvidenceFacts} {applied : Applied}
      {artifactFailed : Option Artifact} (locked : TransferLocked s facts)
      (decides : jobOp.Decides facts.workflow applied) (leg : ArtifactLeg facts applied artifactFailed)
      (ok : s.workflow.persistApplied? applied = some s'.workflow)
      (transfer : s'.transfer = if artifactFailed.isSome then
        s.transfer.setArtifactState facts.artifact.id .failed else s.transfer) :
      StoreStep s (.advance i stamp) report s'
  | dataPlane {op report s'} (workflow : s'.workflow = s.workflow)
      (step : DataPlaneStep s.transfer op s'.transfer) : StoreStep s op report s'

theorem StoreStep.ofCommitted {s s' op report}
    (committed : Committed s op s') : StoreStep s op report s' := by
  rcases committed with same | ⟨workflow,step⟩
  · rw [same]; exact .unchanged op report
  · exact .dataPlane workflow step

section Loading
variable {s : Store} {t : TransferRows}

theorem loadTransferAndArtifact {transferId transfer artifact}
    (loaded : t.loadLockedTransferAndArtifact transferId = .ok (some (transfer,artifact))) :
    transfer ∈ t.transfers ∧ transfer.id = transferId ∧ artifact ∈ t.artifacts ∧
      artifact.id = transfer.artifactId := by
  unfold TransferRows.loadLockedTransferAndArtifact at loaded
  split at loaded
  · cases loaded
  rename_i found
  split at loaded
  · cases loaded
  rename_i present
  obtain ⟨rfl,rfl⟩ := Prod.mk.inj (Option.some.inj (Except.ok.inj loaded))
  obtain ⟨mem,named⟩ := Table.findIff.mp found
  obtain ⟨artifactMem,owned⟩ := Table.findIff.mp present
  exact ⟨mem,named,artifactMem,owned⟩

theorem persistArtifactFailed {t' artifactId}
    (ok : t.persistIncompleteArtifactFailed artifactId = some t') :
    t' = t.setArtifactState artifactId .failed := by
  unfold TransferRows.persistIncompleteArtifactFailed at ok
  split at ok
  · contradiction
  split at ok
  · exact (Option.some.inj ok).symm
  · contradiction

end Loading

inductive TransferEvidenced (s : Store) (decides : TransferEvidenceFacts → Applied → Option Artifact → Prop) :
    Store × Option Applied → Prop where
  | kept : TransferEvidenced s decides (s,none)
  | applied {facts applied artifactFailed s'} (locked : TransferLocked s facts)
      (decided : decides facts applied artifactFailed)
      (ok : s.workflow.persistApplied? applied = some s'.workflow)
      (transfer : s'.transfer = if artifactFailed.isSome then
        s.transfer.setArtifactState facts.artifact.id .failed else s.transfer) :
      TransferEvidenced s decides (s',some applied)

theorem persistTransferEvidenceEnds {s facts} (locked : TransferLocked s facts)
    (decision : TransferEvidenceDecision) :
    TransferEvidenced s (fun facts' applied failed => facts' = facts ∧ decision = .applied applied failed)
      ((s.persistTransferEvidence facts decision).map id fun result =>
        result.toOption.bind TransferEvidenceResult.applied?) := by
  unfold Store.persistTransferEvidence
  split
  · exact .kept
  · exact .kept
  · exact .kept
  rename_i applied failed
  split
  · exact .kept
  rename_i t rows
  split
  · exact .kept
  rename_i s' committed
  obtain ⟨w',persisted,committed⟩ := Option.bind_eq_some_iff.mp committed
  obtain ⟨workflow,transferRows⟩ := commitSome committed
  refine .applied locked ⟨rfl,rfl⟩ (persisted.trans (congrArg some workflow.symm)) ?_
  refine transferRows.trans ?_
  split at rows
  · rename_i fails
    rw [if_pos fails]
    exact persistArtifactFailed rows
  · rename_i keeps
    rw [if_neg keeps]
    exact (Option.some.inj rows).symm

theorem transferEvidenceEnds (s : Store) (actionId : ActionId) (endpointId : EndpointId)
    (decide : TransferEvidenceFacts → TransferEvidenceDecision) :
    TransferEvidenced s (fun facts applied failed => facts.attempt.actionId = actionId ∧
        facts.job.endpointId = endpointId ∧ decide facts = .applied applied failed)
      ((s.applyTransferTerminalEvidence actionId endpointId decide).map id fun result =>
        result.toOption.bind TransferEvidenceResult.applied?) := by
  unfold Store.applyTransferTerminalEvidence
  split
  · exact .kept
  split
  · exact .kept
  · exact .kept
  rename_i transfer artifact loaded
  obtain ⟨transferMem,_,artifactMem,owned⟩ := loadTransferAndArtifact loaded
  split
  · exact .kept
  rename_i bound binding
  split
  · exact .kept
  rename_i attempt found
  obtain ⟨attemptMem,attemptNamed⟩ := Table.findIff.mp found
  split
  · exact .kept
  rename_i named
  split
  · exact .kept
  rename_i owners loadedOwners
  obtain ⟨ownersLocked,same⟩ := loadOwnersOk attemptMem loadedOwners
  split
  · exact .kept
  rename_i authenticated
  simp only
  have whole : owners = ⟨owners.job,owners.jobStep,attempt⟩ := by rw [← same]
  have locked : TransferLocked s ⟨owners.job,owners.jobStep,attempt,transfer,artifact⟩ :=
    ⟨whole ▸ ownersLocked,transferMem,artifactMem,owned,by rw [binding,attemptNamed]⟩
  generalize ended : (s.persistTransferEvidence _ (decide _)).map id _ = result
  have ends := ended ▸ persistTransferEvidenceEnds locked
    (decide ⟨owners.job,owners.jobStep,attempt,transfer,artifact⟩)
  cases ends with
  | kept => exact .kept
  | applied locked decided ok transfer =>
    obtain ⟨rfl,decided⟩ := decided
    exact .applied locked ⟨not_not.mp named,not_not.mp authenticated,decided⟩ ok transfer

/- A decision is one the generic operation `jobOp` would take, and has a leg. -/
def Legs (jobOp : JobOp) (actionId : ActionId) (endpointId : EndpointId)
    (decide : TransferEvidenceFacts → TransferEvidenceDecision) : Prop :=
  ∀ facts applied failed, facts.attempt.actionId = actionId → facts.job.endpointId = endpointId →
    decide facts = .applied applied failed →
      jobOp.Decides facts.workflow applied ∧ ArtifactLeg facts applied failed

theorem transferEvidenceStep (s : Store) {i stamp}
    (report : Option (ActionId × EndpointId)) (actionId : ActionId) (endpointId : EndpointId)
    (decide : TransferEvidenceFacts → TransferEvidenceDecision) (jobOp : JobOp)
    (legs : Legs jobOp actionId endpointId decide) :
    StoreStep s (.advance i stamp) report (s.applyTransferTerminalEvidence actionId endpointId decide).1 := by
  have ends := transferEvidenceEnds s actionId endpointId decide
  generalize ended : (s.applyTransferTerminalEvidence actionId endpointId decide).map id _ = result at ends
  rw [show (s.applyTransferTerminalEvidence actionId endpointId decide).1 = result.1 from
    congrArg Prod.fst ended]
  cases ends with
  | kept => exact .unchanged _ _
  | applied locked decided ok transfer =>
    obtain ⟨named,authenticated,decided⟩ := decided
    obtain ⟨decides,leg⟩ := legs _ _ _ named authenticated decided
    exact .evidence jobOp locked decides leg ok transfer

theorem transferEvidenceWorkflow (s : Store) (actionId : ActionId) (endpointId : EndpointId)
    (decide : TransferEvidenceFacts → TransferEvidenceDecision) (jobOp : JobOp)
    (legs : Legs jobOp actionId endpointId decide) :
    Evidenced s (fun facts applied => jobOp.Decides facts applied)
      ((s.applyTransferTerminalEvidence actionId endpointId decide).map id fun result =>
        result.toOption.bind TransferEvidenceResult.applied?) := by
  have ends := transferEvidenceEnds s actionId endpointId decide
  generalize (s.applyTransferTerminalEvidence actionId endpointId decide).map id _ = result at ends ⊢
  cases ends with
  | kept => exact .kept
  | applied locked decided ok =>
    obtain ⟨named,authenticated,decided⟩ := decided
    exact .applied locked.owners (legs _ _ _ named authenticated decided).1 ok

section Control
variable {s : Store} (control : { op : JobOp // op.fromAgent = false })
  (report : Option (ActionId × EndpointId))

theorem routedControl {jobOp} (internal : jobOp.fromAgent = false) : Routed s report jobOp := by
  intro facts applied _ decides _
  cases jobOp <;> first
    | contradiction
    | exact decides.elim
    | skip
  rw [closeIndeterminateState decides.2]
  exact ⟨rfl,nofun⟩

theorem revertStepTransfer (stepId : JobStepId) (pending : Option JobStep) :
    (s.revertStep stepId pending).transfer = s.transfer := by
  unfold Store.revertStep
  split
  · rfl
  · rename_i step
    cases committed : s.commitWorkflow (some (s.workflow.setStepState stepId step.state)) with
    | none => rfl
    | some s' => exact (commitWorkflowSome committed).2

theorem createTransferContextStep (endpointExists : Bool) {context}
    (unbound : context.transfer.attemptId = none)
    (incomplete : context.artifact.state = .incomplete)
    (owned : context.transfer.artifactId = context.artifact.id) :
    StoreStep s (.control control) report (s.createTransferContext endpointExists context).1 := by
  unfold Store.createTransferContext
  simp only
  repeat' first | exact .unchanged _ _ | split
  rename_i s' committed
  obtain ⟨rows,inserted,committed⟩ := Option.bind_eq_some_iff.mp committed
  obtain ⟨workflow,transfer⟩ := commitSome committed
  exact .created workflow unbound incomplete owned (by rw [inserted,transfer])

theorem commitTransferDispatchStep (jobId : JobId) (stepId : JobStepId) (transferId : TransferId)
    (attemptId : AttemptId) (actionId : ActionId) :
    StoreStep s (.control control) report
      (s.commitTransferDispatch jobId stepId transferId attemptId actionId).1 := by
  have effect := commitTransferDispatchEffect s jobId stepId transferId attemptId actionId
    (.commitTransferDispatch jobId stepId transferId attemptId actionId) rfl
  revert effect
  unfold Store.commitTransferDispatch
  split
  · exact fun _ => .unchanged _ _
  split
  · exact fun _ => .unchanged _ _
  · exact fun _ => .unchanged _ _
  rename_i facts loaded
  split
  · exact fun effect => .job _ effect (revertStepTransfer _ _) (routedControl report rfl)
  rename_i outcome decided
  split
  · exact fun _ => .unchanged _ _
  rename_i s' committed
  intro effect
  obtain ⟨w',inserted,committed⟩ := Option.bind_eq_some_iff.mp committed
  obtain ⟨workflow,transfer⟩ := commitSome committed
  obtain ⟨attempts,insertedRow,same⟩ := Option.map_eq_some_iff.mp inserted
  obtain ⟨step,_,_,_,binding,rfl⟩ := transferDispatchOk decided
  obtain ⟨row,locked⟩ := TransferRows.loadLockedFactsOk loaded
  have added : s.workflow.attempts.insert? ⟨attemptId,step.id,actionId,.dispatched⟩ =
      some s'.workflow.attempts := by
    rw [workflow,← same]
    exact insertedRow
  refine .dispatched _ effect added rfl (fun x mem named => ?_) transfer
  cases Table.eqOfKey mem locked.transfer (named.trans locked.named.symm)
  -- A Transfer that already names the new Attempt would refer to a row that is not there yet.
  refine binding.resolve_right fun bound => ?_
  rcases s.transferValid.transferAttempt _ mem with free | ⟨a,present,named⟩
  · rw [free] at bound
    contradiction
  · exact Table.insertAbsent added present (Option.some.inj (named.trans bound))

theorem reconcileTransfer : s.reconcileAllActiveAttemptsOnStartup.transfer = s.transfer := by
  unfold Store.reconcileAllActiveAttemptsOnStartup
  cases committed : s.commitWorkflow (some s.workflow.markAll) with
  | none => rfl
  | some s' => exact (commitWorkflowSome committed).2

def JobOp.touchesTransfers : JobOp → Bool
  | .createTransferContext .. | .commitTransferDispatch .. => true
  | _ => false

-- Every exit of such an operation returns the store it was given or one with new workflow rows only.
theorem afterTransfer {jobOp} (quiet : jobOp.touchesTransfers = false) :
    (s.after jobOp).transfer = s.transfer := by
  cases jobOp <;> try contradiction
  all_goals
    simp only [Store.after,Store.createWorkflow,Store.authorizeDestructiveIntent,Store.admitJob,
      Store.satisfyCurrentStepPreconditions,Store.commitDestructiveDispatch,Store.requestCancellation,
      Store.markEndpointUncertain,Store.closeIndeterminate,Store.applyActionEvidence,
      Store.applyCancelAck,Store.applyStatusReport,Store.applyEvidence]
    repeat' first
      | rfl
      | exact reconcileTransfer
      | exact revertStepTransfer _ _
      | exact (commitWorkflowSome (by assumption)).2
      | split

theorem quietStep (op : GatewayOp) {report jobOp}
    (quiet : jobOp.touchesTransfers = false) (routed : Routed s report jobOp) :
    StoreStep s op report (s.after jobOp) :=
  .job jobOp (afterEffect s jobOp) (afterTransfer quiet) routed

theorem controlStep : StoreStep s (.control control) report (s.after control) := by
  have routed := @routedControl s report control control.property
  obtain ⟨jobOp,internal⟩ := control
  cases jobOp <;> first
    | exact createTransferContextStep _ report _ rfl rfl rfl
    | exact commitTransferDispatchStep _ report _ _ _ _ _
    | exact quietStep _ rfl routed

end Control
end Bamep
