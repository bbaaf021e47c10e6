import Bamep.Store.AttemptLife
import Bamep.Store.Exclusive
import Bamep.Store.Workflow

/-! The actions of one Endpoint, by the state of their Attempts. An operation makes no action active but
that of a new Attempt, and none certain again but the one a live `StatusReport` names. -/
namespace Bamep
open Relational

def AttemptState.isCertain : AttemptState → Bool
  | .dispatched | .inProgress => true
  | .awaitingReconciliation | .succeeded | .failed | .rejected | .cancelled | .indeterminate => false

def WorkflowRows.Holds (w : WorkflowRows) (p : AttemptState → Bool) (endpointId : EndpointId)
    (actionId : ActionId) : Prop :=
  ∃ attempt ∈ w.attempts, attempt.actionId = actionId ∧ p attempt.state = true ∧
    ∃ job ∈ w.jobs, w.owns job attempt ∧ job.endpointId = endpointId

instance WorkflowRows.holdsDecide (w : WorkflowRows) (p : AttemptState → Bool) (endpointId : EndpointId) (actionId : ActionId) :
    Decidable (w.Holds p endpointId actionId) := by
  unfold WorkflowRows.Holds
  infer_instance

def WorkflowRows.knows (w : WorkflowRows) (actionId : ActionId) : Prop :=
  ∃ attempt ∈ w.attempts, attempt.actionId = actionId

section Effects
variable {w w' : WorkflowRows} {op : JobOp} {p : AttemptState → Bool} {endpointId : EndpointId}
  {actionId : ActionId}

theorem certainActive (holds : w.Holds AttemptState.isCertain endpointId actionId) :
    w.Holds AttemptState.isActive endpointId actionId := by
  obtain ⟨attempt,mem,named,certain,owner⟩ := holds
  refine ⟨attempt,mem,named,?_,owner⟩
  revert certain
  cases attempt.state <;> simp [AttemptState.isCertain,AttemptState.isActive]

theorem holdsKnown (holds : w.Holds p endpointId actionId) : w.knows actionId := by
  obtain ⟨attempt,mem,named,_⟩ := holds
  exact ⟨attempt,mem,named⟩

theorem holdsEndpoint (valid : w.Valid) {q other}
    (left : w.Holds p endpointId actionId) (right : w.Holds q other actionId) : endpointId = other := by
  obtain ⟨a,memA,rfl,_,j,memJ,⟨x,memX,namedX,ownerX⟩,rfl⟩ := left
  obtain ⟨b,memB,same,_,k,memK,⟨y,memY,namedY,ownerY⟩,rfl⟩ := right
  cases valid.actionUnique b memB a memA same
  cases Table.eqOfKey memX memY (namedX.trans namedY.symm)
  rw [Table.eqOfKey memJ memK (ownerX.symm.trans ownerY)]

theorem knowsAfter (effect : Effect w op w') (knows : w.knows actionId) : w'.knows actionId := by
  obtain ⟨attempt,mem,named⟩ := knows
  obtain ⟨later,present,_,move⟩ := (attemptsEvolve effect).forward mem
  refine ⟨later,present,?_⟩
  rw [move.kept]
  exact named

theorem ownerBack (effect : Effect w op w') (valid : w.Valid) {before after}
    (old : before ∈ w.attempts) (same : after.jobStepId = before.jobStepId) {job} (mem : job ∈ w'.jobs)
    (owned : w'.owns job after) :
    ∃ row ∈ w.jobs, w.owns row before ∧ row.endpointId = job.endpointId := by
  obtain ⟨step,stepMem,named⟩ := valid.attemptStep before old
  obtain ⟨row,rowMem,owner⟩ := valid.stepJob step stepMem
  obtain ⟨step',stepMem',sameStep,place⟩ := (stepsEvolve effect).forward stepMem
  obtain ⟨row',rowMem',sameRow,endpoint⟩ := (jobsEvolve effect).forward rowMem
  obtain ⟨other,otherMem,otherNamed,otherOwner⟩ := owned
  cases Table.eqOfKey otherMem stepMem' (otherNamed.trans (same.trans (named.symm.trans sameStep.symm)))
  have sameJob : job.id = row'.id := otherOwner.symm.trans (place.1.trans (owner.symm.trans sameRow.symm))
  cases Table.eqOfKey mem rowMem' sameJob
  exact ⟨row,rowMem,⟨step,stepMem,named,owner.symm⟩,endpoint.symm⟩

theorem holdsBack (effect : Effect w op w') (valid : w.Valid) (valid' : w'.Valid)
    (holds : w'.Holds p endpointId actionId) :
    (∃ before ∈ w.attempts, ∃ after ∈ w'.attempts, after.id = before.id ∧ AttemptMove op before after ∧
      before.actionId = actionId ∧ p after.state = true ∧
      ∃ row ∈ w.jobs, w.owns row before ∧ row.endpointId = endpointId) ∨
    (op.dispatches = true ∧ ¬ w.knows actionId) := by
  obtain ⟨after,mem,named,chosen,job,jobMem,owned,rfl⟩ := holds
  have kept : ∀ before ∈ w.attempts, after.id = before.id → AttemptMove op before after →
      before.actionId = actionId ∧ ∃ row ∈ w.jobs, w.owns row before ∧ row.endpointId = job.endpointId := by
    intro before old _ move
    refine ⟨?_,ownerBack effect valid old (by rw [move.kept]) jobMem owned⟩
    rw [← named,move.kept]
  rcases (attemptsEvolve effect).back mem with ⟨before,old,same,move⟩ | ⟨_,dispatches⟩
  · obtain ⟨action,owner⟩ := kept before old same move
    exact .inl ⟨before,old,after,mem,same,move,action,chosen,owner⟩
  · by_cases known : w.knows actionId
    · -- the action is an older one, so the row is the later state of that Attempt
      obtain ⟨before,old,action⟩ := known
      obtain ⟨later,present,same,move⟩ := (attemptsEvolve effect).forward old
      have sameAction : later.actionId = after.actionId := by rw [move.kept,named]; exact action
      cases valid'.actionUnique after mem later present sameAction.symm
      exact .inl ⟨before,old,after,mem,same,move,action,chosen,(kept before old same move).2⟩
    · exact .inr ⟨dispatches,known⟩

theorem activeBack (effect : Effect w op w') (valid : w.Valid) (valid' : w'.Valid)
    (holds : w'.Holds AttemptState.isActive endpointId actionId) :
    w.Holds AttemptState.isActive endpointId actionId ∨ (op.dispatches = true ∧ ¬ w.knows actionId) := by
  refine (holdsBack effect valid valid' holds).imp_left ?_
  rintro ⟨before,old,after,_,_,move,named,active,owner⟩
  exact ⟨before,old,named,move.wasActive active,owner⟩

def JobOp.Restores (endpointId : EndpointId) (actionId : ActionId) : JobOp → Prop
  | .applyStatusReport named reporter evidence _ =>
    named = actionId ∧ reporter = endpointId ∧ (evidence = .accepted ∨ evidence = .running)
  | _ => False

theorem decidedCertain {facts applied} (decides : op.Decides facts applied)
    (certain : applied.attempt.state.isCertain = true) :
    facts.attempt.state.isCertain = true ∨ op.Restores facts.job.endpointId facts.attempt.actionId := by
  cases op <;> try exact decides.elim
  case applyActionEvidence actionId endpointId evidence stamp =>
    obtain ⟨_,_,decided⟩ := decides
    unfold applyActionEvidence at decided
    split at decided <;> split at decided <;> try contradiction
    all_goals
      rename_i state
      rw [state]
      exact .inl rfl
  case applyCancelAck actionId endpointId evidence stamp =>
    obtain ⟨_,_,decided⟩ := decides
    unfold applyCancelAck at decided
    split at decided <;> try contradiction
    split at decided <;> try contradiction
    all_goals
      split at decided <;> try contradiction
      all_goals
        cases Option.some.inj decided
        first | exact .inl certain | cases certain
  case applyStatusReport actionId endpointId evidence stamp =>
    obtain ⟨named,authenticated,decided⟩ := decides
    unfold applyStatusReport at decided
    split at decided <;> try contradiction
    split at decided <;> try contradiction
    · exact .inr ⟨named.symm,authenticated.symm,.inl rfl⟩
    · exact .inr ⟨named.symm,authenticated.symm,.inr rfl⟩
    · cases Option.some.inj decided
      cases certain
    · cases Option.some.inj decided
      cases certain
    · split at decided <;> try contradiction
      cases Option.some.inj decided
      cases certain
  case closeIndeterminate =>
    obtain ⟨_,decided⟩ := decides
    unfold closeIndeterminate at decided
    split at decided <;> try contradiction
    cases CloseIndeterminateOutcome.applied.inj decided
    cases certain

theorem certainBack (effect : Effect w op w') (valid : w.Valid) (valid' : w'.Valid)
    (holds : w'.Holds AttemptState.isCertain endpointId actionId) :
    w.Holds AttemptState.isCertain endpointId actionId ∨ (op.dispatches = true ∧ ¬ w.knows actionId) ∨
      op.Restores endpointId actionId := by
  rcases holdsBack effect valid valid' holds with ⟨before,old,after,mem,same,_,named,certain,owner⟩ | new
  · rcases attemptCause effect old mem same with rfl | awaiting | ⟨facts,applied,locked,decides,rfl,rfl⟩
    · exact .inl ⟨after,old,named,certain,owner⟩
    · rw [awaiting] at certain
      cases certain
    · rcases decidedCertain decides certain with was | restores
      · exact .inl ⟨facts.attempt,old,named,was,owner⟩
      · obtain ⟨row,rowMem,⟨step,stepMem,stepNamed,stepOwner⟩,endpoint⟩ := owner
        obtain ⟨job,jobMem,jobNamed,_,jobEndpoint,_⟩ := lockedJob locked
        cases Table.eqOfKey stepMem locked.step (stepNamed.trans locked.owner.symm)
        cases Table.eqOfKey jobMem rowMem (jobNamed.trans stepOwner)
        rw [named,jobEndpoint,endpoint] at restores
        exact .inr (.inr restores)
  · exact .inr (.inl new)

end Effects

section Stores
variable {s : Store} {endpointId : EndpointId} {actionId : ActionId}

theorem holdsUnique (orderly : Orderly s) {first second}
    (left : s.workflow.Holds AttemptState.isActive endpointId first)
    (right : s.workflow.Holds AttemptState.isActive endpointId second) : first = second := by
  obtain ⟨a,memA,rfl,activeA,j,memJ,ownedA,rfl⟩ := left
  obtain ⟨b,memB,rfl,activeB,k,memK,ownedB,same⟩ := right
  rw [activeUnique s.workflowValid orderly.linear orderly.live memA memB memJ memK activeA activeB ownedA ownedB
    same.symm]

theorem stateCommits (s : Store) (id : AttemptId) (state : AttemptState) :
    ∃ s', s.commitWorkflow (some (s.workflow.setAttemptState id state)) = some s' := by
  have back : ∀ row ∈ (s.workflow.setAttemptState id state).attempts,
      ∃ old ∈ s.workflow.attempts, row.id = old.id ∧ row.actionId = old.actionId ∧
        row.jobStepId = old.jobStepId := by
    intro row mem
    rcases WorkflowRows.memSetAttemptState.mp mem with ⟨old,_⟩ | ⟨old,present,_,rfl⟩
    · exact ⟨row,old,rfl,rfl,rfl⟩
    · exact ⟨old,present,rfl,rfl,rfl⟩
  have valid : (s.workflow.setAttemptState id state).Valid :=
    { s.workflowValid with
      actionUnique := by
        intro a memA b memB same
        obtain ⟨x,memX,idX,actionX,_⟩ := back a memA
        obtain ⟨y,memY,idY,actionY,_⟩ := back b memB
        have equal := s.workflowValid.actionUnique x memX y memY (actionX.symm.trans (same.trans actionY))
        exact Table.eqOfKey memA memB (idX.trans (equal ▸ idY.symm))
      attemptStep := by
        intro row mem
        obtain ⟨old,present,_,_,step⟩ := back row mem
        rw [step]
        exact s.workflowValid.attemptStep old present }
  have transfers : s.transfer.Valid (s.workflow.setAttemptState id state) := by
    refine transferValidGrows s.transferValid (fun row mem => ⟨row,mem,rfl⟩) (fun step mem => ⟨step,mem,rfl⟩) ?_
    intro a mem
    by_cases named : a.id = id
    · exact ⟨{ a with state := state },WorkflowRows.memSetAttemptState.mpr (.inr ⟨a,mem,named,rfl⟩),rfl⟩
    · exact ⟨a,WorkflowRows.memSetAttemptState.mpr (.inl ⟨mem,named⟩),rfl⟩
  refine ⟨⟨_,_,valid,transfers⟩,?_⟩
  simp only [Store.commitWorkflow,Option.bind_some,commit,dif_pos (And.intro valid transfers)]

theorem memEndpointAttempts (linear : Linear s.workflow) {attempt} :
    attempt ∈ s.workflow.endpointAttempts endpointId ↔ attempt ∈ s.workflow.attempts ∧
      attempt.state.isCertain = true ∧
      ∃ job ∈ s.workflow.jobs, s.workflow.owns job attempt ∧ job.endpointId = endpointId := by
  have certain : (attempt.state = .dispatched ∨ attempt.state = .inProgress) ↔ attempt.state.isCertain = true := by
    cases attempt.state <;> simp [AttemptState.isCertain]
  simp only [WorkflowRows.endpointAttempts,Table.memSelect,Bool.and_eq_true,Bool.or_eq_true,decide_eq_true_eq,
    List.any_eq_true,certain]
  constructor
  · rintro ⟨mem,stands,step,stepMem,⟨named,_⟩,job,jobMem,owner,endpoint⟩
    exact ⟨mem,stands,job,jobMem,⟨step,stepMem,named,owner.symm⟩,endpoint⟩
  · rintro ⟨mem,stands,job,jobMem,⟨step,stepMem,named,owner⟩,endpoint⟩
    have active : attempt.state.isActive = true := by
      revert stands
      cases attempt.state <;> simp [AttemptState.isCertain,AttemptState.isActive]
    have dispatching : step.state = .dispatching := by
      rw [(linear.agrees attempt mem step stepMem named).1]
      exact (activeStands active).1
    exact ⟨mem,stands,step,stepMem,⟨named,dispatching⟩,job,jobMem,owner.symm,endpoint⟩

theorem endpointAttemptsSingle (orderly : Orderly s) {attempt}
    (mem : attempt ∈ s.workflow.endpointAttempts endpointId) :
    s.workflow.endpointAttempts endpointId = [attempt] := by
  have only : ∀ other ∈ s.workflow.endpointAttempts endpointId, other = attempt := by
    intro other present
    obtain ⟨known,certain,owner⟩ := (memEndpointAttempts orderly.linear).mp mem
    obtain ⟨known',certain',owner'⟩ := (memEndpointAttempts orderly.linear).mp present
    exact s.workflowValid.actionUnique _ known' _ known (holdsUnique orderly
      (certainActive ⟨other,known',rfl,certain',owner'⟩) (certainActive ⟨attempt,known,rfl,certain,owner⟩))
  have distinct : (s.workflow.endpointAttempts endpointId).Nodup :=
    (List.Nodup.of_map _ s.workflow.attempts.unique).filter _
  refine List.perm_singleton.mp ((List.perm_ext_iff_of_nodup distinct (List.nodup_singleton _)).mpr fun other => ?_)
  rw [List.mem_singleton]
  exact ⟨only other,fun same => same ▸ mem⟩

/- The session-loss transaction always commits, so no certain Attempt of the Endpoint keeps the action. -/
theorem markedUncertain (orderly : Orderly s) :
    ¬ (s.markEndpointUncertain endpointId actionId).1.workflow.Holds AttemptState.isCertain endpointId actionId := by
  intro holds
  have effect := markEndpointUncertainEffect s endpointId actionId (.markEndpointUncertain endpointId actionId)
  rcases certainBack effect s.workflowValid (Store.workflowValid _) holds with was | ⟨dispatches,_⟩ | restores
  · obtain ⟨attempt,mem,named,certain,owner⟩ := was
    have single := endpointAttemptsSingle orderly ((memEndpointAttempts orderly.linear).mpr ⟨mem,certain,owner⟩)
    have marks : markAwaitingReconciliation attempt =
        some { attempt with state := .awaitingReconciliation } := by
      revert certain
      unfold markAwaitingReconciliation
      cases attempt.state <;> simp [AttemptState.isCertain]
    obtain ⟨s',committed⟩ := stateCommits s attempt.id .awaitingReconciliation
    have result : (s.markEndpointUncertain endpointId actionId).1 = s' := by
      simp [Store.markEndpointUncertain,single,named,marks,committed]
    rw [result] at holds
    obtain ⟨after,present,action,still,_⟩ := holds
    rw [← Option.some.inj (commitWorkflowSome committed).1] at present
    rcases WorkflowRows.memSetAttemptState.mp present with ⟨old,other⟩ | ⟨_,_,_,rfl⟩
    · exact other (congrArg Attempt.id (s.workflowValid.actionUnique after old attempt mem (action.trans named.symm)))
    · cases still
  · cases dispatches
  · exact restores

end Stores
end Bamep
