import Bamep.Store.Linear

/-! Active Attempts and the Jobs that own them. Outside one late message, a JobStep is dispatching
only while its Job occupies the Endpoint, so an active Attempt never belongs to a finished Job and an
Endpoint never has two. The message is a `CancelAck` with `AlreadyCompleted` for an Attempt that
settled earlier, received while the Job is cancelling a later Attempt. -/
namespace Bamep
open Relational
open WorkflowRows (memSetStepState memSetStepOutcome memSetAttemptState memSetJobState)

def Live (w : WorkflowRows) : Prop :=
  ∀ row ∈ w.jobs, ∀ step ∈ w.jobSteps, step.jobId = row.id → step.state = .dispatching →
    row.state.occupiesEndpoint = true

def WorkflowRows.owns (w : WorkflowRows) (job : JobRow) (attempt : Attempt) : Prop :=
  ∃ step ∈ w.jobSteps, step.id = attempt.jobStepId ∧ step.jobId = job.id

instance (w : WorkflowRows) (job : JobRow) (attempt : Attempt) : Decidable (w.owns job attempt) := by
  unfold WorkflowRows.owns
  infer_instance

def JobOp.lateCompletion (w : WorkflowRows) : JobOp → Bool
  | .applyCancelAck actionId endpointId .alreadyCompleted _ =>
    match w.findAction actionId with
    | none => false
    | some attempt =>
      match w.loadOwners attempt with
      | .error _ => false
      | .ok facts => facts.job.endpointId = endpointId && facts.job.state = .cancelling &&
          !attempt.state.isActive
  | _ => false

section Rows
variable {w : WorkflowRows}

theorem lockedLoads (valid : w.Valid) {facts} (locked : Locked w facts) :
    w.findAction facts.attempt.actionId = some facts.attempt ∧
      w.loadOwners facts.attempt = .ok facts := by
  constructor
  · cases found : w.findAction facts.attempt.actionId with
    | none =>
      have absent := List.find?_eq_none.mp found facts.attempt locked.attempt
      simp at absent
    | some other =>
      obtain ⟨mem,named⟩ := findActionMem found
      rw [valid.actionUnique other mem facts.attempt locked.attempt named]
  · have step : w.jobSteps.find? facts.attempt.jobStepId = some facts.jobStep :=
      Table.findIff.mpr ⟨locked.step,locked.owner⟩
    simp only [WorkflowRows.loadOwners,step,locked.job]

theorem decidesActive {op : JobOp} {facts applied} (valid : w.Valid)
    (locked : Locked w facts) (timely : op.lateCompletion w = false)
    (decides : op.Decides facts applied) : facts.attempt.state.isActive = true := by
  cases op <;> try exact decides.elim
  case closeIndeterminate => rw [(closeIndeterminateStep decides.2).2]; rfl
  case applyActionEvidence => exact (actionEvidenceStep decides.2.2).2.1
  case applyStatusReport => rw [(statusReportStep decides.2.2).2.1]; rfl
  case applyCancelAck actionId endpointId evidence stamp =>
    obtain ⟨named,authenticated,decided⟩ := decides
    obtain ⟨_,cancelling,settled,_⟩ := cancelAckStep decided
    by_contra inactive
    have inactive : facts.attempt.state.isActive = false := by simpa using inactive
    have late := settled inactive
    subst late
    obtain ⟨found,owners⟩ := lockedLoads valid locked
    rw [named] at found
    simp only [JobOp.lateCompletion,found,owners,authenticated,cancelling,inactive,decide_true,
      Bool.and_self,Bool.not_false,Bool.true_eq_false] at timely

theorem liveJobs {id state w'} (live : Live w)
    (jobs : w'.jobs = (w.setJobState id state).jobs) (steps : w'.jobSteps = w.jobSteps)
    (safe : state.occupiesEndpoint = true ∨
      ∀ step ∈ w.jobSteps, step.jobId = id → step.state ≠ .dispatching) : Live w' := by
  intro row mem step present owner dispatching
  rw [jobs] at mem
  rw [steps] at present
  rcases memSetJobState.mp mem with ⟨old,_⟩ | ⟨old,_,chosen,rfl⟩
  · exact live row old step present owner dispatching
  · rcases safe with occupies | idle
    · exact occupies
    · exact absurd dispatching (idle step present (owner.trans chosen))

theorem liveStepState {id state w'} (live : Live w)
    (jobs : w'.jobs = w.jobs) (steps : w'.jobSteps = (w.setStepState id state).jobSteps)
    (safe : state ≠ .dispatching ∨ ∀ step ∈ w.jobSteps, step.id = id → ∀ row ∈ w.jobs,
      row.id = step.jobId → row.state.occupiesEndpoint = true) : Live w' := by
  intro row mem step present owner dispatching
  rw [jobs] at mem
  rw [steps] at present
  rcases memSetStepState.mp present with ⟨old,_⟩ | ⟨old,oldMem,chosen,rfl⟩
  · exact live row mem step old owner dispatching
  · rcases safe with early | occupied
    · exact absurd dispatching early
    · exact occupied old oldMem chosen row mem owner.symm

theorem liveEvidence {facts applied w'} (valid : w.Valid)
    (linear : Linear w) (live : Live w) (locked : Locked w facts)
    (active : facts.attempt.state.isActive = true)
    (step : EvidenceStep facts.job facts.jobStep facts.attempt applied)
    (ok : w.persistApplied? applied = some w') : Live w' := by
  obtain ⟨jobs,steps,_,_⟩ := persistAppliedSome ok
  obtain ⟨_,stepId,jobId,_⟩ := step.identity
  obtain ⟨state,reason⟩ := linear.agrees _ locked.attempt _ locked.step locked.owner
  obtain ⟨state',_⟩ := step.agrees state reason
  have dispatching : facts.jobStep.state = .dispatching := by rw [state]; exact (activeStands active).1
  obtain ⟨job,jobMem,jobNamed,factsNamed,_,jobState,_⟩ := lockedJob locked
  intro row mem current present owner stays
  rw [jobs,jobId,factsNamed] at mem
  rw [steps,stepId] at present
  rcases memSetStepOutcome.mp present with ⟨old,chosen⟩ | ⟨old,oldMem,chosen,rfl⟩
  · rcases memSetJobState.mp mem with ⟨oldRow,_⟩ | ⟨oldRow,rowMem,chosenRow,rfl⟩
    · exact live row oldRow current old owner stays
    · have sameJob : current.jobId = facts.jobStep.jobId := owner.trans (chosenRow.trans jobNamed)
      have equal := oneDispatching valid linear old locked.step sameJob stays dispatching
      exact absurd (by rw [equal]) chosen
  · cases Table.eqOfKey oldMem locked.step chosen
    -- the addressed JobStep is still dispatching, so the decision was not terminal
    rcases step.closes with ⟨_,keptJob,_,_,_⟩ | ⟨_,settled,_⟩
    · rcases memSetJobState.mp mem with ⟨_,other⟩ | ⟨oldRow,rowMem,chosenRow,rfl⟩
      · exact absurd (owner.symm.trans jobNamed.symm) other
      · cases Table.eqOfKey rowMem jobMem chosenRow
        show applied.job.state.occupiesEndpoint = true
        rw [keptJob,jobState]
        exact live job jobMem facts.jobStep locked.step owner dispatching
    · have stays : applied.jobStep.state = .dispatching := stays
      rw [state'] at stays
      revert settled stays
      cases applied.attempt.state <;> simp [AttemptState.isActive,AttemptState.stepState]

theorem idleJob (linear : Linear w) {row : JobRow} (idle : w.activeAttemptCandidateRows row.id = []) :
    ∀ step ∈ w.jobSteps, step.jobId = row.id → step.state ≠ .dispatching := by
  intro step mem owner dispatching
  obtain ⟨a,present,named,active⟩ := dispatchingOwned linear mem dispatching
  have candidate : a ∈ w.activeAttemptCandidateRows row.id :=
    memDispatching.mpr ⟨present,active,step,mem,named.symm,owner,dispatching⟩
  rw [idle] at candidate
  contradiction

theorem liveEffect {op : JobOp} {w'} (valid : w.Valid) (linear : Linear w)
    (live : Live w) (timely : op.lateCompletion w = false) (effect : Effect w op w') : Live w' := by
  cases effect with
  | unchanged => exact live
  | created built ok =>
    have pending := workflowStepsPending built
    obtain ⟨jobs,jobInserted,ok⟩ := Option.bind_eq_some_iff.mp ok
    obtain ⟨steps,inserted,ok⟩ := Option.bind_eq_some_iff.mp ok
    cases Option.some.inj ok
    intro row mem step present owner dispatching
    rcases (Table.memInsertAll inserted).mp present with old | new
    · rcases (Table.memInsert jobInserted).mp mem with oldRow | newRow
      · exact live row oldRow step old owner dispatching
      · obtain ⟨known,knownMem,knownNamed⟩ := valid.stepJob step old
        subst newRow
        exact absurd (knownNamed.trans owner) (Table.insertAbsent jobInserted knownMem)
    · rw [(pending step new).2.1] at dispatching
      contradiction
  | authorized =>
    intro row mem step present owner dispatching
    rcases WorkflowRows.memSetStepIntent.mp present with ⟨old,_⟩ | ⟨old,oldMem,_,rfl⟩
    · exact live row mem step old owner dispatching
    · exact live row mem old oldMem owner dispatching
  | admitted mem pending owned started ok =>
    obtain ⟨jobs,steps,_,_⟩ := insertEventsSome ok
    exact liveJobs live jobs steps (.inl rfl)
  | satisfied => exact liveStepState live rfl rfl (.inl (by decide))
  | reverted => exact liveStepState live rfl rfl (.inl (by decide))
  | @dispatched _ job _ step attempt jobMem running mem owner satisfied current target fresh ok =>
    obtain ⟨attempts,inserted,same⟩ := Option.map_eq_some_iff.mp ok
    subst same
    refine liveStepState live rfl rfl (.inr fun other otherMem named row rowMem rowNamed => ?_)
    cases Table.eqOfKey otherMem mem named
    cases Table.eqOfKey rowMem jobMem (rowNamed.trans owner)
    rw [running]
    rfl
  | cancelling => exact liveJobs live rfl rfl (.inl rfl)
  | cancelledNow mem running idle owned closing ok =>
    obtain ⟨jobs,steps,_,_⟩ := insertEventsSome ok
    exact liveJobs live jobs steps (.inr (idleJob linear idle))
  | marked => exact live
  | markedAll => exact live
  | evidence locked decides ok =>
    exact liveEvidence valid linear live locked (decidesActive valid locked timely decides)
      (decidesStep decides) ok

end Rows

def Timely (s : Store) (op : JobOp) : Prop := op.lateCompletion s.workflow = false

instance (s : Store) (op : JobOp) : Decidable (Timely s op) := by unfold Timely; infer_instance

structure Orderly (s : Store) : Prop where
  linear : Linear s.workflow
  live : Live s.workflow

theorem orderlyEmpty : Orderly .empty := ⟨linearEmpty,fun _ mem => absurd mem (Table.notMemEmpty _)⟩

theorem orderlyAfter (s : Store) (op : JobOp) (orderly : Orderly s) (timely : Timely s op) :
    Orderly (s.after op) :=
  ⟨linearAfter s op orderly.linear,
    liveEffect s.workflowValid orderly.linear orderly.live timely (afterEffect s op)⟩

theorem activeOccupies {w} (linear : Linear w) (live : Live w) {job attempt}
    (mem : job ∈ w.jobs) (present : attempt ∈ w.attempts)
    (active : attempt.state.isActive = true) (owned : w.owns job attempt) :
    job.state.occupiesEndpoint = true := by
  obtain ⟨step,stepMem,named,owner⟩ := owned
  refine live job mem step stepMem owner ?_
  rw [(linear.agrees attempt present step stepMem named).1]
  exact (activeStands active).1

theorem activeUnique {w} (valid : w.Valid) (linear : Linear w) (live : Live w)
    {a b j k} (memA : a ∈ w.attempts) (memB : b ∈ w.attempts)
    (memJ : j ∈ w.jobs) (memK : k ∈ w.jobs) (activeA : a.state.isActive = true)
    (activeB : b.state.isActive = true) (ownedA : w.owns j a) (ownedB : w.owns k b)
    (same : j.endpointId = k.endpointId) : a = b := by
  have sameJob : j = k := valid.exclusive j memJ k memK (activeOccupies linear live memJ memA activeA ownedA)
    (activeOccupies linear live memK memB activeB ownedB) same
  subst sameJob
  obtain ⟨x,memX,namedX,ownerX⟩ := ownedA
  obtain ⟨y,memY,namedY,ownerY⟩ := ownedB
  have stateX := (linear.agrees a memA x memX namedX).1.trans (activeStands activeA).1
  have stateY := (linear.agrees b memB y memY namedY).1.trans (activeStands activeB).1
  have sameStep := oneDispatching valid linear memX memY (ownerX.trans ownerY.symm) stateX stateY
  subst sameStep
  exact linear.single a memA b memB (namedX.symm.trans namedY)

theorem activeAttemptsExclusive {ops : List JobOp}
    (timely : Transition.Meets Store.after Timely .empty ops) :
    let w := (Transition.run Store.after .empty ops).workflow
    (∀ attempt ∈ w.attempts, attempt.state.isActive = true →
      ∀ job ∈ w.jobs, w.owns job attempt → job.state.isTerminal = false) ∧
    ∀ a ∈ w.attempts, ∀ b ∈ w.attempts, a.state.isActive = true → b.state.isActive = true →
      ∀ j ∈ w.jobs, ∀ k ∈ w.jobs, w.owns j a → w.owns k b → j.endpointId = k.endpointId → a = b := by
  obtain ⟨linear,live⟩ := Transition.runInvariant orderlyAfter orderlyEmpty timely
  refine ⟨fun attempt present active job mem owned => ?_,?_⟩
  · have occupies := activeOccupies linear live mem present active owned
    revert occupies
    cases job.state <;> simp [JobState.occupiesEndpoint,JobState.isTerminal]
  · intro a memA b memB activeA activeB j memJ k memK ownedA ownedB same
    exact activeUnique (Store.workflowValid _) linear live memA memB memJ memK activeA activeB ownedA
      ownedB same

-- Two Jobs of one Endpoint; the first is cancelled while the Attempt of its second JobStep runs.
def cancelledAtSecondStep : List JobOp :=
  [.createWorkflow (some .enrolled) ⟨1⟩ (fun i => ⟨10 + i⟩) ⟨0⟩ 2,
    .createWorkflow (some .enrolled) ⟨2⟩ (fun i => ⟨20 + i⟩) ⟨0⟩ 1,
    .admitJob ⟨1⟩ (ticket 1)] ++ dispatchStep ⟨1⟩ 10 ++
  [.applyActionEvidence ⟨10⟩ ⟨0⟩ .resultSucceeded (ticket 2)] ++ dispatchStep ⟨1⟩ 11 ++
  [.requestCancellation ⟨1⟩ (ticket 3)]

theorem activeAttemptsExclusiveCancelling :
    let w := (Transition.run Store.after .empty cancelledAtSecondStep).workflow
    ∀ attempt ∈ w.attempts, attempt.state.isActive = true →
      ∀ job ∈ w.jobs, w.owns job attempt → job.state.isTerminal = false :=
  (activeAttemptsExclusive (by decide)).1

-- The acknowledgement names the Attempt of the first JobStep, which settled before the cancellation.
def lateAck : JobOp := .applyCancelAck ⟨10⟩ ⟨0⟩ .alreadyCompleted (ticket 4)

theorem lateAckStrandsAttempt :
    let w := (Transition.run Store.after .empty (cancelledAtSecondStep ++ [lateAck])).workflow
    let w' := (Transition.run Store.after .empty (cancelledAtSecondStep ++ [lateAck] ++
      [.admitJob ⟨2⟩ (ticket 5)] ++ dispatchStep ⟨2⟩ 20)).workflow
    (∃ attempt ∈ w.attempts, attempt.state.isActive = true ∧
      ∃ job ∈ w.jobs, w.owns job attempt ∧ job.state.isTerminal = true) ∧
    ∃ a ∈ w'.attempts, ∃ b ∈ w'.attempts, a ≠ b ∧ a.state.isActive = true ∧
      b.state.isActive = true ∧
      ∃ j ∈ w'.jobs, ∃ k ∈ w'.jobs, w'.owns j a ∧ w'.owns k b ∧ j.endpointId = k.endpointId := by
  decide

end Bamep
