import Bamep.Process.Reservations
import Bamep.Store.AttemptLife

/-! `request_cancellation` statement by statement, between the atomic commits of other transactions. A row lock
keeps a commit away that changes the locked row; a dispatch locks the row of its Job without changing it. -/
namespace Bamep
open Relational Transition

inductive JobCommit where
  | job (op : JobOp)
  | evidence (call : EvidenceCall) (stamp : Stamp)

def JobCommit.apply (s : Store) : JobCommit → Store
  | .job op => s.after op
  | .evidence call stamp => (call.commit s stamp).1

def JobCommit.jobOp : JobCommit → JobOp
  | .job op => op
  | .evidence call stamp => call.jobOp stamp

def JobOp.dispatchJob : JobOp → Option JobId
  | .commitDestructiveDispatch jobId .. | .commitTransferDispatch jobId .. => some jobId
  | _ => none

inductive RowLock where
  | attempt (id : AttemptId)
  | jobStep (id : JobStepId)
  | job (id : JobId)
  deriving DecidableEq, Repr

def RowLock.lets (w : WorkflowRows) (commit : JobCommit) (w' : WorkflowRows) : RowLock → Bool
  | .attempt id => w'.attempts.find? id = w.attempts.find? id
  | .jobStep id => w'.jobSteps.find? id = w.jobSteps.find? id
  | .job id => w'.jobs.find? id = w.jobs.find? id && commit.jobOp.dispatchJob ≠ some id

/- `remaining` is `passes_remaining`; a locked phase keeps the row it has read under the lock. -/
inductive CancelPhase where
  | pass (remaining : Nat)
  | scanned (remaining : Nat) (candidate : Option AttemptId)
  | attemptLocked (remaining : Nat) (attempt : Attempt)
  | stepLocked (remaining : Nat) (attempt : Attempt)
  | jobLocked (remaining : Nat) (activeAttempt : Option Attempt) (row : JobRow)
  | rescanned (row : JobRow)
  | facts (job : Job) (activeAttempt : Option Attempt)
  | done (result : Except RequestCancellationError CancellationRequestOutcome)

def CancelPhase.isDone : CancelPhase → Bool
  | .done _ => true
  | _ => false

def attemptLocks (attempt : Attempt) : List RowLock := [.attempt attempt.id,.jobStep attempt.jobStepId]

def CancelPhase.held : CancelPhase → List RowLock
  | .pass _ | .scanned _ _ | .done _ => []
  | .attemptLocked _ attempt => [.attempt attempt.id]
  | .stepLocked _ attempt => attemptLocks attempt
  | .jobLocked _ active row => active.toList.flatMap attemptLocks ++ [.job row.id]
  | .rescanned row => [.job row.id]
  | .facts job active => active.toList.flatMap attemptLocks ++ .job job.id :: job.steps.map fun step => .jobStep step.id

def retryBudgetExceeded : RequestCancellationError :=
  .repository (.backend ("request_cancellation: exceeded retry budget resolving the active " ++
    "Attempt race against final dispatch"))

def scanViolation : RequestCancellationError :=
  .repository (.backend "invariant violation: more than one simultaneously active/uncertain attempt for job")

/- The last statement: decide on the locked facts and commit. -/
def Store.decideCancellation (s : Store) (jobId : JobId) (job : Job) (active : Option Attempt) (stamp : Stamp) :
    Store × Except RequestCancellationError CancellationRequestOutcome :=
  match Bamep.requestCancellation job active stamp with
  | none => (s,.error (.notEligible jobId))
  | some .alreadyCancelling => (s,.ok .alreadyCancelling)
  | some .alreadyTerminal => (s,.ok .alreadyTerminal)
  | some (.enteredCancelling job' attemptId actionId) =>
    match s.commitWorkflow (some (s.workflow.setJobState jobId job'.state)) with
    | none => (s,.error (.repository .database))
    | some s' => (s',.ok (.enteredCancelling job' attemptId actionId))
  | some (.completedImmediately job' event) =>
    match s.commitWorkflow ((s.workflow.setJobState jobId job'.state).insertEvents? [event]) with
    | none => (s,.error (.repository .database))
    | some s' => (s',.ok (.completedImmediately job' event))

structure CancelRace where
  store : Store
  phase : CancelPhase

namespace CancelRace
variable (x : CancelRace) (jobId : JobId)

def lockJob (remaining : Nat) (active : Option Attempt) : CancelPhase :=
  match x.store.workflow.jobs.find? jobId with
  | none => .done (.error (.jobNotFound jobId))
  | some row => .jobLocked remaining active row

def fetchSteps (row : JobRow) (active : Option Attempt) : CancelPhase :=
  .facts ⟨jobId,row.endpointId,row.state,x.store.workflow.fetchJobSteps jobId⟩ active

def statement (stamp : Stamp) : CancelRace :=
  match x.phase with
  | .pass remaining =>
    if remaining - 1 = 0 then { x with phase := .done (.error retryBudgetExceeded) }
    else
      let candidates := x.store.workflow.activeAttemptCandidateRows jobId
      if 1 < candidates.length then { x with phase := .done (.error scanViolation) }
      else { x with phase := .scanned (remaining - 1) (candidates.head?.map Attempt.id) }
  | .scanned remaining none => { x with phase := x.lockJob jobId remaining none }
  | .scanned remaining (some attemptId) =>
    match x.store.workflow.attempts.find? attemptId with
    | none => { x with phase := .done (.error (.repository
        (.backend "candidate active attempt disappeared under lock"))) }
    | some attempt =>
      -- A candidate that went stale is rolled back and the scan retried.
      if attempt.state.isActive then { x with phase := .attemptLocked remaining attempt }
      else { x with phase := .pass remaining }
  | .attemptLocked remaining attempt => { x with phase := .stepLocked remaining attempt }
  | .stepLocked remaining attempt => { x with phase := x.lockJob jobId remaining (some attempt) }
  | .jobLocked _ (some attempt) row => { x with phase := x.fetchSteps jobId row (some attempt) }
  | .jobLocked remaining none row =>
    let candidates := x.store.workflow.activeAttemptCandidateRows jobId
    if 1 < candidates.length then { x with phase := .done (.error scanViolation) }
    else if candidates ≠ [] then { x with phase := .pass remaining }
    else { x with phase := .rescanned row }
  | .rescanned row => { x with phase := x.fetchSteps jobId row none }
  | .facts job active =>
    let decided := x.store.decideCancellation jobId job active stamp
    ⟨decided.1,.done decided.2⟩
  | .done _ => x

end CancelRace

inductive RaceOp where
  | other (commit : JobCommit)
  | statement (stamp : Stamp)

def CancelRace.after (jobId : JobId) (x : CancelRace) : RaceOp → CancelRace
  | .other commit =>
    let store := commit.apply x.store
    if x.phase.held.all fun lock => lock.lets x.store.workflow commit store.workflow then { x with store := store }
    else x
  | .statement stamp => x.statement jobId stamp

def CancelRace.start (s : Store) : CancelRace := ⟨s,.pass 8⟩

def OfJob (w : WorkflowRows) (jobId : JobId) (a : Attempt) : Prop :=
  ∃ step ∈ w.jobSteps, step.id = a.jobStepId ∧ step.jobId = jobId

section Commits
variable {s : Store} {commit : JobCommit} {jobId : JobId}

theorem jobCommitEffect (s : Store) (commit : JobCommit) :
    Effect s.workflow commit.jobOp (commit.apply s).workflow := by
  cases commit with
  | job op => exact afterEffect s op
  | evidence call stamp => exact (callEnds s call stamp).effect

theorem newAttemptJob {b} (mem : b ∈ (commit.apply s).workflow.attempts) :
    (∃ a ∈ s.workflow.attempts, b.id = a.id ∧ AttemptMove commit.jobOp a b) ∨
      ∃ jobId, commit.jobOp.dispatchJob = some jobId ∧ OfJob s.workflow jobId b := by
  rcases (attemptsEvolve (jobCommitEffect s commit)).back mem with old | ⟨_,dispatches⟩
  · exact .inl old
  by_cases known : ∃ a ∈ s.workflow.attempts, a.id = b.id
  · obtain ⟨a,old,same⟩ := known
    obtain ⟨b',mem',same',move⟩ := (attemptsEvolve (jobCommitEffect s commit)).forward old
    cases Table.eqOfKey mem' mem (same'.trans same)
    exact .inl ⟨a,old,same.symm,move⟩
  refine .inr ?_
  have fresh : ∀ a ∈ s.workflow.attempts, a.id ≠ b.id := fun a old same => known ⟨a,old,same⟩
  cases commit with
  | evidence call stamp => cases call <;> cases dispatches
  | job op =>
    cases op with
    | commitDestructiveDispatch jobId stepId facts attemptId actionId =>
      have unloaded : s.workflow.loadJob jobId ≠ none := by
        intro none
        simp only [JobCommit.apply,Store.after,Store.commitDestructiveDispatch,none] at mem
        exact fresh b mem rfl
      obtain ⟨job,loaded⟩ := Option.ne_none_iff_exists'.mp unloaded
      obtain ⟨row,_,rfl,rfl⟩ := loadJobSome loaded
      obtain ⟨step,gate,_,rfl⟩ := destructiveAttempt loaded mem fresh
      obtain ⟨present,owner⟩ := memFetch.mp gate.mem
      exact ⟨_,rfl,step,present,rfl,owner⟩
    | commitTransferDispatch jobId stepId transferId attemptId actionId =>
      obtain ⟨step,present,named,owner,_⟩ := transferAttempt mem fresh
      exact ⟨_,rfl,step,present,named,owner⟩
    | _ => cases dispatches

theorem ofJobForward {a} (owned : OfJob s.workflow jobId a) :
    OfJob (commit.apply s).workflow jobId a := by
  obtain ⟨step,mem,named,owner⟩ := owned
  obtain ⟨step',mem',same,place⟩ := (stepsEvolve (jobCommitEffect s commit)).forward mem
  exact ⟨step',mem',same.trans named,place.1.trans owner⟩

theorem ofJobBack {a} (old : a ∈ s.workflow.attempts)
    (owned : OfJob (commit.apply s).workflow jobId a) : OfJob s.workflow jobId a := by
  obtain ⟨step',mem',named',owner'⟩ := owned
  obtain ⟨step,mem,named⟩ := s.workflowValid.attemptStep a old
  obtain ⟨step'',mem'',same,place⟩ := (stepsEvolve (jobCommitEffect s commit)).forward mem
  cases Table.eqOfKey mem'' mem' ((same.trans named).trans named'.symm)
  exact ⟨step,mem,named,place.1.symm.trans owner'⟩

end Commits

/- The Job has no active Attempt, or this one only. -/
def Idle (w : WorkflowRows) (jobId : JobId) : Prop :=
  ∀ a ∈ w.attempts, OfJob w jobId a → a.state.isActive = false

structure Holds (w : WorkflowRows) (jobId : JobId) (a : Attempt) : Prop where
  mem : a ∈ w.attempts
  owned : OfJob w jobId a
  active : a.state.isActive = true

/- What the canceller may rely on in each phase. -/
def CancelPhase.Sound (w : WorkflowRows) (jobId : JobId) : CancelPhase → Prop
  | .pass _ | .scanned _ none | .done _ => True
  | .scanned _ (some id) => ∃ a ∈ w.attempts, a.id = id ∧ OfJob w jobId a
  | .attemptLocked _ a | .stepLocked _ a => Holds w jobId a
  | .jobLocked _ active row => (row ∈ w.jobs ∧ row.id = jobId) ∧ ∀ a ∈ active, Holds w jobId a
  | .rescanned row => (row ∈ w.jobs ∧ row.id = jobId) ∧ Idle w jobId
  | .facts job active => job.id = jobId ∧ (∃ row ∈ w.jobs, row.id = jobId ∧ row.state = job.state) ∧
      (∀ a ∈ active, Holds w jobId a) ∧ (active = none → Idle w jobId)

section Phases
variable {s : Store} {commit : JobCommit} {jobId : JobId}

theorem heldAttempt {a} (holds : Holds s.workflow jobId a)
    (lets : (RowLock.attempt a.id).lets s.workflow commit (commit.apply s).workflow = true) :
    Holds (commit.apply s).workflow jobId a := by
  have found : s.workflow.attempts.find? a.id = some a := Table.findIff.mpr ⟨holds.mem,rfl⟩
  simp only [RowLock.lets,decide_eq_true_eq,found] at lets
  exact ⟨(Table.findIff.mp lets).1,ofJobForward holds.owned,holds.active⟩

theorem heldJob {row} (mem : row ∈ s.workflow.jobs)
    (lets : (RowLock.job row.id).lets s.workflow commit (commit.apply s).workflow = true) :
    row ∈ (commit.apply s).workflow.jobs := by
  have found : s.workflow.jobs.find? row.id = some row := Table.findIff.mpr ⟨mem,rfl⟩
  simp only [RowLock.lets,Bool.and_eq_true,decide_eq_true_eq,found] at lets
  exact (Table.findIff.mp lets.1).1

/- Under the lock of its Job row no Attempt of the Job can appear. -/
theorem heldIdle (idle : Idle s.workflow jobId)
    (lets : (RowLock.job jobId).lets s.workflow commit (commit.apply s).workflow = true) :
    Idle (commit.apply s).workflow jobId := by
  intro b mem owned
  simp only [RowLock.lets,Bool.and_eq_true,decide_eq_true_eq] at lets
  rcases newAttemptJob mem with ⟨a,old,same,move⟩ | ⟨other,dispatches,new⟩
  · have stepId : b.jobStepId = a.jobStepId := by rw [move.kept]
    have owned' : OfJob s.workflow jobId a := by
      obtain ⟨step,present,named,owner⟩ := owned
      exact ofJobBack old ⟨step,present,named.trans stepId,owner⟩
    cases active : b.state.isActive with
    | false => rfl
    | true => exact absurd (move.wasActive active) (Bool.eq_false_iff.mp (idle a old owned'))
  · obtain ⟨step,present,named,owner⟩ := new
    obtain ⟨step₁,present₁,same₁,place₁⟩ := (stepsEvolve (jobCommitEffect s commit)).forward present
    obtain ⟨step₂,present₂,named₂,owner₂⟩ := owned
    cases Table.eqOfKey present₁ present₂ ((same₁.trans named).trans named₂.symm)
    rw [← owner,← place₁.1,owner₂] at dispatches
    exact absurd dispatches lets.2

theorem otherSound {phase : CancelPhase} (sound : phase.Sound s.workflow jobId)
    (lets : ∀ lock ∈ phase.held, lock.lets s.workflow commit (commit.apply s).workflow = true) :
    phase.Sound (commit.apply s).workflow jobId := by
  have attempts : ∀ {active : Option Attempt} {rest : List RowLock},
      phase.held = active.toList.flatMap attemptLocks ++ rest → (∀ a ∈ active, Holds s.workflow jobId a) →
      ∀ a ∈ active, Holds (commit.apply s).workflow jobId a := by
    intro active rest held holds a mem
    refine heldAttempt (holds a mem) (lets _ ?_)
    rw [held]
    rw [Option.mem_def] at mem
    simp [mem,attemptLocks]
  cases phase with
  | pass | done => trivial
  | scanned remaining candidate =>
    cases candidate with
    | none => trivial
    | some id =>
      obtain ⟨a,mem,named,owned⟩ := sound
      obtain ⟨b,mem',same,move⟩ := (attemptsEvolve (jobCommitEffect s commit)).forward mem
      obtain ⟨step,present,stepNamed,owner⟩ := @ofJobForward s commit jobId a owned
      have stepId : b.jobStepId = a.jobStepId := by rw [move.kept]
      exact ⟨b,mem',same.trans named,step,present,stepNamed.trans stepId.symm,owner⟩
  | attemptLocked remaining a => exact heldAttempt sound (lets _ List.mem_cons_self)
  | stepLocked remaining a => exact heldAttempt sound (lets _ List.mem_cons_self)
  | jobLocked remaining active row =>
    obtain ⟨⟨mem,named⟩,holds⟩ := sound
    exact ⟨⟨heldJob mem (lets _ (by simp [CancelPhase.held])),named⟩,attempts rfl holds⟩
  | rescanned row =>
    obtain ⟨⟨mem,rfl⟩,idle⟩ := sound
    have job := lets _ List.mem_cons_self
    exact ⟨⟨heldJob mem job,rfl⟩,heldIdle idle job⟩
  | facts job active =>
    obtain ⟨rfl,⟨row,mem,named,state⟩,holds,idle⟩ := sound
    have lock := lets (.job job.id) (by simp [CancelPhase.held])
    exact ⟨rfl,⟨row,heldJob mem (named ▸ lock),named,state⟩,attempts rfl holds,
      fun none => heldIdle (idle none) lock⟩

theorem candidateOfJob {a} (mem : a ∈ s.workflow.activeAttemptCandidateRows jobId) :
    a ∈ s.workflow.attempts ∧ OfJob s.workflow jobId a := by
  obtain ⟨present,_,step,stepMem,named,owner,_⟩ := memDispatching.mp mem
  exact ⟨present,step,stepMem,named,owner⟩

theorem idleScan (linear : Linear s.workflow) (empty : s.workflow.activeAttemptCandidateRows jobId = []) :
    Idle s.workflow jobId := by
  intro a mem owned
  obtain ⟨step,present,named,owner⟩ := owned
  cases active : a.state.isActive with
  | false => rfl
  | true =>
    have dispatching : step.state = .dispatching :=
      (linear.agrees a mem step present named).1.trans (activeStands active).1
    have candidate : a ∈ s.workflow.activeAttemptCandidateRows jobId :=
      memDispatching.mpr ⟨mem,active,step,present,named,owner,dispatching⟩
    rw [empty] at candidate
    cases candidate

/- The workflow admits one active Attempt of a Job at a time. -/
theorem onlyActive (linear : Linear s.workflow) {a b} (holds : Holds s.workflow jobId a)
    (other : Holds s.workflow jobId b) : b = a := by
  obtain ⟨x,memX,namedX,ownerX⟩ := holds.owned
  obtain ⟨y,memY,namedY,ownerY⟩ := other.owned
  have stateX := (linear.agrees a holds.mem x memX namedX).1.trans (activeStands holds.active).1
  have stateY := (linear.agrees b other.mem y memY namedY).1.trans (activeStands other.active).1
  have same := oneDispatching s.workflowValid linear memY memX (ownerY.trans ownerX.symm) stateY stateX
  exact linear.single b other.mem a holds.mem (by rw [← namedX,← namedY,same])

end Phases

structure Raced (jobId : JobId) (x : CancelRace) : Prop where
  linear : Linear x.store.workflow
  sound : x.phase.Sound x.store.workflow jobId

section Race
variable {x : CancelRace} {jobId : JobId}

theorem lockJobSound {remaining active}
    (holds : ∀ a ∈ active, Holds x.store.workflow jobId a) :
    (x.lockJob jobId remaining active).Sound x.store.workflow jobId := by
  unfold CancelRace.lockJob
  split
  · trivial
  · rename_i row found
    exact ⟨Table.findIff.mp found,holds⟩

theorem lockJobOpen {remaining active outcome} :
    x.lockJob jobId remaining active ≠ .done (.ok outcome) := by
  unfold CancelRace.lockJob
  split <;> simp

theorem decideKeeps {job active stamp} (linear : Linear x.store.workflow) :
    Linear (x.store.decideCancellation jobId job active stamp).1.workflow := by
  unfold Store.decideCancellation
  split
  · exact linear
  · exact linear
  · exact linear
  · split
    · exact linear
    · rename_i s' committed
      have rows := (commitWorkflowSome committed).1
      rw [← Option.some.inj rows]
      exact linearFrame linear rfl rfl
  · split
    · exact linear
    · rename_i s' committed
      obtain ⟨_,steps,attempts,_⟩ := insertEventsSome (commitWorkflowSome committed).1
      exact linearFrame linear steps attempts

theorem statementRaced (raced : Raced jobId x) (stamp : Stamp) : Raced jobId (x.statement jobId stamp) := by
  obtain ⟨store,phase⟩ := x
  obtain ⟨linear,sound⟩ := raced
  cases phase with
  | pass remaining =>
    simp only [CancelRace.statement]
    split
    · exact ⟨linear,trivial⟩
    split
    · exact ⟨linear,trivial⟩
    · refine ⟨linear,?_⟩
      cases first : (store.workflow.activeAttemptCandidateRows jobId).head? with
      | none => trivial
      | some a =>
        obtain ⟨mem,owned⟩ := candidateOfJob (memHead first)
        exact ⟨a,mem,rfl,owned⟩
  | scanned remaining candidate =>
    cases candidate with
    | none => exact ⟨linear,lockJobSound (by simp)⟩
    | some id =>
      obtain ⟨a,mem,named,owned⟩ := sound
      have found : store.workflow.attempts.find? id = some a := Table.findIff.mpr ⟨mem,named⟩
      simp only [CancelRace.statement,found]
      split
      · rename_i active
        exact ⟨linear,mem,owned,active⟩
      · exact ⟨linear,trivial⟩
  | attemptLocked remaining a => exact ⟨linear,sound⟩
  | stepLocked remaining a =>
    refine ⟨linear,lockJobSound fun b mem => ?_⟩
    cases Option.mem_some.mp mem
    exact sound
  | jobLocked remaining active row =>
    obtain ⟨⟨mem,named⟩,holds⟩ := sound
    cases active with
    | some a => exact ⟨linear,rfl,⟨row,mem,named,rfl⟩,holds,by simp⟩
    | none =>
      simp only [CancelRace.statement]
      split
      · exact ⟨linear,trivial⟩
      split
      · exact ⟨linear,trivial⟩
      · rename_i empty
        exact ⟨linear,⟨mem,named⟩,idleScan linear (not_not.mp empty)⟩
  | rescanned row =>
    obtain ⟨⟨mem,named⟩,idle⟩ := sound
    exact ⟨linear,rfl,⟨row,mem,named,rfl⟩,by simp,fun _ => idle⟩
  | facts job active => exact ⟨decideKeeps (x := ⟨store,.facts job active⟩) linear,trivial⟩
  | done result => exact ⟨linear,trivial⟩

theorem racedAfter (jobId : JobId) (x : CancelRace) (op : RaceOp) (raced : Raced jobId x) :
    Raced jobId (x.after jobId op) := by
  cases op with
  | statement stamp => exact statementRaced raced stamp
  | other commit =>
    simp only [CancelRace.after]
    split
    · rename_i lets
      exact ⟨linearEffect x.store.workflowValid raced.linear (jobCommitEffect x.store commit),
        otherSound raced.sound (List.all_eq_true.mp lets)⟩
    · exact raced

theorem decidedEntered {s s' : Store} {job job' active stamp attemptId actionId}
    (decided : s.decideCancellation jobId job active stamp = (s',.ok (.enteredCancelling job' attemptId actionId))) :
    job.state = .running ∧ (∃ a ∈ active, a.id = attemptId ∧ a.actionId = actionId) ∧
      s'.workflow = s.workflow.setJobState jobId .cancelling := by
  unfold Store.decideCancellation at decided
  split at decided <;> try (cases decided)
  · rename_i outcome
    split at decided
    · cases decided
    · rename_i committed
      cases decided
      obtain ⟨running,named,rfl⟩ := enteredCancelling outcome
      exact ⟨running,named,(Option.some.inj (commitWorkflowSome committed).1).symm⟩
  · split at decided <;> cases decided

theorem decidedCompleted {s s' : Store} {job job' active stamp event}
    (decided : s.decideCancellation jobId job active stamp = (s',.ok (.completedImmediately job' event))) :
    active = none ∧ s'.workflow.jobSteps = s.workflow.jobSteps ∧ s'.workflow.attempts = s.workflow.attempts := by
  unfold Store.decideCancellation at decided
  split at decided <;> try (cases decided)
  · split at decided <;> cases decided
  · rename_i outcome
    split at decided
    · cases decided
    · rename_i committed
      cases decided
      obtain ⟨_,steps,attempts,_⟩ := insertEventsSome (commitWorkflowSome committed).1
      exact ⟨(completedImmediately outcome).2.1,steps,attempts⟩

theorem statementReturns {stamp outcome}
    (unfinished : x.phase.isDone = false) (returned : (x.statement jobId stamp).phase = .done (.ok outcome)) :
    ∃ job active, x.phase = .facts job active ∧
      x.store.decideCancellation jobId job active stamp = ((x.statement jobId stamp).store,.ok outcome) := by
  obtain ⟨store,phase⟩ := x
  cases phase with
  | facts job active =>
    refine ⟨job,active,rfl,?_⟩
    simp only [CancelRace.statement,CancelPhase.done.injEq] at returned
    simp only [CancelRace.statement,← returned]
  | done result => simp [CancelPhase.isDone] at unfinished
  | pass remaining =>
    simp only [CancelRace.statement] at returned
    split at returned
    · cases returned
    · split at returned <;> cases returned
  | scanned remaining candidate =>
    cases candidate with
    | none => exact absurd returned lockJobOpen
    | some id =>
      simp only [CancelRace.statement] at returned
      split at returned
      · cases returned
      · split at returned <;> cases returned
  | attemptLocked remaining a => cases returned
  | stepLocked remaining a => exact absurd returned lockJobOpen
  | jobLocked remaining active row =>
    cases active with
    | some a => cases returned
    | none =>
      simp only [CancelRace.statement] at returned
      split at returned
      · cases returned
      · split at returned <;> cases returned
  | rescanned row => cases returned

theorem requestDecides {s : Store} {job stamp}
    (single : ¬ 1 < (s.workflow.activeAttemptCandidateRows jobId).length)
    (loaded : s.workflow.loadJob jobId = some job) :
    s.requestCancellation jobId stamp =
      s.decideCancellation jobId job (s.workflow.activeAttemptCandidateRows jobId).head? stamp := by
  unfold Store.requestCancellation Store.decideCancellation
  rw [if_neg single]
  cases decided : Bamep.requestCancellation job (s.workflow.activeAttemptCandidateRows jobId).head? stamp with
  | none => simp [loaded,decided]
  | some outcome =>
    cases outcome with
    | alreadyCancelling | alreadyTerminal => simp [loaded,decided]
    | enteredCancelling job' attemptId actionId =>
      cases committed : s.commitWorkflow (some (s.workflow.setJobState jobId job'.state)) <;>
        simp [loaded,decided,committed]
    | completedImmediately job' event =>
      cases committed : s.commitWorkflow ((s.workflow.setJobState jobId job'.state).insertEvents? [event]) <;>
        simp [loaded,decided,committed]

/- Without another commit in between, the statements are the one atomic pass of `Store.requestCancellation`. -/
theorem statementsAlone (s : Store) (jobId : JobId) (stamp : Stamp) :
    run (CancelRace.after jobId) (.start s) (List.replicate 6 (.statement stamp)) =
      ⟨(s.requestCancellation jobId stamp).1,.done (s.requestCancellation jobId stamp).2⟩ := by
  simp only [List.replicate,runCons,runNil,CancelRace.after,CancelRace.start]
  by_cases several : 1 < (s.workflow.activeAttemptCandidateRows jobId).length
  · simp [several,CancelRace.statement,Store.requestCancellation,scanViolation]
  have locked : ∀ a ∈ s.workflow.activeAttemptCandidateRows jobId,
      s.workflow.attempts.find? a.id = some a ∧ a.state.isActive = true := by
    intro a candidate
    obtain ⟨mem,active,_⟩ := memDispatching.mp candidate
    exact ⟨Table.findIff.mpr ⟨mem,rfl⟩,active⟩
  cases found : s.workflow.jobs.find? jobId with
  | none =>
    have unloaded : s.workflow.loadJob jobId = none := by simp [WorkflowRows.loadJob,found]
    cases candidates : s.workflow.activeAttemptCandidateRows jobId with
    | nil => simp [CancelRace.statement,CancelRace.lockJob,Store.requestCancellation,found,candidates,unloaded]
    | cons a rest =>
      obtain ⟨present,active⟩ := locked a (candidates ▸ List.mem_cons_self)
      obtain rfl : rest = [] := by simpa [candidates] using several
      simp [CancelRace.statement,CancelRace.lockJob,Store.requestCancellation,found,candidates,unloaded,present,
        active]
  | some row =>
    have loaded : s.workflow.loadJob jobId =
        some ⟨jobId,row.endpointId,row.state,s.workflow.fetchJobSteps jobId⟩ := by
      simp [WorkflowRows.loadJob,found,(Table.findIff.mp found).2]
    rw [requestDecides several loaded]
    cases candidates : s.workflow.activeAttemptCandidateRows jobId with
    | nil => simp [CancelRace.statement,CancelRace.lockJob,CancelRace.fetchSteps,found,candidates]
    | cons a rest =>
      obtain ⟨present,active⟩ := locked a (candidates ▸ List.mem_cons_self)
      obtain rfl : rest = [] := by simpa [candidates] using several
      simp [CancelRace.statement,CancelRace.lockJob,CancelRace.fetchSteps,found,candidates,present,active]

end Race

/- What the caller is told, against the rows `w'` of the commit and the rows `w` before it. -/
def CancellationRequestOutcome.Exact (jobId : JobId) (w w' : WorkflowRows) : CancellationRequestOutcome → Prop
  | .completedImmediately _ _ => Idle w' jobId
  | .enteredCancelling _ attemptId actionId =>
    (∃ a, Holds w' jobId a ∧ a.id = attemptId ∧ a.actionId = actionId ∧ ∀ b, Holds w' jobId b → b = a) ∧
      ∃ row ∈ w.jobs, row.id = jobId ∧ row.state = .running ∧ { row with state := .cancelling } ∈ w'.jobs
  | .alreadyCancelling | .alreadyTerminal => True

theorem ofJobFrame {w w' jobId a} (steps : w'.jobSteps = w.jobSteps) :
    OfJob w' jobId a ↔ OfJob w jobId a := by
  unfold OfJob
  rw [steps]

theorem holdsFrame {w w' jobId a} (steps : w'.jobSteps = w.jobSteps)
    (attempts : w'.attempts = w.attempts) : Holds w' jobId a ↔ Holds w jobId a := by
  constructor
  · intro holds
    exact ⟨attempts ▸ holds.mem,(ofJobFrame steps).mp holds.owned,holds.active⟩
  · intro holds
    exact ⟨attempts ▸ holds.mem,(ofJobFrame steps).mpr holds.owned,holds.active⟩

theorem racedRun (jobId : JobId) (before : List JobCommit) (ops : List RaceOp) :
    Raced jobId (run (CancelRace.after jobId) (.start (run JobCommit.apply .empty before)) ops) := by
  have linear : Linear (run JobCommit.apply .empty before).workflow :=
    @runAlways _ _ JobCommit.apply (fun s => Linear s.workflow)
      (fun s commit linear => linearEffect s.workflowValid linear (jobCommitEffect s commit)) _ linearEmpty before
  have start : Raced jobId (.start (run JobCommit.apply .empty before)) := ⟨linear,trivial⟩
  exact runAlways (racedAfter jobId) start ops

theorem cancellationRaceExact (jobId : JobId) (before : List JobCommit) (ops : List RaceOp) (stamp : Stamp)
    (outcome : CancellationRequestOutcome) :
    let x := run (CancelRace.after jobId) (.start (run JobCommit.apply .empty before)) ops
    let x' := x.after jobId (.statement stamp)
    x.phase.isDone = false → x'.phase = .done (.ok outcome) → outcome.Exact jobId x.store.workflow x'.store.workflow := by
  intro x x' unfinished returned
  have raced : Raced jobId x := racedRun jobId before ops
  obtain ⟨job,active,phase,decided⟩ := statementReturns unfinished returned
  have sound := raced.sound
  rw [phase] at sound
  obtain ⟨_,⟨row,mem,named,state⟩,holds,idle⟩ := sound
  cases outcome with
  | alreadyCancelling | alreadyTerminal => trivial
  | completedImmediately job' event =>
    obtain ⟨none,steps,attempts⟩ := decidedCompleted decided
    intro a present owned
    exact idle none a (attempts ▸ present) ((ofJobFrame steps).mp owned)
  | enteredCancelling job' attemptId actionId =>
    obtain ⟨running,⟨a,present,sameId,sameAction⟩,rows⟩ := decidedEntered decided
    have steps : x'.store.workflow.jobSteps = x.store.workflow.jobSteps := by
      show (x.statement jobId stamp).store.workflow.jobSteps = _
      rw [rows]; rfl
    have attempts : x'.store.workflow.attempts = x.store.workflow.attempts := by
      show (x.statement jobId stamp).store.workflow.attempts = _
      rw [rows]; rfl
    refine ⟨⟨a,(holdsFrame steps attempts).mpr (holds a present),sameId,sameAction,?_⟩,row,mem,named,
      state.trans running,?_⟩
    · intro b other
      exact onlyActive raced.linear (holds a present) ((holdsFrame steps attempts).mp other)
    · show _ ∈ (x.statement jobId stamp).store.workflow.jobs
      rw [rows]
      exact WorkflowRows.memSetJobState.mpr (.inr ⟨row,mem,named,rfl⟩)

/- The dispatch commits between the unlocked scan and the lock of the Job row: the re-scan sends the request back,
and the second pass finds the Attempt. -/
theorem cancellationRaceExactRetried :
    let before := [JobCommit.job (.createWorkflow (some .enrolled) ⟨1⟩ (fun i => ⟨10 + i⟩) ⟨0⟩ 1),
      .job (.admitJob ⟨1⟩ (ticket 1))]
    let now := RaceOp.statement (ticket 2)
    let ops := [now] ++ (dispatchStep ⟨1⟩ 10).map (fun op => .other (.job op)) ++ List.replicate 7 now
    let x := run (CancelRace.after ⟨1⟩) (.start (run JobCommit.apply .empty before)) ops
    let steps := [JobStep.mk ⟨10⟩ ⟨1⟩ 0 .dispatching (some ⟨⟨0⟩,"disk"⟩) none]
    (CancellationRequestOutcome.enteredCancelling ⟨⟨1⟩,⟨0⟩,.cancelling,steps⟩ ⟨10⟩ ⟨10⟩).Exact ⟨1⟩
      x.store.workflow (x.after ⟨1⟩ now).store.workflow :=
  cancellationRaceExact ⟨1⟩ _ _ (ticket 2) _ (by decide) (by rfl)

end Bamep
