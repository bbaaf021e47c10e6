import Bamep.Application.FinalDispatch
import Bamep.Gateway.Step
import Bamep.Runtime.ResourceArbiter
import Bamep.Store.AttemptLife

/-! One Server process as its service calls. A reservation goes from the arbiter to a dispatch service,
to its caller, to the registry and back; the calls interleave, so each of these is a step of its own. -/
namespace Bamep
open Relational Transition

structure Mapping where
  attemptId : AttemptId
  reservation : ReservationId
  deriving DecidableEq, Repr

abbrev AttemptReservationRegistry := Table Mapping.attemptId

inductive RegistrationOutcome where
  | registered | alreadyRegistered
  deriving DecidableEq, Repr

namespace AttemptReservationRegistry
variable (registry : AttemptReservationRegistry)

def register (attemptId : AttemptId) (reservation : ReservationId) :
    AttemptReservationRegistry × RegistrationOutcome :=
  match registry.insert? ⟨attemptId,reservation⟩ with
  | none => (registry,.alreadyRegistered)
  | some registry' => (registry',.registered)

def take (attemptId : AttemptId) : AttemptReservationRegistry × Option ReservationId :=
  (registry.retain fun row => row.attemptId ≠ attemptId,(registry.find? attemptId).map Mapping.reservation)

end AttemptReservationRegistry

inductive DispatchRequest where
  | destructive (jobId : JobId) (stepId : JobStepId)
  | transfer (jobId : JobId) (stepId : JobStepId) (transferId : TransferId)
  deriving DecidableEq, Repr

-- The durable part of the two dispatch services; `none` is every answer that is not `Committed`.
def DispatchRequest.commit (s : Store) (facts : EndpointFacts) (attemptId : AttemptId) (actionId : ActionId) :
    DispatchRequest → Store × Option Attempt
  | .destructive jobId stepId =>
    (s.commitDestructiveDispatch jobId stepId facts attemptId actionId).map id fun result =>
      result.toOption.map FinalDispatchOutcome.attempt
  | .transfer jobId stepId transferId =>
    (s.commitTransferDispatch jobId stepId transferId attemptId actionId).map id fun result =>
      result.toOption.map TransferDispatchOutcome.attempt

structure TransferActionParameters where
  transferId : TransferId
  artifactId : ArtifactId
  direction : TransferDirection
  digestAlgorithm : DigestAlgorithm
  chunkSize : ChunkSize
  deriving DecidableEq, Repr

def transferActionParameters (transfer : Transfer) : TransferActionParameters :=
  ⟨transfer.id,transfer.artifactId,transfer.direction,transfer.digestAlgorithm,transfer.chunkSize⟩

-- `parameters` is the map of the message, `none` when it is empty.
structure ActionDispatchMessage where
  actionId : ActionId
  actionType : String
  actionVersion : String
  parameters : Option TransferActionParameters
  deriving DecidableEq, Repr

/- The message of `dispatch`, and with a Transfer that of `dispatch_transfer`. -/
def actionDispatch (attempt : Attempt) : Option Transfer → ActionDispatchMessage
  | none => ⟨attempt.actionId,"bamep.m1.simulated-execution","1",none⟩
  | some transfer =>
    ⟨attempt.actionId,"bamep.m1.data-plane-transfer","1",some (transferActionParameters transfer)⟩

inductive EvidenceCall where
  | action (actionId : ActionId) (endpointId : EndpointId) (evidence : ActionEvidence)
  | cancelAck (actionId : ActionId) (endpointId : EndpointId) (evidence : CancelAckEvidence)
  | statusReport (actionId : ActionId) (endpointId : EndpointId) (evidence : StatusReportEvidence)
  | closeIndeterminate (jobId : JobId)
  | transferResult (actionId : ActionId) (endpointId : EndpointId) (detail : TransferResultDetail)
  | transferCancelAck (actionId : ActionId) (endpointId : EndpointId) (evidence : CancelAckEvidence)
  | transferStatusCancelled (actionId : ActionId) (endpointId : EndpointId)
  | transferStatusFailed (actionId : ActionId) (endpointId : EndpointId)
  deriving DecidableEq, Repr

def Store.applyTransferEvidence (s : Store) (actionId : ActionId) (endpointId : EndpointId) (stamp : Stamp)
    (decide : TransferEvidenceFacts → Stamp → TransferEvidenceDecision) : Store × Option Applied :=
  (s.applyTransferTerminalEvidence actionId endpointId fun facts => decide facts stamp).map id fun result =>
    result.toOption.bind TransferEvidenceResult.applied?

def EvidenceCall.commit (s : Store) (stamp : Stamp) : EvidenceCall → Store × Option Applied
  | .action actionId endpointId evidence =>
    (s.applyActionEvidence actionId endpointId evidence stamp).map id fun result =>
      result.toOption.bind EvidenceDecision.applied?
  | .cancelAck actionId endpointId evidence =>
    (s.applyCancelAck actionId endpointId evidence stamp).map id fun result =>
      result.toOption.bind EvidenceDecision.applied?
  | .statusReport actionId endpointId evidence =>
    (s.applyStatusReport actionId endpointId evidence stamp).map id fun result =>
      result.toOption.bind EvidenceDecision.applied?
  | .closeIndeterminate jobId =>
    (s.closeIndeterminate jobId stamp).map id fun result =>
      result.toOption.bind CloseIndeterminateOutcome.applied?
  | .transferResult actionId endpointId detail =>
    s.applyTransferEvidence actionId endpointId stamp (decideTransferTerminalEvidence detail)
  | .transferCancelAck actionId endpointId evidence =>
    s.applyTransferEvidence actionId endpointId stamp (decideTransferCancelAck evidence)
  | .transferStatusCancelled actionId endpointId =>
    s.applyTransferEvidence actionId endpointId stamp decideTransferStatusReportCancelled
  | .transferStatusFailed actionId endpointId =>
    s.applyTransferEvidence actionId endpointId stamp decideTransferStatusReportFailed

-- A service call between two of its steps.
inductive ServiceCall where
  | acquired (request : DispatchRequest) (reservation : ReservationId)
  | refused (reservation : ReservationId)
  | registered (endpointId : EndpointId) (attemptId : AttemptId) (message : ActionDispatchMessage)
  | settled (attemptId : AttemptId)
  | taken (attemptId : AttemptId) (reservation : ReservationId)
  deriving DecidableEq, Repr

structure CommittedDispatch where
  attempt : Attempt
  reservation : ReservationId
  deriving DecidableEq, Repr

structure Handover where
  endpointId : EndpointId
  attemptId : AttemptId
  message : ActionDispatchMessage
  deriving DecidableEq, Repr

/- `waiting` are the committed dispatches that were not passed on to `ActionDispatchService` yet, and
`called` those that were. The last four fields only record what happened. -/
structure Process where
  store : Store
  arbiter : TechnicalResourceArbiter
  registry : AttemptReservationRegistry
  calls : List ServiceCall
  waiting : List CommittedDispatch
  called : List CommittedDispatch
  handed : List Handover
  granted : List ReservationId
  released : List ReservationId
  freed : List AttemptId

def JobOp.settling : JobOp → Bool
  | .closeIndeterminate .. => true
  | op => op.fromAgent

inductive ProcessOp where
  | acquire (request : DispatchRequest) (claims : List ResourceClaim)
  | commit (i : Nat) (facts : EndpointFacts) (attemptId : AttemptId) (actionId : ActionId)
  | commitFails (i : Nat)
  | dispatch (k : Nat) (endpointId : EndpointId) (transfer : Option Transfer)
  | dispatchAgain (k : Nat) (endpointId : EndpointId) (transfer : Option Transfer)
  | send (i : Nat)
  | evidence (call : EvidenceCall) (stamp : Stamp)
  | take (i : Nat)
  | release (i : Nat)
  | control (op : JobOp) (quiet : op.dispatches = false ∧ op.settling = false)
  | dataPlane (rows : TransferRows)

namespace Process

def start (store : Store) (capacities : List (Count ResourceKind)) : Process :=
  ⟨store,.new capacities,.empty,[],[],[],[],[],[],[]⟩

variable (p : Process)

-- `ResourceUnavailable` ends the call at once.
def acquire (request : DispatchRequest) (claims : List ResourceClaim) : Process :=
  match p.arbiter.acquire claims with
  | (_,.error _) => p
  | (arbiter,.ok id) =>
    { p with
      arbiter := arbiter
      calls := p.calls ++ [.acquired request id]
      granted := p.granted ++ [id] }

def commit (i : Nat) (facts : EndpointFacts) (attemptId : AttemptId) (actionId : ActionId) : Process :=
  match p.calls[i]? with
  | some (.acquired request reservation) =>
    match request.commit p.store facts attemptId actionId with
    | (store,some attempt) =>
      { p with
        store := store
        calls := p.calls.eraseIdx i
        waiting := p.waiting ++ [⟨attempt,reservation⟩] }
    | (store,none) => { p with store := store, calls := p.calls.eraseIdx i ++ [.refused reservation] }
  | _ => p

def commitFails (i : Nat) : Process :=
  match p.calls[i]? with
  | some (.acquired _ reservation) => { p with calls := p.calls.eraseIdx i ++ [.refused reservation] }
  | _ => p

-- `dispatch_message` up to the send: only the call that registers the mapping goes on to it.
def dispatchMessage (endpointId : EndpointId) (attempt : Attempt) (reservation : ReservationId)
    (message : ActionDispatchMessage) : Process :=
  if attempt.state ≠ .dispatched then p
  else match AttemptReservationRegistry.register p.registry attempt.id reservation with
    | (_,.alreadyRegistered) => p
    | (registry,.registered) =>
      { p with registry := registry, calls := p.calls ++ [.registered endpointId attempt.id message] }

def dispatch (k : Nat) (endpointId : EndpointId) (transfer : Option Transfer) : Process :=
  match p.waiting[k]? with
  | none => p
  | some d =>
    { p with waiting := p.waiting.eraseIdx k, called := p.called ++ [d] }.dispatchMessage endpointId d.attempt
      d.reservation (actionDispatch d.attempt transfer)

def dispatchAgain (k : Nat) (endpointId : EndpointId) (transfer : Option Transfer) : Process :=
  match p.called[k]? with
  | none => p
  | some d => p.dispatchMessage endpointId d.attempt d.reservation (actionDispatch d.attempt transfer)

-- Whatever the transport answers, the message was handed to it.
def send (i : Nat) : Process :=
  match p.calls[i]? with
  | some (.registered endpointId attemptId message) =>
    { p with calls := p.calls.eraseIdx i, handed := p.handed ++ [⟨endpointId,attemptId,message⟩] }
  | _ => p

def evidence (call : EvidenceCall) (stamp : Stamp) : Process :=
  match call.commit p.store stamp with
  | (store,some applied) =>
    if applied.terminal then { p with store := store, calls := p.calls ++ [.settled applied.attempt.id] }
    else { p with store := store }
  | (store,none) => { p with store := store }

def take (i : Nat) : Process :=
  match p.calls[i]? with
  | some (.settled attemptId) =>
    match AttemptReservationRegistry.take p.registry attemptId with
    | (registry,none) => { p with registry := registry, calls := p.calls.eraseIdx i }
    | (registry,some reservation) =>
      { p with registry := registry, calls := p.calls.eraseIdx i ++ [.taken attemptId reservation] }
  | _ => p

def release (i : Nat) : Process :=
  match p.calls[i]? with
  | some (.refused reservation) =>
    { p with
      arbiter := p.arbiter.release reservation
      calls := p.calls.eraseIdx i
      released := p.released ++ [reservation] }
  | some (.taken attemptId reservation) =>
    { p with
      arbiter := p.arbiter.release reservation
      calls := p.calls.eraseIdx i
      released := p.released ++ [reservation]
      freed := p.freed ++ [attemptId] }
  | _ => p

-- A Data Plane transaction rewrites Transfer rows and nothing else; which ones does not matter here.
def after : ProcessOp → Process
  | .acquire request claims => p.acquire request claims
  | .commit i facts attemptId actionId => p.commit i facts attemptId actionId
  | .commitFails i => p.commitFails i
  | .dispatch k endpointId transfer => p.dispatch k endpointId transfer
  | .dispatchAgain k endpointId transfer => p.dispatchAgain k endpointId transfer
  | .send i => p.send i
  | .evidence call stamp => p.evidence call stamp
  | .take i => p.take i
  | .release i => p.release i
  | .control op _ => { p with store := p.store.after op }
  | .dataPlane rows => { p with store := (p.store.commitTransferRows (some rows)).getD p.store }

def reached (store : Store) (capacities : List (Count ResourceKind)) (ops : List ProcessOp) : Process :=
  run after (start store capacities) ops

end Process

theorem dispatchMessageCases (p : Process) (endpointId : EndpointId) (attempt : Attempt) (reservation : ReservationId)
    (message : ActionDispatchMessage) :
    (p.dispatchMessage endpointId attempt reservation message = p ∧
      (attempt.state = .dispatched → ∃ row ∈ p.registry, row.attemptId = attempt.id)) ∨
    ∃ registry, p.registry.insert? ⟨attempt.id,reservation⟩ = some registry ∧
      p.dispatchMessage endpointId attempt reservation message =
        { p with registry := registry, calls := p.calls ++ [.registered endpointId attempt.id message] } := by
  unfold Process.dispatchMessage AttemptReservationRegistry.register
  by_cases stale : attempt.state = .dispatched
  · rw [if_neg (not_not.mpr stale)]
    cases inserted : p.registry.insert? ⟨attempt.id,reservation⟩ with
    | none =>
      refine .inl ⟨rfl,fun _ => ?_⟩
      by_contra absent
      obtain ⟨registry,ok⟩ := @Table.insertIsSome _ _ Mapping.attemptId _ p.registry ⟨attempt.id,reservation⟩
        fun row mem same => absent ⟨row,mem,same⟩
      rw [inserted] at ok
      cases ok
    | some registry => exact .inr ⟨registry,rfl,rfl⟩
  · rw [if_pos stale]
    exact .inl ⟨rfl,fun fresh => absurd fresh stale⟩

def Store.active (s : Store) (id : AttemptId) : Bool :=
  (s.workflow.attempts.find? id).any fun attempt => attempt.state.isActive

def Store.HasAttempt (s : Store) (id : AttemptId) : Prop := ∃ attempt ∈ s.workflow.attempts, attempt.id = id

/- What a transaction does to the set of active Attempts: it adds `new` and ends `settled`. -/
structure Moves (s s' : Store) (new settled : Option AttemptId) : Prop where
  held : ∀ id, s'.HasAttempt id ↔ s.HasAttempt id ∨ new = some id
  active : ∀ id, s'.active id = true ↔ (s.active id = true ∧ settled ≠ some id) ∨ new = some id
  fresh : ∀ id, new = some id → ¬ s.HasAttempt id

section Moves
variable {s s' : Store}

theorem activeIff {id} :
    s.active id = true ↔ ∃ attempt ∈ s.workflow.attempts, attempt.id = id ∧ attempt.state.isActive = true := by
  unfold Store.active
  rw [Option.any_eq_true]
  constructor
  · rintro ⟨attempt,found,active⟩
    obtain ⟨mem,named⟩ := Table.findIff.mp found
    exact ⟨attempt,mem,named,active⟩
  · rintro ⟨attempt,mem,named,active⟩
    exact ⟨attempt,Table.findIff.mpr ⟨mem,named⟩,active⟩

theorem activeHeld {id} (active : s.active id = true) : s.HasAttempt id := by
  obtain ⟨attempt,mem,named,_⟩ := activeIff.mp active
  exact ⟨attempt,mem,named⟩

theorem Moves.same (attempts : s'.workflow.attempts = s.workflow.attempts) : Moves s s' none none := by
  refine ⟨fun id => ?_,fun id => ?_,nofun⟩
  · simp [Store.HasAttempt,attempts]
  · simp [Store.active,attempts]

theorem movesOf {settled}
    (forward : ∀ a ∈ s.workflow.attempts, ∃ b ∈ s'.workflow.attempts, b.id = a.id)
    (back : ∀ b ∈ s'.workflow.attempts, ∃ a ∈ s.workflow.attempts, a.id = b.id ∧
      (b.state.isActive = true ↔ a.state.isActive = true ∧ settled ≠ some a.id)) :
    Moves s s' none settled := by
  refine ⟨fun id => ⟨?_,?_⟩,fun id => ?_,nofun⟩
  · rintro ⟨b,mem,rfl⟩
    obtain ⟨a,old,same,_⟩ := back b mem
    exact .inl ⟨a,old,same⟩
  · rintro (⟨a,old,rfl⟩ | none)
    · exact forward a old
    · cases none
  · rw [activeIff,activeIff]
    constructor
    · rintro ⟨b,mem,rfl,active⟩
      obtain ⟨a,old,same,iff⟩ := back b mem
      obtain ⟨was,kept⟩ := iff.mp active
      exact .inl ⟨⟨a,old,same,was⟩,same ▸ kept⟩
    · rintro (⟨⟨a,old,rfl,active⟩,kept⟩ | none)
      · obtain ⟨b,mem,same⟩ := forward a old
        obtain ⟨a',old',same',iff⟩ := back b mem
        cases Table.eqOfKey old' old (same'.trans same)
        exact ⟨b,mem,same,iff.mpr ⟨active,kept⟩⟩
      · cases none

theorem quietMoves {op} (effect : Effect s.workflow op s'.workflow) (quiet : op.dispatches = false)
    (undecided : ∀ facts applied, ¬ op.Decides facts applied) : Moves s s' none none := by
  have evolves := attemptsEvolve effect
  refine movesOf (fun a old => ?_) fun b mem => ?_
  · obtain ⟨b,mem,same,_⟩ := evolves.forward old
    exact ⟨b,mem,same⟩
  · rcases evolves.back mem with ⟨a,old,same,move⟩ | ⟨_,dispatches⟩
    · refine ⟨a,old,same.symm,fun active => ⟨move.wasActive active,nofun⟩,fun ⟨active,_⟩ => ?_⟩
      rcases attemptCause effect old mem same with rfl | awaiting | ⟨facts,applied,_,decides,_⟩
      · exact active
      · rw [awaiting]
        rfl
      · exact absurd decides (undecided facts applied)
    · rw [quiet] at dispatches
      cases dispatches

def Applied.settled (applied : Applied) : Option AttemptId :=
  if applied.terminal then some applied.attempt.id else none

theorem evidenceMoves {op : JobOp} {facts applied}
    (locked : Locked s.workflow facts) (decides : op.Decides facts applied)
    (ok : s.workflow.persistApplied? applied = some s'.workflow) : Moves s s' none applied.settled := by
  have effect : Effect s.workflow op s'.workflow := .evidence locked decides ok
  have evolves := attemptsEvolve effect
  have move := decidesMove decides
  have sameId : applied.attempt.id = facts.attempt.id := by rw [move.kept]
  have closes := (decidesStep decides).closes
  refine movesOf (fun a old => ?_) fun b mem => ?_
  · obtain ⟨b,mem,same,_⟩ := evolves.forward old
    exact ⟨b,mem,same⟩
  have row : ∃ a ∈ s.workflow.attempts, b.id = a.id := by
    rw [(persistAppliedSome ok).2.2.1] at mem
    rcases WorkflowRows.memSetAttemptState.mp mem with ⟨old,_⟩ | ⟨a,old,_,rfl⟩
    · exact ⟨b,old,rfl⟩
    · exact ⟨a,old,rfl⟩
  obtain ⟨a,old,same⟩ := row
  refine ⟨a,old,same.symm,?_⟩
  rcases persistedAttempt locked decides ok old mem same with rfl | ⟨rfl,rfl⟩
  · -- either another Attempt, or the decision left this one as it was
    by_cases named : facts.attempt.id = b.id
    · cases Table.eqOfKey locked.attempt old named
      have kept := Table.eqOfKey mem (persistedMem locked decides ok) sameId.symm
      rcases closes with ⟨open',_,_,_,active⟩ | ⟨past,idle,_⟩
      · simp [Applied.settled,open']
      · rw [← kept] at idle
        simp [idle]
    · refine ⟨fun active => ⟨active,fun settled => named ?_⟩,And.left⟩
      unfold Applied.settled at settled
      split at settled
      · exact sameId.symm.trans (Option.some.inj settled)
      · cases settled
  · rcases closes with ⟨open',_,_,_,active⟩ | ⟨past,idle,_⟩
    · simp [Applied.settled,open',active,move.wasActive active]
    · simp [Applied.settled,past,idle,sameId]

theorem insertedMoves {new} (fresh : new.state = .dispatched)
    (inserted : s.workflow.attempts.insert? new = some s'.workflow.attempts) : Moves s s' (some new.id) none := by
  refine ⟨fun id => ⟨?_,?_⟩,fun id => ?_,?_⟩
  · rintro ⟨a,mem,rfl⟩
    rcases (Table.memInsert inserted).mp mem with old | rfl
    · exact .inl ⟨a,old,rfl⟩
    · exact .inr rfl
  · rintro (⟨a,old,rfl⟩ | same)
    · exact ⟨a,(Table.memInsert inserted).mpr (.inl old),rfl⟩
    · exact ⟨new,(Table.memInsert inserted).mpr (.inr rfl),Option.some.inj same⟩
  · rw [activeIff,activeIff]
    constructor
    · rintro ⟨a,mem,rfl,active⟩
      rcases (Table.memInsert inserted).mp mem with old | rfl
      · exact .inl ⟨⟨a,old,rfl,active⟩,nofun⟩
      · exact .inr rfl
    · rintro (⟨⟨a,old,rfl,active⟩,_⟩ | same)
      · exact ⟨a,(Table.memInsert inserted).mpr (.inl old),rfl,active⟩
      · exact ⟨new,(Table.memInsert inserted).mpr (.inr rfl),Option.some.inj same,by rw [fresh]; rfl⟩
  · rintro id ⟨⟩ ⟨a,old,same⟩
    exact Table.insertAbsent inserted old same

inductive DispatchEnds (s : Store) : Store × Option Attempt → Prop where
  | refused {after : Store} (moves : Moves s after none none) : DispatchEnds s (after,none)
  | committed {after : Store} {attempt : Attempt} (fresh : attempt.state = .dispatched)
      (moves : Moves s after (some attempt.id) none) : DispatchEnds s (after,some attempt)

theorem DispatchEnds.inserted {w' stepId attempt}
    (fresh : attempt.state = .dispatched)
    (ok : (s.workflow.setStepState stepId .dispatching).insertAttempt? attempt = some w')
    (rows : s'.workflow = w') : DispatchEnds s (s',some attempt) := by
  obtain ⟨attempts,inserted,rfl⟩ := Option.map_eq_some_iff.mp ok
  refine .committed fresh (insertedMoves fresh ?_)
  rw [rows]
  exact inserted

theorem destructiveEnds (s : Store) (jobId : JobId) (stepId : JobStepId) (facts : EndpointFacts)
    (attemptId : AttemptId) (actionId : ActionId) :
    DispatchEnds s ((DispatchRequest.destructive jobId stepId).commit s facts attemptId actionId) := by
  simp only [DispatchRequest.commit]
  unfold Store.commitDestructiveDispatch
  split
  · exact .refused (.same rfl)
  rename_i job loaded
  obtain ⟨row,_,rfl,rfl⟩ := loadJobSome loaded
  split
  · rename_i denial denied
    exact .refused (.same (revertedAttempts (finalDispatchDenied denied)))
  rename_i outcome decided
  split
  · exact .refused (.same rfl)
  rename_i s' committed
  obtain ⟨step,_,_,rfl⟩ := finalDispatchOk decided
  exact .inserted rfl (commitWorkflowSome committed).1 rfl

theorem transferEnds (s : Store) (jobId : JobId) (stepId : JobStepId) (transferId : TransferId)
    (facts : EndpointFacts) (attemptId : AttemptId) (actionId : ActionId) :
    DispatchEnds s ((DispatchRequest.transfer jobId stepId transferId).commit s facts attemptId actionId) := by
  simp only [DispatchRequest.commit]
  unfold Store.commitTransferDispatch
  split
  · exact .refused (.same rfl)
  rename_i job loaded
  obtain ⟨row,_,rfl,rfl⟩ := loadJobSome loaded
  split
  · exact .refused (.same rfl)
  · exact .refused (.same rfl)
  split
  · rename_i denial denied
    exact .refused (.same (revertedAttempts (transferDispatchDenied denied)))
  rename_i outcome decided
  split
  · exact .refused (.same rfl)
  rename_i s' committed
  obtain ⟨w',inserted,committed⟩ := Option.bind_eq_some_iff.mp committed
  obtain ⟨step,_,_,_,_,rfl⟩ := transferDispatchOk decided
  exact .inserted rfl inserted (commitSome committed).1

theorem dispatchEnds (s : Store) (request : DispatchRequest) (facts : EndpointFacts) (attemptId : AttemptId)
    (actionId : ActionId) : DispatchEnds s (request.commit s facts attemptId actionId) := by
  cases request with
  | destructive jobId stepId => exact destructiveEnds s jobId stepId facts attemptId actionId
  | transfer jobId stepId transferId => exact transferEnds s jobId stepId transferId facts attemptId actionId

/- The generic operation that an evidence call decides as. -/
def EvidenceCall.jobOp (stamp : Stamp) : EvidenceCall → JobOp
  | .action actionId endpointId evidence => .applyActionEvidence actionId endpointId evidence stamp
  | .cancelAck actionId endpointId evidence => .applyCancelAck actionId endpointId evidence stamp
  | .statusReport actionId endpointId evidence => .applyStatusReport actionId endpointId evidence stamp
  | .closeIndeterminate jobId => .closeIndeterminate jobId stamp
  | .transferResult actionId endpointId detail =>
    .applyActionEvidence actionId endpointId detail.code.evidence stamp
  | .transferCancelAck actionId endpointId evidence => .applyCancelAck actionId endpointId evidence stamp
  | .transferStatusCancelled actionId endpointId => .applyStatusReport actionId endpointId .cancelled stamp
  | .transferStatusFailed actionId endpointId => .applyStatusReport actionId endpointId .failed stamp

theorem transferCallEnds (s : Store) (op : JobOp) (actionId : ActionId) (endpointId : EndpointId) (stamp : Stamp)
    (decide : TransferEvidenceFacts → Stamp → TransferEvidenceDecision)
    (legs : Legs op actionId endpointId fun facts => decide facts stamp) :
    Evidenced s (fun facts applied => op.Decides facts applied)
      (s.applyTransferEvidence actionId endpointId stamp decide) :=
  transferEvidenceWorkflow s actionId endpointId (fun facts => decide facts stamp) op legs

theorem callEnds (s : Store) (call : EvidenceCall) (stamp : Stamp) :
    Evidenced s (fun facts applied => (call.jobOp stamp).Decides facts applied) (call.commit s stamp) := by
  cases call with
  | action actionId endpointId evidence => exact actionEvidenceEnds s actionId endpointId evidence stamp
  | cancelAck actionId endpointId evidence => exact cancelAckEnds s actionId endpointId evidence stamp
  | statusReport actionId endpointId evidence => exact statusReportEnds s actionId endpointId evidence stamp
  | closeIndeterminate jobId => exact closeIndeterminateEnds s jobId stamp
  | transferResult actionId endpointId detail =>
    refine transferCallEnds s (.applyActionEvidence actionId endpointId detail.code.evidence stamp) actionId
      endpointId stamp (decideTransferTerminalEvidence detail) fun _ _ _ named authenticated decided => ?_
    exact (transferResultLeg decided).imp_left fun applied => ⟨named,authenticated,applied⟩
  | transferCancelAck actionId endpointId evidence =>
    refine transferCallEnds s (.applyCancelAck actionId endpointId evidence stamp) actionId endpointId stamp
      (decideTransferCancelAck evidence) fun _ _ _ named authenticated decided => ?_
    exact (transferCancelAckLeg decided).imp_left fun applied => ⟨named,authenticated,applied⟩
  | transferStatusCancelled actionId endpointId =>
    refine transferCallEnds s (.applyStatusReport actionId endpointId .cancelled stamp) actionId endpointId stamp
      decideTransferStatusReportCancelled fun _ _ _ named authenticated decided => ?_
    exact (transferStatusCancelledLeg decided).imp_left fun applied => ⟨named,authenticated,applied⟩
  | transferStatusFailed actionId endpointId =>
    refine transferCallEnds s (.applyStatusReport actionId endpointId .failed stamp) actionId endpointId stamp
      decideTransferStatusReportFailed fun _ _ _ named authenticated decided => ?_
    exact (transferStatusFailedLeg decided).imp_left fun applied => ⟨named,authenticated,applied⟩

theorem quietUndecided {op : JobOp} (quiet : op.settling = false) (facts : EvidenceFacts) (applied : Applied) :
    ¬ op.Decides facts applied := by
  intro decides
  cases op <;> first
    | exact decides
    | cases quiet

theorem dataPlaneWorkflow (s : Store) (rows : TransferRows) :
    ((s.commitTransferRows (some rows)).getD s).workflow = s.workflow := by
  cases committed : s.commitTransferRows (some rows) with
  | none => rfl
  | some s' => exact (commitSome committed).1

end Moves

def Process.dispatches (p : Process) : List CommittedDispatch := p.waiting ++ p.called

/- The dispatches that were committed, each for an Attempt of its own. -/
structure Issued (p : Process) : Prop where
  distinct : (p.dispatches.map fun d => d.attempt.id).Nodup
  stored : ∀ d ∈ p.dispatches, p.store.HasAttempt d.attempt.id
  fresh : ∀ d ∈ p.dispatches, d.attempt.state = .dispatched

section Issued
variable {p : Process}

theorem erasePerm {α : Type} {xs : List α} {i x} (found : xs[i]? = some x) :
    xs.Perm (x :: xs.eraseIdx i) := by
  obtain ⟨bound,rfl⟩ := List.getElem?_eq_some_iff.mp found
  exact (List.getElem_cons_eraseIdx_perm bound).symm

theorem eraseMem {α : Type} {xs : List α} {i x y} (found : xs[i]? = some x) :
    y ∈ xs ↔ y = x ∨ y ∈ xs.eraseIdx i :=
  (erasePerm found).mem_iff.trans List.mem_cons

theorem issuedStart (store : Store) (capacities : List (Count ResourceKind)) : Issued (.start store capacities) :=
  ⟨List.nodup_nil,nofun,nofun⟩

theorem Issued.apart (issued : Issued p) {d e} (waits : d ∈ p.waiting) (called : e ∈ p.called) :
    e.attempt.id ≠ d.attempt.id := by
  have distinct := issued.distinct
  rw [Process.dispatches,List.map_append] at distinct
  exact fun same => (List.nodup_append.mp distinct).2.2 _ (List.mem_map_of_mem waits) _
    (List.mem_map_of_mem called) same.symm

theorem issuedStore (issued : Issued p) {s} (held : ∀ id, p.store.HasAttempt id → s.HasAttempt id) :
    Issued { p with store := s } :=
  ⟨issued.distinct,fun d mem => held _ (issued.stored d mem),issued.fresh⟩

theorem issuedCommitted (issued : Issued p) {s new}
    (fresh : new.attempt.state = .dispatched) (moves : Moves p.store s (some new.attempt.id) none) :
    Issued { p with store := s, waiting := p.waiting ++ [new] } := by
  have listed : (p.waiting ++ [new] ++ p.called).Perm (new :: p.dispatches) := by
    rw [List.append_assoc]
    exact List.perm_middle
  have inside : ∀ d ∈ p.waiting ++ [new] ++ p.called, d = new ∨ d ∈ p.dispatches := fun d mem =>
    List.mem_cons.mp (listed.mem_iff.mp mem)
  refine ⟨(listed.map _).nodup_iff.mpr (List.nodup_cons.mpr ⟨fun taken => ?_,issued.distinct⟩),
    fun d mem => ?_,fun d mem => ?_⟩
  · obtain ⟨d,mem,same⟩ := List.mem_map.mp taken
    change d.attempt.id = new.attempt.id at same
    exact moves.fresh new.attempt.id rfl (same ▸ issued.stored d mem)
  · rcases inside d mem with rfl | old
    · exact (moves.held _).mpr (.inr rfl)
    · exact (moves.held _).mpr (.inl (issued.stored d old))
  · rcases inside d mem with rfl | old
    · exact fresh
    · exact issued.fresh d old

theorem issuedCalled (issued : Issued p) {k : Nat} {d} (found : p.waiting[k]? = some d) :
    Issued { p with waiting := p.waiting.eraseIdx k, called := p.called ++ [d] } := by
  have order : (p.waiting.eraseIdx k ++ (p.called ++ [d])).Perm p.dispatches := by
    refine List.Perm.symm (((erasePerm found).append_right _).trans ?_)
    rw [← List.append_assoc]
    exact (List.perm_append_singleton d _).symm
  exact ⟨(order.map _).nodup_iff.mpr issued.distinct,fun x mem => issued.stored x (order.mem_iff.mp mem),
    fun x mem => issued.fresh x (order.mem_iff.mp mem)⟩

theorem issuedMessage (issued : Issued p) (endpointId : EndpointId) (attempt : Attempt)
    (reservation : ReservationId) (message : ActionDispatchMessage) :
    Issued (p.dispatchMessage endpointId attempt reservation message) := by
  obtain ⟨same,_⟩ | ⟨registry,_,same⟩ := dispatchMessageCases p endpointId attempt reservation message
  · rw [same]
    exact issued
  · rw [same]
    exact ⟨issued.distinct,issued.stored,issued.fresh⟩

theorem issuedStep (issued : Issued p) (op : ProcessOp) : Issued (p.after op) := by
  have stored : ∀ s new settled, Moves p.store s new settled → Issued { p with store := s } :=
    fun s new settled moves => issuedStore issued fun id has => (moves.held id).mpr (.inl has)
  have same : ∀ q : Process, q.store = p.store → q.waiting = p.waiting → q.called = p.called → Issued q := by
    rintro q store waiting called
    have dispatches : q.dispatches = p.dispatches := by rw [Process.dispatches,waiting,called]; rfl
    exact ⟨dispatches ▸ issued.distinct,by rw [dispatches,store]; exact issued.stored,dispatches ▸ issued.fresh⟩
  cases op with
  | acquire request claims =>
    refine same _ ?_ ?_ ?_ <;>
    · simp only [Process.after,Process.acquire]
      split <;> rfl
  | commit i facts attemptId actionId =>
    simp only [Process.after,Process.commit]
    split <;> try exact issued
    rename_i request reservation found
    have ends := dispatchEnds p.store request facts attemptId actionId
    generalize request.commit p.store facts attemptId actionId = result at ends ⊢
    cases ends with
    | refused moves =>
      have next := stored _ _ _ moves
      exact ⟨next.distinct,next.stored,next.fresh⟩
    | @committed s attempt fresh moves =>
      have next := @issuedCommitted p issued s ⟨attempt,reservation⟩ fresh moves
      exact ⟨next.distinct,next.stored,next.fresh⟩
  | commitFails i | send i | take i | release i =>
    refine same _ ?_ ?_ ?_ <;>
    · simp only [Process.after,Process.commitFails,Process.send,Process.take,Process.release]
      repeat' first | rfl | split
  | dispatch k endpointId transfer =>
    simp only [Process.after,Process.dispatch]
    split
    · exact issued
    · rename_i d found
      exact issuedMessage (issuedCalled issued found) _ _ _ _
  | dispatchAgain k endpointId transfer =>
    simp only [Process.after,Process.dispatchAgain]
    split
    · exact issued
    · exact issuedMessage issued _ _ _ _
  | evidence call stamp =>
    have ends := callEnds p.store call stamp
    simp only [Process.after,Process.evidence]
    generalize call.commit p.store stamp = result at ends ⊢
    cases ends with
    | kept => exact issued
    | applied locked decides ok =>
      have next := stored _ _ _ (evidenceMoves locked decides ok)
      simp only
      split <;> exact ⟨next.distinct,next.stored,next.fresh⟩
  | control op quiet =>
    exact stored _ _ _ (quietMoves (afterEffect p.store op) quiet.1 (quietUndecided quiet.2))
  | dataPlane rows =>
    exact stored _ _ _ (.same (congrArg WorkflowRows.attempts (dataPlaneWorkflow p.store rows)))

end Issued
end Bamep
