import Bamep.Process.Reservations
import Bamep.Runtime.Sessions
import Bamep.Store.EndpointActions

/-! The authenticated Agent sessions of one Server process and the dispatches it sends through them. A
session takes each lock and each transaction in a step of its own, as does a dispatch, so that a teardown
and the messages of other sessions interleave in every order. The reconciliation that follows a lost
session rests on the recorded correlation, which is followed here from step to step. -/
namespace Bamep
open Relational Transition

inductive SessionPhase where
  | connecting | receiving
  | binding (actionId : ActionId)
  | ended
  | captured (action : Option ActionId)
  | absent (action : Option ActionId)
  | unregistered (action : Option ActionId)
  | closed
  deriving DecidableEq, Repr

namespace SessionPhase

def registered : SessionPhase → Bool
  | .connecting | .receiving | .binding _ | .ended | .captured _ | .absent _ => true
  | .unregistered _ | .closed => false

-- Before the teardown reads the correlation.
def accountable : SessionPhase → Bool
  | .connecting | .receiving | .binding _ | .ended => true
  | .captured _ | .absent _ | .unregistered _ | .closed => false

def captures : SessionPhase → Option ActionId
  | .captured action | .absent action | .unregistered action => action
  | .connecting | .receiving | .binding _ | .ended | .closed => none

-- Neither between the commit of a message and its end nor in the teardown.
def idle : SessionPhase → Bool
  | .connecting | .receiving | .closed => true
  | .binding _ | .ended | .captured _ | .absent _ | .unregistered _ => false

theorem accountableRegistered {phase : SessionPhase} (open' : phase.accountable = true) :
    phase.registered = true := by
  revert open'
  cases phase <;> simp [accountable,registered]

theorem idleUncaptured {phase : SessionPhase} (idle : phase.idle = true) : phase.captures = none := by
  revert idle
  cases phase <;> simp [SessionPhase.idle,captures]

end SessionPhase

structure AgentSession where
  id : ProtocolId
  endpointId : EndpointId
  phase : SessionPhase
  deriving DecidableEq, Repr

/- A call of `dispatch_action`; `session` is the one that `send` resolved. -/
structure OutboundDispatch where
  endpointId : EndpointId
  actionId : ActionId
  session : Option ProtocolId
  deriving DecidableEq, Repr

-- `resolved` only records which sends found a session.
structure AgentControl where
  store : Store
  presence : PresenceRegistry
  directory : OutboundSessionDirectory
  sessions : Table AgentSession.id
  dispatches : List OutboundDispatch
  resolved : List ActionId

def EvidenceCall.reporter : EvidenceCall → Option EndpointId
  | .closeIndeterminate _ => none
  | .action _ endpointId _ | .cancelAck _ endpointId _ | .statusReport _ endpointId _
  | .transferResult _ endpointId _ | .transferCancelAck _ endpointId _ | .transferStatusCancelled _ endpointId
  | .transferStatusFailed _ endpointId => some endpointId

/- The action whose correlation the handler binds when the decision is not terminal: `handle_action_ack`
and `handle_status_report` do, the other handlers never. -/
def EvidenceCall.relevant : EvidenceCall → Option ActionId
  | .action actionId _ .ackAccepted | .action actionId _ .ackRejected | .statusReport actionId _ _ => some actionId
  | _ => none

def DispatchRequest.jobId : DispatchRequest → JobId
  | .destructive jobId _ | .transfer jobId _ _ => jobId

def OutboundMessage.dispatches : OutboundMessage → Bool
  | .actionDispatch _ => true
  | .cancelAction _ | .statusQuery _ => false

inductive AgentControlOp where
  | connect (id : ProtocolId) (endpointId : EndpointId)
  | announce (id : ProtocolId)
  | handle (id : ProtocolId) (call : EvidenceCall) (stamp : Stamp)
  | bind (id : ProtocolId)
  | endLoop (id : ProtocolId)
  | capture (id : ProtocolId)
  | leave (id : ProtocolId)
  | unregister (id : ProtocolId)
  | mark (id : ProtocolId)
  | commit (request : DispatchRequest) (facts : EndpointFacts) (attemptId : AttemptId) (actionId : ActionId)
  | send (i : Nat)
  | acknowledge (i : Nat)
  | notify (endpointId : EndpointId) (message : OutboundMessage) (quiet : message.dispatches = false)
  | control (op : JobOp) (quiet : op.dispatches = false ∧ op.fromAgent = false)
  | dataPlane (rows : TransferRows)

namespace AgentControl

def start (store : Store) : AgentControl := ⟨store,.new,.new,.empty,[],[]⟩

variable (a : AgentControl)

def setPhase (id : ProtocolId) (phase : SessionPhase) : AgentControl :=
  { a with sessions := a.sessions.update id (fun session => { session with phase := phase }) fun _ => rfl }

-- The handshake gives every session a fresh identifier; outbound delivery registers before presence.
def connect (id : ProtocolId) (endpointId : EndpointId) : AgentControl :=
  match a.sessions.insert? ⟨id,endpointId,.connecting⟩ with
  | none => a
  | some sessions => { a with sessions := sessions, directory := a.directory.register endpointId id }

def announce (id : ProtocolId) : AgentControl :=
  match a.sessions.find? id with
  | some ⟨_,endpointId,.connecting⟩ =>
    { a with presence := a.presence.register endpointId id }.setPhase id .receiving
  | _ => a

-- Only evidence that was applied and leaves the Attempt open goes on to the binding.
def handle (id : ProtocolId) (call : EvidenceCall) (stamp : Stamp) : AgentControl :=
  match a.sessions.find? id with
  | some ⟨_,endpointId,.receiving⟩ =>
    if call.reporter ≠ some endpointId then a
    else match call.commit a.store stamp with
      | (store,none) => { a with store := store }
      | (store,some applied) =>
        match if applied.terminal then none else call.relevant with
        | none => { a with store := store }
        | some actionId => { a with store := store }.setPhase id (.binding actionId)
  | _ => a

def bind (id : ProtocolId) : AgentControl :=
  match a.sessions.find? id with
  | some ⟨_,endpointId,.binding actionId⟩ =>
    { a with directory := (a.directory.bindDispatchRelevantSession endpointId id actionId).1 }.setPhase id .receiving
  | _ => a

def endLoop (id : ProtocolId) : AgentControl :=
  match a.sessions.find? id with
  | some ⟨_,_,.receiving⟩ => a.setPhase id .ended
  | _ => a

def capture (id : ProtocolId) : AgentControl :=
  match a.sessions.find? id with
  | some ⟨_,endpointId,.ended⟩ => a.setPhase id (.captured (a.directory.dispatchRelevantAction endpointId id))
  | _ => a

def leave (id : ProtocolId) : AgentControl :=
  match a.sessions.find? id with
  | some ⟨_,endpointId,.captured action⟩ =>
    { a with presence := a.presence.unregister endpointId id }.setPhase id (.absent action)
  | _ => a

def unregister (id : ProtocolId) : AgentControl :=
  match a.sessions.find? id with
  | some ⟨_,endpointId,.absent action⟩ =>
    { a with directory := a.directory.unregister endpointId id }.setPhase id (.unregistered action)
  | _ => a

def mark (id : ProtocolId) : AgentControl :=
  match a.sessions.find? id with
  | some ⟨_,_,.unregistered none⟩ => a.setPhase id .closed
  | some ⟨_,endpointId,.unregistered (some actionId)⟩ =>
    { a with store := (a.store.markEndpointUncertain endpointId actionId).1 }.setPhase id .closed
  | _ => a

-- The presence that the gate reads is the registry's; the other facts are those of the locked Endpoint.
def commit (request : DispatchRequest) (facts : EndpointFacts) (attemptId : AttemptId) (actionId : ActionId) :
    AgentControl :=
  match a.store.workflow.loadJob request.jobId with
  | none => a
  | some job =>
    match request.commit a.store { facts with agentPresent := a.presence.isPresent job.endpointId } attemptId
        actionId with
    | (store,none) => { a with store := store }
    | (store,some attempt) =>
      { a with store := store, dispatches := a.dispatches ++ [⟨job.endpointId,attempt.actionId,none⟩] }

def send (i : Nat) : AgentControl :=
  match a.dispatches[i]? with
  | some ⟨endpointId,actionId,none⟩ =>
    match a.directory.resolve endpointId (.actionDispatch actionId) with
    | (directory,none) => { a with directory := directory, dispatches := a.dispatches.eraseIdx i }
    | (directory,some session) =>
      { a with
        directory := directory
        dispatches := a.dispatches.set i ⟨endpointId,actionId,some session⟩
        resolved := actionId :: a.resolved }
  | _ => a

-- However the session's task answers, the call is over.
def acknowledge (i : Nat) : AgentControl :=
  match a.dispatches[i]? with
  | some ⟨_,_,some _⟩ => { a with dispatches := a.dispatches.eraseIdx i }
  | _ => a

def after : AgentControlOp → AgentControl
  | .connect id endpointId => a.connect id endpointId
  | .announce id => a.announce id
  | .handle id call stamp => a.handle id call stamp
  | .bind id => a.bind id
  | .endLoop id => a.endLoop id
  | .capture id => a.capture id
  | .leave id => a.leave id
  | .unregister id => a.unregister id
  | .mark id => a.mark id
  | .commit request facts attemptId actionId => a.commit request facts attemptId actionId
  | .send i => a.send i
  | .acknowledge i => a.acknowledge i
  | .notify endpointId message _ => { a with directory := (a.directory.resolve endpointId message).1 }
  | .control op _ => { a with store := a.store.after op }
  | .dataPlane rows => { a with store := (a.store.commitTransferRows (some rows)).getD a.store }

/- A send resolves no session whose teardown has read the correlation, and only for an action whose
Attempt is still open; and no message is the late acknowledgement that finishes a Job too early. -/
def Timely : AgentControlOp → Prop
  | .handle _ call stamp => (call.jobOp stamp).lateCompletion a.store.workflow = false
  | .send i => ∀ dispatch ∈ a.dispatches[i]?,
      ∀ session ∈ (a.directory.liveSessions dispatch.endpointId).getLast?,
        a.store.workflow.Holds AttemptState.isActive dispatch.endpointId dispatch.actionId ∧
        ∀ row ∈ a.sessions, row.id = session → row.phase.accountable = true
  | _ => True

instance timelyDecide : (op : AgentControlOp) → Decidable (a.Timely op)
  | .handle _ call stamp => inferInstanceAs (Decidable ((call.jobOp stamp).lateCompletion a.store.workflow = false))
  | .send i => inferInstanceAs (Decidable (∀ dispatch ∈ a.dispatches[i]?,
      ∀ session ∈ (a.directory.liveSessions dispatch.endpointId).getLast?,
        a.store.workflow.Holds AttemptState.isActive dispatch.endpointId dispatch.actionId ∧
        ∀ row ∈ a.sessions, row.id = session → row.phase.accountable = true))
  | .connect .. | .announce _ | .bind _ | .endLoop _ | .capture _ | .leave _ | .unregister _ | .mark _
  | .commit .. | .acknowledge _ | .notify .. | .control .. | .dataPlane _ => .isTrue trivial

/- How a session accounts for an action: it will find it in the correlation when it is torn down, it has
found it, or it is about to bind it. -/
def Answers (row : AgentSession) (actionId : ActionId) : Prop :=
  (row.phase.accountable = true ∧ a.directory.dispatchCorrelation row.endpointId = some ⟨row.id,actionId⟩) ∨
    row.phase.captures = some actionId ∨ row.phase = .binding actionId

end AgentControl

/- The directory lists the registered sessions and no others. -/
structure Listed (directory : OutboundSessionDirectory) (sessions : Table AgentSession.id) : Prop where
  live : ∀ row ∈ sessions, row.phase.registered = true → row.id ∈ directory.liveSessions row.endpointId
  backed : ∀ e, ∀ id ∈ directory.liveSessions e, id ∈ directory.channels ∧
    ∃ row ∈ sessions, row.id = id ∧ row.endpointId = e ∧ row.phase.registered = true

/- A correlation names no other action than the open one of its Endpoint, and while an earlier action is
still to be bound it is not missing. -/
structure Tracked (a : AgentControl) : Prop where
  orderly : Orderly a.store
  listed : Listed a.directory a.sessions
  stored : ∀ x ∈ a.resolved, a.store.workflow.knows x
  named : ∀ e, ∀ x ∈ a.resolved, a.store.workflow.Holds AttemptState.isActive e x →
    ∀ current, a.directory.dispatchCorrelation e = some current → current.actionId = x
  fixed : ∀ row ∈ a.sessions, ∀ x, row.phase = .binding x → ∀ y ∈ a.resolved,
    a.store.workflow.Holds AttemptState.isActive row.endpointId y →
      y = x ∨ a.directory.dispatchCorrelation row.endpointId ≠ none

structure Covered (a : AgentControl) : Prop extends Tracked a where
  answered : ∀ e, ∀ x ∈ a.resolved, a.store.workflow.Holds AttemptState.isCertain e x →
    ∃ row ∈ a.sessions, row.endpointId = e ∧ a.Answers row x

section Steps
variable {a : AgentControl}

theorem coveredStart {store} (orderly : Orderly store) : Covered (.start store) := by
  refine ⟨⟨orderly,⟨fun row mem => ?_,nofun⟩,nofun,nofun,fun row mem => ?_⟩,nofun⟩
  · exact absurd mem (Table.notMemEmpty row)
  · exact absurd mem (Table.notMemEmpty row)

theorem memSetPhase {id phase old row} (mem : old ∈ a.sessions)
    (named : old.id = id) :
    row ∈ (a.setPhase id phase).sessions ↔ (row ∈ a.sessions ∧ row.id ≠ id) ∨ row = { old with phase := phase } := by
  unfold AgentControl.setPhase
  rw [Table.memUpdate]
  refine or_congr_right ⟨?_,fun same => ⟨old,mem,named,same⟩⟩
  rintro ⟨other,present,same,rfl⟩
  rw [Table.eqOfKey present mem (same.trans named.symm)]

theorem Listed.correlate {directory sessions}
    (listed : Listed directory sessions) (e : EndpointId) (id : ProtocolId) (x : ActionId) :
    Listed (directory.correlate e id x) sessions := ⟨listed.live,listed.backed⟩

theorem listedTurn {directory} (listed : Listed directory a.sessions) {id old}
    (mem : old ∈ a.sessions) (named : old.id = id) {phase}
    (same : phase.registered = old.phase.registered) : Listed directory (a.setPhase id phase).sessions := by
  refine ⟨fun row present active => ?_,fun e other live => ?_⟩
  · rcases (memSetPhase mem named).mp present with ⟨kept,_⟩ | rfl
    · exact listed.live row kept active
    · exact listed.live old mem (same.symm.trans active)
  · obtain ⟨channel,row,kept,rowNamed,endpoint,active⟩ := listed.backed e other live
    refine ⟨channel,?_⟩
    by_cases this : row.id = id
    · cases Table.eqOfKey kept mem (this.trans named.symm)
      exact ⟨_,(memSetPhase mem named).mpr (.inr rfl),rowNamed,endpoint,same.trans active⟩
    · exact ⟨row,(memSetPhase mem named).mpr (.inl ⟨kept,this⟩),rowNamed,endpoint,active⟩

/- The session that accounts for an action still does after another phase of one session, if that one does. -/
theorem answersTurn {b : AgentControl} {id old row} (mem : old ∈ a.sessions)
    (named : old.id = id) {phase x} (kept : row ∈ a.sessions)
    (sessions : b.sessions = (a.setPhase id phase).sessions)
    (others : row.id ≠ id → b.Answers row x)
    (own : row = old → b.Answers { old with phase := phase } x) :
    ∃ row' ∈ b.sessions, row'.endpointId = row.endpointId ∧ b.Answers row' x := by
  rw [sessions]
  by_cases this : row.id = id
  · cases Table.eqOfKey kept mem (this.trans named.symm)
    exact ⟨_,(memSetPhase mem named).mpr (.inr rfl),rfl,own rfl⟩
  · exact ⟨row,(memSetPhase mem named).mpr (.inl ⟨kept,this⟩),rfl,others this⟩

theorem coveredTurn (covered : Covered a) {id : ProtocolId} {old} (mem : old ∈ a.sessions)
    (named : old.id = id) {phase presence}
    (same : phase.registered = old.phase.registered) (unbound : ∀ x, phase ≠ .binding x)
    (answers : ∀ x, a.store.workflow.Holds AttemptState.isCertain old.endpointId x → a.Answers old x →
      a.Answers { old with phase := phase } x) :
    Covered ({ a with presence := presence }.setPhase id phase) := by
  refine ⟨⟨covered.orderly,listedTurn covered.listed mem named same,covered.stored,covered.named,
    fun row present x binds => ?_⟩,fun e x sent certain => ?_⟩
  · rcases (memSetPhase mem named).mp present with ⟨kept,_⟩ | rfl
    · exact covered.fixed row kept x binds
    · exact absurd binds (unbound x)
  · obtain ⟨row,kept,rfl,answer⟩ := covered.answered e x sent certain
    refine answersTurn mem named kept rfl (fun _ => answer) ?_
    rintro rfl
    exact answers x certain answer

theorem coveredAnnounce (covered : Covered a) (id : ProtocolId) : Covered (a.announce id) := by
  unfold AgentControl.announce
  split <;> try exact covered
  rename_i found
  obtain ⟨mem,named⟩ := Table.findIff.mp found
  refine coveredTurn covered mem named rfl nofun fun x _ answer => ?_
  rcases answer with ⟨_,recorded⟩ | captured | binds
  · exact .inl ⟨rfl,recorded⟩
  · cases captured
  · cases binds

theorem coveredEndLoop (covered : Covered a) (id : ProtocolId) : Covered (a.endLoop id) := by
  unfold AgentControl.endLoop
  split <;> try exact covered
  rename_i found
  obtain ⟨mem,named⟩ := Table.findIff.mp found
  refine coveredTurn covered mem named rfl nofun fun x _ answer => ?_
  rcases answer with ⟨_,recorded⟩ | captured | binds
  · exact .inl ⟨rfl,recorded⟩
  · cases captured
  · cases binds

theorem coveredCapture (covered : Covered a) (id : ProtocolId) : Covered (a.capture id) := by
  unfold AgentControl.capture
  split <;> try exact covered
  rename_i found
  obtain ⟨mem,named⟩ := Table.findIff.mp found
  refine coveredTurn covered mem named rfl nofun fun x _ answer => ?_
  rcases answer with ⟨_,recorded⟩ | captured | binds
  · subst named
    exact .inr (.inl (OutboundSessionDirectory.relevantOf recorded))
  · cases captured
  · cases binds

theorem coveredLeave (covered : Covered a) (id : ProtocolId) : Covered (a.leave id) := by
  unfold AgentControl.leave
  split <;> try exact covered
  rename_i found
  obtain ⟨mem,named⟩ := Table.findIff.mp found
  refine coveredTurn covered mem named rfl nofun fun x _ answer => ?_
  rcases answer with ⟨past,_⟩ | captured | binds
  · cases past
  · exact .inr (.inl captured)
  · cases binds

theorem coveredConnect (covered : Covered a) (id : ProtocolId) (endpointId : EndpointId) :
    Covered (a.connect id endpointId) := by
  unfold AgentControl.connect
  split
  · exact covered
  rename_i sessions inserted
  have fresh : ∀ e, id ∉ a.directory.liveSessions e := by
    intro e live
    obtain ⟨_,row,mem,named,_⟩ := covered.listed.backed e id live
    exact Table.insertAbsent inserted mem named
  have old : ∀ row ∈ a.sessions, row ∈ sessions := fun row mem => (Table.memInsert inserted).mpr (.inl mem)
  refine ⟨⟨covered.orderly,⟨fun row mem active => ?_,fun e other live => ?_⟩,covered.stored,covered.named,
    fun row mem x binds => ?_⟩,fun e x sent certain => ?_⟩
  · rw [OutboundSessionDirectory.memRegisterLive (fresh endpointId)]
    rcases (Table.memInsert inserted).mp mem with kept | rfl
    · exact .inl (covered.listed.live row kept active)
    · exact .inr ⟨rfl,rfl⟩
  · rcases (OutboundSessionDirectory.memRegisterLive (fresh endpointId)).mp live with kept | ⟨rfl,rfl⟩
    · obtain ⟨channel,row,mem,found⟩ := covered.listed.backed e other kept
      exact ⟨List.mem_insert_of_mem channel,row,old row mem,found⟩
    · exact ⟨List.mem_insert_self,_,(Table.memInsert inserted).mpr (.inr rfl),rfl,rfl,rfl⟩
  · rcases (Table.memInsert inserted).mp mem with kept | rfl
    · exact covered.fixed row kept x binds
    · cases binds
  · obtain ⟨row,mem,endpoint,answer⟩ := covered.answered e x sent certain
    exact ⟨row,old row mem,endpoint,answer⟩

theorem trackedEffect (tracked : Tracked a) {s op}
    (effect : Effect a.store.workflow op s.workflow) (timely : op.lateCompletion a.store.workflow = false) :
    Tracked { a with store := s } := by
  have valid := a.store.workflowValid
  have active : ∀ e, ∀ x ∈ a.resolved, s.workflow.Holds AttemptState.isActive e x →
      a.store.workflow.Holds AttemptState.isActive e x := by
    intro e x sent holds
    rcases activeBack effect valid s.workflowValid holds with was | ⟨_,unknown⟩
    · exact was
    · exact absurd (tracked.stored x sent) unknown
  exact ⟨⟨linearEffect valid tracked.orderly.linear effect,
      liveEffect valid tracked.orderly.linear tracked.orderly.live timely effect⟩,
    tracked.listed,fun x sent => knowsAfter effect (tracked.stored x sent),
    fun e x sent holds => tracked.named e x sent (active e x sent holds),
    fun row mem x binds y sent holds => tracked.fixed row mem x binds y sent (active _ y sent holds)⟩

theorem answeredEffect (covered : Covered a) {s : Store} {op}
    (effect : Effect a.store.workflow op s.workflow) {e x} (sent : x ∈ a.resolved)
    (certain : s.workflow.Holds AttemptState.isCertain e x) :
    (∃ row ∈ a.sessions, row.endpointId = e ∧ a.Answers row x) ∨ op.Restores e x := by
  rcases certainBack effect a.store.workflowValid s.workflowValid certain with was | ⟨_,unknown⟩ | restores
  · exact .inl (covered.answered e x sent was)
  · exact absurd (covered.stored x sent) unknown
  · exact .inr restores

theorem coveredEffect (covered : Covered a) {s : Store} {op : JobOp}
    (effect : Effect a.store.workflow op s.workflow) (timely : op.lateCompletion a.store.workflow = false)
    (quiet : ∀ e x, ¬ op.Restores e x) : Covered { a with store := s } :=
  ⟨trackedEffect covered.toTracked effect timely,fun e x sent certain =>
    (answeredEffect covered effect sent certain).resolve_right (quiet e x)⟩

theorem relevantNamed {call : EvidenceCall} {stamp facts applied x}
    (decides : (call.jobOp stamp).Decides facts applied) (relevant : call.relevant = some x) :
    facts.attempt.actionId = x := by
  unfold EvidenceCall.relevant at relevant
  split at relevant <;> try contradiction
  all_goals
    cases Option.some.inj relevant
    exact decides.1

theorem reporterNamed {call : EvidenceCall} {stamp facts applied e}
    (decides : (call.jobOp stamp).Decides facts applied) (reporter : call.reporter = some e) :
    facts.job.endpointId = e := by
  cases call <;> cases reporter <;> exact decides.2.1

/- A message that makes an Attempt certain again is one whose action its handler binds. -/
theorem restoresRelevant {call : EvidenceCall} {stamp facts applied e x}
    (decides : (call.jobOp stamp).Decides facts applied)
    (restores : (call.jobOp stamp).Restores e x) :
    call.relevant = some x ∧ call.reporter = some e ∧ applied.terminal = false := by
  cases call <;> try exact restores.elim
  case statusReport actionId endpointId evidence =>
    obtain ⟨rfl,rfl,live⟩ := restores
    refine ⟨rfl,rfl,?_⟩
    obtain ⟨_,_,decided⟩ := decides
    unfold applyStatusReport at decided
    split at decided <;> try contradiction
    rcases live with rfl | rfl <;> cases Option.some.inj decided <;> rfl
  case transferStatusCancelled => rcases restores with ⟨_,_,live | live⟩ <;> cases live
  case transferStatusFailed => rcases restores with ⟨_,_,live | live⟩ <;> cases live

theorem heldAfter {w w'} {op : JobOp} {facts applied}
    (locked : Locked w facts) (decides : op.Decides facts applied) (ok : w.persistApplied? applied = some w')
    (open' : applied.terminal = false) :
    w'.Holds AttemptState.isActive facts.job.endpointId facts.attempt.actionId := by
  have effect : Effect w op w' := .evidence locked decides ok
  have move := decidesMove decides
  have active : applied.attempt.state.isActive = true := by
    rcases (decidesStep decides).closes with ⟨_,_,_,_,active⟩ | ⟨past,_⟩
    · exact active
    · rw [open'] at past
      cases past
  obtain ⟨job,jobMem,jobNamed,_,endpoint,_⟩ := lockedJob locked
  obtain ⟨step',stepMem',sameStep,place⟩ := (stepsEvolve effect).forward locked.step
  obtain ⟨job',jobMem',sameJob,endpoint'⟩ := (jobsEvolve effect).forward jobMem
  refine ⟨applied.attempt,persistedMem locked decides ok,by rw [move.kept],active,job',jobMem',
    ⟨step',stepMem',?_,place.1.trans (jobNamed.symm.trans sameJob.symm)⟩,endpoint'.trans endpoint.symm⟩
  rw [move.kept]
  exact sameStep.trans locked.owner

theorem coveredHandle (covered : Covered a) (id : ProtocolId) (call : EvidenceCall) (stamp : Stamp)
    (timely : (call.jobOp stamp).lateCompletion a.store.workflow = false) : Covered (a.handle id call stamp) := by
  unfold AgentControl.handle
  split <;> try exact covered
  rename_i own endpointId found
  obtain ⟨mem,named⟩ := Table.findIff.mp found
  split
  · exact covered
  rename_i reported
  have reporter := not_not.mp reported
  have ends := callEnds a.store call stamp
  generalize call.commit a.store stamp = result at ends ⊢
  cases ends with
  | kept => exact covered
  | @applied facts applied s locked decides ok =>
    have effect : Effect a.store.workflow (call.jobOp stamp) s.workflow := .evidence locked decides ok
    have tracked := trackedEffect covered.toTracked effect timely
    simp only
    split
    · rename_i none
      refine ⟨tracked,fun e x sent certain => ?_⟩
      refine (answeredEffect covered effect sent certain).resolve_right fun restores => ?_
      obtain ⟨relevant,_,open'⟩ := restoresRelevant decides restores
      simp [open',relevant] at none
    rename_i x some
    have open' : applied.terminal = false ∧ call.relevant = .some x := by
      cases terminal : applied.terminal <;> simp_all
    obtain ⟨open',relevant⟩ := open'
    have held := heldAfter locked decides ok open'
    rw [relevantNamed decides relevant,reporterNamed decides reporter] at held
    refine ⟨⟨tracked.orderly,listedTurn tracked.listed mem named rfl,tracked.stored,tracked.named,
      fun row present y binds z sent holds => ?_⟩,fun e y sent certain => ?_⟩
    · rcases (memSetPhase mem named).mp present with ⟨kept,_⟩ | rfl
      · exact tracked.fixed row kept y binds z sent holds
      · cases binds
        exact .inl (holdsUnique tracked.orderly holds held)
    · rcases answeredEffect covered effect sent certain with ⟨row,kept,rfl,answer⟩ | restores
      · refine answersTurn mem named kept rfl (fun _ => answer) ?_
        rintro rfl
        rcases answer with ⟨_,recorded⟩ | captured | binds
        · exact .inl ⟨rfl,recorded⟩
        · cases captured
        · cases binds
      · obtain ⟨relevant',reporter',_⟩ := restoresRelevant decides restores
        rw [relevant] at relevant'
        rw [reporter] at reporter'
        cases relevant'
        cases reporter'
        exact ⟨_,(memSetPhase mem named).mpr (.inr rfl),rfl,.inr (.inr rfl)⟩

theorem coveredBind (covered : Covered a) (id : ProtocolId) : Covered (a.bind id) := by
  unfold AgentControl.bind
  split <;> try exact covered
  rename_i own endpointId x found
  obtain ⟨mem,named⟩ := Table.findIff.mp found
  change own = id at named
  subst named
  by_cases stale : ∃ current, a.directory.dispatchCorrelation endpointId = some current ∧ current.actionId ≠ x
  · -- the open action is another one, so the binding is not needed and does nothing
    obtain ⟨current,recorded,other⟩ := stale
    rw [OutboundSessionDirectory.bindStale recorded other]
    refine ⟨⟨covered.orderly,listedTurn covered.listed mem rfl rfl,covered.stored,covered.named,
      fun row present y binds => ?_⟩,fun e y sent certain => ?_⟩
    · rcases (memSetPhase mem rfl).mp present with ⟨kept,_⟩ | rfl
      · exact covered.fixed row kept y binds
      · cases binds
    · obtain ⟨row,kept,rfl,answer⟩ := covered.answered e y sent certain
      refine answersTurn mem rfl kept rfl (fun _ => answer) ?_
      rintro rfl
      rcases answer with ⟨_,recorded⟩ | captured | binds
      · exact .inl ⟨rfl,recorded⟩
      · cases captured
      · cases binds
        exact absurd (covered.named _ _ sent (certainActive certain) current recorded) other
  · have free : ∀ current ∈ a.directory.dispatchCorrelation endpointId, current.actionId = x :=
      fun current recorded => not_not.mp fun other => stale ⟨current,recorded,other⟩
    rw [OutboundSessionDirectory.bindBound free]
    have open' : ∀ y ∈ a.resolved, a.store.workflow.Holds AttemptState.isActive endpointId y → y = x := by
      intro y sent active
      rcases covered.fixed _ mem x rfl y sent active with same | present
      · exact same
      · obtain ⟨current,recorded⟩ := Option.ne_none_iff_exists'.mp present
        rw [← covered.named endpointId y sent active current recorded]
        exact free current recorded
    refine ⟨⟨covered.orderly,listedTurn (covered.listed.correlate endpointId own x) mem rfl rfl,covered.stored,
      fun e y sent active current recorded => ?_,fun row present y binds z sent active => ?_⟩,
      fun e y sent certain => ?_⟩
    · by_cases here : e = endpointId
      · subst here
        cases Option.some.inj ((OutboundSessionDirectory.correlateHere x).symm.trans recorded)
        exact (open' y sent active).symm
      · exact covered.named e y sent active current
          ((OutboundSessionDirectory.correlateElsewhere here x).symm.trans recorded)
    · rcases (memSetPhase mem rfl).mp present with ⟨kept,_⟩ | rfl
      · refine (covered.fixed row kept y binds z sent active).imp_right fun some => ?_
        by_cases here : row.endpointId = endpointId
        · rw [here]
          exact Option.ne_none_iff_exists'.mpr ⟨_,OutboundSessionDirectory.correlateHere x⟩
        · exact fun none => some ((OutboundSessionDirectory.correlateElsewhere here x).symm.trans none)
      · cases binds
    · by_cases here : e = endpointId
      · subst here
        rw [open' y sent (certainActive certain)]
        exact ⟨_,(memSetPhase mem rfl).mpr (.inr rfl),rfl,.inl ⟨rfl,OutboundSessionDirectory.correlateHere x⟩⟩
      · obtain ⟨row,kept,rfl,answer⟩ := covered.answered e y sent certain
        refine answersTurn mem rfl kept rfl (fun _ => ?_) ?_
        · exact answer.imp_left fun recorded =>
            ⟨recorded.1,(OutboundSessionDirectory.correlateElsewhere here x).trans recorded.2⟩
        · rintro rfl
          exact absurd rfl here

theorem coveredUnregister (covered : Covered a) (id : ProtocolId) : Covered (a.unregister id) := by
  unfold AgentControl.unregister
  split <;> try exact covered
  rename_i own endpointId action found
  obtain ⟨mem,named⟩ := Table.findIff.mp found
  change own = id at named
  subst named
  -- a registered session other than this one keeps the correlation of its Endpoint alive
  have recorded : ∀ row ∈ a.sessions, row.id ≠ own → row.phase.registered = true →
      (a.directory.unregister endpointId own).dispatchCorrelation row.endpointId =
        a.directory.dispatchCorrelation row.endpointId := by
    intro row kept apart active
    by_cases here : row.endpointId = endpointId
    · have live := covered.listed.live row kept active
      rw [here] at live
      rw [OutboundSessionDirectory.unregisterKeeps live apart]
    · exact OutboundSessionDirectory.unregisterElsewhere here
  refine ⟨⟨covered.orderly,⟨fun row present active => ?_,fun e other live => ?_⟩,covered.stored,
    fun e x sent active current stays => ?_,fun row present x binds y sent active => ?_⟩,
    fun e x sent certain => ?_⟩
  · rcases (memSetPhase mem rfl).mp present with ⟨kept,apart⟩ | rfl
    · exact OutboundSessionDirectory.memUnregisterLive.mpr ⟨covered.listed.live row kept active,fun _ => apart⟩
    · cases active
  · obtain ⟨live,apart⟩ := OutboundSessionDirectory.memUnregisterLive.mp live
    obtain ⟨channel,row,kept,rowNamed,endpoint,active⟩ := covered.listed.backed e other live
    have others : other ≠ own := by
      rintro rfl
      cases Table.eqOfKey kept mem rowNamed
      exact apart endpoint.symm rfl
    exact ⟨List.mem_filter.mpr ⟨channel,decide_eq_true others⟩,row,
      (memSetPhase mem rfl).mpr (.inl ⟨kept,rowNamed ▸ others⟩),rowNamed,endpoint,active⟩
  · exact covered.named e x sent active current (OutboundSessionDirectory.unregisterCorrelation stays)
  · rcases (memSetPhase mem rfl).mp present with ⟨kept,apart⟩ | rfl
    · refine (covered.fixed row kept x binds y sent active).imp_right fun some => ?_
      have active : row.phase.registered = true := by rw [binds]; rfl
      exact fun none => some ((recorded row kept apart active).symm.trans none)
    · cases binds
  · obtain ⟨row,kept,rfl,answer⟩ := covered.answered e x sent certain
    refine answersTurn mem rfl kept rfl (fun apart => ?_) ?_
    · exact answer.imp_left fun ⟨open',names⟩ =>
        ⟨open',(recorded row kept apart (SessionPhase.accountableRegistered open')).trans names⟩
    · rintro rfl
      rcases answer with ⟨past,_⟩ | captured | binds
      · cases past
      · exact .inr (.inl captured)
      · cases binds

theorem coveredMark (covered : Covered a) (id : ProtocolId) : Covered (a.mark id) := by
  unfold AgentControl.mark
  split <;> try exact covered
  · rename_i found
    obtain ⟨mem,named⟩ := Table.findIff.mp found
    refine coveredTurn covered mem named rfl nofun fun x _ answer => ?_
    rcases answer with ⟨past,_⟩ | captured | binds
    · cases past
    · cases captured
    · cases binds
  · rename_i own endpointId actionId found
    obtain ⟨mem,named⟩ := Table.findIff.mp found
    have marked : Covered { a with store := (a.store.markEndpointUncertain endpointId actionId).1 } :=
      coveredEffect covered (markEndpointUncertainEffect a.store endpointId actionId
        (.markEndpointUncertain endpointId actionId)) rfl fun _ _ => nofun
    refine coveredTurn marked mem named rfl nofun fun x certain answer => ?_
    rcases answer with ⟨past,_⟩ | captured | binds
    · cases past
    · cases captured
      exact absurd certain (markedUncertain covered.orderly)
    · cases binds

theorem commitEffect (s : Store) (request : DispatchRequest) (facts : EndpointFacts) (attemptId : AttemptId)
    (actionId : ActionId) :
    ∃ op, Effect s.workflow op (request.commit s facts attemptId actionId).1.workflow ∧
      op.lateCompletion s.workflow = false ∧ ∀ e x, ¬ op.Restores e x := by
  cases request with
  | destructive jobId stepId =>
    exact ⟨_,afterEffect s (.commitDestructiveDispatch jobId stepId facts attemptId actionId),rfl,fun _ _ => nofun⟩
  | transfer jobId stepId transferId =>
    exact ⟨_,afterEffect s (.commitTransferDispatch jobId stepId transferId attemptId actionId),rfl,
      fun _ _ => nofun⟩

theorem coveredCommit (covered : Covered a) (request : DispatchRequest) (facts : EndpointFacts)
    (attemptId : AttemptId) (actionId : ActionId) : Covered (a.commit request facts attemptId actionId) := by
  unfold AgentControl.commit
  split
  · exact covered
  rename_i job _
  obtain ⟨op,effect,timely,quiet⟩ := commitEffect a.store request
    { facts with agentPresent := a.presence.isPresent job.endpointId } attemptId actionId
  have next := coveredEffect covered effect timely quiet
  split
  · rename_i committed
    rw [committed] at next
    exact next
  · rename_i committed
    rw [committed] at next
    exact ⟨⟨next.orderly,next.listed,next.stored,next.named,next.fixed⟩,next.answered⟩

theorem coveredSend (covered : Covered a) (i : Nat) (timely : a.Timely (.send i)) : Covered (a.send i) := by
  unfold AgentControl.send
  split <;> try exact covered
  rename_i e x found
  cases newest : (a.directory.liveSessions e).getLast? with
  | none =>
    rw [OutboundSessionDirectory.resolveNone newest]
    exact ⟨⟨covered.orderly,covered.listed,covered.stored,covered.named,covered.fixed⟩,covered.answered⟩
  | some session =>
    obtain ⟨channel,row,rowMem,rowNamed,rowEndpoint,_⟩ :=
      covered.listed.backed e session (List.mem_of_getLast? newest)
    obtain ⟨active,open'⟩ := timely _ found session newest
    rw [OutboundSessionDirectory.resolveDispatch newest channel]
    have only : ∀ y, a.store.workflow.Holds AttemptState.isActive e y → y = x :=
      fun y holds => holdsUnique covered.orderly holds active
    -- on another Endpoint nothing was recorded, and the action is not one of its own
    have older : ∀ f y, y ∈ x :: a.resolved → f ≠ e → a.store.workflow.Holds AttemptState.isActive f y →
        y ∈ a.resolved := by
      intro f y sent apart holds
      rcases List.mem_cons.mp sent with rfl | old
      · exact absurd (holdsEndpoint a.store.workflowValid holds active) apart
      · exact old
    refine ⟨⟨covered.orderly,covered.listed.correlate e session x,fun y sent => ?_,
      fun f y sent holds current recorded => ?_,fun other mem z binds y sent holds => ?_⟩,
      fun f y sent certain => ?_⟩
    · rcases List.mem_cons.mp sent with rfl | old
      · exact holdsKnown active
      · exact covered.stored y old
    · by_cases here : f = e
      · subst here
        cases Option.some.inj ((OutboundSessionDirectory.correlateHere x).symm.trans recorded)
        exact (only y holds).symm
      · exact covered.named f y (older f y sent here holds) holds current
          ((OutboundSessionDirectory.correlateElsewhere here x).symm.trans recorded)
    · by_cases here : other.endpointId = e
      · refine .inr ?_
        rw [here]
        exact Option.ne_none_iff_exists'.mpr ⟨_,OutboundSessionDirectory.correlateHere x⟩
      · exact (covered.fixed other mem z binds y (older _ y sent here holds) holds).imp_right fun some none =>
          some ((OutboundSessionDirectory.correlateElsewhere here x).symm.trans none)
    · by_cases here : f = e
      · subst here
        rw [only y (certainActive certain)]
        refine ⟨row,rowMem,rowEndpoint,.inl ⟨open' row rowMem rowNamed,?_⟩⟩
        rw [rowEndpoint,rowNamed]
        exact OutboundSessionDirectory.correlateHere x
      · obtain ⟨other,mem,rfl,answer⟩ := covered.answered f y (older f y sent here (certainActive certain)) certain
        exact ⟨other,mem,rfl,answer.imp_left fun recorded =>
          ⟨recorded.1,(OutboundSessionDirectory.correlateElsewhere here x).trans recorded.2⟩⟩

theorem coveredStep (covered : Covered a) (op : AgentControlOp) (timely : a.Timely op) : Covered (a.after op) := by
  cases op with
  | connect id endpointId => exact coveredConnect covered id endpointId
  | announce id => exact coveredAnnounce covered id
  | handle id call stamp => exact coveredHandle covered id call stamp timely
  | bind id => exact coveredBind covered id
  | endLoop id => exact coveredEndLoop covered id
  | capture id => exact coveredCapture covered id
  | leave id => exact coveredLeave covered id
  | unregister id => exact coveredUnregister covered id
  | mark id => exact coveredMark covered id
  | commit request facts attemptId actionId => exact coveredCommit covered request facts attemptId actionId
  | send i => exact coveredSend covered i timely
  | acknowledge i =>
    simp only [AgentControl.after,AgentControl.acknowledge]
    split <;> try exact covered
    exact ⟨⟨covered.orderly,covered.listed,covered.stored,covered.named,covered.fixed⟩,covered.answered⟩
  | notify endpointId message quiet =>
    have same : (a.directory.resolve endpointId message).1 = a.directory := by
      refine OutboundSessionDirectory.resolveQuiet fun actionId dispatch => ?_
      rw [dispatch] at quiet
      cases quiet
    simp only [AgentControl.after,same]
    exact covered
  | control op quiet =>
    refine coveredEffect covered (afterEffect a.store op) ?_ fun e x restores => ?_
    · cases op <;> first | rfl | cases quiet.2
    · cases op <;> first | exact restores | cases quiet.2
  | dataPlane rows =>
    have effect : Effect a.store.workflow .reconcileAllActiveAttemptsOnStartup
        ((a.store.commitTransferRows (some rows)).getD a.store).workflow := by
      rw [dataPlaneWorkflow]
      exact .unchanged _
    exact coveredEffect covered effect rfl fun _ _ => nofun

end Steps

theorem dispatchesStayCorrelated {store : Store} (orderly : Orderly store) {ops : List AgentControlOp}
    (timely : Meets AgentControl.after AgentControl.Timely (.start store) ops) :
    let a := run AgentControl.after (.start store) ops
    let w := a.store.workflow
    ∀ endpointId, ∀ attempt ∈ w.attempts, attempt.state = .dispatched ∨ attempt.state = .inProgress →
      ∀ job ∈ w.jobs, w.owns job attempt → job.endpointId = endpointId → attempt.actionId ∈ a.resolved →
      ((∀ session ∈ a.sessions, session.endpointId = endpointId → session.phase.idle = true) →
        ∃ session ∈ a.directory.liveSessions endpointId,
          a.directory.dispatchCorrelation endpointId = some ⟨session,attempt.actionId⟩) ∧
      ∃ session ∈ a.sessions, session.endpointId = endpointId ∧ session.phase ≠ .closed := by
  intro a w endpointId attempt mem certain job jobMem owned endpoint sent
  have covered : Covered a := @runInvariant _ _ AgentControl.after AgentControl.Timely Covered
    (fun _ op inv ok => coveredStep inv op ok) (.start store) ops (coveredStart orderly) timely
  have stands : attempt.state.isCertain = true := by rcases certain with state | state <;> rw [state] <;> rfl
  obtain ⟨row,rowMem,here,answer⟩ := covered.answered endpointId attempt.actionId sent
    ⟨attempt,mem,rfl,stands,job,jobMem,owned,endpoint⟩
  refine ⟨fun idle => ?_,row,rowMem,here,fun closed => ?_⟩
  · have idle := idle row rowMem here
    rcases answer with ⟨open',recorded⟩ | captured | binds
    · rw [← here]
      exact ⟨row.id,covered.listed.live row rowMem (SessionPhase.accountableRegistered open'),recorded⟩
    · rw [SessionPhase.idleUncaptured idle] at captured
      cases captured
    · rw [binds] at idle
      cases idle
  · rcases answer with ⟨open',_⟩ | captured | binds
    · rw [closed] at open'
      cases open'
    · rw [closed] at captured
      cases captured
    · rw [closed] at binds
      cases binds

/- A destructive step of a Job of Endpoint 7 and a session of that Endpoint. -/
def readyEndpoint : List AgentControlOp :=
  [.control (.createWorkflow (some .enrolled) ⟨1⟩ (fun i => ⟨i⟩) ⟨7⟩ 1) ⟨rfl,rfl⟩,
    .control (.authorizeDestructiveIntent ⟨1⟩ ⟨0⟩ ⟨0⟩ "disk") ⟨rfl,rfl⟩,
    .control (.admitJob ⟨1⟩ (ticket 1)) ⟨rfl,rfl⟩,
    .control (.satisfyCurrentStepPreconditions ⟨1⟩ ⟨0⟩) ⟨rfl,rfl⟩,
    .connect ⟨1⟩ ⟨7⟩,.announce ⟨1⟩]

def dispatchCommit : AgentControlOp :=
  .commit (.destructive ⟨1⟩ ⟨0⟩) ⟨true,true,false,some ⟨0⟩,some "disk",.consistent,true⟩ ⟨5⟩ ⟨5⟩

-- The acknowledgement arrives through a second session; then the first one is lost.
def reboundDispatch : List AgentControlOp :=
  readyEndpoint ++ [dispatchCommit,.send 0,.acknowledge 0,.connect ⟨2⟩ ⟨7⟩,.announce ⟨2⟩,
    .handle ⟨2⟩ (.action ⟨5⟩ ⟨7⟩ .ackAccepted) (ticket 2),.endLoop ⟨1⟩,.bind ⟨2⟩,.capture ⟨1⟩,.leave ⟨1⟩,
    .unregister ⟨1⟩,.mark ⟨1⟩]

theorem dispatchesStayCorrelatedRebound :
    let a := run AgentControl.after (.start .empty) reboundDispatch
    (⟨⟨5⟩,⟨0⟩,⟨5⟩,.inProgress⟩ : Attempt) ∈ a.store.workflow.attempts ∧
      ∃ session ∈ a.directory.liveSessions ⟨7⟩, a.directory.dispatchCorrelation ⟨7⟩ = some ⟨session,⟨5⟩⟩ := by
  have mem : (⟨⟨5⟩,⟨0⟩,⟨5⟩,.inProgress⟩ : Attempt) ∈
      (run AgentControl.after (.start .empty) reboundDispatch).store.workflow.attempts := by decide +kernel
  exact ⟨mem,(dispatchesStayCorrelated orderlyEmpty (by decide +kernel) ⟨7⟩ _ mem (.inr rfl) ⟨⟨1⟩,⟨7⟩,.running⟩
    (by decide +kernel) (by decide +kernel) rfl (by decide +kernel)).1 (by decide +kernel)⟩

/- The dispatch finds the session between the two reads of its teardown: nobody is left to notice. -/
def lostInTeardown : List AgentControlOp :=
  readyEndpoint ++ [.endLoop ⟨1⟩,.capture ⟨1⟩,dispatchCommit,.send 0,.acknowledge 0,.leave ⟨1⟩,.unregister ⟨1⟩,
    .mark ⟨1⟩]

theorem teardownStrandsDispatch :
    let a := run AgentControl.after (.start .empty) lostInTeardown
    let w := a.store.workflow
    ∃ attempt ∈ w.attempts, attempt.state = .dispatched ∧ attempt.actionId ∈ a.resolved ∧
      (∃ job ∈ w.jobs, w.owns job attempt ∧ job.endpointId = ⟨7⟩) ∧
      (∀ session ∈ a.sessions, session.phase = .closed) ∧ a.dispatches = [] ∧
      a.directory.dispatchCorrelation ⟨7⟩ = none := by
  decide +kernel

end Bamep
