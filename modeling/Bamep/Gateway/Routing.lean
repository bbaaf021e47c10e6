import Bamep.Application.TransferEvidence
import Bamep.Application.DataPlane
import Bamep.Store.JobOp

/-! The Agent gateway with every service configured. A handler reads whether the action targets the
Endpoint, then whether it has a bound Transfer, and then runs one transaction; other handlers,
requests and Worker commits run in between, so each of these is a step of its own. Session
correlation and resource reservations are left out: they hold no durable state. -/
namespace Bamep

inductive ActionAckOutcome where
  | accepted | rejected
  deriving DecidableEq, Repr

-- `CancelAckOutcome` and `KnownActionState` of the wire are the evidence types one to one.
inductive AgentMessage where
  | actionAck (correlationId : Option ActionId) (actionId : ActionId) (outcome : ActionAckOutcome)
  | actionResult (correlationId : Option ActionId) (actionId : ActionId) (outcome : ActionResultOutcome)
      (detail : ResultDetail)
  | cancelAck (correlationId : Option ActionId) (actionId : ActionId) (outcome : CancelAckEvidence)
  | statusReport (correlationId : Option ActionId) (actionId : ActionId)
      (knownState : StatusReportEvidence)
  deriving DecidableEq, Repr

def AgentMessage.actionId : AgentMessage → ActionId
  | .actionAck _ actionId _ | .actionResult _ actionId _ _ | .cancelAck _ actionId _
  | .statusReport _ actionId _ => actionId

-- A message whose service depends on the classification of its action.
inductive Classifiable where
  | result (outcome : ActionResultOutcome) (detail : ResultDetail)
  | cancelAck (evidence : CancelAckEvidence)
  | statusCancelled
  | statusFailed
  deriving DecidableEq, Repr

inductive Task where
  | classify (message : Classifiable)
  | action (evidence : ActionEvidence)
  | cancelAck (evidence : CancelAckEvidence)
  | statusReport (evidence : StatusReportEvidence)
  | transferResult (detail : TransferResultDetail)
  | transferCancelAck (evidence : CancelAckEvidence)
  | transferStatusCancelled
  | transferStatusFailed
  deriving DecidableEq, Repr

inductive Reply where
  | silent
  | protocolError
  | failed (error : RepositoryError)
  deriving DecidableEq, Repr

-- The first read of `classify`; an unknown or foreign action is dropped silently.
def Store.target (s : Store) (endpointId : EndpointId) (actionId : ActionId) (message : Classifiable) :
    Except Reply Task :=
  if s.actionTargetsEndpoint actionId endpointId then .ok (.classify message) else .error .silent

def Store.receive (s : Store) (endpointId : EndpointId) : AgentMessage → Except Reply Task
  | .actionAck correlationId actionId outcome =>
    if correlationId ≠ some actionId then .error .protocolError
    else match outcome with
      | .accepted => .ok (.action .ackAccepted)
      | .rejected => .ok (.action .ackRejected)
  | .actionResult correlationId actionId outcome detail =>
    if correlationId ≠ some actionId then .error .protocolError
    else if outcome = .cancelled then .error .silent
    else s.target endpointId actionId (.result outcome detail)
  | .cancelAck correlationId actionId outcome =>
    if correlationId ≠ some actionId then .error .protocolError
    else s.target endpointId actionId (.cancelAck outcome)
  | .statusReport correlationId actionId knownState =>
    if correlationId ≠ some actionId then .error .protocolError
    else match knownState with
      | .cancelled => s.target endpointId actionId .statusCancelled
      | .failed => s.target endpointId actionId .statusFailed
      | .accepted | .running | .succeeded | .unknown => .ok (.statusReport knownState)

-- The second read of `classify` and the route it selects.
def Classifiable.route (bound : Bool) : Classifiable → Except Reply Task
  | .result outcome detail =>
    if bound then
      match parseTransferResultDetail outcome detail with
      | .error _ => .error .protocolError
      | .ok parsed => .ok (.transferResult parsed)
    else if !m1ResultDetailMatches outcome detail then .error .protocolError
    else match outcome with
      | .succeeded => .ok (.action .resultSucceeded)
      | .failed => .ok (.action .resultFailed)
      | .cancelled => .error .silent
  | .cancelAck evidence => .ok (if bound then .transferCancelAck evidence else .cancelAck evidence)
  | .statusCancelled => .ok (if bound then .transferStatusCancelled else .statusReport .cancelled)
  | .statusFailed => .ok (if bound then .transferStatusFailed else .statusReport .failed)

def Reply.ofError : ApplyActionEvidenceError → Reply
  | .unknownAction => .silent
  | .repository e => .failed e

def Reply.ofGeneric {α : Type} : Except ApplyActionEvidenceError α → Except Reply Task
  | .ok _ => .error .silent
  | .error e => .error (.ofError e)

def Reply.ofTransferResult : Except ApplyActionEvidenceError TransferEvidenceResult → Except Reply Task
  | .ok (.applied _) | .ok .noOp | .ok .conflict => .error .silent
  | .ok .failClosed | .ok .notTransferAction => .error .protocolError
  | .error e => .error (.ofError e)

-- `generic` is the task an action without a bound Transfer falls through to.
def Reply.ofTransferEvidence (generic : Task) (unexpected : String) :
    Except ApplyActionEvidenceError TransferEvidenceResult → Except Reply Task
  | .ok (.applied _) | .ok .noOp => .error .silent
  | .ok .notTransferAction => .ok generic
  | .ok .conflict | .ok .failClosed => .error (.failed (.backend unexpected))
  | .error e => .error (.ofError e)

structure Handler where
  actionId : ActionId
  endpointId : EndpointId
  task : Task
  deriving DecidableEq, Repr

def Store.applyTransferDecision (s : Store) (h : Handler) (stamp : Stamp)
    (decide : TransferEvidenceFacts → Stamp → TransferEvidenceDecision) :
    Store × Except ApplyActionEvidenceError TransferEvidenceResult :=
  s.applyTransferTerminalEvidence h.actionId h.endpointId fun facts => decide facts stamp

def Handler.run (h : Handler) (s : Store) (stamp : Stamp) : Store × Except Reply Task :=
  match h.task with
  | .classify message => (s,message.route (s.actionHasBoundTransfer h.actionId))
  | .action evidence =>
    (s.applyActionEvidence h.actionId h.endpointId evidence stamp).map id Reply.ofGeneric
  | .cancelAck evidence => (s.applyCancelAck h.actionId h.endpointId evidence stamp).map id Reply.ofGeneric
  | .statusReport evidence =>
    (s.applyStatusReport h.actionId h.endpointId evidence stamp).map id Reply.ofGeneric
  | .transferResult detail =>
    (s.applyTransferDecision h stamp (decideTransferTerminalEvidence detail)).map id Reply.ofTransferResult
  | .transferCancelAck evidence =>
    (s.applyTransferDecision h stamp (decideTransferCancelAck evidence)).map id
      (Reply.ofTransferEvidence (.cancelAck evidence)
        "transfer CancelAck evidence produced an unexpected outcome")
  | .transferStatusCancelled =>
    (s.applyTransferDecision h stamp decideTransferStatusReportCancelled).map id
      (Reply.ofTransferEvidence (.statusReport .cancelled)
        "transfer StatusReport cancellation produced an unexpected outcome")
  | .transferStatusFailed =>
    (s.applyTransferDecision h stamp decideTransferStatusReportFailed).map id
      (Reply.ofTransferEvidence (.statusReport .failed)
        "transfer StatusReport failure produced an unexpected outcome")

structure Gateway where
  store : Store
  handlers : List Handler

def Gateway.empty : Gateway := ⟨.empty,[]⟩

def JobOp.fromAgent : JobOp → Bool
  | .applyActionEvidence .. | .applyCancelAck .. | .applyStatusReport .. => true
  | _ => false

inductive GatewayOp where
  | receive (endpointId : EndpointId) (message : AgentMessage)
  | advance (i : Nat) (stamp : Stamp)
  | control (op : { op : JobOp // op.fromAgent = false })
  | acceptChunk (transferId : TransferId) (chunkIndex : Nat) (digestWire : String) (size : Nat)
  | sealManifest (transferId : TransferId) (binding : CapabilityBinding) (endpoint : Option Bool)
      (chunkCount : Nat) (digestWire : String) (replayAccepted : Bool)
  | verifyArtifact (input : ArtifactVerificationInput)

def Gateway.receive (g : Gateway) (endpointId : EndpointId) (message : AgentMessage) : Gateway :=
  match g.store.receive endpointId message with
  | .error _ => g
  | .ok task => { g with handlers := g.handlers ++ [⟨message.actionId,endpointId,task⟩] }

def Gateway.advance (g : Gateway) (i : Nat) (stamp : Stamp) : Gateway :=
  match g.handlers[i]? with
  | none => g
  | some h =>
    match h.run g.store stamp with
    | (s,.error _) => ⟨s,g.handlers.eraseIdx i⟩
    | (s,.ok task) => ⟨s,g.handlers.eraseIdx i ++ [{ h with task := task }]⟩

def Gateway.after (g : Gateway) : GatewayOp → Gateway
  | .receive endpointId message => g.receive endpointId message
  | .advance i stamp => g.advance i stamp
  | .control op => { g with store := g.store.after op }
  | .acceptChunk transferId chunkIndex digestWire size =>
    { g with store := (g.store.acceptChunk transferId chunkIndex digestWire size).1 }
  | .sealManifest transferId binding endpoint chunkCount digestWire replayAccepted =>
    { g with
      store := (g.store.sealManifest transferId binding endpoint chunkCount digestWire replayAccepted).1 }
  | .verifyArtifact input => { g with store := (g.store.verifyArtifact input).1 }

end Bamep
