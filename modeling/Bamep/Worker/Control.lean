import Bamep.Library.Run
import Bamep.WorkerProtocol.Messages

/-! The control client of the Worker: callers that submit requests to the connection published when they ask, and
the driver of one connection after the other. A step is what one task does between two points where another may
run. -/
namespace Bamep.WorkerControl
open Transition WorkerProtocol

abbrev LocalGeneration := UInt64

/- The published sender of one connection's queue: the channel object itself and the generation beside it, which
wraps with its counter. -/
structure GenerationChannel where
  connection : Nat
  generation : LocalGeneration
  deriving DecidableEq, Repr

inductive ControlError where
  | notConnected
  | connectionLost
  | generationChanged
  | timeout (timeoutMs : Nat)
  | saturated
  | correlationViolation
  | protocolError (code : String)
  | resumePageUnavailable
  deriving DecidableEq, Repr

inductive ExpectedResponse where
  | authorization | chunkAcceptance | resumePage | manifestSeal | artifactVerification
  deriving DecidableEq, Repr

inductive ResponsePayload where
  | authorization (m : Message AuthorizationDecisionBody)
  | chunkAcceptance (m : Message ChunkAcceptanceDecisionBody)
  | resumePage (m : Message ResumeDiscoveryPageBody)
  | manifestSeal (m : Message ManifestSealDecisionBody)
  | artifactVerification (m : Message ArtifactVerificationAckBody)
  deriving DecidableEq, Repr

def ResponsePayload.matchesExpected : ResponsePayload → ExpectedResponse → Bool
  | .authorization _,.authorization => true
  | .chunkAcceptance _,.chunkAcceptance => true
  | .resumePage _,.resumePage => true
  | .manifestSeal _,.manifestSeal => true
  | .artifactVerification _,.artifactVerification => true
  | _,_ => false

structure AcceptanceTicket where
  generation : LocalGeneration
  handle : String
  transferId : Uuid
  chunkIndex : Nat
  deriving DecidableEq, Repr

structure VerificationTicket where
  generation : LocalGeneration
  handle : String
  deriving DecidableEq, Repr

/- What a caller hands to `send_request`, or with `scope` to `send_scoped_request`. -/
structure Call where
  scope : Option LocalGeneration
  message : WorkerProtocolMessage
  expected : ExpectedResponse
  deriving DecidableEq, Repr

def Call.messageId (call : Call) : Uuid := call.message.envelope.messageId

inductive ControlRequest where
  | authorizeChunk (input : AuthorizationQueryBody)
  | discoverResume (input : ResumeDiscoveryQueryBody)
  | continueResume (generation : LocalGeneration) (cursor : String)
  | sealManifest (input : ManifestSealRequestBody)
  | commitChunk (ticket : AcceptanceTicket) (digest : String) (size : Nat)
  | reportArtifactVerification (ticket : VerificationTicket) (computedArtifactDigest : String)
  deriving DecidableEq, Repr

def ControlRequest.call (messageId : Uuid) : ControlRequest → Call
  | .authorizeChunk input => ⟨none,.authorizationQuery ⟨.new messageId,input⟩,.authorization⟩
  | .discoverResume input => ⟨none,.resumeDiscoveryQuery ⟨.new messageId,input⟩,.resumePage⟩
  | .continueResume generation cursor =>
    ⟨some generation,.resumeDiscoveryContinue ⟨.new messageId,⟨cursor⟩⟩,.resumePage⟩
  | .sealManifest input => ⟨none,.manifestSealRequest ⟨.new messageId,input⟩,.manifestSeal⟩
  | .commitChunk ticket digest size =>
    ⟨some ticket.generation,.chunkAcceptanceRequest ⟨.new messageId,
      ⟨ticket.handle,ticket.transferId,ticket.chunkIndex,digest,size⟩⟩,.chunkAcceptance⟩
  | .reportArtifactVerification ticket computed =>
    ⟨some ticket.generation,.artifactVerificationReport ⟨.new messageId,⟨ticket.handle,computed⟩⟩,
      .artifactVerification⟩

inductive Inbound where
  | response (inReplyTo : Uuid) (payload : ResponsePayload)
  | protocolError (inReplyTo : Option Uuid) (code : String)
  | unexpected
  deriving DecidableEq, Repr

def classifyInbound (message : WorkerProtocolMessage) : Inbound :=
  match message,message.envelope.isValid with
  | .authorizationDecision m,true => .response m.body.inReplyTo (.authorization m)
  | .chunkAcceptanceDecision m,true => .response m.body.inReplyTo (.chunkAcceptance m)
  | .resumeDiscoveryPage m,true => .response m.body.inReplyTo (.resumePage m)
  | .manifestSealDecision m,true => .response m.body.inReplyTo (.manifestSeal m)
  | .artifactVerificationAck m,true => .response m.body.inReplyTo (.artifactVerification m)
  | .protocolError m,_ => .protocolError m.body.inReplyTo m.body.code
  | _,_ => .unexpected

/- The sender of a caller's oneshot channel. The caller pairs what it receives with the generation of the channel
it has cloned. -/
structure Reply where
  caller : Nat
  channel : GenerationChannel
  deriving DecidableEq, Repr

structure OutboundRequest where
  message : WorkerProtocolMessage
  messageId : Uuid
  expected : ExpectedResponse
  reply : Reply
  deriving DecidableEq, Repr

structure PendingEntry where
  messageId : Uuid
  expected : ExpectedResponse
  reply : Reply
  deadline : Nat
  deriving DecidableEq, Repr

/- The locals of `run_one_connection`. The dispatch loop has been left once `dispatching` is false. -/
structure Connection where
  channel : GenerationChannel
  requests : List OutboundRequest
  inbound : List WorkerProtocolMessage
  reading : Bool
  pending : List PendingEntry
  dispatching : Bool
  deriving DecidableEq, Repr

inductive ControlEvent where
  | wrote (channel : GenerationChannel) (caller : Nat)
  | received (channel : GenerationChannel) (message : WorkerProtocolMessage)
  | answered (caller : Nat) (result : Except ControlError (LocalGeneration × ResponsePayload))

/- A caller is the position of its call; `sending` holds the callers waiting for room in the queue of the channel
they have cloned. -/
structure ControlClient where
  last : GenerationChannel
  published : Option GenerationChannel
  connection : Option Connection
  stopped : Bool
  calls : List Call
  sending : List OutboundRequest
  log : List ControlEvent

structure ControlConfig where
  pendingCapacity : Nat
  requestTimeout : Nat

def ControlClient.start : ControlClient := ⟨⟨0,0⟩,none,none,false,[],[],[]⟩

/- A receiver that is gone makes no difference to the driver, which ignores the result of the send. -/
def Reply.send (reply : Reply) (result : Except ControlError ResponsePayload) : ControlEvent :=
  .answered reply.caller (result.map fun payload => (reply.channel.generation,payload))

namespace Connection

def new (channel : GenerationChannel) : Connection := ⟨channel,[],[],true,[],true⟩

/- `HashMap::insert`: an entry of the same id is dropped, and its caller sees the closed channel. -/
def insertPending (c : Connection) (entry : PendingEntry) : Connection × List ControlEvent :=
  ({ c with pending := c.pending.filter (·.messageId ≠ entry.messageId) ++ [entry] },
    (c.pending.filter (·.messageId = entry.messageId)).map fun old => old.reply.send (.error .connectionLost))

def recvRequest (config : ControlConfig) (c : Connection) (now : Nat) (written : Bool) :
    Connection × List ControlEvent :=
  match c.requests with
  | [] => (c,[])
  | request :: rest =>
    let c := { c with requests := rest }
    if config.pendingCapacity ≤ c.pending.length then (c,[request.reply.send (.error .saturated)])
    else if written then
      let inserted := c.insertPending ⟨request.messageId,request.expected,request.reply,now + config.requestTimeout⟩
      (inserted.1,.wrote c.channel request.reply.caller :: inserted.2)
    -- A failed write may still have reached the peer.
    else ({ c with dispatching := false },
      [.wrote c.channel request.reply.caller,request.reply.send (.error .connectionLost)])

def removePending (c : Connection) (id : Uuid) : Connection :=
  { c with pending := c.pending.filter (·.messageId ≠ id) }

def dispatchInbound (c : Connection) : Inbound → Connection × List ControlEvent
  | .response inReplyTo payload =>
    match c.pending.find? (·.messageId = inReplyTo) with
    | none => (c,[])
    | some entry =>
      if payload.matchesExpected entry.expected then (c.removePending inReplyTo,[entry.reply.send (.ok payload)])
      else ({ c.removePending inReplyTo with dispatching := false },
        [entry.reply.send (.error .correlationViolation)])
  | .protocolError inReplyTo code =>
    match inReplyTo.bind fun id => c.pending.find? (·.messageId = id) with
    | none => ({ c with dispatching := false },[])
    | some entry => ({ c.removePending entry.messageId with dispatching := false },
        [entry.reply.send (.error (.protocolError code))])
  | .unexpected => ({ c with dispatching := false },[])

def recvInbound (c : Connection) : Connection × List ControlEvent :=
  match c.inbound with
  | [] => ({ c with dispatching := c.reading },[])
  | message :: rest => { c with inbound := rest }.dispatchInbound (classifyInbound message)

def expire (config : ControlConfig) (c : Connection) (now : Nat) : Connection × List ControlEvent :=
  ({ c with pending := c.pending.filter fun entry => now < entry.deadline },
    (c.pending.filter fun entry => entry.deadline ≤ now).map fun entry =>
      entry.reply.send (.error (.timeout config.requestTimeout)))

/- Queued requests are dropped with their senders; pending ones are answered. -/
def dropped (c : Connection) : List ControlEvent :=
  (c.requests.map OutboundRequest.reply ++ c.pending.map PendingEntry.reply).map
    fun reply => reply.send (.error .connectionLost)

end Connection

inductive ControlOp where
  | call (request : ControlRequest) (messageId : Uuid)
  | enqueue (caller : Nat)
  | abandon (caller : Nat)
  | connect
  | arrive (message : WorkerProtocolMessage)
  | hangUp
  | recvRequest (now : Nat) (written : Bool)
  | recvInbound
  | expire (now : Nat)
  | close
  | shutdown

namespace ControlClient
variable (config : ControlConfig) (s : ControlClient)

def send (call : Call) : ControlClient :=
  let caller := s.calls.length
  let s := { s with calls := s.calls ++ [call] }
  match s.published with
  | none => { s with log := s.log ++ [.answered caller (.error .notConnected)] }
  | some channel =>
    if call.scope.any (· ≠ channel.generation) then
      { s with log := s.log ++ [.answered caller (.error .generationChanged)] }
    else { s with sending := s.sending ++
        [⟨call.message,call.messageId,call.expected,⟨caller,channel⟩⟩] }

def enqueue (caller : Nat) : ControlClient :=
  match s.sending.find? (·.reply.caller = caller) with
  | none => s
  | some request =>
    let rest := s.sending.filter (·.reply.caller ≠ caller)
    let refused := { s with sending := rest, log := s.log ++ [.answered caller (.error .notConnected)] }
    match s.connection with
    | none => refused
    | some c =>
      if c.channel ≠ request.reply.channel then refused
      else if c.requests.length < config.pendingCapacity then
        { s with sending := rest, connection := some { c with requests := c.requests ++ [request] } }
      else s

/- A step of the driver or of the reader on the connection. -/
def onConnection (step : Connection → Connection × List ControlEvent) : ControlClient :=
  match s.connection with
  | none => s
  | some c => { s with connection := some (step c).1, log := s.log ++ (step c).2 }

def onDispatch (step : Connection → Connection × List ControlEvent) : ControlClient :=
  s.onConnection fun c => if c.dispatching then step c else (c,[])

def arrive (message : WorkerProtocolMessage) (c : Connection) : Connection × List ControlEvent :=
  if c.reading && c.inbound.length < config.pendingCapacity then
    match message.validateShape with
    | .ok () => ({ c with inbound := c.inbound ++ [message] },[.received c.channel message])
    | .error _ => ({ c with reading := false },[])
  else (c,[])

def disconnect : ControlClient :=
  match s.connection with
  | none => s
  | some c => { s with connection := none, published := none, log := s.log ++ c.dropped }

def after : ControlOp → ControlClient
  | .call request messageId => s.send (request.call messageId)
  | .enqueue caller => s.enqueue config caller
  | .abandon caller => { s with sending := s.sending.filter (·.reply.caller ≠ caller) }
  | .connect =>
    if s.stopped || s.connection.isSome then s
    else
      let channel := ⟨s.last.connection + 1,s.last.generation + 1⟩
      { s with last := channel, published := some channel, connection := some (.new channel) }
  | .arrive message => s.onConnection (arrive config message)
  | .hangUp => s.onConnection fun c => ({ c with reading := false },[])
  | .recvRequest now written => s.onDispatch fun c => c.recvRequest config now written
  | .recvInbound => s.onDispatch Connection.recvInbound
  | .expire now => s.onDispatch fun c => c.expire config now
  | .close => if s.connection.any (!·.dispatching) then s.disconnect else s
  | .shutdown => { s.disconnect with stopped := true }

end ControlClient

def ControlEvent.answers (caller : Nat) : ControlEvent → Bool
  | .answered other _ => other = caller
  | _ => false

def ControlEvent.writes (caller : Nat) : ControlEvent → Bool
  | .wrote _ other => other = caller
  | _ => false

section Counting
variable {α : Type} {caller : Nat}

@[simp] theorem wroteAnswers (channel : GenerationChannel) (other : Nat) :
    (ControlEvent.wrote channel other).answers caller = false := rfl

@[simp] theorem wroteWrites (channel : GenerationChannel) (other : Nat) :
    (ControlEvent.wrote channel other).writes caller = decide (other = caller) := rfl

@[simp] theorem receivedAnswers (channel : GenerationChannel) (message : WorkerProtocolMessage) :
    (ControlEvent.received channel message).answers caller = false := rfl

@[simp] theorem receivedWrites (channel : GenerationChannel) (message : WorkerProtocolMessage) :
    (ControlEvent.received channel message).writes caller = false := rfl

@[simp] theorem answeredAnswers (other : Nat) (result : Except ControlError (LocalGeneration × ResponsePayload)) :
    (ControlEvent.answered other result).answers caller = decide (other = caller) := rfl

@[simp] theorem answeredWrites (other : Nat) (result : Except ControlError (LocalGeneration × ResponsePayload)) :
    (ControlEvent.answered other result).writes caller = false := rfl

@[simp] theorem sendAnswers (reply : Reply) (result : Except ControlError ResponsePayload) :
    (reply.send result).answers caller = decide (reply.caller = caller) := rfl

@[simp] theorem sendWrites (reply : Reply) (result : Except ControlError ResponsePayload) :
    (reply.send result).writes caller = false := rfl

theorem answersSends (reply : α → Reply) (result : Except ControlError ResponsePayload) (items : List α) :
    (items.map fun item => (reply item).send result).countP (·.answers caller) =
      items.countP fun item => (reply item).caller = caller := by
  simp only [List.countP_map,Function.comp_def,sendAnswers]

theorem writesSends (reply : α → Reply) (result : Except ControlError ResponsePayload) (items : List α) :
    (items.map fun item => (reply item).send result).countP (·.writes caller) = 0 := by
  simp [List.countP_map,Function.comp_def]

theorem countSplit (p q : α → Bool) (items : List α) :
    (items.filter q).countP p + (items.filter fun item => !q item).countP p = items.countP p :=
  (List.countP_eq_countP_filter_add items p q).symm

theorem countRemoved {p q} {items : List α} {item} (found : items.find? q = some item) :
    (items.filter fun item => !q item).countP p + (if p item then 1 else 0) ≤ items.countP p := by
  have mem : item ∈ items.filter q := by
    simpa using ⟨List.mem_of_find?_eq_some found,List.find?_some found⟩
  have held : (if p item then 1 else 0) ≤ (items.filter q).countP p := by
    split
    · exact List.countP_pos_iff.mpr ⟨item,mem,by assumption⟩
    · exact Nat.zero_le _
  have split := countSplit p q items
  omega

end Counting

structure Moves (config : ControlConfig) (c c' : Connection) (events : List ControlEvent) : Prop where
  channel : c'.channel = c.channel
  custody : ∀ caller, c'.requests.countP (·.reply.caller = caller) + c'.pending.countP (·.reply.caller = caller) +
    events.countP (·.answers caller) ≤
      c.requests.countP (·.reply.caller = caller) + c.pending.countP (·.reply.caller = caller)
  writes : ∀ caller, c'.requests.countP (·.reply.caller = caller) + events.countP (·.writes caller) ≤
    c.requests.countP (·.reply.caller = caller)
  bounded : c.pending.length ≤ config.pendingCapacity → c'.pending.length ≤ config.pendingCapacity
  requests : ∀ r ∈ c'.requests, r ∈ c.requests
  pending : ∀ e ∈ c'.pending, e ∈ c.pending ∨ ∃ r ∈ c.requests, r.messageId = e.messageId ∧
    r.expected = e.expected ∧ r.reply = e.reply ∧ .wrote c.channel r.reply.caller ∈ events
  inbound : ∀ m ∈ c'.inbound, m ∈ c.inbound ∨ .received c.channel m ∈ events
  wrote : ∀ channel caller, .wrote channel caller ∈ events →
    channel = c.channel ∧ ∃ r ∈ c.requests, r.reply.caller = caller
  received : ∀ channel m, .received channel m ∈ events → channel = c.channel
  ok : ∀ caller g p, .answered caller (.ok (g,p)) ∈ events → ∃ e ∈ c.pending, e.reply.caller = caller ∧
    e.reply.channel.generation = g ∧ p.matchesExpected e.expected = true ∧
      ∃ m ∈ c.inbound, classifyInbound m = .response e.messageId p

section Steps
variable {config : ControlConfig} {c : Connection}

theorem movesStill (c : Connection) : Moves config c c [] := by
  constructor <;> simp

theorem arriveMoves (message : WorkerProtocolMessage) (c : Connection) :
    Moves config c (ControlClient.arrive config message c).1 (ControlClient.arrive config message c).2 := by
  unfold ControlClient.arrive
  split
  · split
    · constructor <;> simp +contextual
    · constructor <;> simp
  · exact movesStill c

theorem hangUpMoves (c : Connection) : Moves config c { c with reading := false } [] := by
  constructor <;> simp

theorem insertMoves {request rest deadline}
    (queue : c.requests = request :: rest) (room : c.pending.length < config.pendingCapacity) :
    let inserted := { c with requests := rest }.insertPending
      ⟨request.messageId,request.expected,request.reply,deadline⟩
    Moves config c inserted.1 (.wrote c.channel request.reply.caller :: inserted.2) := by
  intro inserted
  constructor
  · rfl
  · intro caller
    have split := countSplit (fun e : PendingEntry => decide (e.reply.caller = caller))
      (fun e => decide (e.messageId ≠ request.messageId)) c.pending
    simp only [inserted,Connection.insertPending,List.countP_append,List.countP_cons,List.countP_nil,answersSends,
      wroteAnswers,queue] at *
    simp only [ne_eq,decide_not,Bool.not_not,decide_eq_true_eq] at split ⊢
    simp
    omega
  · intro caller
    simp only [inserted,Connection.insertPending,List.countP_cons,writesSends,wroteWrites,queue,decide_eq_true_eq]
    omega
  · intro _
    have fewer := List.length_filter_le (fun e : PendingEntry => decide (e.messageId ≠ request.messageId)) c.pending
    simp only [inserted,Connection.insertPending,List.length_append,List.length_singleton]
    omega
  · simp +contextual [inserted,Connection.insertPending,queue]
  · intro e mem
    simp only [inserted,Connection.insertPending,List.mem_append,List.mem_singleton,List.mem_filter] at mem
    rcases mem with ⟨old,_⟩ | rfl
    · exact .inl old
    · exact .inr ⟨request,by simp [queue],rfl,rfl,rfl,List.mem_cons_self⟩
  · simp +contextual [inserted,Connection.insertPending]
  · simp +contextual [inserted,Connection.insertPending,Reply.send,queue]
  · simp +contextual [inserted,Connection.insertPending,Reply.send]
  · simp +contextual [inserted,Connection.insertPending,Reply.send,Except.map]

theorem recvRequestMoves (now : Nat) (written : Bool) (c : Connection) :
    Moves config c (c.recvRequest config now written).1 (c.recvRequest config now written).2 := by
  unfold Connection.recvRequest
  cases queue : c.requests with
  | nil => exact movesStill c
  | cons request rest =>
    simp only
    split
    · constructor <;> simp +contextual [queue,List.countP_cons,Reply.send,Except.map]
      intro caller
      omega
    · rename_i room
      split
      · exact insertMoves queue (not_le.mp room)
      · constructor <;> simp +contextual [queue,List.countP_cons,Reply.send,Except.map]
        intro caller
        omega

theorem answeredMoves {entry rest} {dispatching : Bool}
    {result}
    (found : c.pending.find? (·.messageId = entry.messageId) = some entry) (fewer : ∀ m ∈ rest, m ∈ c.inbound)
    (ok : ∀ p, result = .ok p → p.matchesExpected entry.expected = true ∧
      ∃ m ∈ c.inbound, classifyInbound m = .response entry.messageId p) :
    Moves config c { { c with inbound := rest }.removePending entry.messageId with dispatching := dispatching }
      [entry.reply.send result] := by
  constructor
  · rfl
  · intro caller
    have removed := @countRemoved _ (fun e : PendingEntry => decide (e.reply.caller = caller)) _ _ _ found
    simp only [Connection.removePending,List.countP_singleton,sendAnswers,ne_eq,decide_not,decide_eq_true_eq]
      at removed ⊢
    omega
  · simp [Connection.removePending]
  · intro bounded
    exact Nat.le_trans (List.length_filter_le _ _) bounded
  · simp [Connection.removePending]
  · simp +contextual [Connection.removePending]
  · exact fun m mem => .inl (fewer m mem)
  · simp [Reply.send]
  · simp [Reply.send]
  · intro caller g p mem
    cases result with
    | error error => simp [Reply.send,Except.map] at mem
    | ok payload =>
      simp only [Reply.send,Except.map,List.mem_singleton,ControlEvent.answered.injEq,Except.ok.injEq,
        Prod.mk.injEq] at mem
      obtain ⟨rfl,rfl,rfl⟩ := mem
      exact ⟨entry,List.mem_of_find?_eq_some found,rfl,rfl,ok _ rfl⟩

theorem recvInboundMoves (c : Connection) : Moves config c c.recvInbound.1 c.recvInbound.2 := by
  unfold Connection.recvInbound
  cases queue : c.inbound with
  | nil => constructor <;> simp
  | cons message rest =>
    have fewer : ∀ m ∈ rest, m ∈ c.inbound := fun m mem => by simp [queue,mem]
    have left : ∀ dispatching, Moves config c { c with inbound := rest, dispatching := dispatching } [] := by
      intro dispatching
      constructor <;> simp +contextual [queue]
    simp only
    cases kind : classifyInbound message with
    | unexpected => exact left false
    | response inReplyTo payload =>
      simp only [Connection.dispatchInbound]
      split
      · exact left c.dispatching
      · rename_i entry found
        have named : entry.messageId = inReplyTo := by simpa using List.find?_some found
        subst named
        split
        · rename_i expected
          refine answeredMoves found fewer ?_
          intro p same
          cases same
          exact ⟨expected,message,by simp [queue],kind⟩
        · exact answeredMoves found fewer (by simp)
    | protocolError inReplyTo code =>
      simp only [Connection.dispatchInbound]
      split
      · exact left false
      · rename_i entry found
        obtain ⟨id,_,found⟩ := Option.bind_eq_some_iff.mp found
        have named : entry.messageId = id := by simpa using List.find?_some found
        subst named
        exact answeredMoves found fewer (by simp)

theorem expireMoves (now : Nat) (c : Connection) : Moves config c (c.expire config now).1 (c.expire config now).2 := by
  unfold Connection.expire
  constructor
  · rfl
  · intro caller
    have split := countSplit (fun e : PendingEntry => decide (e.reply.caller = caller))
      (fun e => decide (now < e.deadline)) c.pending
    simp only [answersSends,← decide_not,not_lt] at split ⊢
    omega
  · intro caller
    simp only [writesSends]
    omega
  · intro bounded
    exact Nat.le_trans (List.length_filter_le _ _) bounded
  · simp
  · simp +contextual
  · exact fun m mem => .inl mem
  · simp [Reply.send]
  · simp [Reply.send]
  · simp [Reply.send,Except.map]

end Steps

def Backed (calls : List Call) (messageId : Uuid) (expected : ExpectedResponse) (reply : Reply) : Prop :=
  ∃ call, calls[reply.caller]? = some call ∧ call.messageId = messageId ∧ call.expected = expected ∧
    ∀ ticket ∈ call.scope, ticket = reply.channel.generation

/- A caller stands in one place at most: waiting to be written, pending, or answered. -/
structure Custody (s : ControlClient) (caller : Nat) : Prop where
  once : s.sending.countP (·.reply.caller = caller) +
    (s.connection.elim 0 fun c => c.requests.countP (·.reply.caller = caller) +
      c.pending.countP (·.reply.caller = caller)) + s.log.countP (·.answers caller) ≤
        if caller < s.calls.length then 1 else 0
  writtenOnce : s.sending.countP (·.reply.caller = caller) +
    (s.connection.elim 0 fun c => c.requests.countP (·.reply.caller = caller)) + s.log.countP (·.writes caller) ≤
      if caller < s.calls.length then 1 else 0

structure ConnectionSound (config : ControlConfig) (calls : List Call) (log : List ControlEvent)
    (c : Connection) : Prop where
  requests : ∀ r ∈ c.requests, Backed calls r.messageId r.expected r.reply ∧ r.reply.channel = c.channel
  pending : ∀ e ∈ c.pending, Backed calls e.messageId e.expected e.reply ∧ e.reply.channel = c.channel ∧
    .wrote c.channel e.reply.caller ∈ log
  bounded : c.pending.length ≤ config.pendingCapacity
  inbound : ∀ m ∈ c.inbound, .received c.channel m ∈ log

structure LogSound (calls : List Call) (log : List ControlEvent) : Prop where
  wrote : ∀ channel caller, .wrote channel caller ∈ log → ∃ call, calls[caller]? = some call ∧
    ∀ ticket ∈ call.scope, ticket = channel.generation
  ok : ∀ caller g p, .answered caller (.ok (g,p)) ∈ log → ∃ call channel m, calls[caller]? = some call ∧
    channel.generation = g ∧ .wrote channel caller ∈ log ∧ .received channel m ∈ log ∧
      classifyInbound m = .response call.messageId p ∧ p.matchesExpected call.expected = true

structure Sound (config : ControlConfig) (s : ControlClient) : Prop where
  custody : ∀ caller, Custody s caller
  sending : ∀ r ∈ s.sending, Backed s.calls r.messageId r.expected r.reply
  connection : ∀ c ∈ s.connection, ConnectionSound config s.calls s.log c
  log : LogSound s.calls s.log

def Refusals (events : List ControlEvent) : Prop :=
  ∀ e ∈ events, ∃ caller error, e = .answered caller (.error error)

section Grow
variable {config : ControlConfig} {calls : List Call} {log events : List ControlEvent}

theorem callGrow {caller : Nat} {call} (more : List Call) (named : calls[caller]? = some call) :
    (calls ++ more)[caller]? = some call := by
  obtain ⟨inside,_⟩ := List.getElem?_eq_some_iff.mp named
  rw [List.getElem?_append_left inside]
  exact named

theorem backedGrow {messageId : Uuid} {expected reply} (more : List Call)
    (backed : Backed calls messageId expected reply) : Backed (calls ++ more) messageId expected reply := by
  obtain ⟨call,named,rest⟩ := backed
  exact ⟨call,callGrow more named,rest⟩

theorem connectionGrow {c} (more : List Call) (events : List ControlEvent)
    (sound : ConnectionSound config calls log c) : ConnectionSound config (calls ++ more) (log ++ events) c := by
  constructor
  · intro r mem
    obtain ⟨backed,same⟩ := sound.requests r mem
    exact ⟨backedGrow more backed,same⟩
  · intro e mem
    obtain ⟨backed,same,before⟩ := sound.pending e mem
    exact ⟨backedGrow more backed,same,List.mem_append_left _ before⟩
  · exact sound.bounded
  · intro m mem
    exact List.mem_append_left _ (sound.inbound m mem)

theorem logGrow (more : List Call) (refusals : Refusals events) (sound : LogSound calls log) :
    LogSound (calls ++ more) (log ++ events) := by
  constructor
  · intro channel caller mem
    rcases List.mem_append.mp mem with old | new
    · obtain ⟨call,named,ours⟩ := sound.wrote channel caller old
      exact ⟨call,callGrow more named,ours⟩
    · obtain ⟨_,_,impossible⟩ := refusals _ new
      cases impossible
  · intro caller g p mem
    rcases List.mem_append.mp mem with old | new
    · obtain ⟨call,channel,m,named,same,before,received,rest⟩ := sound.ok caller g p old
      exact ⟨call,channel,m,callGrow more named,same,List.mem_append_left _ before,List.mem_append_left _ received,rest⟩
    · obtain ⟨_,_,impossible⟩ := refusals _ new
      cases impossible

end Grow

section Client
variable {config : ControlConfig} {s : ControlClient}

theorem soundStart : Sound config .start := by
  refine ⟨fun caller => ?_,by simp [ControlClient.start],by simp [ControlClient.start],?_⟩
  · constructor <;> simp [ControlClient.start]
  · constructor <;> simp [ControlClient.start]

theorem movesConnection {calls log events c c'}
    (move : Moves config c c' events) (sound : ConnectionSound config calls log c) :
    ConnectionSound config calls (log ++ events) c' := by
  constructor
  · intro r mem
    rw [move.channel]
    exact sound.requests r (move.requests r mem)
  · intro e mem
    rw [move.channel]
    rcases move.pending e mem with old | ⟨r,present,sameId,sameExpected,sameReply,new⟩
    · obtain ⟨backed,named,before⟩ := sound.pending e old
      exact ⟨backed,named,List.mem_append_left _ before⟩
    · obtain ⟨backed,named⟩ := sound.requests r present
      rw [← sameId,← sameExpected,← sameReply]
      exact ⟨backed,named,List.mem_append_right _ new⟩
  · exact move.bounded sound.bounded
  · intro m mem
    rw [move.channel]
    exact List.mem_append.mpr ((move.inbound m mem).imp (sound.inbound m) id)

theorem movesLog {calls log events c c'}
    (move : Moves config c c' events) (connection : ConnectionSound config calls log c)
    (sound : LogSound calls log) : LogSound calls (log ++ events) := by
  constructor
  · intro channel caller mem
    rcases List.mem_append.mp mem with old | new
    · exact sound.wrote channel caller old
    · obtain ⟨rfl,r,present,rfl⟩ := move.wrote channel caller new
      obtain ⟨⟨call,named,_,_,ours⟩,same⟩ := connection.requests r present
      exact ⟨call,named,same ▸ ours⟩
  · intro caller g p mem
    rcases List.mem_append.mp mem with old | new
    · obtain ⟨call,channel,m,named,same,before,received,rest⟩ := sound.ok caller g p old
      exact ⟨call,channel,m,named,same,List.mem_append_left _ before,List.mem_append_left _ received,rest⟩
    · obtain ⟨e,present,rfl,rfl,suits,m,arrived,kind⟩ := move.ok caller g p new
      obtain ⟨⟨call,named,sameId,sameExpected,_⟩,same,before⟩ := connection.pending e present
      refine ⟨call,c.channel,m,named,by rw [same],List.mem_append_left _ before,
        List.mem_append_left _ (connection.inbound m arrived),?_,?_⟩
      · rw [kind,sameId]
      · rw [sameExpected]
        exact suits

theorem soundConnection {step}
    (moves : ∀ c, Moves config c (step c).1 (step c).2) (sound : Sound config s) :
    Sound config (s.onConnection step) := by
  unfold ControlClient.onConnection
  cases connected : s.connection with
  | none => exact sound
  | some c =>
    have move := moves c
    have present := sound.connection c connected
    refine ⟨fun caller => ?_,sound.sending,?_,movesLog move present sound.log⟩
    · obtain ⟨once,writtenOnce⟩ := sound.custody caller
      have kept := move.custody caller
      have written := move.writes caller
      simp only [connected,Option.elim] at once writtenOnce
      constructor
      · simp only [Option.elim,List.countP_append]
        omega
      · simp only [Option.elim,List.countP_append]
        omega
    · intro c' same
      cases same
      exact movesConnection move present

theorem placeNew {caller places known} (held : places ≤ if caller < known then 1 else 0) :
    places + (if known = caller then 1 else 0) ≤ if caller < known + 1 then 1 else 0 := by
  split at held <;> split <;> split <;> omega

theorem placeKept {caller places known} (held : places ≤ if caller < known then 1 else 0) :
    places ≤ if caller < known + 1 then 1 else 0 := Nat.le_trans (Nat.le_add_right _ _) (placeNew held)

theorem soundSend (call : Call) (sound : Sound config s) : Sound config (s.send call) := by
  have grown : ∀ events, ∀ c ∈ s.connection, ConnectionSound config (s.calls ++ [call]) (s.log ++ events) c :=
    fun events c mem => connectionGrow [call] events (sound.connection c mem)
  have kept : ∀ r ∈ s.sending, Backed (s.calls ++ [call]) r.messageId r.expected r.reply :=
    fun r mem => backedGrow [call] (sound.sending r mem)
  have logged : ∀ events, Refusals events → LogSound (s.calls ++ [call]) (s.log ++ events) :=
    fun events refusals => logGrow [call] refusals sound.log
  have refused : ∀ error, Sound config { s with
      calls := s.calls ++ [call], log := s.log ++ [.answered s.calls.length (.error error)] } := by
    intro error
    refine ⟨fun caller => ?_,kept,grown _,logged _ (by simp [Refusals])⟩
    obtain ⟨once,writtenOnce⟩ := sound.custody caller
    constructor
    · have place := placeNew once
      simp only [List.countP_append,List.countP_singleton,answeredAnswers,decide_eq_true_eq,List.length_append,
        List.length_singleton]
      omega
    · have place := placeKept writtenOnce
      simpa [List.countP_append] using place
  unfold ControlClient.send
  simp only
  split
  · exact refused .notConnected
  · rename_i channel published
    split
    · exact refused .generationChanged
    · rename_i allowed
      refine ⟨fun caller => ?_,?_,by simpa using grown [],by simpa using logged [] (by simp [Refusals])⟩
      · obtain ⟨once,writtenOnce⟩ := sound.custody caller
        have place := placeNew once
        have writtenPlace := placeNew writtenOnce
        constructor
        · simp only [List.countP_append,List.countP_singleton,decide_eq_true_eq,List.length_append,
            List.length_singleton]
          omega
        · simp only [List.countP_append,List.countP_singleton,decide_eq_true_eq,List.length_append,
            List.length_singleton]
          omega
      · intro r mem
        rcases List.mem_append.mp mem with old | new
        · exact kept r old
        · cases List.mem_singleton.mp new
          refine ⟨call,by simp,rfl,rfl,?_⟩
          simpa [Option.any_eq_true] using allowed

theorem soundEnqueue (caller : Nat) (sound : Sound config s) : Sound config (s.enqueue config caller) := by
  unfold ControlClient.enqueue
  cases found : s.sending.find? (·.reply.caller = caller) with
  | none => exact sound
  | some request =>
    have named : request.reply.caller = caller := by simpa using List.find?_some found
    have waiting : ∀ r ∈ s.sending.filter (·.reply.caller ≠ caller), r ∈ s.sending :=
      fun r mem => (List.mem_filter.mp mem).1
    have removed : ∀ other, (s.sending.filter (·.reply.caller ≠ caller)).countP (·.reply.caller = other) +
        (if caller = other then 1 else 0) ≤ s.sending.countP (·.reply.caller = other) := by
      intro other
      have removed := @countRemoved _ (fun r : OutboundRequest => decide (r.reply.caller = other)) _ _ _ found
      simpa only [← decide_not,named,decide_eq_true_eq] using removed
    have refused : Sound config { s with
        sending := s.sending.filter (·.reply.caller ≠ caller)
        log := s.log ++ [.answered caller (.error .notConnected)] } := by
      refine ⟨fun other => ?_,fun r mem => sound.sending r (waiting r mem),fun c mem => ?_,?_⟩
      · have fewer := removed other
        obtain ⟨once,writtenOnce⟩ := sound.custody other
        constructor
        · simp only [List.countP_append,List.countP_singleton,answeredAnswers,decide_eq_true_eq]
          omega
        · simp only [List.countP_append,List.countP_singleton,answeredWrites]
          simp only [Bool.false_eq_true,if_false]
          omega
      · simpa using connectionGrow [] [.answered caller (.error .notConnected)] (sound.connection c mem)
      · simpa using logGrow [] (by simp [Refusals]) sound.log
    simp only
    cases connected : s.connection with
    | none => simpa only [connected] using refused
    | some c =>
      simp only
      split
      · simpa only [connected] using refused
      rename_i same
      split
      · have present := sound.connection c connected
        refine ⟨fun other => ?_,fun r mem => sound.sending r (waiting r mem),?_,sound.log⟩
        · have fewer := removed other
          obtain ⟨once,writtenOnce⟩ := sound.custody other
          simp only [connected,Option.elim] at once writtenOnce
          constructor
          · simp only [Option.elim,List.countP_append,List.countP_singleton,named,decide_eq_true_eq]
            omega
          · simp only [Option.elim,List.countP_append,List.countP_singleton,named,decide_eq_true_eq]
            omega
        · intro c' now
          cases now
          refine ⟨?_,present.pending,present.bounded,present.inbound⟩
          intro r mem
          rcases List.mem_append.mp mem with old | new
          · exact present.requests r old
          · cases List.mem_singleton.mp new
            exact ⟨sound.sending request (List.mem_of_find?_eq_some found),(not_not.mp same).symm⟩
      · exact sound

theorem soundAbandon (caller : Nat) (sound : Sound config s) :
    Sound config { s with sending := s.sending.filter (·.reply.caller ≠ caller) } := by
  refine ⟨fun other => ?_,fun r mem => sound.sending r (List.mem_filter.mp mem).1,sound.connection,sound.log⟩
  have fewer : (s.sending.filter (·.reply.caller ≠ caller)).countP (·.reply.caller = other) ≤
      s.sending.countP (·.reply.caller = other) := List.filter_sublist.countP_le
  obtain ⟨once,writtenOnce⟩ := sound.custody other
  constructor
  · simp only
    omega
  · simp only
    omega

theorem soundDisconnect (sound : Sound config s) : Sound config s.disconnect := by
  unfold ControlClient.disconnect
  cases connected : s.connection with
  | none => exact sound
  | some c =>
    have refusals : Refusals c.dropped := by
      intro e mem
      obtain ⟨reply,_,rfl⟩ := List.mem_map.mp mem
      exact ⟨reply.caller,.connectionLost,rfl⟩
    refine ⟨fun caller => ?_,sound.sending,by simp,by simpa using logGrow [] refusals sound.log⟩
    obtain ⟨once,writtenOnce⟩ := sound.custody caller
    have answers := @answersSends _ caller id (.error .connectionLost)
      (c.requests.map OutboundRequest.reply ++ c.pending.map PendingEntry.reply)
    have writes := @writesSends _ caller id (.error .connectionLost)
      (c.requests.map OutboundRequest.reply ++ c.pending.map PendingEntry.reply)
    simp only [connected,Option.elim,id,List.countP_append,List.countP_map,Function.comp_def] at *
    constructor
    · simp only [Option.elim,List.countP_append,Connection.dropped,List.countP_map,Function.comp_def]
      omega
    · simp only [Option.elim,List.countP_append,Connection.dropped,List.countP_map,Function.comp_def]
      omega

theorem soundAfter (config : ControlConfig) (s : ControlClient) (op : ControlOp) (sound : Sound config s) :
    Sound config (s.after config op) := by
  have dispatch : ∀ {step : Connection → Connection × List ControlEvent},
      (∀ c, Moves config c (step c).1 (step c).2) → Sound config (s.onDispatch step) := by
    intro step moves
    refine soundConnection (fun c => ?_) sound
    split
    · exact moves c
    · exact movesStill c
  cases op with
  | call request messageId => exact soundSend (request.call messageId) sound
  | enqueue caller => exact soundEnqueue caller sound
  | abandon caller => exact soundAbandon caller sound
  | connect =>
    simp only [ControlClient.after]
    split
    · exact sound
    · rename_i idle
      have none : s.connection = none := (by simpa using idle : s.stopped = false ∧ s.connection = none).2
      refine ⟨fun caller => ?_,sound.sending,?_,sound.log⟩
      · obtain ⟨once,writtenOnce⟩ := sound.custody caller
        simp only [none,Option.elim] at once writtenOnce
        constructor
        · simpa [Connection.new] using once
        · simpa [Connection.new] using writtenOnce
      · intro c same
        cases same
        constructor <;> simp [Connection.new]
  | arrive message => exact soundConnection (arriveMoves message) sound
  | hangUp => exact soundConnection hangUpMoves sound
  | recvRequest now written => exact dispatch (recvRequestMoves now written)
  | recvInbound => exact dispatch recvInboundMoves
  | expire now => exact dispatch (expireMoves now)
  | close =>
    simp only [ControlClient.after]
    split
    · exact soundDisconnect sound
    · exact sound
  | shutdown =>
    have ended := soundDisconnect sound
    refine ⟨fun caller => ?_,ended.sending,ended.connection,ended.log⟩
    exact ⟨(ended.custody caller).once,(ended.custody caller).writtenOnce⟩

theorem afterLog (config : ControlConfig) (s : ControlClient) (op : ControlOp) :
    ∃ events, (s.after config op).log = s.log ++ events := by
  have on : ∀ step, ∃ events, (s.onConnection step).log = s.log ++ events := by
    intro step
    unfold ControlClient.onConnection
    split
    · exact ⟨[],by simp⟩
    · exact ⟨_,rfl⟩
  have ended : ∃ events, s.disconnect.log = s.log ++ events := by
    unfold ControlClient.disconnect
    split
    · exact ⟨[],by simp⟩
    · exact ⟨_,rfl⟩
  cases op with
  | call request messageId =>
    simp only [ControlClient.after,ControlClient.send]
    split
    · exact ⟨_,rfl⟩
    · split
      · exact ⟨_,rfl⟩
      · exact ⟨[],by simp⟩
  | enqueue caller =>
    simp only [ControlClient.after,ControlClient.enqueue]
    split
    · exact ⟨[],by simp⟩
    · split
      · exact ⟨_,rfl⟩
      · split
        · exact ⟨_,rfl⟩
        · split <;> exact ⟨[],by simp⟩
  | abandon caller => exact ⟨[],by simp [ControlClient.after]⟩
  | connect =>
    simp only [ControlClient.after]
    split <;> exact ⟨[],by simp⟩
  | arrive message => exact on _
  | hangUp => exact on _
  | recvRequest now written => exact on _
  | recvInbound => exact on _
  | expire now => exact on _
  | close =>
    simp only [ControlClient.after]
    split
    · exact ended
    · exact ⟨[],by simp⟩
  | shutdown => exact ended

theorem runLog (config : ControlConfig) (s : ControlClient) (ops : List ControlOp) :
    ∃ later, (run (ControlClient.after config) s ops).log = s.log ++ later := by
  induction ops generalizing s with
  | nil => exact ⟨[],by simp⟩
  | cons op rest ih =>
    obtain ⟨events,step⟩ := afterLog config s op
    obtain ⟨later,grown⟩ := ih (s.after config op)
    exact ⟨events ++ later,by rw [runCons,grown,step,List.append_assoc]⟩

theorem Custody.answeredOnce {caller} (custody : Custody s caller) : s.log.countP (·.answers caller) ≤ 1 := by
  have held := custody.once
  split at held <;> omega

theorem Custody.wroteOnce {caller} (custody : Custody s caller) : s.log.countP (·.writes caller) ≤ 1 := by
  have held := custody.writtenOnce
  split at held <;> omega

theorem endedDropped {c op} (connected : s.connection = some c)
    (ended : (s.after config op).connection = none) : (s.after config op).log = s.log ++ c.dropped := by
  have on : ∀ step, (s.onConnection step).connection ≠ none := by simp [ControlClient.onConnection,connected]
  have dropped : s.disconnect.log = s.log ++ c.dropped := by simp [ControlClient.disconnect,connected]
  cases op with
  | call request messageId =>
    simp only [ControlClient.after,ControlClient.send] at ended
    split at ended
    · simp [connected] at ended
    · split at ended <;> simp [connected] at ended
  | enqueue caller =>
    simp only [ControlClient.after,ControlClient.enqueue,connected] at ended
    split at ended
    · simp [connected] at ended
    · split at ended
      · simp at ended
      · split at ended <;> simp [connected] at ended
  | abandon caller => simp [ControlClient.after,connected] at ended
  | connect => simp [ControlClient.after,connected] at ended
  | arrive message => exact absurd ended (on _)
  | hangUp => exact absurd ended (on _)
  | recvRequest now written => exact absurd ended (on _)
  | recvInbound => exact absurd ended (on _)
  | expire now => exact absurd ended (on _)
  | close =>
    simp only [ControlClient.after] at ended ⊢
    split at ended
    · rename_i left
      rw [if_pos left]
      exact dropped
    · simp [connected] at ended
  | shutdown => exact dropped

end Client

theorem countOnce {α : Type} {p} {first later : List α} (once : (first ++ later).countP p ≤ 1)
    (there : ∃ e ∈ first, p e = true) : ∀ e ∈ later, p e = false := by
  have one := List.countP_pos_iff.mpr there
  rw [List.countP_append] at once
  have zero : later.countP p = 0 := by omega
  simpa using List.countP_eq_zero.mp zero

theorem controlClientSafe (config : ControlConfig) (ops : List ControlOp) :
    let s := run (ControlClient.after config) .start ops
    (∀ caller, s.log.countP (·.answers caller) ≤ 1) ∧
    (∀ caller g p, .answered caller (.ok (g,p)) ∈ s.log → ∃ call channel m, s.calls[caller]? = some call ∧
      channel.generation = g ∧ .wrote channel caller ∈ s.log ∧ .received channel m ∈ s.log ∧
        classifyInbound m = .response call.messageId p ∧ p.matchesExpected call.expected = true) ∧
    (∀ caller, s.log.countP (·.writes caller) ≤ 1) ∧
    (∀ channel caller, .wrote channel caller ∈ s.log → ∃ call, s.calls[caller]? = some call ∧
      ∀ ticket ∈ call.scope, ticket = channel.generation) ∧
    (∀ c ∈ s.connection, c.pending.length ≤ config.pendingCapacity) ∧
    ∀ first op rest, ops = first ++ op :: rest →
      let x := run (ControlClient.after config) .start first
      ∀ c, x.connection = some c → (x.after config op).connection = none →
        ∀ entry ∈ c.pending, .answered entry.reply.caller (.error .connectionLost) ∈ (x.after config op).log ∧
          ∃ later, s.log = (x.after config op).log ++ later ∧
            ∀ e ∈ later, e.answers entry.reply.caller = false ∧ e.writes entry.reply.caller = false := by
  intro s
  have sound : ∀ ops, Sound config (run (ControlClient.after config) .start ops) :=
    fun ops => runAlways (soundAfter config) soundStart ops
  have once : ∀ caller, s.log.countP (·.answers caller) ≤ 1 := fun caller => ((sound ops).custody caller).answeredOnce
  have writtenOnce : ∀ caller, s.log.countP (·.writes caller) ≤ 1 := fun caller => ((sound ops).custody caller).wroteOnce
  refine ⟨once,(sound ops).log.ok,writtenOnce,(sound ops).log.wrote,
    fun c mem => ((sound ops).connection c mem).bounded,?_⟩
  intro first op rest same x c connected ended entry mem
  have dropped := endedDropped connected ended
  have answered : .answered entry.reply.caller (.error .connectionLost) ∈ (x.after config op).log := by
    rw [dropped,Connection.dropped]
    refine List.mem_append_right _ (List.mem_map.mpr ⟨entry.reply,?_,rfl⟩)
    exact List.mem_append_right _ (List.mem_map_of_mem mem)
  have wrote : .wrote c.channel entry.reply.caller ∈ (x.after config op).log := by
    rw [dropped]
    exact List.mem_append_left _ (((sound first).connection c connected).pending entry mem).2.2
  have continued : s = run (ControlClient.after config) (x.after config op) rest := by
    simp only [s,x,same,runAppend,runCons]
  obtain ⟨later,grown⟩ := runLog config (x.after config op) rest
  rw [← continued] at grown
  refine ⟨answered,later,grown,fun e after => ⟨?_,?_⟩⟩
  · exact countOnce (grown ▸ once entry.reply.caller) ⟨_,answered,by simp⟩ e after
  · exact countOnce (grown ▸ writtenOnce entry.reply.caller) ⟨_,wrote,by simp⟩ e after

end Bamep.WorkerControl
