import Bamep.Simulator.ActionAgent
import Bamep.Store.Evolution

/-! The Server's Attempt decisions and one Simulated Agent with the messages between them. A channel keeps
every message ever sent and delivers any of them at any time, which is loss, duplication and reordering.
The log of the Agent holds its executions and messages, the last one first. -/
namespace Bamep.Simulator
open Relational Transition

inductive ServerMessage where
  | actionDispatch (actionId : ActionId)
  | cancelAction (actionId : ActionId)
  | statusQuery (actionId : ActionId)
  deriving DecidableEq, Repr

def ServerMessage.actionId : ServerMessage → ActionId
  | .actionDispatch id | .cancelAction id | .statusQuery id => id

inductive AgentEvent where
  | executed (actionId : ActionId)
  | emitted (message : AgentMessage)
  deriving DecidableEq, Repr

structure Exchange where
  store : Store
  agent : SimulatedActionAgent
  toAgent : List ServerMessage
  log : List AgentEvent

/- The decision the Server takes on a message of the session of `endpoint`. -/
def AgentMessage.decision (endpoint : EndpointId) (stamp : Stamp) : AgentMessage → Option JobOp
  | .actionAck id .accepted => some (.applyActionEvidence id endpoint .ackAccepted stamp)
  | .actionAck id (.rejected _) => some (.applyActionEvidence id endpoint .ackRejected stamp)
  | .actionResult id .succeeded _ => some (.applyActionEvidence id endpoint .resultSucceeded stamp)
  | .actionResult id .failed _ => some (.applyActionEvidence id endpoint .resultFailed stamp)
  | .actionResult _ .cancelled _ | .actionProgress _ _ => none
  | .cancelAck id outcome => some (.applyCancelAck id endpoint outcome stamp)
  | .statusReport id knownState => some (.applyStatusReport id endpoint knownState stamp)

def JobOp.appliesEvidence : JobOp → Bool
  | .applyActionEvidence .. | .applyCancelAck .. | .applyStatusReport .. => true
  | _ => false

inductive ExchangeOp where
  | decide (op : JobOp)
  | send (message : ServerMessage)
  | deliverToAgent (message : ServerMessage)
  | runConfiguredScenario (actionId : ActionId)
  | deliverToServer (message : AgentMessage) (stamp : Stamp)
  | configure (actionId : ActionId) (scenario : ScenarioOutcome)
  | configureCancelBehavior (actionId : ActionId) (behavior : CancelBehavior)

namespace Exchange

def start (defaultScenario : Option ScenarioOutcome) (defaultCancelBehavior : CancelBehavior) : Exchange :=
  ⟨.empty,.new defaultScenario defaultCancelBehavior,[],[]⟩

def answer (s : Exchange) (answered : SimulatedActionAgent × List AgentMessage) : Exchange :=
  { s with agent := answered.1, log := (answered.2.map .emitted).reverse ++ s.log }

/- Evidence reaches the Server only as a message of the Agent; the Server sends for Attempts it has committed,
and every dispatch of an action carries `content` of its id. -/
def after (content : ActionId → DispatchContent) (endpoint : EndpointId) (s : Exchange) : ExchangeOp → Exchange
  | .decide op => if JobOp.appliesEvidence op then s else { s with store := s.store.after op }
  | .send message =>
    if s.store.workflow.attempts.rows.any fun attempt => attempt.actionId = message.actionId then
      { s with toAgent := message :: s.toAgent }
    else s
  | .deliverToAgent message =>
    if message ∉ s.toAgent then s
    else match message with
      | .actionDispatch id => s.answer (s.agent.handleDispatch id (content id))
      | .cancelAction id => s.answer (s.agent.handleCancel id)
      | .statusQuery id => s.answer (s.agent.handleStatusQuery id)
  | .runConfiguredScenario id =>
    match s.agent.runConfiguredScenario id with
    | none => s
    | some ran => { s with log := .executed id :: s.log }.answer ran
  | .deliverToServer message stamp =>
    if .emitted message ∉ s.log then s
    else match message.decision endpoint stamp with
      | none => s
      | some op => { s with store := s.store.after op }
  | .configure id scenario => { s with agent := s.agent.configure id scenario }
  | .configureCancelBehavior id behavior => { s with agent := s.agent.configureCancelBehavior id behavior }

end Exchange

/- The Attempt state a decision can lead to, by the evidence alone. -/
def JobOp.reaches : JobOp → Option AttemptState
  | .applyActionEvidence _ _ .ackAccepted _ => some .inProgress
  | .applyActionEvidence _ _ .ackRejected _ => some .rejected
  | .applyActionEvidence _ _ .resultSucceeded _ | .applyStatusReport _ _ .succeeded _ => some .succeeded
  | .applyActionEvidence _ _ .resultFailed _ | .applyStatusReport _ _ .failed _ => some .failed
  | .applyCancelAck _ _ .cancelled _ | .applyStatusReport _ _ .cancelled _ => some .cancelled
  | .applyCancelAck _ _ .alreadyCompleted _ | .applyCancelAck _ _ .unknown _ => some .awaitingReconciliation
  | .applyStatusReport _ _ .accepted _ | .applyStatusReport _ _ .running _ => some .inProgress
  | .closeIndeterminate _ _ => some .indeterminate
  | _ => none

section Decisions
variable {op : JobOp} {facts : EvidenceFacts} {applied : Applied}

theorem decidesReaches (decides : op.Decides facts applied) :
    applied.attempt.state = facts.attempt.state ∨ JobOp.reaches op = some applied.attempt.state := by
  cases op <;> try exact decides.elim
  case applyActionEvidence actionId endpoint evidence stamp =>
    obtain ⟨_,_,ok⟩ := decides
    unfold applyActionEvidence at ok
    split at ok <;> split at ok <;> try contradiction
    all_goals
      cases ok
      exact .inr rfl
  case applyCancelAck actionId endpoint evidence stamp =>
    obtain ⟨_,_,ok⟩ := decides
    unfold applyCancelAck at ok
    split at ok
    · contradiction
    split at ok
    · split at ok <;> cases ok <;> exact .inr rfl
    · split at ok <;> cases ok
      · exact .inr rfl
      · exact .inr rfl
      · exact .inl rfl
    · contradiction
    · split at ok <;> cases ok <;> exact .inr rfl
  case applyStatusReport actionId endpoint evidence stamp =>
    obtain ⟨_,_,ok⟩ := decides
    unfold applyStatusReport at ok
    split at ok
    · contradiction
    split at ok
    · cases ok; exact .inr rfl
    · cases ok; exact .inr rfl
    · cases ok; exact .inr rfl
    · cases ok; exact .inr rfl
    · split at ok <;> cases ok
      exact .inr rfl
    · contradiction
  case closeIndeterminate jobId stamp =>
    obtain ⟨_,ok⟩ := decides
    unfold closeIndeterminate at ok
    split at ok <;> cases ok
    exact .inr rfl

theorem decidesAction (decides : op.Decides facts applied) {message : AgentMessage} {endpoint stamp}
    (decision : message.decision endpoint stamp = some op) :
    facts.attempt.actionId = message.actionId := by
  unfold AgentMessage.decision at decision
  split at decision <;> cases decision <;> exact decides.1

/- An Attempt that is confirmed where it was is confirmed where the decision has led it. -/
theorem decisionConfirmed {message : AgentMessage} {endpoint stamp}
    (decision : message.decision endpoint stamp = some op) {state}
    (sound : message.Sound state) {reached} (reaches : JobOp.reaches op = some reached) :
    Confirms message.actionId (state message.actionId) reached := by
  unfold AgentMessage.decision at decision
  split at decision <;> cases decision
  · cases reaches; trivial
  · cases reaches; exact sound.1 _ rfl
  · cases reaches; exact sound.1 _ rfl
  · cases reaches; exact sound.1 _ rfl
  · rename_i id outcome
    cases outcome <;> cases reaches
    · exact sound.1 _ rfl
    · trivial
    · trivial
  · rename_i id known
    cases known <;> cases reaches
    · trivial
    · trivial
    · exact sound.1 _ rfl
    · exact sound.1 _ rfl
    · exact sound.1 _ rfl

end Decisions

/- What may stand before an execution in the log of the Agent. -/
def Follows : AgentEvent → AgentEvent → Prop
  | .executed id,.executed earlier => earlier ≠ id
  | .executed id,.emitted message => message.actionId = id → message.reports = none
  | .emitted _,_ => True

structure Agreed (content : ActionId → DispatchContent) (s : Exchange) : Prop where
  retains : ∀ id entry, s.agent.state id = some entry → Retains content id entry
  sound : ∀ m, .emitted m ∈ s.log → m.Sound s.agent.state
  executed : ∀ id, .executed id ∈ s.log → ∃ bound result, s.agent.state id = some (.completed bound result)
  once : s.log.Pairwise Follows
  attempts : ∀ a ∈ s.store.workflow.attempts, Confirms a.actionId (s.agent.state a.actionId) a.state

section Steps
variable {content : ActionId → DispatchContent} {s : Exchange} {agent' : SimulatedActionAgent}
  {messages : List AgentMessage}

theorem completedMoves {before after} (moves : RecordMove before after)
    (completed : ∃ bound result, before = some (.completed bound result)) :
    ∃ bound result, after = some (.completed bound result) := by
  obtain ⟨bound,result,rfl⟩ := completed
  cases moves
  exact ⟨bound,result,rfl⟩

theorem emittedAnswer {event log} :
    event ∈ (messages.map AgentEvent.emitted).reverse ++ log ↔ (∃ m ∈ messages, event = .emitted m) ∨ event ∈ log := by
  simp [eq_comm]

theorem pairwiseAnswer {log} (once : log.Pairwise Follows) :
    ((messages.map AgentEvent.emitted).reverse ++ log).Pairwise Follows := by
  have silent : ∀ e ∈ (messages.map AgentEvent.emitted).reverse, ∀ other, Follows e other := by
    intro e mem other
    obtain ⟨m,_,rfl⟩ := List.mem_map.mp (List.mem_reverse.mp mem)
    trivial
  refine List.pairwise_append.mpr ⟨?_,once,fun e mem other _ => silent e mem other⟩
  exact List.pairwise_of_forall_mem_list fun e mem other _ => silent e mem other

theorem agreedAnswer (agreed : Agreed content s) (step : AgentStep content s.agent agent' messages) :
    Agreed content (s.answer (agent',messages)) := by
  refine ⟨step.retains,fun m mem => ?_,fun id mem => ?_,pairwiseAnswer agreed.once,fun a mem =>
    confirmsMoves (step.moves _) (agreed.attempts a mem)⟩
  · rcases emittedAnswer.mp mem with ⟨sent,new,same⟩ | old
    · cases same
      exact step.sound m new
    · exact soundMoves step.moves (agreed.sound m old)
  · rcases emittedAnswer.mp mem with ⟨_,_,same⟩ | old
    · cases same
    · exact completedMoves (step.moves id) (agreed.executed id old)

theorem agreedRun (agreed : Agreed content s) {id}
    (ran : s.agent.runConfiguredScenario id = some (agent',messages)) :
    Agreed content ({ s with log := .executed id :: s.log }.answer (agent',messages)) := by
  obtain ⟨step,⟨bound,ack,active⟩,completed⟩ := runStep agreed.retains ran
  refine ⟨step.retains,fun m mem => ?_,fun other mem => ?_,pairwiseAnswer (List.pairwise_cons.mpr ⟨?_,agreed.once⟩),
    fun a mem => confirmsMoves (step.moves _) (agreed.attempts a mem)⟩
  · rcases emittedAnswer.mp mem with ⟨sent,new,same⟩ | old
    · cases same
      exact step.sound m new
    · rcases List.mem_cons.mp old with same | old
      · cases same
      · exact soundMoves step.moves (agreed.sound m old)
  · rcases emittedAnswer.mp mem with ⟨_,_,same⟩ | old
    · cases same
    · rcases List.mem_cons.mp old with same | old
      · cases same
        exact completed
      · exact completedMoves (step.moves other) (agreed.executed other old)
  · -- The record was active, so nothing in the log has executed or reported it.
    intro event mem
    cases event with
    | executed other =>
      intro same
      obtain ⟨_,_,ended⟩ := agreed.executed other mem
      rw [same,active] at ended
      cases ended
    | emitted m =>
      intro same
      cases reported : m.reports with
      | none => rfl
      | some final =>
        have ended := confirmsFinal reported ((agreed.sound m mem).1 final reported)
        rw [same,active] at ended
        cases ended

theorem agreedStore (agreed : Agreed content s) (op : JobOp)
    (confirmed : ∀ facts applied, op.Decides facts applied → ∀ reached, JobOp.reaches op = some reached →
      Confirms facts.attempt.actionId (s.agent.state facts.attempt.actionId) reached) :
    Agreed content { s with store := s.store.after op } := by
  refine ⟨agreed.retains,agreed.sound,agreed.executed,agreed.once,fun b mem => ?_⟩
  have effect := afterEffect s.store op
  rcases (attemptsEvolve effect).back mem with ⟨a,old,same,move⟩ | new
  · have actionId : b.actionId = a.actionId := by rw [move.kept]
    have before := agreed.attempts a old
    rcases attemptCause effect old mem same with rfl | awaiting | ⟨facts,applied,_,decides,rfl,rfl⟩
    · exact before
    · rw [awaiting]
      trivial
    · rw [actionId]
      rcases decidesReaches decides with kept | reaches
      · rw [kept]
        exact before
      · exact confirmed facts applied decides _ reaches
  · rw [new.1]
    trivial

theorem agreedAfter (endpoint : EndpointId) (s : Exchange) (op : ExchangeOp) (agreed : Agreed content s) :
    Agreed content (s.after content endpoint op) := by
  cases op with
  | decide op =>
    simp only [Exchange.after]
    split
    · exact agreed
    rename_i silent
    refine agreedStore agreed op fun facts applied decides reached reaches => ?_
    cases op <;> simp_all [JobOp.appliesEvidence,JobOp.reaches]
    rw [← reaches]
    trivial
  | send message =>
    simp only [Exchange.after]
    split
    · exact ⟨agreed.retains,agreed.sound,agreed.executed,agreed.once,agreed.attempts⟩
    · exact agreed
  | deliverToAgent message =>
    simp only [Exchange.after]
    split
    · exact agreed
    cases message with
    | actionDispatch id => exact agreedAnswer agreed (dispatchStep agreed.retains)
    | cancelAction id => exact agreedAnswer agreed (cancelStep agreed.retains)
    | statusQuery id => exact agreedAnswer agreed (statusStep agreed.retains)
  | runConfiguredScenario id =>
    simp only [Exchange.after]
    split
    · exact agreed
    · rename_i ran; exact agreedRun agreed ran
  | deliverToServer message stamp =>
    simp only [Exchange.after]
    split
    · exact agreed
    rename_i sent
    split
    · exact agreed
    · rename_i op decision
      refine agreedStore agreed op fun facts applied decides reached reaches => ?_
      rw [decidesAction decides decision]
      exact decisionConfirmed decision (agreed.sound message (not_not.mp sent)) reaches
  | configure id scenario =>
    have same : (s.agent.configure id scenario).state = s.agent.state := by
      unfold SimulatedActionAgent.configure
      split <;> rfl
    refine ⟨?_,?_,?_,agreed.once,?_⟩ <;> simp only [Exchange.after,same]
    · exact agreed.retains
    · exact agreed.sound
    · exact agreed.executed
    · exact agreed.attempts
  | configureCancelBehavior id behavior =>
    exact ⟨agreed.retains,agreed.sound,agreed.executed,agreed.once,agreed.attempts⟩

end Steps

theorem agentExchangeAgrees (content : ActionId → DispatchContent) (endpoint : EndpointId)
    (defaultScenario : Option ScenarioOutcome) (defaultCancelBehavior : CancelBehavior) (ops : List ExchangeOp) :
    let s := run (Exchange.after content endpoint) (.start defaultScenario defaultCancelBehavior) ops
    (∀ a ∈ s.store.workflow.attempts, Confirms a.actionId (s.agent.state a.actionId) a.state) ∧
      s.log.Pairwise Follows ∧
      (∀ m m', .emitted m ∈ s.log → .emitted m' ∈ s.log → m'.actionId = m.actionId →
        ∀ final final', m.reports = some final → m'.reports = some final' → final' = final) ∧
      ∀ id, .emitted (.cancelAck id .alreadyCompleted) ∈ s.log →
        ∀ m, .emitted m ∈ s.log → m.actionId = id → m.reports ≠ some .cancelled := by
  intro s
  have agreed : Agreed content s := runAlways (agreedAfter endpoint)
    ⟨by simp [Exchange.start,SimulatedActionAgent.new],by simp [Exchange.start],by simp [Exchange.start],.nil,
      fun _ mem => absurd mem List.not_mem_nil⟩ ops
  refine ⟨agreed.attempts,agreed.once,?_,?_⟩
  · intro m m' mem mem' same final final' reported reported'
    have first := confirmsFinal reported ((agreed.sound m mem).1 final reported)
    have second := confirmsFinal reported' ((agreed.sound m' mem').1 final' reported')
    rw [same,first] at second
    exact (Option.some.inj second).symm
  · intro id finished m mem same reported
    obtain ⟨entry,known,ended⟩ := (agreed.sound _ finished).2 id rfl
    obtain ⟨_,_,_,cancelled⟩ := (agreed.sound m mem).1 _ reported
    rw [same,known] at cancelled
    cases cancelled
    simp at ended

end Bamep.Simulator
