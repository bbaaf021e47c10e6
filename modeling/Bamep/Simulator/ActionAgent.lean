import Bamep.Domain.Evidence
import Mathlib.Logic.Function.Basic

/-! `SimulatedActionAgent`: the Agent's own record of every action id, from which each duplicate is answered.
A message is its body; every copy the source sends has a fresh message id. -/
namespace Bamep.Simulator

inductive ScenarioOutcome where
  | acceptThenSucceed | acceptThenFail | reject
  deriving DecidableEq, Repr

inductive CancelBehavior where
  | cancellable | cannotCancel
  deriving DecidableEq, Repr

structure DispatchContent where
  actionType : String
  actionVersion : String
  parameters : List (String × String)
  deriving DecidableEq, Repr

structure ActionAckError where
  code : String
  message : Option String
  deriving DecidableEq, Repr

inductive ActionAckOutcome where
  | accepted
  | rejected (error : ActionAckError)
  deriving DecidableEq, Repr

inductive ActionResultOutcome where
  | succeeded | failed | cancelled
  deriving DecidableEq, Repr

inductive AgentMessage where
  | actionAck (actionId : ActionId) (outcome : ActionAckOutcome)
  | actionProgress (actionId : ActionId) (percent : Nat)
  | actionResult (actionId : ActionId) (outcome : ActionResultOutcome) (code : String)
  | cancelAck (actionId : ActionId) (outcome : CancelAckEvidence)
  | statusReport (actionId : ActionId) (knownState : StatusReportEvidence)
  deriving DecidableEq, Repr

inductive LocalActionState where
  | active (content : DispatchContent) (ack : AgentMessage)
  | completed (content : DispatchContent) (result : AgentMessage)
  | rejected (content : DispatchContent) (ack : AgentMessage)
  | cancelled (content : DispatchContent) (ack cancelAck : AgentMessage)
  deriving DecidableEq, Repr

def LocalActionState.content : LocalActionState → DispatchContent
  | .active content _ | .completed content _ | .rejected content _ | .cancelled content _ _ => content

def m1ActionType : String := "bamep.m1.simulated-execution"

def m1ActionVersion : String := "1"

/- `poisoned`: a dispatch without a scenario has panicked with the locks held. -/
structure SimulatedActionAgent where
  scenarios : ActionId → Option ScenarioOutcome
  defaultScenario : Option ScenarioOutcome
  cancelBehaviors : ActionId → Option CancelBehavior
  defaultCancelBehavior : CancelBehavior
  state : ActionId → Option LocalActionState
  poisoned : Bool

namespace SimulatedActionAgent
variable (agent : SimulatedActionAgent) (actionId : ActionId)

def new (defaultScenario : Option ScenarioOutcome) (defaultCancelBehavior : CancelBehavior) :
    SimulatedActionAgent :=
  ⟨fun _ => none,defaultScenario,fun _ => none,defaultCancelBehavior,fun _ => none,false⟩

def configure (scenario : ScenarioOutcome) : SimulatedActionAgent :=
  if agent.poisoned then agent
  else { agent with scenarios := Function.update agent.scenarios actionId (some scenario) }

def configureCancelBehavior (behavior : CancelBehavior) : SimulatedActionAgent :=
  { agent with cancelBehaviors := Function.update agent.cancelBehaviors actionId (some behavior) }

def record (entry : LocalActionState) : SimulatedActionAgent :=
  { agent with state := Function.update agent.state actionId (some entry) }

def scenario : Option ScenarioOutcome := (agent.scenarios actionId).or agent.defaultScenario

def rejectAndRecord (content : DispatchContent) (code : String) : SimulatedActionAgent × List AgentMessage :=
  let ack := AgentMessage.actionAck actionId (.rejected ⟨code,none⟩)
  (agent.record actionId (.rejected content ack),[ack])

-- A panicking call sends nothing, as does one that returns nothing.
def handleDispatch (content : DispatchContent) : SimulatedActionAgent × List AgentMessage :=
  if agent.poisoned then (agent,[])
  else match agent.state actionId with
    | some existing =>
      if existing.content ≠ content then
        (agent,[.actionAck actionId (.rejected ⟨"INVALID_PARAMETERS",
          some "action_id already bound to different dispatch content"⟩)])
      else match existing with
        | .active _ ack | .rejected _ ack | .cancelled _ ack _ => (agent,[ack])
        | .completed _ result => (agent,[result])
    | none =>
      if content.actionType ≠ m1ActionType then agent.rejectAndRecord actionId content "UNSUPPORTED_ACTION"
      else if content.actionVersion ≠ m1ActionVersion then
        agent.rejectAndRecord actionId content "UNSUPPORTED_ACTION_VERSION"
      else if content.parameters ≠ [] then agent.rejectAndRecord actionId content "INVALID_PARAMETERS"
      else match agent.scenario actionId with
        | none => ({ agent with poisoned := true },[])
        | some .reject => agent.rejectAndRecord actionId content "ACTION_NOT_AVAILABLE"
        | some _ =>
          let ack := AgentMessage.actionAck actionId .accepted
          (agent.record actionId (.active content ack),[ack])

def complete (content : DispatchContent) (percents : List Nat) (outcome : ActionResultOutcome) (code : String) :
    SimulatedActionAgent × List AgentMessage :=
  let result := AgentMessage.actionResult actionId outcome code
  (agent.record actionId (.completed content result),percents.map (.actionProgress actionId) ++ [result])

-- `none` executes nothing: the action is not active, or the call has panicked.
def runConfiguredScenario : Option (SimulatedActionAgent × List AgentMessage) :=
  if agent.poisoned then none
  else match agent.state actionId with
    | some (.active content _) =>
      match agent.scenario actionId with
      | some .acceptThenSucceed =>
        some (agent.complete actionId content [0,50,100] .succeeded "SIMULATED_COMPLETION")
      | some .acceptThenFail => some (agent.complete actionId content [0,50] .failed "SIMULATED_FAILURE")
      | some .reject | none => none
    | _ => none

def handleCancel : SimulatedActionAgent × List AgentMessage :=
  if agent.poisoned then (agent,[])
  else match agent.state actionId with
    | none => (agent,[.cancelAck actionId .unknown])
    | some (.completed _ _) | some (.rejected _ _) => (agent,[.cancelAck actionId .alreadyCompleted])
    | some (.cancelled _ _ cancelAck) => (agent,[cancelAck])
    | some (.active content ack) =>
      match (agent.cancelBehaviors actionId).getD agent.defaultCancelBehavior with
      | .cannotCancel => (agent,[.cancelAck actionId .cannotCancel])
      | .cancellable =>
        let cancelAck := AgentMessage.cancelAck actionId .cancelled
        (agent.record actionId (.cancelled content ack cancelAck),[cancelAck])

def handleStatusQuery : SimulatedActionAgent × List AgentMessage :=
  if agent.poisoned then (agent,[])
  else
    let knownState : StatusReportEvidence := match agent.state actionId with
      | none | some (.rejected _ _) => .unknown
      | some (.active _ _) => .running
      | some (.completed _ (.actionResult _ .succeeded _)) => .succeeded
      | some (.completed _ (.actionResult _ .failed _)) => .failed
      | some (.completed _ _) | some (.cancelled _ _ _) => .cancelled
    (agent,[.statusReport actionId knownState])

end SimulatedActionAgent

namespace AgentMessage

def actionId : AgentMessage → ActionId
  | .actionAck id _ | .actionProgress id _ | .actionResult id _ _ | .cancelAck id _ | .statusReport id _ => id

/- The final state of the action that a message is evidence of. -/
def reports : AgentMessage → Option AttemptState
  | .actionAck _ (.rejected _) => some .rejected
  | .actionResult _ .succeeded _ | .statusReport _ .succeeded => some .succeeded
  | .actionResult _ .failed _ | .statusReport _ .failed => some .failed
  | .actionResult _ .cancelled _ | .cancelAck _ .cancelled | .statusReport _ .cancelled => some .cancelled
  | _ => none

end AgentMessage

/- The record that an Attempt in a final state has to have at the Agent. -/
def Confirms (actionId : ActionId) (known : Option LocalActionState) : AttemptState → Prop
  | .succeeded => ∃ content code, known = some (.completed content (.actionResult actionId .succeeded code))
  | .failed => ∃ content code, known = some (.completed content (.actionResult actionId .failed code))
  | .cancelled => ∃ content ack cancelAck, known = some (.cancelled content ack cancelAck)
  | .rejected => ∃ content ack, known = some (.rejected content ack)
  | .dispatched | .inProgress | .awaitingReconciliation | .indeterminate => True

def Retains (content : ActionId → DispatchContent) (id : ActionId) : LocalActionState → Prop
  | .active bound ack => bound = content id ∧ ack = .actionAck id .accepted
  | .completed bound result => bound = content id ∧
      ∃ outcome code, result = .actionResult id outcome code ∧ outcome ≠ .cancelled
  | .rejected bound ack => bound = content id ∧ ∃ error, ack = .actionAck id (.rejected error)
  | .cancelled bound ack cancelAck =>
      bound = content id ∧ ack = .actionAck id .accepted ∧ cancelAck = .cancelAck id .cancelled

def AgentMessage.Sound (state : ActionId → Option LocalActionState) (m : AgentMessage) : Prop :=
  (∀ final, m.reports = some final → Confirms m.actionId (state m.actionId) final) ∧
    ∀ id, m = .cancelAck id .alreadyCompleted → ∃ entry, state id = some entry ∧
      ((∃ content result, entry = .completed content result) ∨ ∃ content ack, entry = .rejected content ack)

/- A record is made once and settled at most once. -/
inductive RecordMove : Option LocalActionState → Option LocalActionState → Prop where
  | kept (known) : RecordMove known known
  | made (entry) : RecordMove none (some entry)
  | settled (content ack entry) : RecordMove (some (.active content ack)) (some entry)

theorem confirmsMoves {id before after} (moves : RecordMove before after)
    {final} (confirms : Confirms id before final) : Confirms id after final := by
  cases moves with
  | kept => exact confirms
  | made => cases final <;> simp_all [Confirms]
  | settled => cases final <;> simp_all [Confirms]

def LocalActionState.final : LocalActionState → Option AttemptState
  | .completed _ result => result.reports
  | .cancelled _ _ _ => some .cancelled
  | .rejected _ _ => some .rejected
  | .active _ _ => none

theorem confirmsFinal {id known} {m : AgentMessage} {final}
    (reported : m.reports = some final) (confirms : Confirms id known final) :
    known.bind LocalActionState.final = some final := by
  unfold AgentMessage.reports at reported
  split at reported <;> cases reported
  all_goals
    first
      | obtain ⟨_,_,rfl⟩ := confirms; rfl
      | obtain ⟨_,_,_,rfl⟩ := confirms; rfl

theorem soundMoves {before after}
    (moves : ∀ id, RecordMove (before id) (after id)) {m : AgentMessage} (sound : m.Sound before) :
    m.Sound after := by
  refine ⟨fun final reported => confirmsMoves (moves _) (sound.1 final reported),fun id same => ?_⟩
  obtain ⟨entry,known,ended⟩ := sound.2 id same
  have moved := moves id
  rw [known] at moved
  generalize after id = current at moved ⊢
  cases moved with
  | kept => exact ⟨entry,rfl,ended⟩
  | settled => simp_all

/- What one call does: records move, keep what their duplicates need, and confirm what is sent. -/
structure AgentStep (content : ActionId → DispatchContent) (before after : SimulatedActionAgent)
    (messages : List AgentMessage) : Prop where
  moves : ∀ id, RecordMove (before.state id) (after.state id)
  retains : ∀ id entry, after.state id = some entry → Retains content id entry
  sound : ∀ m ∈ messages, m.Sound after.state

section Calls
variable {content : ActionId → DispatchContent} {agent : SimulatedActionAgent} {id : ActionId}

theorem quietSound {state} {m : AgentMessage} (silent : m.reports = none)
    (open' : ∀ id, m ≠ .cancelAck id .alreadyCompleted) : m.Sound state :=
  ⟨fun final reported => (Option.some_ne_none final (reported.symm.trans silent)).elim,
    fun id same => absurd same (open' id)⟩

theorem reportSound {state} {m : AgentMessage} {final}
    (reported : m.reports = some final) (confirms : Confirms m.actionId (state m.actionId) final) :
    m.Sound state := by
  refine ⟨fun other same => ?_,fun id same => ?_⟩
  · rw [reported] at same
    cases same
    exact confirms
  · rw [same] at reported
    cases reported

theorem sameStep (kept : ∀ id entry, agent.state id = some entry → Retains content id entry)
    {messages} (sound : ∀ m ∈ messages, m.Sound agent.state) :
    AgentStep content agent agent messages :=
  ⟨fun id => .kept (agent.state id),kept,sound⟩

theorem recordStep (kept : ∀ id entry, agent.state id = some entry → Retains content id entry)
    {entry} (moves : RecordMove (agent.state id) (some entry))
    (retains : Retains content id entry) {messages}
    (sound : ∀ m ∈ messages, m.Sound (agent.record id entry).state) :
    AgentStep content agent (agent.record id entry) messages := by
  have here : (agent.record id entry).state id = some entry := Function.update_self id _ _
  have elsewhere : ∀ other, other ≠ id → (agent.record id entry).state other = agent.state other :=
    fun other different => Function.update_of_ne different _ _
  refine ⟨fun other => ?_,fun other found present => ?_,sound⟩
  · by_cases same : other = id
    · rw [same,here]
      exact moves
    · rw [elsewhere other same]
      exact .kept _
  · by_cases same : other = id
    · rw [same,here] at present
      cases present
      rw [same]
      exact retains
    · rw [elsewhere other same] at present
      exact kept other found present

theorem rejectStep (kept : ∀ id entry, agent.state id = some entry → Retains content id entry)
    (unknown : agent.state id = none) (code : String) :
    AgentStep content agent (agent.rejectAndRecord id (content id) code).1
      (agent.rejectAndRecord id (content id) code).2 := by
  have retains : Retains content id (.rejected (content id) (.actionAck id (.rejected ⟨code,none⟩))) :=
    ⟨rfl,_,rfl⟩
  refine recordStep kept (by rw [unknown]; exact .made _) retains fun m mem => ?_
  rw [List.mem_singleton.mp mem]
  exact reportSound rfl ⟨_,_,Function.update_self id _ _⟩

theorem retainedSound {entry : LocalActionState} (known : agent.state id = some entry)
    (retains : Retains content id entry) : ∀ m, (m ∈ match entry with
      | .active _ ack | .rejected _ ack => [ack]
      | .cancelled _ ack cancelAck => [ack,cancelAck]
      | .completed _ result => [result]) → m.Sound agent.state := by
  intro m mem
  cases entry with
  | active bound ack =>
    obtain ⟨_,rfl⟩ := retains
    rw [List.mem_singleton.mp mem]
    exact quietSound rfl nofun
  | rejected bound ack =>
    obtain ⟨_,error,rfl⟩ := retains
    rw [List.mem_singleton.mp mem]
    exact reportSound rfl ⟨_,_,known⟩
  | cancelled bound ack cancelAck =>
    obtain ⟨_,rfl,rfl⟩ := retains
    rcases List.mem_cons.mp mem with rfl | last
    · exact quietSound rfl nofun
    · rw [List.mem_singleton.mp last]
      exact reportSound rfl ⟨_,_,_,known⟩
  | completed bound result =>
    obtain ⟨_,outcome,code,rfl,uncancelled⟩ := retains
    rw [List.mem_singleton.mp mem]
    cases outcome with
    | succeeded => exact reportSound rfl ⟨_,_,known⟩
    | failed => exact reportSound rfl ⟨_,_,known⟩
    | cancelled => exact absurd rfl uncancelled

theorem dispatchStep (kept : ∀ id entry, agent.state id = some entry → Retains content id entry) :
    AgentStep content agent (agent.handleDispatch id (content id)).1 (agent.handleDispatch id (content id)).2 := by
  unfold SimulatedActionAgent.handleDispatch
  split
  · exact sameStep kept (by simp)
  split
  · rename_i entry known
    have retains := kept id entry known
    have bound : entry.content = content id := by
      cases entry <;> exact retains.1
    have sound := retainedSound known retains
    rw [if_neg (not_not.mpr bound)]
    cases entry <;> exact sameStep kept fun m mem => sound m (by simp_all)
  · rename_i unknown
    split
    · exact rejectStep kept unknown _
    split
    · exact rejectStep kept unknown _
    split
    · exact rejectStep kept unknown _
    split
    · exact ⟨fun id => .kept (agent.state id),kept,by simp⟩
    · exact rejectStep kept unknown _
    · have retains : Retains content id (.active (content id) (.actionAck id .accepted)) := ⟨rfl,rfl⟩
      refine recordStep kept (by rw [unknown]; exact .made _) retains fun m mem => ?_
      rw [List.mem_singleton.mp mem]
      exact quietSound rfl nofun

theorem completeStep (kept : ∀ id entry, agent.state id = some entry → Retains content id entry)
    {bound} {ack : AgentMessage} (active : agent.state id = some (.active bound ack))
    (percents : List Nat) {outcome} (uncancelled : outcome ≠ .cancelled) (code : String) :
    AgentStep content agent (agent.complete id bound percents outcome code).1
      (agent.complete id bound percents outcome code).2 := by
  have retains : Retains content id (.completed bound (.actionResult id outcome code)) :=
    ⟨(kept id _ active).1,_,_,rfl,uncancelled⟩
  refine recordStep kept (by rw [active]; exact .settled _ _ _) retains fun m mem => ?_
  rcases List.mem_append.mp mem with progress | last
  · obtain ⟨percent,_,rfl⟩ := List.mem_map.mp progress
    exact quietSound rfl nofun
  · rw [List.mem_singleton.mp last]
    cases outcome with
    | succeeded => exact reportSound rfl ⟨_,_,Function.update_self id _ _⟩
    | failed => exact reportSound rfl ⟨_,_,Function.update_self id _ _⟩
    | cancelled => exact absurd rfl uncancelled

theorem runStep (kept : ∀ id entry, agent.state id = some entry → Retains content id entry)
    {agent' messages}
    (ran : agent.runConfiguredScenario id = some (agent',messages)) :
    AgentStep content agent agent' messages ∧ (∃ bound ack, agent.state id = some (.active bound ack)) ∧
      ∃ bound result, agent'.state id = some (.completed bound result) := by
  unfold SimulatedActionAgent.runConfiguredScenario at ran
  split at ran
  · cases ran
  split at ran <;> try contradiction
  rename_i bound ack active
  split at ran <;> cases ran
  · exact ⟨completeStep kept active _ (by simp) _,⟨_,_,active⟩,_,_,Function.update_self id _ _⟩
  · exact ⟨completeStep kept active _ (by simp) _,⟨_,_,active⟩,_,_,Function.update_self id _ _⟩

theorem cancelStep (kept : ∀ id entry, agent.state id = some entry → Retains content id entry) :
    AgentStep content agent (agent.handleCancel id).1 (agent.handleCancel id).2 := by
  unfold SimulatedActionAgent.handleCancel
  split
  · exact sameStep kept (by simp)
  have finished : ∀ entry, agent.state id = some entry →
      ((∃ content result, entry = .completed content result) ∨ ∃ content ack, entry = .rejected content ack) →
      AgentStep content agent agent [.cancelAck id .alreadyCompleted] := by
    intro entry known ended
    refine sameStep kept fun m mem => ?_
    rw [List.mem_singleton.mp mem]
    refine ⟨nofun,fun other same => ?_⟩
    cases same
    exact ⟨entry,known,ended⟩
  split
  · refine sameStep kept fun m mem => ?_
    rw [List.mem_singleton.mp mem]
    exact quietSound rfl nofun
  · rename_i known; exact finished _ known (.inl ⟨_,_,rfl⟩)
  · rename_i known; exact finished _ known (.inr ⟨_,_,rfl⟩)
  · rename_i known
    have sound := retainedSound known (kept id _ known)
    exact sameStep kept fun m mem => sound m (List.mem_cons_of_mem _ mem)
  · rename_i bound ack known
    obtain ⟨same,accepted⟩ := kept id _ known
    split
    · refine sameStep kept fun m mem => ?_
      rw [List.mem_singleton.mp mem]
      exact quietSound rfl nofun
    · have retains : Retains content id (.cancelled bound ack (.cancelAck id .cancelled)) :=
        ⟨same,accepted,rfl⟩
      refine recordStep kept (by rw [known]; exact .settled _ _ _) retains fun m mem => ?_
      rw [List.mem_singleton.mp mem]
      exact reportSound rfl ⟨_,_,_,Function.update_self id _ _⟩

theorem statusStep (kept : ∀ id entry, agent.state id = some entry → Retains content id entry) :
    AgentStep content agent (agent.handleStatusQuery id).1 (agent.handleStatusQuery id).2 := by
  unfold SimulatedActionAgent.handleStatusQuery
  split
  · exact sameStep kept (by simp)
  refine sameStep kept fun m mem => ?_
  rw [List.mem_singleton.mp mem]
  split
  · exact quietSound rfl nofun
  · exact quietSound rfl nofun
  · exact quietSound rfl nofun
  · rename_i known
    obtain ⟨_,_,_,same,_⟩ := kept id _ known
    cases same
    exact reportSound rfl ⟨_,_,known⟩
  · rename_i known
    obtain ⟨_,_,_,same,_⟩ := kept id _ known
    cases same
    exact reportSound rfl ⟨_,_,known⟩
  · rename_i unsucceeded unfailed known
    obtain ⟨_,outcome,code,rfl,uncancelled⟩ := kept id _ known
    cases outcome with
    | succeeded => exact (unsucceeded _ _ rfl).elim
    | failed => exact (unfailed _ _ rfl).elim
    | cancelled => exact absurd rfl uncancelled
  · rename_i known
    exact reportSound rfl ⟨_,_,_,known⟩

end Calls
end Bamep.Simulator
