import Bamep.Domain.Job
import Mathlib.Logic.Function.Basic

/-! The registries of authenticated Agent sessions. Each method runs under one lock, so it is one step. -/
namespace Bamep

structure ProtocolId where
  value : Nat
  deriving DecidableEq, Repr

-- The map from Endpoints to session sets, kept as the set of its pairs.
structure PresenceRegistry where
  sessions : List (EndpointId × ProtocolId)
  deriving DecidableEq, Repr

namespace PresenceRegistry

def new : PresenceRegistry := ⟨[]⟩

def register (registry : PresenceRegistry) (id : EndpointId) (session : ProtocolId) : PresenceRegistry :=
  ⟨registry.sessions.insert (id,session)⟩

def unregister (registry : PresenceRegistry) (id : EndpointId) (session : ProtocolId) : PresenceRegistry :=
  ⟨registry.sessions.filter (· ≠ (id,session))⟩

def isPresent (registry : PresenceRegistry) (id : EndpointId) : Bool :=
  registry.sessions.any fun entry => entry.1 = id

@[simp] theorem memRegister {registry : PresenceRegistry} {id session entry} :
    entry ∈ (registry.register id session).sessions ↔ entry = (id,session) ∨ entry ∈ registry.sessions := by
  simp [register]

@[simp] theorem memUnregister {registry : PresenceRegistry} {id session entry} :
    entry ∈ (registry.unregister id session).sessions ↔ entry ∈ registry.sessions ∧ entry ≠ (id,session) := by
  simp [unregister]

theorem isPresentIff {registry : PresenceRegistry} {id} :
    registry.isPresent id = true ↔ ∃ session, (id,session) ∈ registry.sessions := by
  simp [isPresent]

end PresenceRegistry

structure Correlation where
  session : ProtocolId
  actionId : ActionId
  deriving DecidableEq, Repr

/- `liveSessions` lists the sessions of an Endpoint from the oldest to the newest; `channels` names the
sessions that have a command channel, whose other end is the session's own task. -/
structure OutboundSessionDirectory where
  liveSessions : EndpointId → List ProtocolId
  channels : List ProtocolId
  dispatchCorrelation : EndpointId → Option Correlation

inductive BindOutcome where
  | bound | staleActionIgnored
  deriving DecidableEq, Repr

inductive OutboundMessage where
  | actionDispatch (actionId : ActionId)
  | cancelAction (actionId : ActionId)
  | statusQuery (actionId : ActionId)
  deriving DecidableEq, Repr

namespace OutboundSessionDirectory

def new : OutboundSessionDirectory := ⟨fun _ => [],[],fun _ => none⟩

variable (directory : OutboundSessionDirectory) (id : EndpointId) (session : ProtocolId)

def register : OutboundSessionDirectory :=
  { directory with
    channels := directory.channels.insert session
    liveSessions :=
      if session ∈ directory.liveSessions id then directory.liveSessions
      else Function.update directory.liveSessions id (directory.liveSessions id ++ [session]) }

-- With the last session of an Endpoint its correlation goes too.
def unregister : OutboundSessionDirectory :=
  let rest := (directory.liveSessions id).filter (· ≠ session)
  { channels := directory.channels.filter (· ≠ session)
    liveSessions := Function.update directory.liveSessions id rest
    dispatchCorrelation :=
      if directory.liveSessions id ≠ [] ∧ rest = [] then Function.update directory.dispatchCorrelation id none
      else directory.dispatchCorrelation }

def dispatchRelevantAction : Option ActionId :=
  match directory.dispatchCorrelation id with
  | some correlation => if correlation.session = session then some correlation.actionId else none
  | none => none

def correlate (actionId : ActionId) : OutboundSessionDirectory :=
  { directory with
    dispatchCorrelation := Function.update directory.dispatchCorrelation id (some ⟨session,actionId⟩) }

def bindDispatchRelevantSession (actionId : ActionId) : OutboundSessionDirectory × BindOutcome :=
  if (directory.dispatchCorrelation id).any fun current => current.actionId ≠ actionId then
    (directory,.staleActionIgnored)
  else (directory.correlate id session actionId,.bound)

/- `send` up to the channel it enqueues on; `none` is `NoSession`. -/
def resolve (message : OutboundMessage) : OutboundSessionDirectory × Option ProtocolId :=
  match (directory.liveSessions id).getLast? with
  | none => (directory,none)
  | some session =>
    (match message with
      | .actionDispatch actionId => directory.correlate id session actionId
      | .cancelAction _ | .statusQuery _ => directory,
    if session ∈ directory.channels then some session else none)

variable {directory id session}

theorem memRegisterLive (fresh : session ∉ directory.liveSessions id) {e x} :
    x ∈ (directory.register id session).liveSessions e ↔ x ∈ directory.liveSessions e ∨ e = id ∧ x = session := by
  by_cases here : e = id
  · subst here
    simp [register,fresh]
  · simp [register,fresh,here]

theorem memUnregisterLive {e x} :
    x ∈ (directory.unregister id session).liveSessions e ↔
      x ∈ directory.liveSessions e ∧ (e = id → x ≠ session) := by
  by_cases here : e = id
  · subst here
    simp [unregister]
  · simp [unregister,here]

theorem unregisterKeeps {other} (mem : other ∈ directory.liveSessions id) (apart : other ≠ session) :
    (directory.unregister id session).dispatchCorrelation = directory.dispatchCorrelation := by
  have remains : other ∈ (directory.liveSessions id).filter (· ≠ session) := by simp [mem,apart]
  simp only [unregister]
  exact if_neg fun last => List.ne_nil_of_mem remains last.2

theorem unregisterCorrelation {e c}
    (stays : (directory.unregister id session).dispatchCorrelation e = some c) :
    directory.dispatchCorrelation e = some c := by
  simp only [unregister] at stays
  split at stays
  · by_cases here : e = id
    · subst here
      simp at stays
    · rwa [Function.update_of_ne here] at stays
  · exact stays

theorem unregisterElsewhere {e} (apart : e ≠ id) :
    (directory.unregister id session).dispatchCorrelation e = directory.dispatchCorrelation e := by
  simp only [unregister]
  split
  · rw [Function.update_of_ne apart]
  · rfl

theorem relevantOf {actionId} (recorded : directory.dispatchCorrelation id = some ⟨session,actionId⟩) :
    directory.dispatchRelevantAction id session = some actionId := by
  simp [dispatchRelevantAction,recorded]

theorem bindStale {actionId current}
    (recorded : directory.dispatchCorrelation id = some current) (other : current.actionId ≠ actionId) :
    (directory.bindDispatchRelevantSession id session actionId).1 = directory := by
  simp [bindDispatchRelevantSession,recorded,other]

theorem bindBound {actionId}
    (free : ∀ current ∈ directory.dispatchCorrelation id, current.actionId = actionId) :
    (directory.bindDispatchRelevantSession id session actionId).1 = directory.correlate id session actionId := by
  cases recorded : directory.dispatchCorrelation id with
  | none => simp [bindDispatchRelevantSession,recorded]
  | some current => simp [bindDispatchRelevantSession,recorded,free current recorded]

@[simp] theorem correlateHere (actionId : ActionId) :
    (directory.correlate id session actionId).dispatchCorrelation id = some ⟨session,actionId⟩ :=
  Function.update_self ..

theorem correlateElsewhere {e} (apart : e ≠ id) (actionId : ActionId) :
    (directory.correlate id session actionId).dispatchCorrelation e = directory.dispatchCorrelation e :=
  Function.update_of_ne apart ..

theorem resolveNone (empty : (directory.liveSessions id).getLast? = none) (message : OutboundMessage) :
    directory.resolve id message = (directory,none) := by
  simp [resolve,empty]

theorem resolveQuiet {message} (quiet : ∀ actionId, message ≠ .actionDispatch actionId) :
    (directory.resolve id message).1 = directory := by
  unfold resolve
  split
  · rfl
  · cases message with
    | actionDispatch actionId => exact absurd rfl (quiet actionId)
    | cancelAction | statusQuery => rfl

theorem resolveDispatch (newest : (directory.liveSessions id).getLast? = some session)
    (open' : session ∈ directory.channels) (actionId : ActionId) :
    directory.resolve id (.actionDispatch actionId) = (directory.correlate id session actionId,some session) := by
  simp [resolve,newest,open']

end OutboundSessionDirectory
end Bamep
