import Bamep.Application.BootTrust
import Bamep.Application.CredentialLife

/-! Two redemptions on one Endpoint of which the second waits for the row locks of the first. Its statement
re-reads the locked rows `e` and `c` as the first has committed them, and keeps the lookup rows of its own
snapshot, which it joins without locking them. -/
namespace Bamep
open Relational Transition

namespace EndpointRows

def loadByIdForUpdate (snapshot latest : EndpointRows) (id : EndpointId) :
    Except RepositoryError (Option EndpointAggregate) :=
  match snapshot.endpoints.find? id,snapshot.credentials.find? id with
  | some _,some _ => { latest with lookups := snapshot.lookups }.loadById id
  | _,_ => .ok none

def loadBySignalForUpdate (snapshot latest : EndpointRows) (signal : String) :
    Except RepositoryError (Option EndpointAggregate) :=
  match snapshot.endpoints.rows.find? fun row => row.inventorySignal = signal with
  | some row => loadByIdForUpdate snapshot latest row.id
  | none => .ok none

/- `route` of the second: every statement before the load has run on the snapshot. -/
def routeForUpdate (snapshot latest : EndpointRows) (kind : CredentialKind) (lookupId : CredentialLookupId) :
    Except RepositoryError RedemptionTarget :=
  match snapshot.lookups.rows.find? fun row => row.lookupId = lookupId with
  | some mapped =>
    match loadByIdForUpdate snapshot latest mapped.endpointId with
    | .error e => .error e
    | .ok none => .error (.backend "credential lookup mapping referenced missing endpoint")
    | .ok (some aggregate) => .ok (.endpoint aggregate)
  | none =>
    if kind = .runtime then .ok .unknownCredential
    else match snapshot.bootContexts.find? lookupId with
      | none => .ok .unknownBootContext
      | some context =>
        match context.resolvedEndpointId with
        | some resolvedId =>
          match loadByIdForUpdate snapshot latest resolvedId with
          | .error e => .error e
          | .ok none => .error (.backend "resolved boot context referenced missing endpoint")
          | .ok (some aggregate) => .ok (.endpoint aggregate)
        | none =>
          match loadBySignalForUpdate snapshot latest context.inventorySignal with
          | .error e => .error e
          | .ok candidate => .ok (.unresolvedBootContext context candidate)

end EndpointRows

def EndpointStore.redeemAfterWait (hasher : CredentialHasher) (snapshot latest : EndpointStore)
    (r : RedeemRequest) : EndpointStore × Except RepositoryError RedeemOutcome :=
  match snapshot.rows.routeForUpdate latest.rows r.presented.kind r.presented.lookupId with
  | .error e => (latest,.error e)
  | .ok target =>
    match r.decide hasher target with
    | .error _ => (latest,.error (.backend "boot context already resolved to a different endpoint"))
    | .ok .rejected => (latest,.ok .rejected)
    | .ok (.established redeemed) =>
      if target = .unknownBootContext ∨ target = .unknownCredential then
        (latest,.error (.backend
          "internal contract violation: decision accepted a redemption for an unknown target"))
      else match latest.persistRedeemed redeemed with
        | none => (latest,.error .database)
        | some s' => (s',.ok (.established redeemed))

/- The Endpoint whose rows `e` and `c` the routing of a redemption has locked. -/
def RedemptionTarget.locked : RedemptionTarget → Option EndpointId
  | .endpoint a => some a.id
  | .unresolvedBootContext _ candidate => candidate.map EndpointAggregate.id
  | .unknownBootContext | .unknownCredential => none

/- Whether a redemption of an Endpoint is let in, on what its routing has loaded. -/
def RedeemRequest.accepted (hasher : CredentialHasher) (r : RedeemRequest) : RedemptionTarget → Bool
  | .endpoint a => !a.credential.revoked && a.credential.slots.any (·.matchesAt hasher r.presented r.now)
  | .unresolvedBootContext context (some a) =>
    !a.credential.revoked && bootContextCredentialIsValid hasher context r.presented r.now
  | .unresolvedBootContext _ none | .unknownBootContext | .unknownCredential => false

/- A redemption of a locked Endpoint that commits, on the request, what its routing has loaded and the rows before. -/
structure RedeemRequest.Commits (hasher : CredentialHasher) (rows : EndpointRows) (r : RedeemRequest)
    (target : RedemptionTarget) (id : EndpointId) : Prop where
  accepted : r.accepted hasher target = true
  runtime : r.fresh.kind = .runtime
  apart : r.fresh.lookupId ≠ r.presented.lookupId
  free : ∀ l ∈ rows.lookups, l.lookupId = r.fresh.lookupId → l.endpointId = id

-- The Endpoint gets lookup ids it did not have.
def RedeemRequest.Rotates (hasher : CredentialHasher) (rows : EndpointRows) (r : RedeemRequest)
    (target : RedemptionTarget) (id : EndpointId) : Prop :=
  r.Commits hasher rows target id ∧
    ¬(rows.lookupId id .predecessor = some r.presented.lookupId ∧ rows.lookupId id .successor = some r.fresh.lookupId)

section Waiting
variable {hasher : CredentialHasher} {s s' : EndpointStore} {rows rows' : EndpointRows} {a a' : EndpointAggregate}

theorem findLookup (valid : rows.Valid) {lookupId l} :
    (rows.lookups.rows.find? fun row => row.lookupId = lookupId) = some l ↔
      l ∈ rows.lookups ∧ l.lookupId = lookupId := by
  constructor
  · intro found
    exact ⟨List.mem_of_find?_eq_some found,by simpa using List.find?_some found⟩
  · intro ⟨mem,named⟩
    cases found : rows.lookups.rows.find? fun row => row.lookupId = lookupId with
    | none => exact absurd (decide_eq_true named) (List.find?_eq_none.mp found l mem)
    | some other =>
      have same : other.lookupId = lookupId := by simpa using List.find?_some found
      rw [valid.lookupUnique other (List.mem_of_find?_eq_some found) l mem (same.trans named.symm)]

theorem lookupIdSome {id slot lookupId} :
    rows.lookupId id slot = some lookupId ↔ (⟨id,slot,lookupId⟩ : LookupRow) ∈ rows.lookups := by
  unfold EndpointRows.lookupId
  constructor
  · intro found
    obtain ⟨l,present,named⟩ := Option.map_eq_some_iff.mp found
    obtain ⟨mem,key⟩ := Table.findIff.mp present
    obtain ⟨owner,role⟩ := Prod.mk.inj key
    rw [← owner,← role,← named]
    exact mem
  · intro mem
    have found : rows.lookups.find? (id,slot) = some _ := Table.findIff.mpr ⟨mem,rfl⟩
    rw [found]
    rfl

/- What the waiting load returns: the committed rows under the lookup ids of the snapshot. -/
theorem loadWaited (before : Stored rows a) (after : Stored rows' a') (named : a'.id = a.id) :
    rows.loadByIdForUpdate rows' a.id = (rowToAggregate (a'.row none) a'.credentialRow
      (rows.lookupId a.id .predecessor) (rows.lookupId a.id .successor)).map some := by
  obtain ⟨old,present⟩ := before.endpoint
  have endpoint : rows.endpoints.find? a.id = some (a.row old) := Table.findIff.mpr ⟨present,rfl⟩
  have credential : rows.credentials.find? a.id = some a.credentialRow :=
    Table.findIff.mpr ⟨before.credential,rfl⟩
  obtain ⟨new,present'⟩ := after.endpoint
  have endpoint' : rows'.endpoints.find? a.id = some (a'.row new) := Table.findIff.mpr ⟨present',named⟩
  have credential' : rows'.credentials.find? a'.id = some a'.credentialRow :=
    Table.findIff.mpr ⟨after.credential,rfl⟩
  simp only [EndpointRows.loadByIdForUpdate,endpoint,credential,EndpointRows.loadById,endpoint',
    EndpointRows.loadRow]
  rw [show (a'.row new).id = a'.id from rfl,credential',named]
  rfl

theorem rowToAggregateLookups {row credential predecessor successor}
    (ok : rowToAggregate row credential predecessor successor = .ok a) :
    predecessor = some a.credential.predecessor.lookupId ∧
      successor = a.credential.successor.map CredentialSlot.lookupId := by
  unfold rowToAggregate at ok
  simp only at ok
  split at ok
  · contradiction
  split at ok <;> try contradiction
  all_goals
    cases ok
    exact ⟨rfl,rfl⟩

theorem loadWaitedExact (before : Stored rows a) (after : Stored rows' a') (named : a'.id = a.id) :
    rows.loadByIdForUpdate rows' a.id = .ok (some a') ↔
      ∀ slot, rows'.lookupId a.id slot = rows.lookupId a.id slot := by
  have predecessor := storedPredecessor after
  have successor := storedSuccessor after
  rw [named] at predecessor successor
  rw [loadWaited before after named]
  constructor
  · intro loaded slot
    generalize mixed : rowToAggregate _ _ _ _ = result at loaded
    cases result with
    | error e => cases loaded
    | ok b =>
      cases loaded
      obtain ⟨first,second⟩ := rowToAggregateLookups mixed
      cases slot with
      | predecessor => rw [predecessor,first]
      | successor => rw [successor,second]
  · intro kept
    rw [← kept .predecessor,← kept .successor,predecessor,successor]
    obtain ⟨id,signal,identity,⟨first,second,revoked⟩,hardware,boot,created,updated⟩ := a'
    cases second <;> rfl

/- The first transaction: it commits an aggregate of the Endpoint it has locked or leaves the rows alone. -/
structure FirstCommitted (s s' : EndpointStore) (outcome : Except RepositoryError RedeemOutcome)
    (id : EndpointId) (a' : EndpointAggregate) : Prop where
  stored : Stored s'.rows a'
  named : a'.id = id
  redeemed : ∀ redeemed, outcome = .ok (.established redeemed) → a' = redeemed.endpoint
  others : ∀ l : LookupRow, l.endpointId ≠ id → (l ∈ s'.rows.lookups ↔ l ∈ s.rows.lookups)
  contexts : ∀ c ∈ s.rows.bootContexts, c.resolvedEndpointId ≠ none → c ∈ s'.rows.bootContexts

theorem persistedStored (stored : Stored rows a) (persisted : Persisted rows rows' a') (named : a'.id = a.id)
    (signal : a'.inventorySignal = a.inventorySignal) (created : a'.createdAt = a.createdAt) : Stored rows' a' := by
  obtain ⟨b,after,same,row⟩ := persistedSelf persisted
  obtain ⟨revision,present⟩ := stored.endpoint
  rcases row with ⟨e,mem,keyed,signal',created'⟩ | ⟨absent,_⟩
  · have equal : e = a.row revision := Table.eqOfKey mem present (keyed.trans named)
    rw [equal] at signal' created'
    rw [same,← signal',← created',show (a.row revision).inventorySignal = a.inventorySignal from rfl,
      show (a.row revision).createdAt = a.createdAt from rfl,← signal,← created] at after
    exact after
  · exact absurd named.symm (absent _ present)

/- The lookup id a redemption presents belongs to the Endpoint it has locked, if to any. -/
theorem routeOwner (valid : rows.Valid) {kind lookupId target}
    (routed : rows.route kind lookupId = .ok target) {id} (locks : target.locked = some id) {l}
    (mem : l ∈ rows.lookups) (named : l.lookupId = lookupId) : l.endpointId = id := by
  have found := (findLookup valid).mpr ⟨mem,named⟩
  unfold EndpointRows.route at routed
  rw [found] at routed
  simp only at routed
  split at routed <;> try contradiction
  rename_i loaded
  cases routed
  rw [← (loadByIdNamed loaded).1]
  exact Option.some.inj locks

/- The two lookup rows of one Endpoint are replaced. -/
theorem lookupsReplaced {id presented fresh} : ∃ lookups,
    (rows.lookups.retain fun row => row.endpointId ≠ id).insertAll?
        [⟨id,.predecessor,presented⟩,⟨id,.successor,fresh⟩] = some lookups ∧
      ∀ l ∈ lookups, (l ∈ rows.lookups ∧ l.endpointId ≠ id) ∨ l = ⟨id,.predecessor,presented⟩ ∨
        l = ⟨id,.successor,fresh⟩ := by
  obtain ⟨lookups,inserted⟩ : ∃ lookups, (rows.lookups.retain fun row => row.endpointId ≠ id).insertAll?
      [⟨id,.predecessor,presented⟩,⟨id,.successor,fresh⟩] = some lookups := by
    refine Table.insertAllIsSome (by simp [LookupRow.key]) fun x mem y new same => ?_
    have other : x.endpointId ≠ id := by simpa using (Table.memRetain.mp mem).2
    refine other ((congrArg Prod.fst same).trans ?_)
    rcases List.mem_pair.mp new with rfl | rfl <;> rfl
  exact ⟨lookups,inserted,fun l mem => ((Table.memInsertAll inserted).mp mem).imp (by simp) List.mem_pair.mp⟩

theorem lookupsReplacedValid (valid : rows.Valid) {id} (known : ∃ e ∈ rows.endpoints, e.id = id) {presented fresh}
    (apart : fresh ≠ presented) (owner : ∀ l ∈ rows.lookups, l.lookupId = presented → l.endpointId = id)
    (free : ∀ l ∈ rows.lookups, l.lookupId = fresh → l.endpointId = id) {lookups : Table LookupRow.key}
    (members : ∀ l ∈ lookups, (l ∈ rows.lookups ∧ l.endpointId ≠ id) ∨ l = ⟨id,.predecessor,presented⟩ ∨
      l = ⟨id,.successor,fresh⟩) : EndpointRows.Valid { rows with lookups := lookups } := by
  refine ⟨valid.signalUnique,valid.currentRevision,valid.revisionEndpoint,valid.credentialEndpoint,
    fun x left y right same => ?_,fun l mem => ?_,valid.contextTimes,valid.contextEndpoint⟩
  · rcases members x left with ⟨old,other⟩ | rfl | rfl <;> rcases members y right with ⟨old',other'⟩ | rfl | rfl
    · exact valid.lookupUnique x old y old' same
    · exact absurd (owner x old same) other
    · exact absurd (free x old same) other
    · exact absurd (owner y old' same.symm) other'
    · rfl
    · exact absurd same.symm apart
    · exact absurd (free y old' same.symm) other'
    · exact absurd same apart
    · rfl
  · rcases members l mem with ⟨old,_⟩ | rfl | rfl
    · exact valid.lookupEndpoint l old
    · exact known
    · exact known

theorem validResolution (valid : rows.Valid) {resolved}
    (known : ∀ context ∈ resolved, ∃ e ∈ rows.endpoints, some e.id = context.resolvedEndpointId) :
    (rows.persistBootContextResolution resolved).Valid := by
  cases resolved with
  | none => exact valid
  | some context =>
    have origin := fun {row} mem => @Table.updateOrigin _ _ _ _ rows.bootContexts context.bootContextId
      (fun row => { row with resolvedEndpointId := context.resolvedEndpointId }) context.resolutionKeepsId row mem
    refine ⟨valid.signalUnique,valid.currentRevision,valid.revisionEndpoint,valid.credentialEndpoint,
      valid.lookupUnique,valid.lookupEndpoint,fun row mem => ?_,fun row mem => ?_⟩
    · obtain ⟨old,present,_,rfl | rfl⟩ := origin mem
      · exact valid.contextTimes row present
      · exact valid.contextTimes old present
    · obtain ⟨old,present,_,rfl | rfl⟩ := origin mem
      · exact valid.contextEndpoint row present
      · exact .inr (known context rfl)

/- A new chain is committed exactly if its fresh lookup id is not the other one and no other Endpoint's. -/
theorem persistRedeemedExists {redeemed presented fresh} (stored : Stored s.rows a) (named : redeemed.endpoint.id = a.id)
    (first : redeemed.endpoint.credential.predecessor.lookupId = presented)
    (second : redeemed.endpoint.credential.successor.map CredentialSlot.lookupId = some fresh)
    (owner : ∀ l ∈ s.rows.lookups, l.lookupId = presented → l.endpointId = a.id)
    (resolves : ∀ context ∈ redeemed.resolvedBootContext, context.resolvedEndpointId = some a.id) :
    (∃ s', s.persistRedeemed redeemed = some s') ↔
      fresh ≠ presented ∧ ∀ l ∈ s.rows.lookups, l.lookupId = fresh → l.endpointId = a.id := by
  have chain : redeemed.endpoint.credential.lookupRows redeemed.endpoint.id =
      [⟨a.id,.predecessor,presented⟩,⟨a.id,.successor,fresh⟩] := by
    obtain ⟨successor,present,rfl⟩ := Option.map_eq_some_iff.mp second
    simp [CredentialChain.lookupRows,present,named,first]
  constructor
  · rintro ⟨s',persisted⟩
    have lookups := (persistRedeemedSome persisted).1.lookups
    rw [chain] at lookups
    have new : (⟨a.id,.successor,fresh⟩ : LookupRow) ∈ s'.rows.lookups := (lookups _).mpr (.inr (by simp))
    refine ⟨?_,fun l mem same => ?_⟩
    · rintro rfl
      have old : (⟨a.id,.predecessor,fresh⟩ : LookupRow) ∈ s'.rows.lookups := (lookups _).mpr (.inr (by simp))
      cases s'.valid.lookupUnique _ old _ new rfl
    · by_contra other
      have kept := (lookups l).mpr (.inl ⟨mem,named ▸ other⟩)
      exact other (congrArg LookupRow.endpointId (s'.valid.lookupUnique l kept _ new same))
  · rintro ⟨apart,free⟩
    have valid := persistTransitionValid s.valid stored named
    have known := valid.lookupEndpoint _ ((stored.lookups _ rfl).mpr (memLookupRows.mpr (.inl rfl)))
    obtain ⟨lookups,inserted,members⟩ := @lookupsReplaced s.rows a.id presented fresh
    have next := lookupsReplacedValid valid known apart owner free members
    obtain ⟨e,present,here⟩ := known
    have resolved := @validResolution _ next redeemed.resolvedBootContext fun context mem =>
      ⟨e,present,by rw [resolves context mem,here]⟩
    refine ⟨⟨_,resolved⟩,?_⟩
    have projected : (s.rows.persistTransition redeemed.endpoint).persistLookupProjection redeemed.endpoint.id
        redeemed.endpoint.credential = some { s.rows.persistTransition redeemed.endpoint with lookups := lookups } := by
      rw [EndpointRows.persistLookupProjection,chain,named]
      exact congrArg (Option.map _) inserted
    rw [EndpointStore.persistRedeemed,projected,Option.bind_some,EndpointRows.commit,dif_pos resolved]

/- What the decision on a locked Endpoint keeps of it, and the lookup ids it gives it. -/
structure Rotated (r : RedeemRequest) (old : EndpointAggregate) (redeemed : Redeemed) : Prop where
  id : redeemed.endpoint.id = old.id
  signal : redeemed.endpoint.inventorySignal = old.inventorySignal
  created : redeemed.endpoint.createdAt = old.createdAt
  predecessor : redeemed.endpoint.credential.predecessor.lookupId = r.presented.lookupId
  successor : redeemed.endpoint.credential.successor.map CredentialSlot.lookupId = some r.fresh.lookupId
  resolves : ∀ context ∈ redeemed.resolvedBootContext, context.resolvedEndpointId = some old.id

section Locked
variable (hasher) {r : RedeemRequest} {target : RedemptionTarget} {id : EndpointId} (projected : Projected s.rows)
  (routed : s.rows.route r.presented.kind r.presented.lookupId = .ok target) (locks : target.locked = some id)
include routed locks

theorem redeemEnds :
    (∃ outcome, s.redeem hasher r = (s,outcome) ∧ (∀ redeemed, outcome ≠ .ok (.established redeemed)) ∧
      ∀ redeemed, r.decide hasher target = .ok (.established redeemed) → s.persistRedeemed redeemed = none) ∨
    ∃ redeemed s', r.decide hasher target = .ok (.established redeemed) ∧ s.persistRedeemed redeemed = some s' ∧
      s.redeem hasher r = (s',.ok (.established redeemed)) := by
  have known : ¬(target = .unknownBootContext ∨ target = .unknownCredential) := by
    rintro (rfl | rfl) <;> cases locks
  simp only [EndpointStore.redeem,routed]
  cases r.decide hasher target with
  | error e => exact .inl ⟨_,rfl,by simp,by simp⟩
  | ok decided =>
    cases decided with
    | rejected => exact .inl ⟨_,rfl,by simp,by simp⟩
    | established redeemed =>
      simp only [if_neg known]
      cases persisted : s.persistRedeemed redeemed with
      | none =>
        refine .inl ⟨_,rfl,by simp,fun other same => ?_⟩
        cases same
        exact persisted
      | some s' => exact .inr ⟨redeemed,s',rfl,persisted,rfl⟩

include projected

theorem decideAccepts :
    (∃ redeemed, r.decide hasher target = .ok (.established redeemed)) ↔
      r.accepted hasher target = true ∧ r.fresh.kind = .runtime := by
  cases target with
  | endpoint a =>
    simp only [RedeemRequest.decide,Except.ok.injEq,redeemKnownAccepts,RedeemRequest.accepted,Bool.and_eq_true,
      Bool.not_eq_true',List.any_eq_true,and_assoc]
  | unresolvedBootContext context candidate =>
    cases candidate with
    | none => cases locks
    | some a =>
      simp only [RedeemRequest.decide,genuineRebootAccepts (routeUnresolved projected routed).2.1,RedeemRequest.accepted,
        Bool.and_eq_true,Bool.not_eq_true',and_assoc]
  | unknownBootContext => cases locks
  | unknownCredential => cases locks

theorem lockedStored :
    ∃ old, Stored s.rows old ∧ old.id = id ∧
      ∀ redeemed, r.decide hasher target = .ok (.established redeemed) → Rotated r old redeemed := by
  cases target with
  | endpoint a =>
    refine ⟨a,routeEndpoint projected routed,Option.some.inj locks,fun redeemed decided => ?_⟩
    obtain ⟨resolves,kept⟩ := redeemKnownKeeps (Except.ok.inj decided)
    obtain ⟨_,_,slot,_,matched,chain⟩ := redeemKnownEstablished (Except.ok.inj decided)
    refine ⟨by rw [kept],by rw [kept],by rw [kept],?_,by rw [chain]; rfl,by simp [resolves]⟩
    rw [chain]
    exact (matchesAtIff.mp matched).2.1
  | unresolvedBootContext context candidate =>
    cases candidate with
    | none => cases locks
    | some a =>
      refine ⟨a,(routeUnresolved projected routed).2.2 a rfl,Option.some.inj locks,fun redeemed decided => ?_⟩
      have kept := genuineRebootKeeps decided
      have boots := (genuineRebootEstablished decided).1
      refine ⟨by rw [kept],by rw [kept],by rw [kept],?_,by rw [boots.chain]; rfl,?_⟩
      · rw [boots.chain]
        exact boots.named.symm
      · rw [boots.resolves,kept]
        simp
  | unknownBootContext => cases locks
  | unknownCredential => cases locks

theorem firstCommits : ∃ a', FirstCommitted s (s.redeem hasher r).1 (s.redeem hasher r).2 id a' := by
  have contexts : ∀ c ∈ s.rows.bootContexts, c.resolvedEndpointId ≠ none →
      c ∈ (s.redeem hasher r).1.rows.bootContexts :=
    fun c mem resolved => effectResolved (redeemEffect projected r) mem resolved
  obtain ⟨old,stored,named,rotated⟩ := lockedStored hasher projected routed locks
  rcases redeemEnds hasher routed locks with
    ⟨outcome,same,rejected,_⟩ | ⟨redeemed,s',decided,persisted,same⟩
  · rw [same]
    exact ⟨old,stored,named,fun redeemed ok => absurd ok (rejected redeemed),fun _ _ => Iff.rfl,fun _ mem _ => mem⟩
  · rw [same] at contexts ⊢
    have keeps := rotated redeemed decided
    obtain ⟨rows,_⟩ := persistRedeemedSome persisted
    refine ⟨redeemed.endpoint,persistedStored stored rows keeps.id keeps.signal keeps.created,keeps.id.trans named,?_,?_,
      contexts⟩
    · intro _ same
      cases same
      rfl
    · intro l other
      rw [rows.lookups l]
      refine ⟨fun mem => (mem.resolve_right fun new => other ?_).1,fun mem => .inl ⟨mem,fun same => other ?_⟩⟩
      · rw [lookupRowsOwner new,keeps.id,named]
      · rw [same,keeps.id,named]

/- A redemption of a locked Endpoint commits exactly under a condition on its request and the rows before. -/
theorem redeemCommits :
    (∃ redeemed, (s.redeem hasher r).2 = .ok (.established redeemed)) ↔ r.Commits hasher s.rows target id := by
  have owner : ∀ l ∈ s.rows.lookups, l.lookupId = r.presented.lookupId → l.endpointId = id :=
    fun l mem same => routeOwner s.valid routed locks mem same
  obtain ⟨old,stored,rfl,rotated⟩ := lockedStored hasher projected routed locks
  have persists : ∀ redeemed, r.decide hasher target = .ok (.established redeemed) →
      ((∃ s', s.persistRedeemed redeemed = some s') ↔ r.fresh.lookupId ≠ r.presented.lookupId ∧
        ∀ l ∈ s.rows.lookups, l.lookupId = r.fresh.lookupId → l.endpointId = old.id) := by
    intro redeemed decided
    have keeps := rotated redeemed decided
    exact persistRedeemedExists stored keeps.id keeps.predecessor keeps.successor owner keeps.resolves
  have decides := decideAccepts hasher projected routed locks
  rcases redeemEnds hasher routed locks with
    ⟨outcome,same,rejected,failed⟩ | ⟨redeemed,s',decided,persisted,same⟩ <;> rw [same]
  · refine ⟨fun ⟨redeemed,ok⟩ => absurd ok (rejected redeemed),fun commits => ?_⟩
    obtain ⟨redeemed,decided⟩ := decides.mpr ⟨commits.accepted,commits.runtime⟩
    obtain ⟨s',persisted⟩ := (persists redeemed decided).mpr ⟨commits.apart,commits.free⟩
    rw [failed redeemed decided] at persisted
    cases persisted
  · obtain ⟨accepted,runtime⟩ := decides.mp ⟨redeemed,decided⟩
    obtain ⟨apart,free⟩ := (persists redeemed decided).mp ⟨s',persisted⟩
    exact ⟨fun _ => ⟨accepted,runtime,apart,free⟩,fun _ => ⟨redeemed,rfl⟩⟩

theorem lookupsKept
    (committed : FirstCommitted s (s.redeem hasher r).1 (s.redeem hasher r).2 id a') :
    (∀ slot, (s.redeem hasher r).1.rows.lookupId id slot = s.rows.lookupId id slot) ↔ ¬r.Rotates hasher s.rows target id := by
  have commits := redeemCommits hasher projected routed locks
  obtain ⟨_,_,_,rotated⟩ := lockedStored hasher projected routed locks
  rcases redeemEnds hasher routed locks with
    ⟨outcome,same,rejected,_⟩ | ⟨redeemed,s',decided,_,same⟩
  · rw [same] at commits ⊢
    exact ⟨fun _ rotates => (commits.mpr rotates.1).elim rejected,fun _ _ => rfl⟩
  · have keeps := rotated redeemed decided
    have predecessor := storedPredecessor committed.stored
    have successor := storedSuccessor committed.stored
    rw [committed.named,committed.redeemed redeemed (by rw [same])] at predecessor successor
    rw [keeps.predecessor] at predecessor
    rw [keeps.successor] at successor
    have all : (∀ slot, (s.redeem hasher r).1.rows.lookupId id slot = s.rows.lookupId id slot) ↔
        s.rows.lookupId id .predecessor = some r.presented.lookupId ∧
          s.rows.lookupId id .successor = some r.fresh.lookupId := by
      refine ⟨fun kept => ⟨(kept _).symm.trans predecessor,(kept _).symm.trans successor⟩,fun ⟨first,second⟩ slot => ?_⟩
      cases slot with
      | predecessor => exact predecessor.trans first.symm
      | successor => exact successor.trans second.symm
    rw [all,RedeemRequest.Rotates,and_iff_right (commits.mp ⟨redeemed,by rw [same]⟩),not_not]

end Locked

/- With the lookup rows of the Endpoint unmoved the second is routed to the committed aggregate. -/
theorem routeWaited (projected : Projected s.rows) {outcome}
    (committed : FirstCommitted s s' outcome a.id a') {kind lookupId}
    (routed : s.rows.route kind lookupId = .ok (.endpoint a))
    (kept : ∀ slot, s'.rows.lookupId a.id slot = s.rows.lookupId a.id slot) :
    s.rows.routeForUpdate s'.rows kind lookupId = s'.rows.route kind lookupId := by
  have before := routeEndpoint projected routed
  have waited := (loadWaitedExact before committed.stored committed.named).mpr kept
  have loads : s'.rows.loadById a.id = .ok (some a') := committed.named ▸ storedLoads committed.stored
  have lookups : ∀ l, l ∈ s'.rows.lookups ↔ l ∈ s.rows.lookups := by
    intro l
    by_cases owner : l.endpointId = a.id
    · have left := @lookupIdSome s'.rows a.id l.slot l.lookupId
      have right := @lookupIdSome s.rows a.id l.slot l.lookupId
      rw [kept,right,← owner] at left
      exact left.symm
    · exact committed.others l owner
  have sameFind : (s'.rows.lookups.rows.find? fun row => row.lookupId = lookupId) =
      s.rows.lookups.rows.find? fun row => row.lookupId = lookupId := by
    refine Option.ext fun l => ?_
    rw [findLookup s'.valid,findLookup s.valid,lookups]
  unfold EndpointRows.route at routed
  unfold EndpointRows.routeForUpdate EndpointRows.route
  rw [sameFind]
  split at routed
  · rename_i mapped found
    split at routed <;> try contradiction
    rename_i loaded
    cases routed
    have owner : mapped.endpointId = a.id := (loadByIdNamed loaded).1.symm
    simp only [found,owner,waited,loads]
  · rename_i unmapped
    split at routed
    · cases routed
    rename_i enrollment
    split at routed
    · cases routed
    rename_i context found
    split at routed
    · rename_i resolvedId resolved
      split at routed <;> try contradiction
      rename_i loaded
      cases routed
      obtain ⟨mem,keyed⟩ := Table.findIff.mp found
      have found' : s'.rows.bootContexts.find? lookupId = some context :=
        Table.findIff.mpr ⟨committed.contexts context mem (by rw [resolved]; simp),keyed⟩
      have owner : resolvedId = a.id := (loadByIdNamed loaded).1.symm
      simp only [unmapped,if_neg enrollment,found,found',resolved,owner,waited,loads]
    · split at routed <;> cases routed

theorem waitingRedemptionSerial (hasher : CredentialHasher) (s : EndpointStore) (projected : Projected s.rows)
    (first second : RedeemRequest) (target : RedemptionTarget) (a : EndpointAggregate)
    (firstRouted : s.rows.route first.presented.kind first.presented.lookupId = .ok target)
    (secondRouted : s.rows.route second.presented.kind second.presented.lookupId = .ok (.endpoint a))
    (locks : target.locked = some a.id) :
    let result := s.redeem hasher first
    ∃ a', FirstCommitted s result.1 result.2 a.id a' ∧
      (s.rows.loadByIdForUpdate result.1.rows a.id = .ok (some a') ↔ ¬first.Rotates hasher s.rows target a.id) ∧
      (¬first.Rotates hasher s.rows target a.id →
        s.redeemAfterWait hasher result.1 second = result.1.redeem hasher second) := by
  intro result
  obtain ⟨a',committed⟩ := firstCommits hasher projected firstRouted locks
  have unmoved := lookupsKept hasher projected firstRouted locks committed
  refine ⟨a',committed,
    (loadWaitedExact (routeEndpoint projected secondRouted) committed.stored committed.named).trans unmoved,fun still => ?_⟩
  have routed : s.rows.routeForUpdate result.1.rows second.presented.kind second.presented.lookupId =
      result.1.rows.route second.presented.kind second.presented.lookupId :=
    routeWaited projected committed secondRouted (unmoved.mpr still)
  unfold EndpointStore.redeemAfterWait
  rw [routed]
  rfl

/- An Endpoint whose chain is the enrollment credential 1 with the unconfirmed successor 2. -/
def unconfirmed : EndpointStore :=
  .reached plainHasher
    [.insertBootContext (credentialNumber .enrollment 1).lookupId
        (.ofBytesWithSalt plainHasher (credentialNumber .enrollment 1).secret (zeros 16)) 0 5 "signal" ⟨zeros 32⟩,
      .redeem ⟨credentialNumber .enrollment 1,credentialNumber .runtime 2,zeros 16,⟨0⟩,⟨0⟩,1,10⟩]

def successorPresented (fresh : UInt8) : RedeemRequest :=
  ⟨credentialNumber .runtime 2,credentialNumber .runtime fresh,zeros 16,⟨0⟩,⟨0⟩,2,10⟩

-- The lookup id of the successor with a wrong secret.
def successorGuessed : RedeemRequest :=
  { successorPresented 3 with presented := ⟨.runtime,(credentialNumber .runtime 2).lookupId,⟨zeros 32⟩⟩ }

theorem unconfirmedRouted : ∃ a, a.id = ⟨0⟩ ∧
    unconfirmed.rows.route .runtime (credentialNumber .runtime 2).lookupId = .ok (.endpoint a) ∧
    successorGuessed.accepted plainHasher (.endpoint a) = false := by
  refine ⟨_,?_,Eq.refl _,?_⟩ <;> decide +kernel

theorem waitingRedemptionSerialRejected :
    unconfirmed.redeemAfterWait plainHasher (unconfirmed.redeem plainHasher successorGuessed).1
        (successorPresented 4) =
      (unconfirmed.redeem plainHasher successorGuessed).1.redeem plainHasher (successorPresented 4) := by
  obtain ⟨a,_,routed,guessed⟩ := unconfirmedRouted
  obtain ⟨_,_,_,serial⟩ := waitingRedemptionSerial plainHasher unconfirmed (reachedProjected plainHasher _)
    successorGuessed (successorPresented 4) (.endpoint a) a routed routed rfl
  refine serial fun rotates => ?_
  rw [rotates.1.accepted] at guessed
  cases guessed

/- Two concurrent sessions present the successor: the first confirms it, and the second, which would be
accepted after the first, is rejected with the hashes of the new chain under the ids of the old one. -/
theorem waitingRedemptionRejected :
    let s' := (unconfirmed.redeem plainHasher (successorPresented 3)).1
    (unconfirmed.redeemAfterWait plainHasher s' (successorPresented 4)).2 = .ok .rejected ∧
      unconfirmed.rows.loadByIdForUpdate s'.rows ⟨0⟩ ≠ s'.rows.loadById ⟨0⟩ ∧
      ∃ redeemed, (s'.redeem plainHasher (successorPresented 4)).2 = .ok (.established redeemed) := by
  exact ⟨by decide +kernel,by decide +kernel,_,rfl⟩

end Waiting
end Bamep
