import Bamep.Library.Run
import Bamep.Store.EndpointRows

/-! Redemption of a presented credential, from routing to commit, and the other operations on Endpoints
and boot contexts. Each is one transaction; a decision reads only what its transaction has loaded. -/
namespace Bamep
open Relational

inductive RedemptionTarget where
  | endpoint (aggregate : EndpointAggregate)
  | unresolvedBootContext (context : BootContext) (candidate : Option EndpointAggregate)
  | unknownBootContext
  | unknownCredential
  deriving DecidableEq, Repr

-- The messages about an Endpoint end in its id, which is left out.
def EndpointRows.route (rows : EndpointRows) (kind : CredentialKind) (lookupId : CredentialLookupId) :
    Except RepositoryError RedemptionTarget :=
  match rows.lookups.rows.find? fun row => row.lookupId = lookupId with
  | some mapped =>
    match rows.loadById mapped.endpointId with
    | .error e => .error e
    | .ok none => .error (.backend "credential lookup mapping referenced missing endpoint")
    | .ok (some aggregate) => .ok (.endpoint aggregate)
  | none =>
    if kind = .runtime then .ok .unknownCredential
    else match rows.bootContexts.find? lookupId with
      | none => .ok .unknownBootContext
      | some context =>
        match context.resolvedEndpointId with
        | some resolvedId =>
          match rows.loadById resolvedId with
          | .error e => .error e
          | .ok none => .error (.backend "resolved boot context referenced missing endpoint")
          | .ok (some aggregate) => .ok (.endpoint aggregate)
        | none =>
          match rows.loadBySignal context.inventorySignal with
          | .error e => .error e
          | .ok candidate => .ok (.unresolvedBootContext context candidate)

structure RedeemRequest where
  presented : PresentedCredential
  fresh : PresentedCredential
  salt : Bytes 16
  endpointId : EndpointId
  eventId : EventId
  now : Instant
  ttl : Int
  deriving DecidableEq, Repr

def RedeemRequest.decide (hasher : CredentialHasher) (r : RedeemRequest) :
    RedemptionTarget → Except BootContextResolveError RedeemOutcome
  | .endpoint aggregate => .ok (redeemKnown hasher aggregate r.presented r.fresh r.salt r.now r.ttl)
  | .unresolvedBootContext context none =>
    firstContact hasher context r.presented r.fresh r.salt r.endpointId r.eventId r.now r.ttl
  | .unresolvedBootContext context (some candidate) =>
    genuineReboot hasher context candidate r.presented r.fresh r.salt r.now r.ttl
  | .unknownBootContext | .unknownCredential => .ok .rejected

inductive EndpointUpdateError where
  | notFound (id : EndpointId)
  | invalidTransition (error : InvalidIdentityTransition)
  | repository (error : RepositoryError)
  deriving DecidableEq, Repr

namespace EndpointStore
variable (s : EndpointStore)

def persistRedeemed (redeemed : Redeemed) : Option EndpointStore :=
  ((s.rows.persistTransition redeemed.endpoint).persistLookupProjection redeemed.endpoint.id
    redeemed.endpoint.credential).bind fun rows =>
      (rows.persistBootContextResolution redeemed.resolvedBootContext).commit

def redeem (hasher : CredentialHasher) (r : RedeemRequest) :
    EndpointStore × Except RepositoryError RedeemOutcome :=
  match s.rows.route r.presented.kind r.presented.lookupId with
  | .error e => (s,.error e)
  | .ok target =>
    match r.decide hasher target with
    | .error _ => (s,.error (.backend "boot context already resolved to a different endpoint"))
    | .ok .rejected => (s,.ok .rejected)
    | .ok (.established redeemed) =>
      if target = .unknownBootContext ∨ target = .unknownCredential then
        (s,.error (.backend
          "internal contract violation: decision accepted a redemption for an unknown target"))
      else match s.persistRedeemed redeemed with
        | none => (s,.error .database)
        | some s' => (s',.ok (.established redeemed))

def insertBootContext (context : BootContext) : EndpointStore × Except RepositoryError Unit :=
  match (s.rows.bootContexts.insert? context).bind fun table =>
      EndpointRows.commit { s.rows with bootContexts := table } with
  | none => (s,.error .database)
  | some s' => (s',.ok ())

def updateEndpoint (id : EndpointId)
    (decide : EndpointAggregate → Except InvalidIdentityTransition EndpointAggregate) :
    EndpointStore × Except EndpointUpdateError EndpointAggregate :=
  match s.rows.loadById id with
  | .error e => (s,.error (.repository e))
  | .ok none => (s,.error (.notFound id))
  | .ok (some aggregate) =>
    match decide aggregate with
    | .error invalid => (s,.error (.invalidTransition invalid))
    | .ok updated =>
      match (s.rows.persistTransition updated).commit with
      | none => (s,.error (.repository .database))
      | some s' => (s',.ok updated)

def approveEnrollment (id : EndpointId) (now : Instant) :
    EndpointStore × Except EndpointUpdateError EndpointAggregate :=
  s.updateEndpoint id fun aggregate => Bamep.approveEnrollment aggregate now

def revokeCredential (id : EndpointId) (now : Instant) :
    EndpointStore × Except EndpointUpdateError EndpointAggregate :=
  s.updateEndpoint id fun aggregate => .ok (Bamep.revokeCredential aggregate now)

def establishTrustedBootstrap (id : EndpointId) (nonce : BootNonce) :
    EndpointStore × Except EndpointUpdateError TrustedBootstrapOutcome :=
  match s.rows.loadById id with
  | .error e => (s,.error (.repository e))
  | .ok none => (s,.error (.notFound id))
  | .ok (some aggregate) =>
    match Bamep.establishTrustedBootstrap aggregate nonce with
    | .rejected => (s,.ok .rejected)
    | .established updated =>
      match (s.rows.persistTransition updated).commit with
      | none => (s,.error (.repository .database))
      | some s' => (s',.ok (.established updated))

def currentInventory (e : EndpointRow) : Option InventoryRevision :=
  e.currentInventoryRevisionId.bind fun revision => s.rows.inventoryRevisions.find? (e.id,revision)

def recordInventory (id : EndpointId) (observed : InventorySnapshot) (revisionId : InventoryRevisionId)
    (now : Instant) : EndpointStore × Except EndpointUpdateError (Option InventoryRevision) :=
  match s.rows.endpoints.find? id with
  | none => (s,.error (.notFound id))
  | some e =>
    match recordInventoryOnChange id (s.currentInventory e) observed revisionId now with
    | none => (s,.ok none)
    | some revision =>
      match (s.rows.inventoryRevisions.insert? revision).bind fun revisions => EndpointRows.commit { s.rows with
          inventoryRevisions := revisions
          endpoints := s.rows.endpoints.update id
            (fun row => { row with currentInventoryRevisionId := some revision.id }) fun _ => rfl } with
      | none => (s,.error (.repository .database))
      | some s' => (s',.ok (some revision))

end EndpointStore

inductive EndpointOp where
  | insertBootContext (id : CredentialLookupId) (verifier : CredentialHash) (issuedAt expiresAt : Instant)
      (signal : String) (nonce : BootNonce)
  | redeem (request : RedeemRequest)
  | approveEnrollment (id : EndpointId) (now : Instant)
  | revokeCredential (id : EndpointId) (now : Instant)
  | establishTrustedBootstrap (id : EndpointId) (nonce : BootNonce)
  | recordInventory (id : EndpointId) (observed : InventorySnapshot) (revisionId : InventoryRevisionId)
      (now : Instant)
  deriving DecidableEq, Repr

def EndpointStore.after (hasher : CredentialHasher) (s : EndpointStore) : EndpointOp → EndpointStore
  | .insertBootContext id verifier issuedAt expiresAt signal nonce =>
    (s.insertBootContext (.new id verifier issuedAt expiresAt signal nonce)).1
  | .redeem request => (s.redeem hasher request).1
  | .approveEnrollment id now => (s.approveEnrollment id now).1
  | .revokeCredential id now => (s.revokeCredential id now).1
  | .establishTrustedBootstrap id nonce => (s.establishTrustedBootstrap id nonce).1
  | .recordInventory id observed revisionId now => (s.recordInventory id observed revisionId now).1

/- The aggregate an operation commits, with the boot context it has resolved. -/
def EndpointStore.outcome (hasher : CredentialHasher) (s : EndpointStore) :
    EndpointOp → Option (EndpointAggregate × Option BootContext)
  | .redeem request =>
    match (s.redeem hasher request).2 with
    | .ok (.established redeemed) => some (redeemed.endpoint,redeemed.resolvedBootContext)
    | _ => none
  | .approveEnrollment id now => (s.approveEnrollment id now).2.toOption.map (·,none)
  | .revokeCredential id now => (s.revokeCredential id now).2.toOption.map (·,none)
  | .establishTrustedBootstrap id nonce =>
    match (s.establishTrustedBootstrap id nonce).2 with
    | .ok (.established updated) => some (updated,none)
    | _ => none
  | .insertBootContext .. | .recordInventory .. => none

inductive EndpointEffect (rows : EndpointRows) :
    EndpointOp → Option (EndpointAggregate × Option BootContext) → EndpointRows → Prop where
  | unchanged (op) : EndpointEffect rows op none rows
  | issued {op context table} (unresolved : context.resolvedEndpointId = none)
      (inserted : rows.bootContexts.insert? context = some table) :
      EndpointEffect rows op none { rows with bootContexts := table }
  | updated {op old a rows'} (stored : Stored rows old) (named : a.id = old.id)
      (boot : a.currentBoot = old.currentBoot) (persisted : Persisted rows rows' a)
      (contexts : rows'.bootContexts = rows.bootContexts) : EndpointEffect rows op (some (a,none)) rows'
  | trusted {old boot rows'} (stored : Stored rows old) (current : old.currentBoot = some boot)
      (persisted : Persisted rows rows' { old with currentBoot := some boot.establishTrustedBootstrap })
      (contexts : rows'.bootContexts = rows.bootContexts) :
      EndpointEffect rows (.establishTrustedBootstrap old.id boot.bootNonce)
        (some ({ old with currentBoot := some boot.establishTrustedBootstrap },none)) rows'
  | booted {request context a rows'} (known : context ∈ rows.bootContexts)
      (unresolved : context.resolvedEndpointId = none) (boot : a.currentBoot = some context.currentBoot)
      (persisted : Persisted rows rows' a) (contexts : rows'.bootContexts =
        rows.bootContexts.update context.bootContextId
          (fun row => { row with resolvedEndpointId := some a.id }) fun _ => rfl) :
      EndpointEffect rows (.redeem request)
        (some (a,some { context with resolvedEndpointId := some a.id })) rows'
  | recorded {op id revision rows'} (endpoints : rows'.endpoints = rows.endpoints.update id
        (fun row => { row with currentInventoryRevisionId := some revision }) fun _ => rfl)
      (credentials : rows'.credentials = rows.credentials) (lookups : rows'.lookups = rows.lookups)
      (contexts : rows'.bootContexts = rows.bootContexts) : EndpointEffect rows op none rows'

section Effects
variable {s : EndpointStore} {hasher : CredentialHasher}

theorem persistKept {rows old a} (stored : Stored rows old)
    (named : a.id = old.id) (slots : a.credential.lookupRows a.id = old.credential.lookupRows old.id) :
    Persisted rows (rows.persistTransition a) a := by
  refine ⟨rfl,rfl,fun l => ?_⟩
  show l ∈ rows.lookups ↔ _
  by_cases owner : l.endpointId = a.id
  · rw [stored.lookups l (owner.trans named),slots]
    exact ⟨.inr,fun mem => mem.resolve_left fun old => old.2 owner⟩
  · exact ⟨fun mem => .inl ⟨mem,owner⟩,fun mem => (mem.resolve_right fun new =>
      owner (lookupRowsOwner new)).1⟩

theorem persistRedeemedSome {redeemed s'}
    (ok : s.persistRedeemed redeemed = some s') : Persisted s.rows s'.rows redeemed.endpoint ∧
      s'.rows.bootContexts =
        (s.rows.persistBootContextResolution redeemed.resolvedBootContext).bootContexts := by
  obtain ⟨rows,projected,committed⟩ := Option.bind_eq_some_iff.mp ok
  obtain ⟨lookups,inserted,rfl⟩ := Option.map_eq_some_iff.mp projected
  have same := commitEndpointRows committed
  have mapped : ∀ l, l ∈ lookups ↔ l ∈ s.rows.lookups ∧ l.endpointId ≠ redeemed.endpoint.id ∨
      l ∈ redeemed.endpoint.credential.lookupRows redeemed.endpoint.id := by
    intro l
    rw [Table.memInsertAll inserted,Table.memRetain,decide_eq_true_iff]
    rfl
  rw [same]
  cases redeemed.resolvedBootContext with
  | none => exact ⟨⟨rfl,rfl,mapped⟩,rfl⟩
  | some context => exact ⟨⟨rfl,rfl,mapped⟩,rfl⟩

theorem routeEndpoint {rows} (projected : Projected rows) {kind lookupId a}
    (ok : rows.route kind lookupId = .ok (.endpoint a)) : Stored rows a := by
  unfold EndpointRows.route at ok
  split at ok
  · split at ok <;> try contradiction
    rename_i loaded
    cases ok
    exact (loadByIdSome projected loaded).1
  · split at ok
    · cases ok
    split at ok
    · cases ok
    split at ok
    · split at ok <;> try contradiction
      rename_i loaded
      cases ok
      exact (loadByIdSome projected loaded).1
    · split at ok <;> cases ok

theorem routeUnresolved {rows} (projected : Projected rows) {kind lookupId context candidate}
    (ok : rows.route kind lookupId = .ok (.unresolvedBootContext context candidate)) :
    context ∈ rows.bootContexts ∧ context.resolvedEndpointId = none ∧
      ∀ a ∈ candidate, Stored rows a := by
  unfold EndpointRows.route at ok
  split at ok
  · split at ok <;> cases ok
  · split at ok
    · cases ok
    split at ok
    · cases ok
    rename_i found
    split at ok
    · split at ok <;> cases ok
    · rename_i unresolved
      split at ok
      · cases ok
      · rename_i loaded
        cases ok
        refine ⟨(Table.findIff.mp found).1,unresolved,fun a present => ?_⟩
        rw [Option.mem_def] at present
        subst present
        exact (loadBySignalSome projected loaded).1

theorem bootedEffect {request context redeemed s'} (known : context ∈ s.rows.bootContexts)
    (boots : Boots hasher context request.presented request.fresh request.salt request.now request.ttl redeemed)
    (boot : redeemed.endpoint.currentBoot = some context.currentBoot)
    (persisted : s.persistRedeemed redeemed = some s') :
    EndpointEffect s.rows (.redeem request) (some (redeemed.endpoint,redeemed.resolvedBootContext)) s'.rows := by
  obtain ⟨rows,contexts⟩ := persistRedeemedSome persisted
  rw [boots.resolves] at contexts ⊢
  exact .booted known boots.unresolved boot rows contexts

theorem redeemEffect (projected : Projected s.rows) (request : RedeemRequest) :
    EndpointEffect s.rows (.redeem request) (s.outcome hasher (.redeem request))
      (s.redeem hasher request).1.rows := by
  unfold EndpointStore.outcome
  simp only
  generalize answer : s.redeem hasher request = result
  unfold EndpointStore.redeem at answer
  split at answer
  · subst answer; exact .unchanged _
  rename_i target routed
  split at answer
  · subst answer; exact .unchanged _
  · subst answer; exact .unchanged _
  rename_i redeemed decided
  split at answer
  · subst answer; exact .unchanged _
  split at answer
  · subst answer; exact .unchanged _
  rename_i s' persisted
  subst answer
  cases target with
  | endpoint a =>
    have stored := routeEndpoint projected routed
    obtain ⟨resolves,kept⟩ := redeemKnownKeeps (Except.ok.inj decided)
    obtain ⟨rows,contexts⟩ := persistRedeemedSome persisted
    simp only [resolves] at contexts ⊢
    exact .updated stored (by rw [kept]) (by rw [kept]) rows contexts
  | unresolvedBootContext context candidate =>
    obtain ⟨known,_,_⟩ := routeUnresolved projected routed
    cases candidate with
    | none =>
      exact bootedEffect known (firstContactEstablished decided) (firstContactBoot decided) persisted
    | some a =>
      exact bootedEffect known (genuineRebootEstablished decided).1 (genuineRebootBoot decided) persisted
  | unknownBootContext => cases decided
  | unknownCredential => cases decided

theorem updateEffect (projected : Projected s.rows) {op} (id : EndpointId)
    (decide : EndpointAggregate → Except InvalidIdentityTransition EndpointAggregate)
    (keeps : ∀ old a, decide old = .ok a → a.id = old.id ∧ a.currentBoot = old.currentBoot ∧
      a.credential.lookupRows a.id = old.credential.lookupRows old.id) :
    EndpointEffect s.rows op ((s.updateEndpoint id decide).2.toOption.map (·,none))
      (s.updateEndpoint id decide).1.rows := by
  unfold EndpointStore.updateEndpoint
  split
  · exact .unchanged _
  · exact .unchanged _
  rename_i old loaded
  obtain ⟨stored,_⟩ := loadByIdSome projected loaded
  split
  · exact .unchanged _
  rename_i a decided
  obtain ⟨named,boot,slots⟩ := keeps old a decided
  split
  · exact .unchanged _
  rename_i s' committed
  have persisted := persistKept stored named slots
  rw [← commitEndpointRows committed] at persisted
  exact .updated stored named boot persisted (by rw [commitEndpointRows committed]; rfl)

theorem trustEffect (projected : Projected s.rows) (id : EndpointId) (nonce : BootNonce) :
    EndpointEffect s.rows (.establishTrustedBootstrap id nonce)
      (s.outcome hasher (.establishTrustedBootstrap id nonce)) (s.establishTrustedBootstrap id nonce).1.rows := by
  unfold EndpointStore.outcome
  simp only
  generalize answer : s.establishTrustedBootstrap id nonce = result
  unfold EndpointStore.establishTrustedBootstrap at answer
  split at answer
  · subst answer; exact .unchanged _
  · subst answer; exact .unchanged _
  rename_i old loaded
  obtain ⟨stored,rfl⟩ := loadByIdSome projected loaded
  split at answer
  · subst answer; exact .unchanged _
  rename_i a decided
  split at answer
  · subst answer; exact .unchanged _
  rename_i s' committed
  subst answer
  obtain ⟨boot,current,rfl,rfl⟩ := trustedBootstrapEstablished decided
  have persisted := persistKept
    (a := { old with currentBoot := some boot.establishTrustedBootstrap }) stored rfl rfl
  rw [← commitEndpointRows committed] at persisted
  exact .trusted stored current persisted (by rw [commitEndpointRows committed]; rfl)

theorem recordEffect {op} (id : EndpointId) (observed : InventorySnapshot)
    (revisionId : InventoryRevisionId) (now : Instant) :
    EndpointEffect s.rows op none (s.recordInventory id observed revisionId now).1.rows := by
  unfold EndpointStore.recordInventory
  split
  · exact .unchanged _
  split
  · exact .unchanged _
  split
  · exact .unchanged _
  rename_i s' committed
  obtain ⟨table,_,committed⟩ := Option.bind_eq_some_iff.mp committed
  rw [commitEndpointRows committed]
  exact .recorded rfl rfl rfl rfl

theorem endpointEffect (projected : Projected s.rows) (op : EndpointOp) :
    EndpointEffect s.rows op (s.outcome hasher op) (s.after hasher op).rows := by
  cases op with
  | insertBootContext id verifier issuedAt expiresAt signal nonce =>
    unfold EndpointStore.after EndpointStore.insertBootContext
    simp only
    split
    · exact .unchanged _
    rename_i s' committed
    obtain ⟨table,inserted,committed⟩ := Option.bind_eq_some_iff.mp committed
    rw [commitEndpointRows committed]
    exact .issued rfl inserted
  | redeem request => exact redeemEffect projected request
  | approveEnrollment id now =>
    refine updateEffect projected id _ fun old a decided => ?_
    unfold Bamep.approveEnrollment at decided
    cases approved : old.identity.approve with
    | error e => rw [approved] at decided; cases decided
    | ok identity => rw [approved] at decided; cases decided; exact ⟨rfl,rfl,rfl⟩
  | revokeCredential id now =>
    refine updateEffect projected id _ fun old a decided => ?_
    cases decided
    exact ⟨rfl,rfl,rfl⟩
  | establishTrustedBootstrap id nonce => exact trustEffect projected id nonce
  | recordInventory id observed revisionId now => exact recordEffect id observed revisionId now

end Effects
end Bamep
