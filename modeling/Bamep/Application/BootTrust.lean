import Bamep.Application.Redemption

/-! What a history of redemptions, approvals, revocations and trusted bootstraps leaves in the store. A
boot context is spent by the one redemption that resolves it, and the trust of a boot is established
with the nonce of the context that began it. -/
namespace Bamep
open Relational Transition

/- Where an aggregate that is stored after an operation comes from. -/
inductive Origin (rows : EndpointRows) : EndpointOp → Option (EndpointAggregate × Option BootContext) →
    EndpointAggregate → Prop where
  | kept {op outcome b} (stored : Stored rows b) (other : ∀ a r, outcome = some (a,r) → a.id ≠ b.id) :
      Origin rows op outcome b
  | updated {op a b old} (stored : Stored rows old) (named : a.id = old.id)
      (boot : a.currentBoot = old.currentBoot)
      (same : b = { a with inventorySignal := b.inventorySignal, createdAt := b.createdAt }) :
      Origin rows op (some (a,none)) b
  | trusted {a b old boot} (stored : Stored rows old) (current : old.currentBoot = some boot)
      (named : a.id = old.id) (trusts : a.currentBoot = some boot.establishTrustedBootstrap)
      (same : b = { a with inventorySignal := b.inventorySignal, createdAt := b.createdAt }) :
      Origin rows (.establishTrustedBootstrap old.id boot.bootNonce) (some (a,none)) b
  | booted {request a b context} (boot : a.currentBoot = some (BootContext.currentBoot context))
      (same : b = { a with inventorySignal := b.inventorySignal, createdAt := b.createdAt }) :
      Origin rows (.redeem request) (some (a,some { context with resolvedEndpointId := some a.id })) b

section Stores
variable {rows rows' : EndpointRows} {b : EndpointAggregate} {op : EndpointOp}
  {outcome : Option (EndpointAggregate × Option BootContext)}

theorem recordedRow {id revision}
    (endpoints : rows'.endpoints = rows.endpoints.update id
      (fun row => { row with currentInventoryRevisionId := some revision }) fun _ => rfl)
    (a : EndpointAggregate) :
    (∃ revision, a.row revision ∈ rows'.endpoints) ↔ ∃ revision, a.row revision ∈ rows.endpoints := by
  rw [endpoints]
  constructor
  · rintro ⟨current,mem⟩
    rcases (Table.memUpdate (by exact fun _ => rfl)).mp mem with ⟨old,_⟩ | ⟨old,present,_,same⟩
    · exact ⟨current,old⟩
    · refine ⟨old.currentInventoryRevisionId,?_⟩
      have equal : a.row old.currentInventoryRevisionId = old := by
        cases old
        cases same
        rfl
      rwa [equal]
  · rintro ⟨current,mem⟩
    by_cases named : a.id = id
    · exact ⟨some revision,(Table.memUpdate (by exact fun _ => rfl)).mpr (.inr ⟨_,mem,named,rfl⟩)⟩
    · exact ⟨current,(Table.memUpdate (by exact fun _ => rfl)).mpr (.inl ⟨mem,named⟩)⟩

theorem recordedStored {id revision}
    (endpoints : rows'.endpoints = rows.endpoints.update id
      (fun row => { row with currentInventoryRevisionId := some revision }) fun _ => rfl)
    (credentials : rows'.credentials = rows.credentials) (lookups : rows'.lookups = rows.lookups) :
    Stored rows' b ↔ Stored rows b := by
  constructor
  · rintro ⟨endpoint,credential,mapped⟩
    exact ⟨(recordedRow endpoints b).mp endpoint,credentials ▸ credential,lookups ▸ mapped⟩
  · rintro ⟨endpoint,credential,mapped⟩
    exact ⟨(recordedRow endpoints b).mpr endpoint,credentials ▸ credential,lookups ▸ mapped⟩

theorem persistedOrigin {a r} (persisted : Persisted rows rows' a)
    (stored : Stored rows' b)
    (self : b = { a with inventorySignal := b.inventorySignal, createdAt := b.createdAt } →
      Origin rows op (some (a,r)) b) : Origin rows op (some (a,r)) b := by
  by_cases own : b.id = a.id
  · obtain ⟨c,present,same,_⟩ := persistedSelf persisted
    have named : c.id = a.id := by rw [same]
    cases storedUnique stored present (own.trans named.symm)
    exact self same
  · refine .kept ((persistedOther persisted own).mp stored) fun x _ equal => ?_
    cases equal
    exact Ne.symm own

theorem effectOrigin (effect : EndpointEffect rows op outcome rows') (stored : Stored rows' b) :
    Origin rows op outcome b := by
  cases effect with
  | unchanged => exact .kept stored (by rintro _ _ ⟨⟩)
  | issued => exact .kept ⟨stored.endpoint,stored.credential,stored.lookups⟩ (by rintro _ _ ⟨⟩)
  | updated old named boot persisted contexts =>
    exact persistedOrigin persisted stored fun same => .updated old named boot same
  | trusted old current persisted contexts =>
    exact persistedOrigin persisted stored fun same => .trusted old current rfl rfl same
  | booted known unresolved boot persisted contexts =>
    exact persistedOrigin persisted stored fun same => .booted boot same
  | recorded endpoints credentials lookups contexts =>
    exact .kept ((recordedStored endpoints credentials lookups).mp stored) (by rintro _ _ ⟨⟩)

theorem originOther (origin : Origin rows op outcome b)
    (other : ∀ a r, outcome = some (a,r) → a.id ≠ b.id) : Stored rows b := by
  cases origin with
  | kept stored _ => exact stored
  | updated _ _ _ same => exact (other _ _ rfl (congrArg EndpointAggregate.id same).symm).elim
  | trusted _ _ _ _ same => exact (other _ _ rfl (congrArg EndpointAggregate.id same).symm).elim
  | booted _ same => exact (other _ _ rfl (congrArg EndpointAggregate.id same).symm).elim

theorem effectStored (effect : EndpointEffect rows op outcome rows') (stored : Stored rows b)
    (other : ∀ a r, outcome = some (a,r) → a.id ≠ b.id) : Stored rows' b := by
  cases effect with
  | unchanged => exact stored
  | issued => exact ⟨stored.endpoint,stored.credential,stored.lookups⟩
  | updated old named boot persisted contexts =>
    exact (persistedOther persisted (Ne.symm (other _ _ rfl))).mpr stored
  | trusted old current persisted contexts =>
    exact (persistedOther persisted (Ne.symm (other _ _ rfl))).mpr stored
  | booted known unresolved boot persisted contexts =>
    exact (persistedOther persisted (Ne.symm (other _ _ rfl))).mpr stored
  | recorded endpoints credentials lookups contexts =>
    exact (recordedStored endpoints credentials lookups).mpr stored

theorem effectCommitted {a r}
    (effect : EndpointEffect rows op (some (a,r)) rows') : ∃ b, Stored rows' b ∧
      b = { a with inventorySignal := b.inventorySignal, createdAt := b.createdAt } := by
  have persisted : Persisted rows rows' a := by cases effect <;> assumption
  obtain ⟨b,stored,same,_⟩ := persistedSelf persisted
  exact ⟨b,stored,same⟩

theorem effectProjected (projected : Projected rows) (effect : EndpointEffect rows op outcome rows') :
    Projected rows' := by
  cases effect with
  | unchanged => exact projected
  | issued =>
    intro e mem
    obtain ⟨a,stored,same⟩ := projected e mem
    exact ⟨a,⟨stored.endpoint,stored.credential,stored.lookups⟩,same⟩
  | updated old named boot persisted contexts => exact persistedProjected projected persisted
  | trusted old current persisted contexts => exact persistedProjected projected persisted
  | booted known unresolved boot persisted contexts => exact persistedProjected projected persisted
  | recorded endpoints credentials lookups contexts =>
    intro e mem
    rw [endpoints] at mem
    obtain ⟨old,present,named⟩ : ∃ old ∈ rows.endpoints, old.id = e.id := by
      rcases (Table.memUpdate (by exact fun _ => rfl)).mp mem with ⟨old,_⟩ | ⟨old,present,_,rfl⟩
      · exact ⟨e,old,rfl⟩
      · exact ⟨old,present,rfl⟩
    obtain ⟨a,stored,same⟩ := projected old present
    exact ⟨a,(recordedStored endpoints credentials lookups).mpr stored,same.trans named⟩

theorem effectResolved (effect : EndpointEffect rows op outcome rows') {c}
    (mem : c ∈ rows.bootContexts) (resolved : c.resolvedEndpointId ≠ none) : c ∈ rows'.bootContexts := by
  cases effect with
  | unchanged => exact mem
  | issued fresh inserted => exact (Table.memInsert inserted).mpr (.inl mem)
  | updated old named boot persisted contexts => exact contexts ▸ mem
  | trusted old current persisted contexts => exact contexts ▸ mem
  | booted known unresolved boot persisted contexts =>
    rw [contexts]
    refine (Table.memUpdate (by exact fun _ => rfl)).mpr (.inl ⟨mem,fun same => resolved ?_⟩)
    rw [Table.eqOfKey mem known same,unresolved]
  | recorded endpoints credentials lookups contexts => exact contexts ▸ mem

theorem effectResolves {a resolved}
    (effect : EndpointEffect rows op (some (a,some resolved)) rows') :
    resolved ∈ rows'.bootContexts ∧ ∃ context ∈ rows.bootContexts, context.resolvedEndpointId = none ∧
      resolved = { context with resolvedEndpointId := some a.id } := by
  cases effect with
  | @booted request context _ _ known unresolved boot persisted contexts =>
    refine ⟨?_,context,known,unresolved,rfl⟩
    rw [contexts]
    exact (Table.memUpdate (by exact fun _ => rfl)).mpr (.inr ⟨context,known,rfl,rfl⟩)

end Stores

namespace EndpointStore

def reached (hasher : CredentialHasher) (ops : List EndpointOp) : EndpointStore :=
  run (after hasher) empty ops

def Boots (hasher : CredentialHasher) (id : EndpointId) (s : EndpointStore) (op : EndpointOp) : Prop :=
  ∃ a context, s.outcome hasher op = some (a,some context) ∧ a.id = id

end EndpointStore

/- `context` began the most recent boot of the Endpoint, and `later` is what came after. -/
def LastBoot (hasher : CredentialHasher) (ops : List EndpointOp) (id : EndpointId) (context : BootContext)
    (later : List EndpointOp) : Prop :=
  ∃ before request a, ops = before ++ .redeem request :: later ∧
    (EndpointStore.reached hasher before).outcome hasher (.redeem request) = some (a,some context) ∧
    a.id = id ∧ Meets (EndpointStore.after hasher) (fun s op => ¬ s.Boots hasher id op)
      (EndpointStore.reached hasher (before ++ [.redeem request])) later

def TrustExplained (hasher : CredentialHasher) (ops : List EndpointOp) (a : EndpointAggregate) : Prop :=
  ∀ boot, a.currentBoot = some boot → ∃ context later, LastBoot hasher ops a.id context later ∧
    boot.bootNonce = context.bootNonce ∧ (boot.trustedBootstrap = .established →
      .establishTrustedBootstrap a.id context.bootNonce ∈ later)

section History
variable {hasher : CredentialHasher} {ops : List EndpointOp}

theorem reachedProjected (hasher : CredentialHasher) (ops : List EndpointOp) :
    Projected (EndpointStore.reached hasher ops).rows :=
  @runAlways _ _ (EndpointStore.after hasher) (fun s => Projected s.rows)
    (fun _ op projected => effectProjected projected (endpointEffect projected op)) .empty nofun ops

theorem lastBootExtends {id context later op}
    (last : LastBoot hasher ops id context later)
    (quiet : ¬ (EndpointStore.reached hasher ops).Boots hasher id op) :
    LastBoot hasher (ops ++ [op]) id context (later ++ [op]) := by
  obtain ⟨before,request,a,rfl,outcome,named,latest⟩ := last
  refine ⟨before,request,a,by simp,outcome,named,meetsAppend.mpr ⟨latest,?_,trivial⟩⟩
  unfold EndpointStore.reached at quiet ⊢
  rwa [← runAppend,List.append_assoc]

theorem trustExplainedStep {a op}
    (explained : ∀ a, Stored (EndpointStore.reached hasher ops).rows a → TrustExplained hasher ops a)
    (origin : Origin (EndpointStore.reached hasher ops).rows op
      ((EndpointStore.reached hasher ops).outcome hasher op) a) :
    TrustExplained hasher (ops ++ [op]) a := by
  intro boot current
  generalize committed : (EndpointStore.reached hasher ops).outcome hasher op = outcome at origin
  have quiet : ∀ x, outcome = some (x,none) → ¬ (EndpointStore.reached hasher ops).Boots hasher a.id op := by
    rintro x none ⟨y,context,some',_⟩
    rw [committed,none] at some'
    cases some'
  cases origin with
  | kept stored other =>
    obtain ⟨context,later,last,nonce,trusts⟩ := explained a stored boot current
    refine ⟨context,later ++ [op],lastBootExtends last ?_,nonce,fun trusted =>
      List.mem_append_left _ (trusts trusted)⟩
    rintro ⟨x,context,outcome,named⟩
    exact other x _ (committed.symm.trans outcome) named
  | @updated _ x _ old stored named kept same =>
    have id : a.id = old.id := by rw [same]; exact named
    rw [same] at current
    obtain ⟨context,later,last,nonce,trusts⟩ := explained old stored boot (kept.symm.trans current)
    rw [id] at quiet ⊢
    exact ⟨context,later ++ [op],lastBootExtends last (quiet _ rfl),nonce,fun trusted =>
      List.mem_append_left _ (trusts trusted)⟩
  | @trusted x _ old first stored started named trusts same =>
    have id : a.id = old.id := by rw [same]; exact named
    rw [same] at current
    cases trusts.symm.trans current
    obtain ⟨context,later,last,nonce,_⟩ := explained old stored first started
    rw [id] at quiet ⊢
    refine ⟨context,later ++ [_],lastBootExtends last (quiet _ rfl),nonce,fun _ => ?_⟩
    rw [nonce]
    exact List.mem_append_right _ List.mem_cons_self
  | @booted request x _ context began same =>
    have id : a.id = x.id := by rw [same]
    rw [same] at current
    cases began.symm.trans current
    exact ⟨_,[],⟨ops,request,x,rfl,committed,id.symm,trivial⟩,rfl,nofun⟩

theorem trustExplained (hasher : CredentialHasher) (ops : List EndpointOp) {a}
    (stored : Stored (EndpointStore.reached hasher ops).rows a) : TrustExplained hasher ops a := by
  refine @runHistory _ _ (EndpointStore.after hasher) .empty
    (fun ops s => ∀ a, Stored s.rows a → TrustExplained hasher ops a) ?_ ?_ ops a stored
  · rintro a ⟨⟨_,present⟩,_⟩
    cases present
  · intro past op explained a stored
    exact trustExplainedStep explained (effectOrigin (endpointEffect (reachedProjected hasher past) op) stored)

theorem resolvedStays {context}
    (mem : context ∈ (EndpointStore.reached hasher ops).rows.bootContexts)
    (resolved : context.resolvedEndpointId ≠ none) (later : List EndpointOp) :
    context ∈ (EndpointStore.reached hasher (ops ++ later)).rows.bootContexts := by
  unfold EndpointStore.reached
  rw [runAppend]
  refine (@runAlways _ _ (EndpointStore.after hasher)
    (fun s => Projected s.rows ∧ context ∈ s.rows.bootContexts) ?_ _ ⟨reachedProjected hasher ops,mem⟩ later).2
  rintro s op ⟨projected,mem⟩
  have effect := @endpointEffect s hasher projected op
  exact ⟨effectProjected projected effect,effectResolved effect mem resolved⟩

theorem resolvesOnce {a b op op' resolved again}
    (first : (EndpointStore.reached hasher ops).outcome hasher op = some (a,some resolved))
    (later : List EndpointOp) (second : (EndpointStore.reached hasher (ops ++ op :: later)).outcome hasher op' =
      some (b,some again)) : again.bootContextId ≠ resolved.bootContextId := by
  have effect := @endpointEffect _ hasher (reachedProjected hasher ops) op
  have effect' := @endpointEffect _ hasher (reachedProjected hasher (ops ++ op :: later)) op'
  rw [first] at effect
  rw [second] at effect'
  obtain ⟨mem,context,_,_,rfl⟩ := effectResolves effect
  obtain ⟨_,context',known,unresolved,rfl⟩ := effectResolves effect'
  have here : EndpointStore.after hasher (EndpointStore.reached hasher ops) op =
      EndpointStore.reached hasher (ops ++ [op]) := by
    unfold EndpointStore.reached
    rw [runAppend]
    rfl
  rw [here] at mem
  have still := resolvedStays mem (Option.some_ne_none _) later
  rw [List.append_assoc] at still
  intro same
  rw [Table.eqOfKey known still same] at unresolved
  cases unresolved

theorem loadByIdCases {rows} (projected : Projected rows) (id : EndpointId) :
    (∃ a, Stored rows a ∧ a.id = id ∧ rows.loadById id = .ok (some a)) ∨
      (∀ a, Stored rows a → a.id ≠ id) ∧ rows.loadById id = .ok none := by
  cases found : rows.endpoints.find? id with
  | some e =>
    obtain ⟨mem,named⟩ := Table.findIff.mp found
    obtain ⟨a,stored,same⟩ := projected e mem
    exact .inl ⟨a,stored,same.trans named,(same.trans named) ▸ storedLoads stored⟩
  | none =>
    refine .inr ⟨fun a stored same => ?_,by unfold EndpointRows.loadById; rw [found]⟩
    obtain ⟨revision,mem⟩ := stored.endpoint
    have present : rows.endpoints.find? id = some _ := Table.findIff.mpr ⟨mem,same⟩
    rw [found] at present
    cases present

theorem effectLoads {s : EndpointStore} (projected : Projected s.rows) (op : EndpointOp) (id : EndpointId)
    (other : ∀ a r, s.outcome hasher op = some (a,r) → a.id ≠ id) :
    (s.after hasher op).rows.loadById id = s.rows.loadById id := by
  have effect := @endpointEffect s hasher projected op
  rcases loadByIdCases projected id with ⟨a,stored,rfl,loads⟩ | ⟨absent,loads⟩
  · rw [loads,storedLoads (effectStored effect stored other)]
  · rcases loadByIdCases (effectProjected projected effect) id with ⟨a,stored,rfl,_⟩ | ⟨_,loads'⟩
    · exact absurd rfl (absent a (originOther (effectOrigin effect stored) other))
    · rw [loads,loads']

end History

structure BootLaws (hasher : CredentialHasher) (ops : List EndpointOp) (s : EndpointStore) : Prop where
  resolvedOnce : ∀ context ∈ s.rows.bootContexts, context.resolvedEndpointId ≠ none → ∀ later,
    (run (EndpointStore.after hasher) s later).rows.bootContexts.find? context.bootContextId = some context
  resolves : ∀ op a resolved, s.outcome hasher op = some (a,some resolved) →
    ∃ context ∈ s.rows.bootContexts, context.resolvedEndpointId = none ∧
      resolved = { context with resolvedEndpointId := some a.id } ∧
      resolved ∈ (s.after hasher op).rows.bootContexts
  establishesOnce : ∀ op a resolved, s.outcome hasher op = some (a,some resolved) → ∀ later op' b again,
    (run (EndpointStore.after hasher) s (op :: later)).outcome hasher op' = some (b,some again) →
      again.bootContextId ≠ resolved.bootContextId
  onePerSignal : ∀ e ∈ s.rows.endpoints, ∀ e' ∈ s.rows.endpoints, e.inventorySignal = e'.inventorySignal → e = e'
  mapped : ∀ e ∈ s.rows.endpoints, ∃ a, s.rows.loadById e.id = .ok (some a) ∧
    ∀ l : LookupRow, l.endpointId = e.id → (l ∈ s.rows.lookups ↔ l ∈ a.credential.lookupRows e.id)
  unambiguous : ∀ l ∈ s.rows.lookups, ∀ l' ∈ s.rows.lookups, l.lookupId = l'.lookupId → l = l'
  -- The loaded aggregate is the one last committed; an upsert keeps the signal and creation time of its row.
  committed : ∀ op a r, s.outcome hasher op = some (a,r) →
    ∃ b, (s.after hasher op).rows.loadById a.id = .ok (some b) ∧
      b = { a with inventorySignal := b.inventorySignal, createdAt := b.createdAt }
  untouched : ∀ op id, (∀ a r, s.outcome hasher op = some (a,r) → a.id ≠ id) →
    (s.after hasher op).rows.loadById id = s.rows.loadById id
  trusted : ∀ id a boot, s.rows.loadById id = .ok (some a) → a.currentBoot = some boot →
    boot.trustedBootstrap = .established → ∃ context later, LastBoot hasher ops id context later ∧
      .establishTrustedBootstrap id context.bootNonce ∈ later

theorem bootContextsSpentOnce (hasher : CredentialHasher) (ops : List EndpointOp) :
    BootLaws hasher ops (EndpointStore.reached hasher ops) := by
  have projected := reachedProjected hasher ops
  refine ⟨?_,?_,?_,(EndpointStore.reached hasher ops).valid.signalUnique,?_,
    (EndpointStore.reached hasher ops).valid.lookupUnique,?_,fun op id => effectLoads projected op id,?_⟩
  · intro context mem resolved later
    have stays := resolvedStays mem resolved later
    unfold EndpointStore.reached at stays ⊢
    rw [runAppend] at stays
    exact Table.findIff.mpr ⟨stays,rfl⟩
  · intro op a resolved outcome
    have effect := @endpointEffect _ hasher projected op
    rw [outcome] at effect
    obtain ⟨mem,context,known,unresolved,same⟩ := effectResolves effect
    exact ⟨context,known,unresolved,same,mem⟩
  · intro op a resolved first later op' b again second
    unfold EndpointStore.reached at second
    rw [← runAppend] at second
    exact resolvesOnce first later second
  · intro e mem
    obtain ⟨a,stored,same⟩ := projected e mem
    rw [← same]
    exact ⟨a,storedLoads stored,stored.lookups⟩
  · intro op a r outcome
    have effect := @endpointEffect _ hasher projected op
    rw [outcome] at effect
    obtain ⟨b,stored,same⟩ := effectCommitted effect
    have named : b.id = a.id := by rw [same]
    exact ⟨b,named ▸ storedLoads stored,same⟩
  · intro id a boot loads current established
    obtain ⟨stored,rfl⟩ := loadByIdSome projected loads
    obtain ⟨context,later,last,_,trusts⟩ := trustExplained hasher ops stored boot current
    exact ⟨context,later,last,trusts established⟩

end Bamep
