import Bamep.Application.Enrollment

/-! What a credential can do over the whole history of an Endpoint. A slot enters the chain once, from
a fresh successor or from a boot context that the same step resolves, and keeps its expiry. -/
namespace Bamep
open Relational Transition

def Hashes (hasher : CredentialHasher) (lookupId : CredentialLookupId) (hash : CredentialHash)
    (c : PresentedCredential) : Prop :=
  lookupId = c.lookupId ∧ ∃ salt, hash = .ofBytesWithSalt hasher c.secret salt

def Enrollment.Fresh (e : Enrollment) (op : EnrollmentOp) : Prop :=
  ∀ c ∈ op.generated, ∀ known ∈ e.generated, known.lookupId ≠ c.lookupId

instance (e : Enrollment) (op : EnrollmentOp) : Decidable (e.Fresh op) := by
  unfold Enrollment.Fresh
  infer_instance

def Enrollment.holds (hasher : CredentialHasher) (e : Enrollment) (c : PresentedCredential) : Prop :=
  ∃ slot ∈ e.slots, slot.lookupId = c.lookupId ∧ slot.hash.verifyBytes hasher c.secret = true

instance (hasher : CredentialHasher) (e : Enrollment) (c : PresentedCredential) :
    Decidable (e.holds hasher c) := by
  unfold Enrollment.holds
  infer_instance

def SameCredential (c d : PresentedCredential) : Prop := c.lookupId = d.lookupId ∧ c.secret = d.secret

section Origins
variable {hasher : CredentialHasher} {e : Enrollment}

inductive Installed (hasher : CredentialHasher) (e e' : Enrollment) (r : Redemption) (slot : CredentialSlot) :
    Prop where
  | successor (named : slot.lookupId = r.fresh.lookupId)
      (hashed : slot.hash = .ofBytesWithSalt hasher r.fresh.secret r.salt)
  | enrolled {context} (known : context ∈ e.bootContexts) (unresolved : context.resolvedEndpointId = none)
      (named : slot.lookupId = context.bootContextId) (hashed : slot.hash = context.verifier)
      (resolved : ∀ context' ∈ e'.bootContexts, context'.bootContextId = context.bootContextId →
        context'.resolvedEndpointId ≠ none)

theorem memSlotsSome {aggregate slot}
    (existing : e.endpoint = some aggregate) : slot ∈ e.slots ↔ slot ∈ aggregate.credential.slots := by
  unfold Enrollment.slots
  rw [existing]

theorem slotsOf {e e' : Enrollment} (same : e'.endpoint = e.endpoint) : e'.slots = e.slots := by
  unfold Enrollment.slots
  rw [same]

theorem resolvedContexts {context : BootContext} {id row}
    (mem : row ∈ e.persistBootContextResolution (some { context with resolvedEndpointId := some id }))
    (same : row.bootContextId = context.bootContextId) : row.resolvedEndpointId ≠ none := by
  rcases (Table.memUpdate (by exact fun _ => rfl)).mp mem with ⟨-,other⟩ | ⟨old,-,-,rfl⟩
  · exact absurd same other
  · exact Option.some_ne_none id

theorem commitSlots {call r redeemed}
    (step : Redeems hasher e r redeemed call) {slot}
    (mem : slot ∈ ((e.passed (.redeem call r)).commit call redeemed).slots) :
    slot ∈ e.slots ∨ slot.expiresAt = e.clock + r.elapsed + r.ttl ∧
      Installed hasher e ((e.passed (.redeem call r)).commit call redeemed) r slot := by
  cases step with
  | @rotates aggregate old existing active present matched chain resolves =>
    rw [memSlotsSome rfl,chain] at mem
    rcases List.mem_cons.mp mem with rfl | new
    · exact .inl ((memSlotsSome existing).mpr present)
    · cases List.eq_of_mem_singleton new
      exact .inr ⟨rfl,.successor rfl rfl⟩
  | boots known boots distinct active =>
    by_cases kept : ((e.passed (.redeem call r)).commit call redeemed).endpoint = e.endpoint
    · exact .inl (slotsOf kept ▸ mem)
    have established :
        ((e.passed (.redeem call r)).commit call redeemed).endpoint = some redeemed.endpoint := by
      unfold Enrollment.commit at kept ⊢
      simp only at kept ⊢
      split
      · rename_i existing
        rw [existing] at kept
        exact absurd existing.symm kept
      · rfl
    rw [memSlotsSome established,boots.chain] at mem
    rcases List.mem_cons.mp mem with rfl | new
    · refine .inr ⟨rfl,.enrolled known boots.unresolved rfl rfl fun row present => ?_⟩
      unfold Enrollment.commit at present
      rw [boots.resolves] at present
      exact resolvedContexts present
    · cases List.eq_of_mem_singleton new
      exact .inr ⟨rfl,.successor rfl rfl⟩

theorem slotOrigin (op : EnrollmentOp) {slot} (mem : slot ∈ (e.after hasher op).slots) :
    slot ∈ e.slots ∨ ∃ call r, op = .redeem call r ∧ slot.expiresAt = e.clock + r.elapsed + r.ttl ∧
      Installed hasher e (e.after hasher op) r slot := by
  cases op with
  | issueEnrollmentCredential lookupId secret salt elapsed ttl signal nonce => exact .inl mem
  | revokeCredential elapsed =>
    left
    cases existing : e.endpoint with
    | none => simp [Enrollment.after,Enrollment.slots,existing] at mem
    | some aggregate =>
      simpa [Enrollment.after,Enrollment.slots,existing,revokeCredential,CredentialChain.revoke,
        CredentialChain.slots] using mem
  | redeem call r =>
    unfold Enrollment.after at mem ⊢
    simp only at mem ⊢
    split at mem
    · rename_i redeemed ok
      rcases commitSlots (redeems ok) mem with old | ⟨expires,installed⟩
      · exact .inl old
      · exact .inr ⟨call,r,rfl,expires,installed⟩
    · exact .inl mem

theorem contextOrigin (op : EnrollmentOp) {row} (mem : row ∈ (e.after hasher op).bootContexts) :
    (∃ old ∈ e.bootContexts, row.bootContextId = old.bootContextId ∧ row.verifier = old.verifier ∧
      (row.resolvedEndpointId = none → old.resolvedEndpointId = none)) ∨
    (∃ c ∈ op.generated, Hashes hasher row.bootContextId row.verifier c) ∧
      (e.after hasher op).endpoint = e.endpoint := by
  cases op with
  | revokeCredential elapsed => exact .inl ⟨row,mem,rfl,rfl,id⟩
  | issueEnrollmentCredential lookupId secret salt elapsed ttl signal nonce =>
    simp only [Enrollment.after,EnrollmentOp.elapsed] at mem
    cases inserted : e.bootContexts.insert? (BootContext.new lookupId (.ofBytesWithSalt hasher secret salt)
        (e.clock + elapsed) (e.clock + elapsed + ttl) signal nonce) with
    | none =>
      rw [inserted] at mem
      exact .inl ⟨row,mem,rfl,rfl,id⟩
    | some contexts =>
      rw [inserted] at mem
      rcases (Table.memInsert inserted).mp mem with old | rfl
      · exact .inl ⟨row,old,rfl,rfl,id⟩
      · exact .inr ⟨⟨_,List.mem_singleton_self _,rfl,salt,rfl⟩,rfl⟩
  | redeem call r =>
    left
    unfold Enrollment.after at mem
    simp only at mem
    split at mem
    · rename_i redeemed ok
      unfold Enrollment.commit at mem
      cases redeems ok with
      | rotates existing active present matched chain resolves =>
        rw [resolves] at mem
        exact ⟨row,mem,rfl,rfl,id⟩
      | boots known boots distinct active =>
        rw [boots.resolves] at mem
        rcases (Table.memUpdate (by exact fun _ => rfl)).mp mem with
          ⟨present,-⟩ | ⟨old,present,-,rfl⟩
        · exact ⟨row,present,rfl,rfl,id⟩
        · exact ⟨old,present,rfl,rfl,fun unresolved => absurd unresolved (Option.some_ne_none _)⟩
    · exact ⟨row,mem,rfl,rfl,id⟩

theorem afterGenerated (op : EnrollmentOp) :
    (e.after hasher op).generated = e.generated ++ op.generated := by
  unfold Enrollment.after
  cases op with
  | issueEnrollmentCredential => rfl
  | revokeCredential => rfl
  | redeem call r =>
    simp only
    split <;> rfl

theorem revokeRevokes (elapsed : Nat) {aggregate} (existing : e.endpoint = some aggregate) :
    (e.after hasher (.revokeCredential elapsed)).endpoint =
      some (revokeCredential aggregate (e.clock + elapsed)) := by
  unfold Enrollment.after
  rw [existing]
  rfl

theorem afterRevoked (op : EnrollmentOp) {aggregate}
    (existing : e.endpoint = some aggregate) (revoked : aggregate.credential.revoked = true) :
    ∃ aggregate', (e.after hasher op).endpoint = some aggregate' ∧ aggregate'.credential.revoked = true := by
  cases op with
  | issueEnrollmentCredential => exact ⟨aggregate,existing,revoked⟩
  | revokeCredential elapsed => exact ⟨_,revokeRevokes elapsed existing,rfl⟩
  | redeem call r =>
    unfold Enrollment.after
    simp only
    split
    · rename_i redeemed ok
      cases redeems ok with
      | rotates other active =>
        cases existing.symm.trans other
        rw [revoked] at active
        contradiction
      | boots known boots distinct active =>
        cases call with
        | firstContact => exact ⟨aggregate,by simp [Enrollment.commit,Enrollment.passed,existing],revoked⟩
        | redeemKnown => exact absurd rfl distinct
        | genuineReboot id =>
          have live := active aggregate existing ⟨id,rfl⟩
          rw [revoked] at live
          contradiction
    · exact ⟨aggregate,existing,revoked⟩

end Origins

section Tracing
variable {hasher : CredentialHasher} {e : Enrollment}

structure Traced (hasher : CredentialHasher) (e : Enrollment) : Prop where
  distinct : ∀ c ∈ e.generated, ∀ d ∈ e.generated, c.lookupId = d.lookupId → c = d
  contexts : ∀ context ∈ e.bootContexts, ∃ c ∈ e.generated,
    Hashes hasher context.bootContextId context.verifier c
  slots : ∀ slot ∈ e.slots, ∃ c ∈ e.generated, Hashes hasher slot.lookupId slot.hash c
  unredeemed : ∀ context ∈ e.bootContexts, context.resolvedEndpointId = none →
    ∀ slot ∈ e.slots, slot.lookupId ≠ context.bootContextId

theorem tracedStart (clock : Instant) : Traced hasher (.start clock) :=
  ⟨fun _ mem => absurd mem List.not_mem_nil,fun _ mem => absurd mem (Table.notMemEmpty _),
    fun _ mem => absurd mem List.not_mem_nil,fun _ mem => absurd mem (Table.notMemEmpty _)⟩

theorem generatedOne (op : EnrollmentOp) {c d} (left : c ∈ op.generated)
    (right : d ∈ op.generated) : c = d := by
  cases op with
  | issueEnrollmentCredential =>
    exact (List.eq_of_mem_singleton left).trans (List.eq_of_mem_singleton right).symm
  | redeem => exact (List.eq_of_mem_singleton left).trans (List.eq_of_mem_singleton right).symm
  | revokeCredential => exact absurd left List.not_mem_nil

theorem tracedAfter (op : EnrollmentOp) (traced : Traced hasher e) (fresh : e.Fresh op) :
    Traced hasher (e.after hasher op) := by
  have grows : ∀ {P : PresentedCredential → Prop}, (∃ c ∈ e.generated, P c) →
      ∃ c ∈ (e.after hasher op).generated, P c := by
    rintro P ⟨c,mem,holds⟩
    exact ⟨c,afterGenerated op ▸ List.mem_append_left _ mem,holds⟩
  have adds : ∀ {P : PresentedCredential → Prop}, (∃ c ∈ op.generated, P c) →
      ∃ c ∈ (e.after hasher op).generated, P c := by
    rintro P ⟨c,mem,holds⟩
    exact ⟨c,afterGenerated op ▸ List.mem_append_right _ mem,holds⟩
  refine ⟨?_,?_,?_,?_⟩
  · rw [afterGenerated]
    intro c memC d memD same
    rcases List.mem_append.mp memC with oldC | newC
    · rcases List.mem_append.mp memD with oldD | newD
      · exact traced.distinct c oldC d oldD same
      · exact absurd same (fresh d newD c oldC)
    · rcases List.mem_append.mp memD with oldD | newD
      · exact absurd same.symm (fresh c newC d oldD)
      · exact generatedOne op newC newD
  · intro row mem
    rcases contextOrigin op mem with ⟨old,present,named,hashed,-⟩ | ⟨issued,-⟩
    · rw [named,hashed]
      exact grows (traced.contexts old present)
    · exact adds issued
  · intro slot mem
    rcases slotOrigin op mem with old | ⟨call,r,rfl,-,installed⟩
    · exact grows (traced.slots slot old)
    · cases installed with
      | successor named hashed => exact adds ⟨r.fresh,List.mem_singleton_self _,named,r.salt,hashed⟩
      | enrolled known unresolved named hashed resolved =>
        rw [named,hashed]
        exact grows (traced.contexts _ known)
  · intro row mem unresolved slot memSlot same
    rcases contextOrigin op mem with ⟨old,present,named,-,wasOpen⟩ | ⟨⟨c,new,hashes,-⟩,still⟩
    · rcases slotOrigin op memSlot with oldSlot | ⟨call,r,rfl,-,installed⟩
      · exact traced.unredeemed old present (wasOpen unresolved) slot oldSlot (same.trans named)
      · cases installed with
        | successor byFresh _ =>
          obtain ⟨c,known,hashes,-⟩ := traced.contexts old present
          exact fresh r.fresh (List.mem_singleton_self _) c known
            (hashes.symm.trans (named.symm.trans (same.symm.trans byFresh)))
        | enrolled _ _ byContext _ resolved =>
          exact resolved row mem (same.symm.trans byContext) unresolved
    · rw [slotsOf still] at memSlot
      obtain ⟨d,known,hashesD,-⟩ := traced.slots slot memSlot
      exact fresh c new d known (hashesD.symm.trans (same.trans hashes))

theorem holdsGenerated {c} (traced : Traced hasher e) (holds : e.holds hasher c) :
    ∃ g ∈ e.generated, SameCredential g c := by
  obtain ⟨slot,mem,named,verifies⟩ := holds
  obtain ⟨g,known,hashes,salt,hashed⟩ := traced.slots slot mem
  rw [hashed,verifyHashed] at verifies
  exact ⟨g,known,hashes.symm.trans named,verifies.symm⟩

theorem holdsByName {c g} (traced : Traced hasher e) (known : g ∈ e.generated)
    (same : SameCredential g c) {slot} (mem : slot ∈ e.slots)
    (named : slot.lookupId = c.lookupId) : e.holds hasher c := by
  obtain ⟨d,knownD,hashes,salt,hashed⟩ := traced.slots slot mem
  cases traced.distinct d knownD g known (hashes.symm.trans (named.trans same.1.symm))
  exact ⟨slot,mem,named,by rw [hashed,verifyHashed]; exact same.2.symm⟩

end Tracing

section Lapse
variable {hasher : CredentialHasher} {e : Enrollment} {lookupId : CredentialLookupId} {deadline : Instant}

-- Nothing opens the named credential again, and a slot that still has it expires by the deadline.
structure Lapsing (e : Enrollment) (lookupId : CredentialLookupId) (deadline : Instant) : Prop where
  known : ∃ g ∈ e.generated, g.lookupId = lookupId
  redeemed : ∀ context ∈ e.bootContexts, context.bootContextId = lookupId → context.resolvedEndpointId ≠ none
  slots : ∀ slot ∈ e.slots, slot.lookupId = lookupId → slot.expiresAt ≤ deadline

theorem lapsingAfter (op : EnrollmentOp) (lapsing : Lapsing e lookupId deadline) (fresh : e.Fresh op) :
    Lapsing (e.after hasher op) lookupId deadline := by
  obtain ⟨g,known,rfl⟩ := lapsing.known
  refine ⟨⟨g,afterGenerated op ▸ List.mem_append_left _ known,rfl⟩,?_,?_⟩
  · intro row mem named unresolved
    rcases contextOrigin op mem with ⟨old,present,same,-,wasOpen⟩ | ⟨⟨c,new,hashes,-⟩,-⟩
    · exact lapsing.redeemed old present (same.symm.trans named) (wasOpen unresolved)
    · exact fresh c new g known (named.symm.trans hashes)
  · intro slot mem named
    rcases slotOrigin op mem with old | ⟨call,r,rfl,-,installed⟩
    · exact lapsing.slots slot old named
    · cases installed with
      | successor byFresh _ =>
        exact absurd (named.symm.trans byFresh) (fresh r.fresh (List.mem_singleton_self _) g known)
      | enrolled present unresolved byContext _ _ =>
        exact absurd unresolved (lapsing.redeemed _ present (byContext.symm.trans named))

theorem lapsingRun {later} (lapsing : Lapsing e lookupId deadline)
    (meets : Meets (Enrollment.after hasher) Enrollment.Fresh e later) :
    Lapsing (run (Enrollment.after hasher) e later) lookupId deadline := by
  have keeps : ∀ s op, Lapsing s lookupId deadline → s.Fresh op →
      Lapsing (s.after hasher op) lookupId deadline := fun s op held fresh => lapsingAfter op held fresh
  exact runInvariant keeps lapsing meets

theorem lapsedRejects {call r} (lapsing : Lapsing e lookupId deadline)
    (named : r.presented.lookupId = lookupId) (late : deadline ≤ e.clock + r.elapsed) :
    e.accepts hasher call r = false := by
  rw [← Bool.not_eq_true]
  intro accepted
  obtain ⟨redeemed,step⟩ := acceptsRedeems accepted
  cases step with
  | rotates existing active present matched chain resolves =>
    obtain ⟨valid,same,-⟩ := matchesAtIff.mp matched
    have expired := lapsing.slots _ ((memSlotsSome existing).mpr present) (same.trans named)
    exact absurd valid (Int.not_lt.mpr (Int.le_trans expired late))
  | boots known boots distinct active =>
    exact lapsing.redeemed _ known (boots.named.symm.trans named) boots.unresolved

end Lapse

/- The history of one Endpoint around a step `op` taken in `before`, seen from any later state `s`.
Two presentations are of one credential when they agree on lookup id and secret. -/
structure CredentialLife (hasher : CredentialHasher) (before : Enrollment) (op : EnrollmentOp)
    (s : Enrollment) : Prop where
  atMostTwo : ∀ r₁ r₂ r₃ : Redemption, s.accepts hasher .redeemKnown r₁ = true →
    s.accepts hasher .redeemKnown r₂ = true → s.accepts hasher .redeemKnown r₃ = true →
      SameCredential r₁.presented r₂.presented ∨ SameCredential r₂.presented r₃.presented ∨
        SameCredential r₁.presented r₃.presented
  neverAgain : ∀ c, before.holds hasher c → ¬ (before.after hasher op).holds hasher c →
    ∀ call (r : Redemption), SameCredential r.presented c → s.accepts hasher call r = false
  expires : ∀ call r c, op = .redeem call r → ¬ before.holds hasher c →
    (before.after hasher op).holds hasher c →
    ∀ call' (r' : Redemption), SameCredential r'.presented c →
      before.clock + r.elapsed + r.ttl ≤ s.clock + r'.elapsed → s.accepts hasher call' r' = false
  revoked : ∀ elapsed, op = .revokeCredential elapsed → before.endpoint.isSome = true →
    ∀ r, s.accepts hasher .redeemKnown r = false ∧ ∀ id, s.accepts hasher (.genuineReboot id) r = false
  unchanged : ∀ call r, s.accepts hasher call r = false →
    (s.after hasher (.redeem call r)).endpoint = s.endpoint ∧
      (s.after hasher (.redeem call r)).bootContexts = s.bootContexts

section Life
variable {hasher : CredentialHasher} {e : Enrollment}

theorem slotsTwo {chain : CredentialChain} {x y z} (memX : x ∈ chain.slots)
    (memY : y ∈ chain.slots) (memZ : z ∈ chain.slots) : x = y ∨ y = z ∨ x = z := by
  unfold CredentialChain.slots at memX memY memZ
  cases chain.successor <;> grind

theorem acceptedSlot {r} (accepted : e.accepts hasher .redeemKnown r = true) :
    ∃ aggregate, e.endpoint = some aggregate ∧ aggregate.credential.revoked = false ∧
      ∃ slot ∈ aggregate.credential.slots, slot.lookupId = r.presented.lookupId ∧
        slot.hash.verifyBytes hasher r.presented.secret = true := by
  obtain ⟨redeemed,step⟩ := acceptsRedeems accepted
  cases step with
  | rotates existing active present matched =>
    obtain ⟨-,named,verifies⟩ := matchesAtIff.mp matched
    exact ⟨_,existing,active,_,present,named,verifies⟩
  | boots known boots distinct => exact absurd rfl distinct

theorem acceptedTwo (traced : Traced hasher e) {r₁ r₂ r₃ : Redemption}
    (first : e.accepts hasher .redeemKnown r₁ = true) (second : e.accepts hasher .redeemKnown r₂ = true)
    (third : e.accepts hasher .redeemKnown r₃ = true) :
    SameCredential r₁.presented r₂.presented ∨ SameCredential r₂.presented r₃.presented ∨
      SameCredential r₁.presented r₃.presented := by
  obtain ⟨aggregate,existing,-,x,memX,namedX,verifiesX⟩ := acceptedSlot first
  obtain ⟨_,existingY,-,y,memY,namedY,verifiesY⟩ := acceptedSlot second
  obtain ⟨_,existingZ,-,z,memZ,namedZ,verifiesZ⟩ := acceptedSlot third
  cases existing.symm.trans existingY
  cases existing.symm.trans existingZ
  have same : ∀ {slot : CredentialSlot} {c d : PresentedCredential}, slot ∈ aggregate.credential.slots →
      slot.lookupId = c.lookupId → slot.hash.verifyBytes hasher c.secret = true →
      slot.lookupId = d.lookupId → slot.hash.verifyBytes hasher d.secret = true → SameCredential c d := by
    intro slot c d mem namedC verifiesC namedD verifiesD
    obtain ⟨g,-,-,salt,hashed⟩ := traced.slots slot ((memSlotsSome existing).mpr mem)
    rw [hashed,verifyHashed] at verifiesC verifiesD
    exact ⟨namedC.symm.trans namedD,verifiesC.trans verifiesD.symm⟩
  rcases slotsTwo memX memY memZ with rfl | rfl | rfl
  · exact .inl (same memX namedX verifiesX namedY verifiesY)
  · exact .inr (.inl (same memY namedY verifiesY namedZ verifiesZ))
  · exact .inr (.inr (same memX namedX verifiesX namedZ verifiesZ))

structure Revoked (e : Enrollment) : Prop where
  closed : ∃ aggregate, e.endpoint = some aggregate ∧ aggregate.credential.revoked = true

theorem revokedRun (revoked : Revoked e) (later : List EnrollmentOp) :
    Revoked (run (Enrollment.after hasher) e later) := by
  have keeps : ∀ s op, Revoked s → Revoked (s.after hasher op) := by
    rintro s op ⟨aggregate,existing,closed⟩
    exact ⟨afterRevoked op existing closed⟩
  exact runAlways keeps revoked later

theorem revokedRejects (revoked : Revoked e) (r : Redemption) :
    e.accepts hasher .redeemKnown r = false ∧ ∀ id, e.accepts hasher (.genuineReboot id) r = false := by
  obtain ⟨aggregate,existing,closed⟩ := revoked.closed
  constructor
  · rw [← Bool.not_eq_true]
    intro accepted
    obtain ⟨_,other,active,-⟩ := acceptedSlot accepted
    cases existing.symm.trans other
    rw [closed] at active
    contradiction
  · intro id
    rw [← Bool.not_eq_true]
    intro accepted
    obtain ⟨redeemed,step⟩ := acceptsRedeems accepted
    cases step with
    | boots known boots distinct active =>
      have live := active aggregate existing ⟨id,rfl⟩
      rw [closed] at live
      contradiction

theorem rejectedUnchanged {call r}
    (rejected : e.accepts hasher call r = false) :
    e.after hasher (.redeem call r) = e.passed (.redeem call r) := by
  unfold Enrollment.accepts at rejected
  unfold Enrollment.after
  simp only
  split
  · rename_i redeemed ok
    rw [ok] at rejected
    contradiction
  · rfl

-- A dropped credential lapses at once, whatever deadline is asked for.
theorem droppedLapsing {op c} (traced : Traced hasher e)
    (fresh : e.Fresh op) (held : e.holds hasher c) (dropped : ¬ (e.after hasher op).holds hasher c)
    (deadline : Instant) : Lapsing (e.after hasher op) c.lookupId deadline := by
  obtain ⟨g,known,same⟩ := holdsGenerated traced held
  have knownAfter : g ∈ (e.after hasher op).generated := afterGenerated op ▸ List.mem_append_left _ known
  refine ⟨⟨g,knownAfter,same.1⟩,?_,?_⟩
  · intro row mem named unresolved
    obtain ⟨slot,present,namedSlot,-⟩ := held
    rcases contextOrigin op mem with ⟨old,oldMem,namedOld,-,wasOpen⟩ | ⟨⟨d,new,hashes,-⟩,-⟩
    · exact traced.unredeemed old oldMem (wasOpen unresolved) slot present
        (namedSlot.trans (named.symm.trans namedOld))
    · exact fresh d new g known (same.1.trans (named.symm.trans hashes))
  · intro slot mem named
    exact absurd (holdsByName (tracedAfter op traced fresh) knownAfter same mem named) dropped

theorem installedLapsing {call r c}
    (traced : Traced hasher e) (fresh : e.Fresh (.redeem call r)) (absent : ¬ e.holds hasher c)
    (held : (e.after hasher (.redeem call r)).holds hasher c) :
    Lapsing (e.after hasher (.redeem call r)) c.lookupId (e.clock + r.elapsed + r.ttl) := by
  have tracedNext := tracedAfter (.redeem call r) traced fresh
  obtain ⟨g,known,same⟩ := holdsGenerated tracedNext held
  refine ⟨⟨g,known,same.1⟩,?_,?_⟩
  · intro row mem named unresolved
    obtain ⟨slot,present,namedSlot,-⟩ := held
    exact tracedNext.unredeemed row mem unresolved slot present (namedSlot.trans named.symm)
  · intro slot mem named
    rcases slotOrigin (.redeem call r) mem with old | ⟨_,_,is,expires,-⟩
    · obtain ⟨d,knownD,hashes,-⟩ := traced.slots slot old
      have one : d = g := tracedNext.distinct d (afterGenerated _ ▸ List.mem_append_left _ knownD) g known
        (hashes.symm.trans (named.trans same.1.symm))
      exact absurd (holdsByName traced knownD (one ▸ same) old named) absent
    · cases is
      exact Int.le_of_eq expires

theorem credentialLife {clock : Instant} {first later : List EnrollmentOp} {op : EnrollmentOp}
    (meets : Meets (Enrollment.after hasher) Enrollment.Fresh (.start clock) (first ++ op :: later)) :
    CredentialLife hasher (run (Enrollment.after hasher) (.start clock) first) op
      (run (Enrollment.after hasher) (.start clock) (first ++ op :: later)) := by
  obtain ⟨meetsFirst,freshOp,meetsLater⟩ := meetsAppend.mp meets
  have keeps : ∀ s op, Traced hasher s → s.Fresh op → Traced hasher (s.after hasher op) :=
    fun s op held fresh => tracedAfter op held fresh
  have traced : Traced hasher _ := runInvariant keeps (tracedStart clock) meetsFirst
  have tracedEnd : Traced hasher _ := runInvariant keeps (tracedStart clock) meets
  rw [runAppend,runCons] at tracedEnd ⊢
  generalize run (Enrollment.after hasher) (.start clock) first = before at *
  refine ⟨fun r₁ r₂ r₃ => acceptedTwo tracedEnd,?_,?_,?_,?_⟩
  · intro c held dropped call r same
    exact lapsedRejects (lapsingRun (droppedLapsing traced freshOp held dropped _) meetsLater) same.1
      (Int.le_refl _)
  · rintro call r c rfl absent held call' r' same late
    exact lapsedRejects (lapsingRun (installedLapsing traced freshOp absent held) meetsLater) same.1 late
  · rintro elapsed rfl existing r
    obtain ⟨aggregate,is⟩ := Option.isSome_iff_exists.mp existing
    exact revokedRejects (revokedRun ⟨⟨_,revokeRevokes elapsed is,rfl⟩⟩ later) r
  · intro call r rejected
    rw [rejectedUnchanged rejected]
    exact ⟨rfl,rfl⟩

-- The digest of a salted secret is the secret.
def plainHasher : CredentialHasher where
  sha256 bytes := ⟨(bytes.drop 16 ++ List.replicate 32 0).take 32,by simp⟩
  separates := by
    rintro ⟨salt,sized⟩ ⟨secret,long⟩ ⟨other,long'⟩ same
    simpa [List.drop_left' sized,List.take_left' long,List.take_left' long'] using same

def zeros (size : Nat) : Bytes size := ⟨.replicate size 0,List.length_replicate⟩

def credentialNumber (kind : CredentialKind) (byte : UInt8) : PresentedCredential :=
  ⟨kind,⟨⟨byte :: .replicate 15 0,rfl⟩⟩,⟨⟨byte :: .replicate 31 0,rfl⟩⟩⟩

def presenting (presented : PresentedCredential) (byte : UInt8) : Redemption :=
  ⟨presented,credentialNumber .runtime byte,zeros 16,1,10⟩

def enrolled : List EnrollmentOp :=
  [.issueEnrollmentCredential (credentialNumber .enrollment 1).lookupId (credentialNumber .enrollment 1).secret
      (zeros 16) 0 5 "signal" ⟨zeros 32⟩,
    .redeem (.firstContact (credentialNumber .enrollment 1).lookupId ⟨0⟩ ⟨0⟩)
      (presenting (credentialNumber .enrollment 1) 2)]

-- Its successor is confirmed, which retires it, and is presented again.
theorem credentialLifeConfirmed :
    let confirm := EnrollmentOp.redeem .redeemKnown (presenting (credentialNumber .runtime 2) 3)
    let before := run (Enrollment.after plainHasher) (.start 0) enrolled
    let s := run (Enrollment.after plainHasher) (.start 0) (enrolled ++ confirm ::
      [.redeem .redeemKnown (presenting (credentialNumber .runtime 2) 4)])
    before.holds plainHasher (credentialNumber .enrollment 1) ∧
      ¬ (before.after plainHasher confirm).holds plainHasher (credentialNumber .enrollment 1) ∧
      s.accepts plainHasher .redeemKnown (presenting (credentialNumber .runtime 4) 5) = true ∧
      CredentialLife plainHasher before confirm s :=
  ⟨by decide +kernel,by decide +kernel,by decide +kernel,credentialLife (by decide +kernel)⟩

end Life
end Bamep
