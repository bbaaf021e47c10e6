import Bamep.Domain.Credential

/-! Endpoints, boot contexts and the transitions of an Endpoint. `EndpointId::new()` and the event id
are arguments. The events and the audit record of an approval are left out; nothing reads them. -/
namespace Bamep

inductive IdentityState where
  | pendingEnrollment | enrolled | retired
  deriving DecidableEq, Repr

inductive HardwareConfidence where
  | consistent | loweredConfidence | conflict
  deriving DecidableEq, Repr

def HardwareConfidence.initial : HardwareConfidence := .consistent

structure BootNonce where
  bytes : Bytes 32
  deriving DecidableEq, Repr

inductive TrustedBootstrapState where
  | notEstablished | established
  deriving DecidableEq, Repr

structure CurrentBoot where
  bootContextId : CredentialLookupId
  bootNonce : BootNonce
  trustedBootstrap : TrustedBootstrapState
  deriving DecidableEq, Repr

structure EndpointAggregate where
  id : EndpointId
  inventorySignal : String
  identity : IdentityState
  credential : CredentialChain
  hardwareConfidence : HardwareConfidence
  currentBoot : Option CurrentBoot
  createdAt : Instant
  updatedAt : Instant
  deriving DecidableEq, Repr

structure BootContext where
  bootContextId : CredentialLookupId
  verifier : CredentialHash
  issuedAt : Instant
  expiresAt : Instant
  inventorySignal : String
  bootNonce : BootNonce
  resolvedEndpointId : Option EndpointId
  deriving DecidableEq, Repr

structure BootContextResolveError where
  existing : EndpointId
  deriving DecidableEq, Repr

namespace BootContext

theorem resolutionKeepsId (context row : BootContext) :
    { row with resolvedEndpointId := context.resolvedEndpointId : BootContext }.bootContextId = row.bootContextId :=
  rfl

def new (id : CredentialLookupId) (verifier : CredentialHash) (issuedAt expiresAt : Instant)
    (signal : String) (nonce : BootNonce) : BootContext :=
  ⟨id,verifier,issuedAt,expiresAt,signal,nonce,none⟩

def resolve (context : BootContext) (endpointId : EndpointId) : Except BootContextResolveError BootContext :=
  match context.resolvedEndpointId with
  | none => .ok { context with resolvedEndpointId := some endpointId }
  | some existing => if existing = endpointId then .ok context else .error ⟨existing⟩

def validAt (context : BootContext) (now : Instant) : Bool := now < context.expiresAt

def verifySecret (hasher : CredentialHasher) (context : BootContext) (secret : PresentedCredentialSecret) :
    Bool :=
  context.verifier.verifyBytes hasher secret

def currentBoot (context : BootContext) : CurrentBoot :=
  ⟨context.bootContextId,context.bootNonce,.notEstablished⟩

end BootContext

structure EndpointPendingEnrollment where
  eventId : EventId
  endpointId : EndpointId
  occurredAt : Instant
  deriving DecidableEq, Repr

structure Redeemed where
  endpoint : EndpointAggregate
  events : List EndpointPendingEnrollment
  issued : PresentedCredential
  issuedExpiresAt : Instant
  firstContact : Bool
  successorConfirmed : Bool
  resolvedBootContext : Option BootContext
  deriving DecidableEq, Repr

inductive RedeemOutcome where
  | established (redeemed : Redeemed)
  | rejected
  deriving DecidableEq, Repr

section Transitions
variable (hasher : CredentialHasher)

def bootContextCredentialIsValid (context : BootContext) (presented : PresentedCredential) (now : Instant) :
    Bool :=
  presented.kind = .enrollment && presented.lookupId = context.bootContextId && context.validAt now &&
    context.verifySecret hasher presented.secret

def firstContact (context : BootContext) (presented fresh : PresentedCredential) (salt : Bytes 16)
    (id : EndpointId) (eventId : EventId) (now : Instant) (ttl : Int) :
    Except BootContextResolveError RedeemOutcome :=
  if context.resolvedEndpointId.isSome then .ok .rejected
  else if !bootContextCredentialIsValid hasher context presented now then .ok .rejected
  else match CredentialChain.establish hasher presented.lookupId context.verifier fresh salt now ttl with
    | none => .ok .rejected
    | some chain =>
      let aggregate : EndpointAggregate := ⟨id,context.inventorySignal,.pendingEnrollment,chain,.initial,
        some context.currentBoot,now,now⟩
      (context.resolve id).map fun resolved =>
        .established ⟨aggregate,[⟨eventId,id,now⟩],fresh,now + ttl,true,false,some resolved⟩

def redeemKnown (aggregate : EndpointAggregate) (presented fresh : PresentedCredential) (salt : Bytes 16)
    (now : Instant) (ttl : Int) : RedeemOutcome :=
  match authenticate hasher aggregate.credential presented fresh salt now ttl with
  | .accepted chain issuedExpiresAt successorConfirmed =>
    .established ⟨{ aggregate with credential := chain, updatedAt := now },[],fresh,issuedExpiresAt,false,
      successorConfirmed,none⟩
  | .rejected => .rejected

def genuineReboot (context : BootContext) (candidate : EndpointAggregate)
    (presented fresh : PresentedCredential) (salt : Bytes 16) (now : Instant) (ttl : Int) :
    Except BootContextResolveError RedeemOutcome :=
  if context.resolvedEndpointId.isSome then .ok .rejected
  else if !bootContextCredentialIsValid hasher context presented now then .ok .rejected
  else if candidate.credential.revoked then .ok .rejected
  else match CredentialChain.establish hasher presented.lookupId context.verifier fresh salt now ttl with
    | none => .ok .rejected
    | some chain =>
      (context.resolve candidate.id).map fun resolved =>
        .established ⟨{ candidate with
          credential := chain
          currentBoot := some context.currentBoot
          updatedAt := now },[],fresh,now + ttl,false,false,some resolved⟩

end Transitions

def revokeCredential (aggregate : EndpointAggregate) (now : Instant) : EndpointAggregate :=
  { aggregate with credential := aggregate.credential.revoke, updatedAt := now }

structure InvalidIdentityTransition where
  origin : IdentityState
  attempted : String
  deriving DecidableEq, Repr

def IdentityState.approve : IdentityState → Except InvalidIdentityTransition IdentityState
  | .pendingEnrollment => .ok .enrolled
  | other => .error ⟨other,"Enrolled"⟩

def approveEnrollment (aggregate : EndpointAggregate) (now : Instant) :
    Except InvalidIdentityTransition EndpointAggregate :=
  aggregate.identity.approve.map fun identity =>
    { aggregate with identity := identity, updatedAt := now }

inductive TrustedBootstrapOutcome where
  | established (endpoint : EndpointAggregate)
  | rejected
  deriving DecidableEq, Repr

def CurrentBoot.establishTrustedBootstrap (boot : CurrentBoot) : CurrentBoot :=
  { boot with trustedBootstrap := .established }

def establishTrustedBootstrap (aggregate : EndpointAggregate) (verifiedCurrentNonce : BootNonce) :
    TrustedBootstrapOutcome :=
  match aggregate.currentBoot with
  | none => .rejected
  | some boot =>
    if boot.bootNonce ≠ verifiedCurrentNonce then .rejected
    else .established { aggregate with currentBoot := some boot.establishTrustedBootstrap }

theorem trustedBootstrapEstablished {aggregate updated nonce}
    (ok : Bamep.establishTrustedBootstrap aggregate nonce = .established updated) :
    ∃ boot, aggregate.currentBoot = some boot ∧ nonce = boot.bootNonce ∧
      updated = { aggregate with currentBoot := some boot.establishTrustedBootstrap } := by
  unfold Bamep.establishTrustedBootstrap at ok
  split at ok
  · cases ok
  rename_i boot current
  split at ok
  · cases ok
  rename_i same
  cases ok
  exact ⟨boot,current,(Decidable.not_not.mp same).symm,rfl⟩

structure InventorySnapshot where
  json : String
  deriving DecidableEq, Repr

structure InventoryRevision where
  id : InventoryRevisionId
  endpointId : EndpointId
  snapshot : InventorySnapshot
  recordedAt : Instant
  deriving DecidableEq, Repr

-- A JSON object stands for its text with sorted keys, so equal objects are equal texts.
def recordInventoryOnChange (endpointId : EndpointId) (current : Option InventoryRevision)
    (observed : InventorySnapshot) (revisionId : InventoryRevisionId) (now : Instant) :
    Option InventoryRevision :=
  if current.map InventoryRevision.snapshot = some observed then none
  else some ⟨revisionId,endpointId,observed,now⟩

section Facts
variable {hasher : CredentialHasher} {context : BootContext} {presented fresh : PresentedCredential}
  {salt : Bytes 16} {now : Instant} {ttl : Int} {redeemed : Redeemed}

-- What a redemption of a boot context commits, for a first contact and for a genuine reboot alike.
structure Boots (hasher : CredentialHasher) (context : BootContext) (presented fresh : PresentedCredential)
    (salt : Bytes 16) (now : Instant) (ttl : Int) (redeemed : Redeemed) : Prop where
  unresolved : context.resolvedEndpointId = none
  named : presented.lookupId = context.bootContextId
  chain : redeemed.endpoint.credential = ⟨⟨context.bootContextId,context.verifier,now,now + ttl⟩,
    some ⟨fresh.lookupId,.ofBytesWithSalt hasher fresh.secret salt,now,now + ttl⟩,false⟩
  resolves : redeemed.resolvedBootContext =
    some { context with resolvedEndpointId := some redeemed.endpoint.id }

theorem credentialNamed (valid : bootContextCredentialIsValid hasher context presented now = true) :
    presented.lookupId = context.bootContextId := by
  simp only [bootContextCredentialIsValid,Bool.and_eq_true,decide_eq_true_eq] at valid
  exact valid.1.1.2

theorem resolveUnresolved (unresolved : context.resolvedEndpointId = none) (id : EndpointId) :
    context.resolve id = .ok { context with resolvedEndpointId := some id } := by
  unfold BootContext.resolve
  rw [unresolved]

theorem firstContactEstablished {id eventId}
    (ok : firstContact hasher context presented fresh salt id eventId now ttl = .ok (.established redeemed)) :
    Boots hasher context presented fresh salt now ttl redeemed := by
  unfold firstContact at ok
  split at ok
  · cases ok
  rename_i unresolved
  rw [Bool.not_eq_true,Option.isSome_eq_false_iff,Option.isNone_iff_eq_none] at unresolved
  split at ok
  · cases ok
  rename_i valid
  have named := credentialNamed (by simpa using valid)
  split at ok
  · cases ok
  rename_i chain established
  rw [resolveUnresolved unresolved] at ok
  cases ok
  exact ⟨unresolved,named,named ▸ establishSome established,rfl⟩

theorem genuineRebootEstablished {candidate}
    (ok : genuineReboot hasher context candidate presented fresh salt now ttl = .ok (.established redeemed)) :
    Boots hasher context presented fresh salt now ttl redeemed ∧ candidate.credential.revoked = false := by
  unfold genuineReboot at ok
  split at ok
  · cases ok
  rename_i unresolved
  rw [Bool.not_eq_true,Option.isSome_eq_false_iff,Option.isNone_iff_eq_none] at unresolved
  split at ok
  · cases ok
  rename_i valid
  have named := credentialNamed (by simpa using valid)
  split at ok
  · cases ok
  rename_i active
  split at ok
  · cases ok
  rename_i chain established
  rw [resolveUnresolved unresolved] at ok
  cases ok
  exact ⟨⟨unresolved,named,named ▸ establishSome established,rfl⟩,Bool.eq_false_iff.mpr active⟩

theorem firstContactBoot {id eventId}
    (ok : firstContact hasher context presented fresh salt id eventId now ttl = .ok (.established redeemed)) :
    redeemed.endpoint.currentBoot = some context.currentBoot := by
  unfold firstContact at ok
  split at ok
  · cases ok
  split at ok
  · cases ok
  split at ok
  · cases ok
  · cases resolved : context.resolve id with
    | error e => rw [resolved] at ok; cases ok
    | ok other => rw [resolved] at ok; cases ok; rfl

theorem genuineRebootKeeps {candidate}
    (ok : genuineReboot hasher context candidate presented fresh salt now ttl = .ok (.established redeemed)) :
    redeemed.endpoint = { candidate with
      credential := redeemed.endpoint.credential
      currentBoot := some context.currentBoot
      updatedAt := now } := by
  unfold genuineReboot at ok
  split at ok
  · cases ok
  split at ok
  · cases ok
  split at ok
  · cases ok
  split at ok
  · cases ok
  · cases resolved : context.resolve candidate.id with
    | error e => rw [resolved] at ok; cases ok
    | ok other => rw [resolved] at ok; cases ok; rfl

theorem genuineRebootBoot {candidate}
    (ok : genuineReboot hasher context candidate presented fresh salt now ttl = .ok (.established redeemed)) :
    redeemed.endpoint.currentBoot = some context.currentBoot := by
  rw [genuineRebootKeeps ok]

theorem redeemKnownKeeps {aggregate}
    (ok : redeemKnown hasher aggregate presented fresh salt now ttl = .established redeemed) :
    redeemed.resolvedBootContext = none ∧ redeemed.endpoint =
      { aggregate with credential := redeemed.endpoint.credential, updatedAt := now } := by
  unfold redeemKnown at ok
  split at ok
  · cases ok; exact ⟨rfl,rfl⟩
  · contradiction

theorem redeemKnownEstablished {aggregate}
    (ok : redeemKnown hasher aggregate presented fresh salt now ttl = .established redeemed) :
    aggregate.credential.revoked = false ∧ redeemed.resolvedBootContext = none ∧
      ∃ slot ∈ aggregate.credential.slots, slot.matchesAt hasher presented now = true ∧
        redeemed.endpoint.credential =
          ⟨slot,some ⟨fresh.lookupId,.ofBytesWithSalt hasher fresh.secret salt,now,now + ttl⟩,false⟩ := by
  unfold redeemKnown at ok
  split at ok
  · rename_i chain expires confirmed accepted
    cases ok
    obtain ⟨active,slot,mem,matched,rfl⟩ := authenticateAccepted accepted
    exact ⟨active,rfl,slot,mem,matched,rfl⟩
  · contradiction

theorem redeemKnownAccepts {aggregate} :
    (∃ redeemed, redeemKnown hasher aggregate presented fresh salt now ttl = .established redeemed) ↔
      aggregate.credential.revoked = false ∧
        (∃ slot ∈ aggregate.credential.slots, slot.matchesAt hasher presented now = true) ∧ fresh.kind = .runtime := by
  rw [← @authenticateAccepts hasher fresh presented salt now ttl aggregate.credential]
  unfold redeemKnown
  cases authenticate hasher aggregate.credential presented fresh salt now ttl with
  | accepted chain expires confirmed => simp
  | rejected => simp

theorem genuineRebootAccepts {candidate} (unresolved : context.resolvedEndpointId = none) :
    (∃ redeemed, genuineReboot hasher context candidate presented fresh salt now ttl = .ok (.established redeemed)) ↔
      candidate.credential.revoked = false ∧ bootContextCredentialIsValid hasher context presented now = true ∧
        fresh.kind = .runtime := by
  unfold genuineReboot CredentialChain.establish mintSuccessorSlot
  rw [resolveUnresolved unresolved]
  by_cases valid : bootContextCredentialIsValid hasher context presented now = true <;>
    by_cases revoked : candidate.credential.revoked = true <;>
      by_cases runtime : fresh.kind = .runtime <;> simp [unresolved,valid,revoked,runtime,Except.map]

end Facts
end Bamep
