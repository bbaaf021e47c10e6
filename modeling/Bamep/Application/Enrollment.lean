import Bamep.Library.Run
import Bamep.Library.Table
import Bamep.Domain.Endpoint

/-! The credential history of one Endpoint: boot contexts are issued, credentials are redeemed by any of
the three transitions, and the chain may be revoked. A first contact while the Endpoint exists
creates another Endpoint; of that one only the resolved boot context is kept. -/
namespace Bamep
open Relational

structure Redemption where
  presented : PresentedCredential
  fresh : PresentedCredential
  salt : Bytes 16
  elapsed : Nat
  ttl : Int
  deriving DecidableEq, Repr

inductive RedemptionCall where
  | firstContact (bootContextId : CredentialLookupId) (id : EndpointId) (eventId : EventId)
  | redeemKnown
  | genuineReboot (bootContextId : CredentialLookupId)
  deriving DecidableEq, Repr

inductive EnrollmentOp where
  | issueEnrollmentCredential (lookupId : CredentialLookupId) (secret : PresentedCredentialSecret)
      (salt : Bytes 16) (elapsed : Nat) (ttl : Int) (signal : String) (nonce : BootNonce)
  | redeem (call : RedemptionCall) (redemption : Redemption)
  | revokeCredential (elapsed : Nat)
  deriving DecidableEq, Repr

def EnrollmentOp.generated : EnrollmentOp → List PresentedCredential
  | .issueEnrollmentCredential lookupId secret .. => [⟨.enrollment,lookupId,secret⟩]
  | .redeem _ redemption => [redemption.fresh]
  | .revokeCredential _ => []

def EnrollmentOp.elapsed : EnrollmentOp → Nat
  | .issueEnrollmentCredential _ _ _ elapsed .. => elapsed
  | .redeem _ redemption => redemption.elapsed
  | .revokeCredential elapsed => elapsed

-- `generated` holds every credential generated so far, those of rejected redemptions included.
structure Enrollment where
  bootContexts : Table BootContext.bootContextId
  endpoint : Option EndpointAggregate
  clock : Instant
  generated : List PresentedCredential

namespace Enrollment

def start (clock : Instant) : Enrollment := ⟨.empty,none,clock,[]⟩

section Step
variable (hasher : CredentialHasher) (e : Enrollment)

-- `none` is a call that cannot be made: the boot context or the Endpoint it needs does not exist.
def redeem (call : RedemptionCall) (r : Redemption) : Option (Except BootContextResolveError RedeemOutcome) :=
  let now := e.clock + r.elapsed
  match call,e.endpoint with
  | .firstContact bootContextId id eventId,_ => (e.bootContexts.find? bootContextId).map fun context =>
    Bamep.firstContact hasher context r.presented r.fresh r.salt id eventId now r.ttl
  | .redeemKnown,some aggregate =>
    some (.ok (Bamep.redeemKnown hasher aggregate r.presented r.fresh r.salt now r.ttl))
  | .genuineReboot bootContextId,some candidate => (e.bootContexts.find? bootContextId).map fun context =>
    Bamep.genuineReboot hasher context candidate r.presented r.fresh r.salt now r.ttl
  | _,none => none

def accepts (call : RedemptionCall) (r : Redemption) : Bool :=
  match e.redeem hasher call r with
  | some (.ok (.established _)) => true
  | _ => false

def persistBootContextResolution : Option BootContext → Table BootContext.bootContextId
  | none => e.bootContexts
  | some context => e.bootContexts.update context.bootContextId
      (fun row => { row with resolvedEndpointId := context.resolvedEndpointId }) context.resolutionKeepsId

def commit (call : RedemptionCall) (redeemed : Redeemed) : Enrollment :=
  { e with
    bootContexts := e.persistBootContextResolution redeemed.resolvedBootContext
    endpoint := match call,e.endpoint with
      | .firstContact ..,some aggregate => some aggregate
      | _,_ => some redeemed.endpoint }

def passed (op : EnrollmentOp) : Enrollment :=
  { e with clock := e.clock + op.elapsed, generated := e.generated ++ op.generated }

def after (op : EnrollmentOp) : Enrollment :=
  let now := e.clock + op.elapsed
  match op with
  | .issueEnrollmentCredential lookupId secret salt _ ttl signal nonce =>
    let context := BootContext.new lookupId (.ofBytesWithSalt hasher secret salt) now (now + ttl) signal nonce
    { e.passed op with bootContexts := (e.bootContexts.insert? context).getD e.bootContexts }
  | .redeem call r =>
    match e.redeem hasher call r with
    | some (.ok (.established redeemed)) => (e.passed op).commit call redeemed
    | _ => e.passed op
  | .revokeCredential _ => { e.passed op with endpoint := e.endpoint.map (Bamep.revokeCredential · now) }

end Step

def slots (e : Enrollment) : List CredentialSlot :=
  match e.endpoint with
  | none => []
  | some aggregate => aggregate.credential.slots

end Enrollment

section Inversion
variable {hasher : CredentialHasher} {e : Enrollment} {call : RedemptionCall} {r : Redemption}
  {redeemed : Redeemed}

/- An accepted redemption resolves a boot context that was open, or rotates the chain of an Endpoint
whose slot it matches. -/
inductive Redeems (hasher : CredentialHasher) (e : Enrollment) (r : Redemption) (redeemed : Redeemed) :
    RedemptionCall → Prop where
  | boots {call context} (known : context ∈ e.bootContexts)
      (boots : Boots hasher context r.presented r.fresh r.salt (e.clock + r.elapsed) r.ttl redeemed)
      (distinct : call ≠ .redeemKnown)
      (active : ∀ aggregate, e.endpoint = some aggregate → (∃ id, call = .genuineReboot id) →
        aggregate.credential.revoked = false) : Redeems hasher e r redeemed call
  | rotates {aggregate slot} (existing : e.endpoint = some aggregate)
      (active : aggregate.credential.revoked = false) (present : slot ∈ aggregate.credential.slots)
      (matched : slot.matchesAt hasher r.presented (e.clock + r.elapsed) = true)
      (chain : redeemed.endpoint.credential = ⟨slot,some ⟨r.fresh.lookupId,
        .ofBytesWithSalt hasher r.fresh.secret r.salt,e.clock + r.elapsed,e.clock + r.elapsed + r.ttl⟩,false⟩)
      (resolves : redeemed.resolvedBootContext = none) : Redeems hasher e r redeemed .redeemKnown

theorem redeems (ok : e.redeem hasher call r = some (.ok (.established redeemed))) :
    Redeems hasher e r redeemed call := by
  unfold Enrollment.redeem at ok
  simp only at ok
  split at ok
  · obtain ⟨context,found,result⟩ := Option.map_eq_some_iff.mp ok
    exact .boots (Table.findIff.mp found).1 (firstContactEstablished result) (fun same => by cases same)
      fun _ _ ⟨_,same⟩ => by cases same
  · rename_i aggregate existing
    obtain ⟨active,resolves,slot,present,matched,chain⟩ :=
      redeemKnownEstablished (Except.ok.inj (Option.some.inj ok))
    exact .rotates existing active present matched chain resolves
  · rename_i candidate existing
    obtain ⟨context,found,result⟩ := Option.map_eq_some_iff.mp ok
    obtain ⟨boots,active⟩ := genuineRebootEstablished result
    refine .boots (Table.findIff.mp found).1 boots (fun same => by cases same) fun aggregate same _ => ?_
    cases existing.symm.trans same
    exact active
  · contradiction

theorem acceptsRedeems (accepted : e.accepts hasher call r = true) :
    ∃ redeemed, Redeems hasher e r redeemed call := by
  unfold Enrollment.accepts at accepted
  split at accepted
  · rename_i redeemed ok
    exact ⟨redeemed,redeems ok⟩
  · contradiction

end Inversion
end Bamep
