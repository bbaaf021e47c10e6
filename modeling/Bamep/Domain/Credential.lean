import Bamep.Domain.Job
import Bamep.Domain.Wire

/-! The rotating credential chain of an Endpoint: a predecessor and at most one unconfirmed
successor. Times, salts and fresh candidates are arguments. -/
namespace Bamep

inductive CredentialKind where
  | enrollment | runtime
  deriving DecidableEq, Repr

structure CredentialLookupId where
  bytes : Bytes 16
  deriving DecidableEq, Repr

structure PresentedCredentialSecret where
  bytes : Bytes 32
  deriving DecidableEq, Repr

structure PresentedCredential where
  kind : CredentialKind
  lookupId : CredentialLookupId
  secret : PresentedCredentialSecret
  deriving DecidableEq, Repr

/- SHA-256 as far as the chain depends on it: under one salt no two secrets have one digest. -/
structure CredentialHasher where
  sha256 : List UInt8 → Bytes 32
  separates : ∀ (salt : Bytes 16) (secret other : PresentedCredentialSecret),
    sha256 (salt.val ++ secret.bytes.val) = sha256 (salt.val ++ other.bytes.val) → secret = other

structure CredentialHash where
  salt : Bytes 16
  digest : Bytes 32
  deriving DecidableEq, Repr

namespace CredentialHash
variable (hasher : CredentialHasher)

def ofBytesWithSalt (secret : PresentedCredentialSecret) (salt : Bytes 16) : CredentialHash :=
  ⟨salt,hasher.sha256 (salt.val ++ secret.bytes.val)⟩

def verifyBytes (hash : CredentialHash) (secret : PresentedCredentialSecret) : Bool :=
  (ofBytesWithSalt hasher secret hash.salt).digest = hash.digest

end CredentialHash

@[simp] theorem verifyHashed {hasher secret other salt} :
    (CredentialHash.ofBytesWithSalt hasher secret salt).verifyBytes hasher other = true ↔ other = secret := by
  unfold CredentialHash.verifyBytes CredentialHash.ofBytesWithSalt
  rw [decide_eq_true_iff]
  constructor
  · exact hasher.separates salt other secret
  · rintro rfl
    rfl

structure CredentialSlot where
  lookupId : CredentialLookupId
  hash : CredentialHash
  issuedAt : Instant
  expiresAt : Instant
  deriving DecidableEq, Repr

namespace CredentialSlot

def validAt (slot : CredentialSlot) (now : Instant) : Bool := now < slot.expiresAt

-- `CredentialSlot::matches`; the kind of the presented credential is not read.
def matchesAt (hasher : CredentialHasher) (slot : CredentialSlot) (presented : PresentedCredential)
    (now : Instant) : Bool :=
  slot.validAt now && slot.lookupId = presented.lookupId && slot.hash.verifyBytes hasher presented.secret

end CredentialSlot

structure CredentialChain where
  predecessor : CredentialSlot
  successor : Option CredentialSlot
  revoked : Bool
  deriving DecidableEq, Repr

section Chain
variable (hasher : CredentialHasher)

def mintSuccessorSlot (fresh : PresentedCredential) (salt : Bytes 16) (now : Instant) (ttl : Int) :
    Option CredentialSlot :=
  if fresh.kind ≠ .runtime then none
  else some ⟨fresh.lookupId,.ofBytesWithSalt hasher fresh.secret salt,now,now + ttl⟩

def CredentialChain.establish (lookupId : CredentialLookupId) (verifier : CredentialHash)
    (fresh : PresentedCredential) (salt : Bytes 16) (now : Instant) (ttl : Int) : Option CredentialChain :=
  match mintSuccessorSlot hasher fresh salt now ttl with
  | none => none
  | some successor => some ⟨⟨lookupId,verifier,now,now + ttl⟩,some successor,false⟩

def CredentialChain.revoke (chain : CredentialChain) : CredentialChain := { chain with revoked := true }

inductive AuthOutcome where
  | accepted (chain : CredentialChain) (issuedExpiresAt : Instant) (successorConfirmed : Bool)
  | rejected
  deriving DecidableEq, Repr

def authenticate (chain : CredentialChain) (presented fresh : PresentedCredential) (salt : Bytes 16)
    (now : Instant) (ttl : Int) : AuthOutcome :=
  if chain.revoked then .rejected
  else if chain.predecessor.matchesAt hasher presented now then
    match mintSuccessorSlot hasher fresh salt now ttl with
    | none => .rejected
    | some issued => .accepted ⟨chain.predecessor,some issued,false⟩ issued.expiresAt false
  else match chain.successor with
    | none => .rejected
    | some successor =>
      if successor.matchesAt hasher presented now then
        match mintSuccessorSlot hasher fresh salt now ttl with
        | none => .rejected
        | some issued => .accepted ⟨successor,some issued,false⟩ issued.expiresAt true
      else .rejected

end Chain

inductive CredentialDimension where
  | credentialActive | credentialRevoked | credentialExpired
  deriving DecidableEq, Repr

def CredentialChain.dimension (chain : CredentialChain) (now : Instant) : CredentialDimension :=
  if chain.revoked then .credentialRevoked
  else if chain.predecessor.validAt now || chain.successor.any fun successor => successor.validAt now then
    .credentialActive
  else .credentialExpired

def CredentialChain.slots (chain : CredentialChain) : List CredentialSlot :=
  chain.predecessor :: chain.successor.toList

theorem dimensionActive {chain : CredentialChain} {now} :
    chain.dimension now = .credentialActive ↔
      chain.revoked = false ∧ ∃ slot ∈ chain.slots, now < slot.expiresAt := by
  unfold CredentialChain.dimension
  cases revoked : chain.revoked with
  | true => simp
  | false =>
    cases successor : chain.successor <;>
      by_cases live : now < chain.predecessor.expiresAt <;>
        simp [CredentialChain.slots,CredentialSlot.validAt,successor,live]

section Facts
variable {hasher : CredentialHasher} {fresh presented : PresentedCredential} {salt : Bytes 16} {now : Instant}
  {ttl : Int}

theorem matchesAtIff {slot : CredentialSlot} : slot.matchesAt hasher presented now = true ↔
    now < slot.expiresAt ∧ slot.lookupId = presented.lookupId ∧
      slot.hash.verifyBytes hasher presented.secret = true := by
  simp [CredentialSlot.matchesAt,CredentialSlot.validAt,and_assoc]

theorem mintSome {slot} (minted : mintSuccessorSlot hasher fresh salt now ttl = some slot) :
    slot = ⟨fresh.lookupId,.ofBytesWithSalt hasher fresh.secret salt,now,now + ttl⟩ := by
  unfold mintSuccessorSlot at minted
  split at minted
  · contradiction
  · exact (Option.some.inj minted).symm

theorem establishSome {lookupId verifier chain}
    (ok : CredentialChain.establish hasher lookupId verifier fresh salt now ttl = some chain) :
    chain = ⟨⟨lookupId,verifier,now,now + ttl⟩,
      some ⟨fresh.lookupId,.ofBytesWithSalt hasher fresh.secret salt,now,now + ttl⟩,false⟩ := by
  unfold CredentialChain.establish at ok
  split at ok
  · contradiction
  · rename_i successor minted
    cases mintSome minted
    exact (Option.some.inj ok).symm

theorem authenticateAccepted {chain chain' expires confirmed}
    (ok : authenticate hasher chain presented fresh salt now ttl = .accepted chain' expires confirmed) :
    chain.revoked = false ∧ ∃ slot ∈ chain.slots, slot.matchesAt hasher presented now = true ∧
      chain' = ⟨slot,some ⟨fresh.lookupId,.ofBytesWithSalt hasher fresh.secret salt,now,now + ttl⟩,false⟩ := by
  unfold authenticate at ok
  split at ok
  · contradiction
  rename_i live
  refine ⟨Bool.eq_false_iff.mpr live,?_⟩
  split at ok
  · rename_i matched
    split at ok
    · contradiction
    · rename_i issued minted
      cases mintSome minted
      cases ok
      exact ⟨_,List.mem_cons_self,matched,rfl⟩
  · split at ok
    · contradiction
    · rename_i successor present
      split at ok
      · rename_i matched
        split at ok
        · contradiction
        · rename_i issued minted
          cases mintSome minted
          cases ok
          exact ⟨successor,by simp [CredentialChain.slots,present],matched,rfl⟩
      · contradiction

theorem authenticateAccepts {chain} :
    (∃ chain' expires confirmed,
      authenticate hasher chain presented fresh salt now ttl = .accepted chain' expires confirmed) ↔
      chain.revoked = false ∧ (∃ slot ∈ chain.slots, slot.matchesAt hasher presented now = true) ∧
        fresh.kind = .runtime := by
  unfold authenticate mintSuccessorSlot
  obtain ⟨predecessor,successor,revoked⟩ := chain
  cases revoked with
  | true => simp
  | false =>
    by_cases runtime : fresh.kind = .runtime <;> by_cases first : predecessor.matchesAt hasher presented now = true
    all_goals
      cases successor with
      | none => simp [runtime,first,CredentialChain.slots]
      | some slot =>
        by_cases second : slot.matchesAt hasher presented now = true <;>
          simp [runtime,first,second,CredentialChain.slots]

end Facts
end Bamep
