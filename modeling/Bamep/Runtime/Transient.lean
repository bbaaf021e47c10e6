import Bamep.Library.Table
import Bamep.Domain.Proof

/-! The two bounded stores that live as long as the process: issued capabilities and accepted proofs.
Each method runs under one lock, so it is one step. -/
namespace Bamep
open Relational

structure IssuedCapability where
  id : CapabilityId
  binding : CapabilityBinding
  deriving DecidableEq, Repr

structure CapabilityStore where
  epoch : Nat
  capacity : Nat
  capabilities : Table IssuedCapability.id

def CapabilityStore.withCapacity (epoch capacity : Nat) : CapabilityStore :=
  ⟨epoch,max capacity 1,.empty⟩

inductive CapabilityIssueError where
  | saturated | idCollision
  deriving DecidableEq, Repr

def CapabilityStore.issue (store : CapabilityStore) (id : CapabilityId) (binding : CapabilityBinding) :
    CapabilityStore × Except CapabilityIssueError Unit :=
  match store.capabilities.insertWithin store.capacity ⟨id,binding⟩ with
  | .error .occupied => (store,.error .idCollision)
  | .error .saturated => (store,.error .saturated)
  | .ok capabilities => ({ store with capabilities := capabilities },.ok ())

def CapabilityStore.lookup (store : CapabilityStore) (id : CapabilityId) : Option CapabilityBinding :=
  (store.capabilities.find? id).map IssuedCapability.binding

def CapabilityStore.evictExpired (store : CapabilityStore) (now : Instant) : CapabilityStore :=
  { store with capabilities := store.capabilities.retain fun issued => now < issued.binding.expiresAt }

structure ReplayEntry where
  proofId : ProofId
  validUntil : Instant
  deriving DecidableEq, Repr

structure ReplayCache where
  capacity : Nat
  seen : Table ReplayEntry.proofId

def ReplayCache.withCapacity (capacity : Nat) : ReplayCache := ⟨max capacity 1,.empty⟩

inductive ReplayRejection where
  | replayed | capacitySaturated
  deriving DecidableEq, Repr

def ReplayCache.checkAndInsert (cache : ReplayCache) (proofId : ProofId) (now validUntil : Instant) :
    ReplayCache × Except ReplayRejection Unit :=
  let live := cache.seen.retain fun entry => now ≤ entry.validUntil
  match live.insertWithin cache.capacity ⟨proofId,validUntil⟩ with
  | .error .occupied => ({ cache with seen := live },.error .replayed)
  | .error .saturated => ({ cache with seen := live },.error .capacitySaturated)
  | .ok seen => ({ cache with seen := seen },.ok ())

section Calls
variable {cache : ReplayCache} {proofId : ProofId} {now validUntil : Instant}

theorem checkAndInsertAccepted (ok : (cache.checkAndInsert proofId now validUntil).2 = .ok ()) :
    (∀ entry ∈ cache.seen, now ≤ entry.validUntil → entry.proofId ≠ proofId) ∧
      ∀ entry, entry ∈ (cache.checkAndInsert proofId now validUntil).1.seen ↔
        (entry ∈ cache.seen ∧ now ≤ entry.validUntil) ∨ entry = ⟨proofId,validUntil⟩ := by
  unfold ReplayCache.checkAndInsert at ok ⊢
  simp only at ok ⊢
  split at ok
  · contradiction
  · contradiction
  rename_i seen admitted
  have inserted := Table.insertWithinOk admitted
  refine ⟨fun entry mem live => ?_,fun entry => ?_⟩
  · exact Table.insertAbsent inserted (Table.memRetain.mpr ⟨mem,decide_eq_true live⟩)
  · simp only [Table.memInsert inserted,Table.memRetain,decide_eq_true_eq]

theorem checkAndInsertRejected {rejection}
    (rejected : (cache.checkAndInsert proofId now validUntil).2 = .error rejection) (entry : ReplayEntry) :
    entry ∈ (cache.checkAndInsert proofId now validUntil).1.seen ↔
      entry ∈ cache.seen ∧ now ≤ entry.validUntil := by
  unfold ReplayCache.checkAndInsert at rejected ⊢
  simp only at rejected ⊢
  split at rejected
  · simp
  · simp
  · contradiction

end Calls
end Bamep
