import Bamep.Library.Run
import Bamep.Library.Tally

/-! The transient arbiter of technical resources. What is reserved is kept twice, as a total for each
kind and as the claims of each reservation; the ledger of the run says what both should be. -/
namespace Bamep
open Relational Transition

structure ResourceKind where
  name : String
  deriving DecidableEq, Repr

structure ResourceClaim where
  kind : ResourceKind
  quantity : UInt64
  deriving DecidableEq, Repr

structure ReservationId where
  value : UInt64
  deriving DecidableEq, Repr

inductive InsufficientCapacity where
  | insufficientCapacity
  deriving DecidableEq, Repr

structure Reservation where
  id : ReservationId
  claims : List ResourceClaim
  deriving DecidableEq, Repr

structure TechnicalResourceArbiter where
  capacities : Tally ResourceKind
  reserved : Tally ResourceKind
  reservations : Table Reservation.id
  nextId : UInt64

abbrev claimed (claims : List ResourceClaim) (kind : ResourceKind) : Nat :=
  demand ResourceClaim.kind ResourceClaim.quantity claims kind

namespace TechnicalResourceArbiter

def new (capacities : List (Count ResourceKind)) : TechnicalResourceArbiter :=
  ⟨Tally.setAll .empty capacities,.empty,.empty,1⟩

variable (a : TechnicalResourceArbiter)

def newTotals (requested : List (Count ResourceKind)) (totals : Tally ResourceKind) :
    Option (Tally ResourceKind) :=
  requested.foldlM (fun totals row =>
    (checkedAdd (Tally.get a.reserved row.key) row.amount).bind fun total =>
      if total > Tally.get a.capacities row.key then none else some (Tally.set totals row.key total)) totals

def acquire (claims : List ResourceClaim) :
    TechnicalResourceArbiter × Except InsufficientCapacity ReservationId :=
  match Tally.addChecked ResourceClaim.kind ResourceClaim.quantity .empty claims with
  | none => (a,.error .insufficientCapacity)
  | some requested =>
    match a.newTotals requested.rows .empty with
    | none => (a,.error .insufficientCapacity)
    | some totals =>
      -- `fetch_add` wraps, and `insert` replaces what is filed under the id.
      let id : ReservationId := ⟨a.nextId⟩
      ({ a with
        reserved := Tally.setAll a.reserved totals.rows
        reservations := a.reservations.upsert ⟨id,claims⟩ (fun row => { row with claims := claims }) fun _ => rfl
        nextId := a.nextId + 1 },.ok id)

def release (id : ReservationId) : TechnicalResourceArbiter :=
  match a.reservations.find? id with
  | none => a
  | some reservation =>
    { a with
      reservations := a.reservations.retain fun row => row.id ≠ id
      reserved := Tally.subtract ResourceClaim.kind ResourceClaim.quantity a.reserved reservation.claims }

end TechnicalResourceArbiter

section Arbiter
variable {a : TechnicalResourceArbiter} {claims : List ResourceClaim}

def TechnicalResourceArbiter.Fits (a : TechnicalResourceArbiter) (row : Count ResourceKind) : Prop :=
  (Tally.get a.reserved row.key).toNat + row.amount.toNat ≤ (Tally.get a.capacities row.key).toNat

theorem newTotalsSome {requested start totals}
    (ok : a.newTotals requested start = some totals) :
    (∀ row ∈ requested, a.Fits row) ∧ (∀ row ∈ requested, ∃ x ∈ totals, x.key = row.key) ∧
      (∀ x ∈ start, ∃ y ∈ totals, y.key = x.key) ∧
      ∀ x ∈ totals, x ∈ start ∨ ∃ row ∈ requested, x.key = row.key ∧
        x.amount.toNat = (Tally.get a.reserved row.key).toNat + row.amount.toNat := by
  induction requested generalizing start with
  | nil =>
    cases ok
    exact ⟨nofun,nofun,fun x mem => ⟨x,mem,rfl⟩,fun x mem => .inl mem⟩
  | cons row rest ih =>
    unfold TechnicalResourceArbiter.newTotals at ok
    rw [List.foldlM_cons] at ok
    obtain ⟨middle,first,last⟩ := Option.bind_eq_some_iff.mp ok
    obtain ⟨total,added,kept⟩ := Option.bind_eq_some_iff.mp first
    split at kept
    · cases kept
    rename_i within
    cases kept
    obtain ⟨fits,covered,grown,origin⟩ := ih last
    have sum := checkedAddSome added
    refine ⟨List.forall_mem_cons.mpr ⟨?_,fits⟩,List.forall_mem_cons.mpr ⟨?_,covered⟩,fun x mem => ?_,?_⟩
    · unfold TechnicalResourceArbiter.Fits
      rw [← sum]
      exact UInt64.le_iff_toNat_le.mp (UInt64.not_lt.mp within)
    · exact grown ⟨row.key,total⟩ (Tally.memSet.mpr (.inr rfl))
    · by_cases same : x.key = row.key
      · rw [same]
        exact grown ⟨row.key,total⟩ (Tally.memSet.mpr (.inr rfl))
      · exact grown x (Tally.memSet.mpr (.inl ⟨mem,same⟩))
    · intro x mem
      rcases origin x mem with old | ⟨y,present,same⟩
      · rcases Tally.memSet.mp old with ⟨older,_⟩ | rfl
        · exact .inl older
        · exact .inr ⟨row,List.mem_cons_self,rfl,sum⟩
      · exact .inr ⟨y,List.mem_cons_of_mem _ present,same⟩

theorem newTotalsNone {requested start}
    (refused : a.newTotals requested start = none) : ∃ row ∈ requested, ¬ a.Fits row := by
  induction requested generalizing start with
  | nil => cases refused
  | cons row rest ih =>
    unfold TechnicalResourceArbiter.newTotals at refused
    rw [List.foldlM_cons] at refused
    cases added : checkedAdd (Tally.get a.reserved row.key) row.amount with
    | none =>
      refine ⟨row,List.mem_cons_self,fun fits => ?_⟩
      have exceeds := checkedAddNone added
      have bound := (Tally.get a.capacities row.key).toNat_lt_size
      unfold TechnicalResourceArbiter.Fits at fits
      omega
    | some total =>
      simp only [added,Option.bind_some] at refused
      split at refused
      · rename_i exceeds
        refine ⟨row,List.mem_cons_self,fun fits => ?_⟩
        unfold TechnicalResourceArbiter.Fits at fits
        rw [← checkedAddSome added] at fits
        have exceeded := UInt64.lt_iff_toNat_lt.mp exceeds
        omega
      · obtain ⟨x,mem,unfit⟩ := ih refused
        exact ⟨x,List.mem_cons_of_mem _ mem,unfit⟩

theorem requestedAmount {requested}
    (merged : Tally.addChecked ResourceClaim.kind ResourceClaim.quantity .empty claims = some requested)
    (kind : ResourceKind) : (Tally.get requested kind).toNat = claimed claims kind := by
  rw [Tally.addCheckedSome merged]
  exact Nat.zero_add _

structure Acquired (a a' : TechnicalResourceArbiter) (claims : List ResourceClaim) : Prop where
  fits : ∀ kind, (Tally.get a.reserved kind).toNat + claimed claims kind ≤ (Tally.get a.capacities kind).toNat
  capacities : a'.capacities = a.capacities
  reserved : ∀ kind, (Tally.get a'.reserved kind).toNat = (Tally.get a.reserved kind).toNat + claimed claims kind
  reservations : a'.reservations =
    a.reservations.upsert ⟨⟨a.nextId⟩,claims⟩ (fun row => { row with claims := claims }) fun _ => rfl
  nextId : a'.nextId = a.nextId + 1

theorem acquireCases (bounded : ∀ kind, (Tally.get a.reserved kind).toNat ≤ (Tally.get a.capacities kind).toNat)
    (claims : List ResourceClaim) :
    (a.acquire claims = (a,.error .insufficientCapacity) ∧
      ∃ kind, (Tally.get a.capacities kind).toNat < (Tally.get a.reserved kind).toNat + claimed claims kind) ∨
    ∃ a', a.acquire claims = (a',.ok ⟨a.nextId⟩) ∧ Acquired a a' claims := by
  unfold TechnicalResourceArbiter.acquire
  cases merged : Tally.addChecked ResourceClaim.kind ResourceClaim.quantity .empty claims with
  | none =>
    obtain ⟨kind,overflow⟩ := Tally.addCheckedNone merged
    have bound := (Tally.get a.capacities kind).toNat_lt_size
    have exceeds : UInt64.size ≤ 0 + claimed claims kind := overflow
    exact .inl ⟨rfl,kind,by omega⟩
  | some requested =>
    have amount := requestedAmount merged
    have inRequest : ∀ row ∈ requested, row.amount.toNat = claimed claims row.key := fun row mem =>
      Tally.getOfMem mem ▸ amount row.key
    have outside : ∀ kind, (∀ row ∈ requested, row.key ≠ kind) → claimed claims kind = 0 := fun kind absent =>
      amount kind ▸ congrArg UInt64.toNat (Tally.getOfAbsent absent)
    simp only
    cases validated : a.newTotals requested.rows .empty with
    | none =>
      obtain ⟨row,mem,unfit⟩ := newTotalsNone validated
      unfold TechnicalResourceArbiter.Fits at unfit
      rw [inRequest row mem] at unfit
      exact .inl ⟨rfl,row.key,Nat.lt_of_not_le unfit⟩
    | some totals =>
      obtain ⟨fits,covered,_,origin⟩ := newTotalsSome validated
      refine .inr ⟨_,rfl,fun kind => ?_,rfl,fun kind => ?_,rfl,rfl⟩
      · by_cases present : ∃ row ∈ requested, row.key = kind
        · obtain ⟨row,mem,rfl⟩ := present
          rw [← inRequest row mem]
          exact fits row mem
        · rw [outside kind fun row mem same => present ⟨row,mem,same⟩]
          exact bounded kind
      · by_cases present : ∃ x ∈ totals, x.key = kind
        · obtain ⟨x,mem,rfl⟩ := present
          rcases origin x mem with none | ⟨row,old,same,sum⟩
          · cases none
          · rw [Tally.setAllMem totals.unique mem,sum,same,inRequest row old]
        · rw [Tally.setAllAbsent fun x mem same => present ⟨x,mem,same⟩,outside kind,Nat.add_zero]
          intro row mem same
          obtain ⟨x,held,named⟩ := covered row mem
          exact present ⟨x,held,named.trans same⟩

end Arbiter

inductive ArbiterOp where
  | acquire (claims : List ResourceClaim)
  | release (id : ReservationId)
  deriving DecidableEq, Repr

/- An arbiter with the reservations that were acquired from it and not yet released. -/
structure Audited where
  arbiter : TechnicalResourceArbiter
  ledger : List Reservation

namespace Audited

def start (capacities : List (Count ResourceKind)) : Audited := ⟨.new capacities,[]⟩

def after (s : Audited) : ArbiterOp → Audited
  | .acquire claims =>
    match s.arbiter.acquire claims with
    | (arbiter,.ok id) => ⟨arbiter,s.ledger ++ [⟨id,claims⟩]⟩
    | (arbiter,.error _) => ⟨arbiter,s.ledger⟩
  | .release id => ⟨s.arbiter.release id,s.ledger.filter fun row => row.id ≠ id⟩

def outstanding (s : Audited) (kind : ResourceKind) : Nat :=
  (s.ledger.map fun row => claimed row.claims kind).sum

def capacity (s : Audited) (kind : ResourceKind) : Nat := (Tally.get s.arbiter.capacities kind).toNat

/- An acquisition may not be given the id of a reservation that is still held. -/
def FreshId (s : Audited) : ArbiterOp → Prop
  | .acquire _ => ∀ row ∈ s.arbiter.reservations, row.id.value ≠ s.arbiter.nextId
  | .release _ => True

end Audited

structure Balanced (s : Audited) : Prop where
  filed : s.arbiter.reservations.rows = s.ledger
  exact : ∀ kind, (Tally.get s.arbiter.reserved kind).toNat = s.outstanding kind
  bounded : ∀ kind, s.outstanding kind ≤ s.capacity kind

section Runs
variable {s : Audited}

theorem releasedSum {ledger : List Reservation} (distinct : (ledger.map Reservation.id).Nodup)
    {row} (mem : row ∈ ledger) (kind : ResourceKind) :
    ((ledger.filter fun r => r.id ≠ row.id).map fun r => claimed r.claims kind).sum +
      claimed row.claims kind = (ledger.map fun r => claimed r.claims kind).sum := by
  induction ledger with
  | nil => cases mem
  | cons first rest ih =>
    obtain ⟨fresh,others⟩ := List.nodup_cons.mp distinct
    rcases List.mem_cons.mp mem with rfl | later
    · have kept : rest.filter (fun r => r.id ≠ row.id) = rest := by
        refine List.filter_eq_self.mpr fun x present => ?_
        simpa using fun same => fresh (List.mem_map.mpr ⟨x,present,same⟩)
      rw [List.filter_cons_of_neg (by simp),kept,List.map_cons,List.sum_cons,Nat.add_comm]
    · have other : first.id ≠ row.id := fun same => fresh (List.mem_map.mpr ⟨row,later,same.symm⟩)
      rw [List.filter_cons_of_pos (by simpa using other),List.map_cons,List.sum_cons,List.map_cons,List.sum_cons,
        Nat.add_assoc,ih others later]

theorem balancedStart (capacities : List (Count ResourceKind)) : Balanced (.start capacities) :=
  ⟨rfl,fun _ => rfl,fun _ => Nat.zero_le _⟩

theorem balancedRelease (balanced : Balanced s) (id : ReservationId) : Balanced (s.after (.release id)) := by
  cases found : s.arbiter.reservations.find? id with
  | none =>
    have absent : s.ledger.filter (fun row => row.id ≠ id) = s.ledger := by
      refine List.filter_eq_self.mpr fun row mem => ?_
      rw [← balanced.filed] at mem
      by_contra same
      rw [Table.findIff.mpr ⟨mem,by simpa using same⟩] at found
      cases found
    have same : s.after (.release id) = s := by
      simp only [Audited.after,TechnicalResourceArbiter.release,found,absent]
    rw [same]
    exact balanced
  | some row =>
    obtain ⟨mem,rfl⟩ := Table.findIff.mp found
    have distinct := s.arbiter.reservations.unique
    rw [← Table.memRows,balanced.filed] at mem
    rw [balanced.filed] at distinct
    have sum := releasedSum distinct mem
    have after : s.after (.release row.id) = ⟨{ s.arbiter with
        reservations := s.arbiter.reservations.retain fun r => r.id ≠ row.id
        reserved := Tally.subtract ResourceClaim.kind ResourceClaim.quantity s.arbiter.reserved row.claims },
        s.ledger.filter fun r => r.id ≠ row.id⟩ := by
      simp only [Audited.after,TechnicalResourceArbiter.release,found]
    rw [after]
    refine ⟨congrArg (List.filter _) balanced.filed,fun kind => ?_,fun kind => ?_⟩
    · have held := balanced.exact kind
      have left := sum kind
      simp only [Audited.outstanding] at held ⊢
      rw [Tally.subtractGet,held]
      change _ - claimed row.claims kind = _
      omega
    · exact Nat.le_trans (Nat.le_of_add_right_le (Nat.le_of_eq (sum kind))) (balanced.bounded kind)

theorem balancedAcquire (balanced : Balanced s) (claims : List ResourceClaim)
    (fresh : s.FreshId (.acquire claims)) : Balanced (s.after (.acquire claims)) := by
  have bounded : ∀ kind, (Tally.get s.arbiter.reserved kind).toNat ≤ s.capacity kind := fun kind =>
    balanced.exact kind ▸ balanced.bounded kind
  rcases acquireCases bounded claims with ⟨refused,_⟩ | ⟨a,granted,acquired⟩
  · have same : s.after (.acquire claims) = s := by simp only [Audited.after,refused]
    rw [same]
    exact balanced
  · have after : s.after (.acquire claims) = ⟨a,s.ledger ++ [⟨⟨s.arbiter.nextId⟩,claims⟩]⟩ := by
      simp only [Audited.after,granted]
    have sum : ∀ kind, (s.after (.acquire claims)).outstanding kind =
        s.outstanding kind + claimed claims kind := by
      intro kind
      rw [after]
      simp [Audited.outstanding]
    refine ⟨?_,fun kind => ?_,fun kind => ?_⟩
    · rw [after]
      simp only
      rw [acquired.reservations,← balanced.filed]
      exact Table.upsertAbsent _ fun old mem same => fresh old mem (congrArg ReservationId.value same)
    · rw [sum,after,← balanced.exact kind]
      exact acquired.reserved kind
    · rw [sum,← balanced.exact kind]
      simp only [after,Audited.capacity,acquired.capacities]
      exact acquired.fits kind

theorem balancedRun {capacities ops}
    (fresh : Meets Audited.after Audited.FreshId (.start capacities) ops) :
    Balanced (run Audited.after (.start capacities) ops) := by
  refine runInvariant (fun s op balanced fresh => ?_) (balancedStart capacities) fresh
  cases op with
  | acquire claims => exact balancedAcquire balanced claims fresh
  | release id => exact balancedRelease balanced id

theorem acquireShape (a : TechnicalResourceArbiter) (claims : List ResourceClaim) :
    a.acquire claims = (a,.error .insufficientCapacity) ∨ ∃ reserved, a.acquire claims = ({ a with
      reserved := reserved
      reservations := a.reservations.upsert ⟨⟨a.nextId⟩,claims⟩ (fun row => { row with claims := claims }) fun _ => rfl
      nextId := a.nextId + 1 },.ok ⟨a.nextId⟩) := by
  unfold TechnicalResourceArbiter.acquire
  split
  · exact .inl rfl
  split
  · exact .inl rfl
  · exact .inr ⟨_,rfl⟩

theorem releaseShape (a : TechnicalResourceArbiter) (id : ReservationId) :
    (a.release id).capacities = a.capacities ∧ (a.release id).nextId = a.nextId ∧
      ∀ row ∈ (a.release id).reservations, row ∈ a.reservations := by
  unfold TechnicalResourceArbiter.release
  split
  · exact ⟨rfl,rfl,fun _ mem => mem⟩
  · exact ⟨rfl,rfl,fun row mem => (Table.memRetain.mp mem).1⟩

theorem capacitiesKept (capacities : List (Count ResourceKind)) (ops : List ArbiterOp) :
    (run Audited.after (.start capacities) ops).arbiter.capacities =
      (TechnicalResourceArbiter.new capacities).capacities := by
  refine @runAlways _ _ Audited.after (fun s => s.arbiter.capacities =
    (TechnicalResourceArbiter.new capacities).capacities) (fun s op kept => ?_) (.start capacities) rfl ops
  cases op with
  | acquire claims =>
    unfold Audited.after
    rcases acquireShape s.arbiter claims with refused | ⟨reserved,granted⟩
    · simp only [refused]
      exact kept
    · simp only [granted]
      exact kept
  | release id => exact (releaseShape s.arbiter id).1.trans kept

def ArbiterOp.acquires : ArbiterOp → Bool
  | .acquire _ => true
  | .release _ => false

-- The ids handed out so far are `1, …, n`; the next one repeats none of them before `2 ^ 64`.
theorem freshIdsFrom {ops s n}
    (next : s.arbiter.nextId = .ofNat (n + 1))
    (given : ∀ row ∈ s.arbiter.reservations, ∃ i < n, row.id.value = .ofNat (i + 1))
    (few : n + ops.countP ArbiterOp.acquires ≤ UInt64.size) : Meets Audited.after Audited.FreshId s ops := by
  induction ops generalizing s n with
  | nil => trivial
  | cons op rest ih =>
    cases op with
    | acquire claims =>
      have count : n + 1 + rest.countP ArbiterOp.acquires ≤ UInt64.size := by
        rw [List.countP_cons_of_pos rfl] at few
        omega
      have fresh : s.FreshId (.acquire claims) := by
        intro row mem same
        obtain ⟨i,earlier,value⟩ := given row mem
        have equal := congrArg UInt64.toNat (value.symm.trans (same.trans next))
        simp only [UInt64.toNat_ofNat'] at equal
        simp only [UInt64.size] at count
        omega
      refine ⟨fresh,?_⟩
      unfold Audited.after
      rcases acquireShape s.arbiter claims with refused | ⟨reserved,granted⟩
      · simp only [refused]
        exact ih next given (by omega)
      · simp only [granted]
        refine ih (n := n + 1) ?_ ?_ count
        · simp only [next]
          rw [UInt64.ofNat_add (n + 1) 1]
          rfl
        · intro row mem
          rcases (Table.memUpsert (by exact fun _ => rfl)).mp mem with ⟨old,_⟩ | ⟨old,_,same,rfl⟩ | ⟨_,rfl⟩
          · obtain ⟨i,earlier,value⟩ := given row old
            exact ⟨i,by omega,value⟩
          · exact ⟨n,by omega,(congrArg ReservationId.value same).trans next⟩
          · exact ⟨n,by omega,next⟩
    | release id =>
      refine ⟨trivial,?_⟩
      obtain ⟨_,nextKept,rowsKept⟩ := releaseShape s.arbiter id
      rw [List.countP_cons_of_neg (by simp [ArbiterOp.acquires])] at few
      exact ih (nextKept.trans next) (fun row mem => given row (rowsKept row mem)) few

end Runs

structure ArbiterLaws (capacities : List (Count ResourceKind)) (s : Audited) : Prop where
  exact : ∀ kind, (Tally.get s.arbiter.reserved kind).toNat = s.outstanding kind
  bounded : ∀ kind, s.outstanding kind ≤ (Audited.start capacities).capacity kind
  granted : ∀ claims, (∃ id, (s.arbiter.acquire claims).2 = .ok id) ↔
    ∀ kind, s.outstanding kind + claimed claims kind ≤ (Audited.start capacities).capacity kind
  refused : ∀ claims error, (s.arbiter.acquire claims).2 = .error error → (s.arbiter.acquire claims).1 = s.arbiter
  unknown : ∀ id, (∀ row ∈ s.ledger, row.id ≠ id) → s.arbiter.release id = s.arbiter
  renewed : s.ledger = [] → ∀ claims, (∃ id, (s.arbiter.acquire claims).2 = .ok id) ↔
    ∃ id, ((TechnicalResourceArbiter.new capacities).acquire claims).2 = .ok id

section Laws
variable {s : Audited} {capacities : List (Count ResourceKind)}

theorem grantedIff (balanced : Balanced s) (claims : List ResourceClaim) :
    (∃ id, (s.arbiter.acquire claims).2 = .ok id) ↔
      ∀ kind, s.outstanding kind + claimed claims kind ≤ s.capacity kind := by
  have bounded : ∀ kind, (Tally.get s.arbiter.reserved kind).toNat ≤ s.capacity kind := fun kind =>
    balanced.exact kind ▸ balanced.bounded kind
  rcases acquireCases bounded claims with ⟨refused,kind,exceeds⟩ | ⟨a,granted,acquired⟩
  · rw [refused,balanced.exact kind] at *
    exact ⟨nofun,fun fits => absurd (fits kind) (Nat.not_le_of_lt exceeds)⟩
  · rw [granted]
    exact ⟨fun _ kind => balanced.exact kind ▸ acquired.fits kind,fun _ => ⟨_,rfl⟩⟩

theorem arbiterAccountsExactly (capacities : List (Count ResourceKind)) (ops : List ArbiterOp) :
    (ops.countP ArbiterOp.acquires ≤ UInt64.size →
      Meets Audited.after Audited.FreshId (.start capacities) ops) ∧
    (Meets Audited.after Audited.FreshId (.start capacities) ops →
      ArbiterLaws capacities (run Audited.after (.start capacities) ops)) := by
  refine ⟨fun few => freshIdsFrom (n := 0) rfl nofun (by omega),fun fresh => ?_⟩
  have balanced := balancedRun fresh
  have capacity : (run Audited.after (.start capacities) ops).capacity = (Audited.start capacities).capacity := by
    unfold Audited.capacity
    rw [capacitiesKept]
    rfl
  have iff := grantedIff balanced
  rw [capacity] at iff
  refine ⟨balanced.exact,capacity ▸ balanced.bounded,iff,fun claims error failed => ?_,fun id absent => ?_,
    fun empty claims => ?_⟩
  · rcases acquireShape (run Audited.after (.start capacities) ops).arbiter claims with refused | ⟨_,granted⟩
    · rw [refused]
    · rw [granted] at failed
      cases failed
  · unfold TechnicalResourceArbiter.release
    split
    · rfl
    · rename_i row found
      obtain ⟨mem,named⟩ := Table.findIff.mp found
      rw [← Table.memRows,balanced.filed] at mem
      exact absurd named (absent row mem)
  · rw [iff claims]
    refine Iff.trans ?_ (grantedIff (balancedStart capacities) claims).symm
    unfold Audited.outstanding
    rw [empty]
    rfl

end Laws

theorem arbiterAccountsExactlyHeld :
    ArbiterLaws [⟨⟨"network"⟩,2⟩] (run Audited.after (.start [⟨⟨"network"⟩,2⟩])
      [.acquire [⟨⟨"network"⟩,1⟩,⟨⟨"network"⟩,1⟩],.release ⟨1⟩,.release ⟨1⟩]) :=
  have laws := arbiterAccountsExactly [⟨⟨"network"⟩,2⟩]
    [.acquire [⟨⟨"network"⟩,1⟩,⟨⟨"network"⟩,1⟩],.release ⟨1⟩,.release ⟨1⟩]
  laws.2 (laws.1 (by decide))

section Wrapping

/- Each empty acquisition is released at once, and takes one id with it. -/
def spendIds (count : Nat) : List ArbiterOp :=
  (List.range count).flatMap fun i => [.acquire [],.release ⟨.ofNat (i + 2)⟩]

theorem spendId {s} (absent : ∀ row ∈ s.arbiter.reservations, row.id.value ≠ s.arbiter.nextId)
    (filed : s.arbiter.reservations.rows = s.ledger) :
    run Audited.after s [.acquire [],.release ⟨s.arbiter.nextId⟩] =
      { s with arbiter := { s.arbiter with nextId := s.arbiter.nextId + 1 } } := by
  have other : ∀ row ∈ s.arbiter.reservations.rows, row.id ≠ ⟨s.arbiter.nextId⟩ := fun row mem same =>
    absent row mem (congrArg ReservationId.value same)
  have filtered : (s.arbiter.reservations.rows ++ [(⟨⟨s.arbiter.nextId⟩,[]⟩ : Reservation)]).filter
      (fun row => row.id ≠ ⟨s.arbiter.nextId⟩) = s.arbiter.reservations.rows := by
    rw [List.filter_append,List.filter_eq_self.mpr fun row mem => by simpa using other row mem]
    simp
  let filing := s.arbiter.reservations.upsert ⟨⟨s.arbiter.nextId⟩,[]⟩ (fun row => { row with claims := [] }) fun _ => rfl
  have rows : filing.rows = s.arbiter.reservations.rows ++ [⟨⟨s.arbiter.nextId⟩,[]⟩] :=
    Table.upsertAbsent _ other
  have found : filing.find? ⟨s.arbiter.nextId⟩ = some ⟨⟨s.arbiter.nextId⟩,[]⟩ :=
    Table.findIff.mpr ⟨by rw [← Table.memRows,rows]; simp,rfl⟩
  have restored : filing.retain (fun row => row.id ≠ ⟨s.arbiter.nextId⟩) = s.arbiter.reservations :=
    Table.eqOfRows ((congrArg (List.filter _) rows).trans filtered)
  have acquired : s.after (.acquire []) = ⟨{ s.arbiter with
      reservations := filing, nextId := s.arbiter.nextId + 1 },s.ledger ++ [⟨⟨s.arbiter.nextId⟩,[]⟩]⟩ := rfl
  rw [runCons,acquired]
  simp only [runCons,runNil,Audited.after,TechnicalResourceArbiter.release,found,restored,← filed,filtered]
  rfl

def network (quantity : UInt64) : List ResourceClaim := [⟨⟨"network"⟩,quantity⟩]

def heldOne : Audited := run Audited.after (.start [⟨⟨"network"⟩,1⟩]) [.acquire (network 1)]

theorem spendIdsRun {count} (few : count < UInt64.size) : run Audited.after heldOne (spendIds count) =
    { heldOne with arbiter := { heldOne.arbiter with nextId := .ofNat (count + 2) } } := by
  induction count with
  | zero => rfl
  | succ count ih =>
    unfold spendIds at ih ⊢
    rw [List.range_succ,List.flatMap_append,runAppend,ih (by omega)]
    refine (spendId (fun row mem same => ?_) rfl).trans ?_
    · cases List.mem_singleton.mp mem
      have equal := congrArg UInt64.toNat same
      simp only [UInt64.toNat_ofNat'] at equal
      simp only [UInt64.size] at few
      change 1 = _ at equal
      omega
    · simp only
      rw [UInt64.ofNat_add (count + 2) 1]
      rfl

-- The counter comes round to 1, which is still held, and the second holder replaces the first.
theorem wrappedIdLeaks :
    let s := run Audited.after (.start [⟨⟨"network"⟩,1⟩]) (.acquire (network 1) ::
      spendIds (UInt64.size - 1) ++ [.acquire [],.release ⟨1⟩])
    s.ledger = [] ∧ s.outstanding ⟨"network"⟩ = 0 ∧ Tally.get s.arbiter.reserved ⟨"network"⟩ = 1 ∧
      (s.arbiter.acquire (network 1)).2 = .error .insufficientCapacity ∧
      ((TechnicalResourceArbiter.new [⟨⟨"network"⟩,1⟩]).acquire (network 1)).2 = .ok ⟨1⟩ := by
  have spent : run Audited.after (.start [⟨⟨"network"⟩,1⟩]) (.acquire (network 1) ::
      spendIds (UInt64.size - 1) ++ [.acquire [],.release ⟨1⟩]) =
      run Audited.after { heldOne with arbiter := { heldOne.arbiter with nextId := 1 } }
        [.acquire [],.release ⟨1⟩] := by
    have round : UInt64.ofNat (UInt64.size - 1 + 2) = 1 := by decide +kernel
    have spent := @spendIdsRun (UInt64.size - 1) (by decide)
    have begun : run Audited.after (.start [⟨⟨"network"⟩,1⟩]) (.acquire (network 1) ::
        spendIds (UInt64.size - 1)) = run Audited.after heldOne (spendIds (UInt64.size - 1)) := by
      rw [runCons,heldOne,runCons,runNil]
    rw [runAppend,begun,spent,round]
  rw [spent]
  decide +kernel

end Wrapping
end Bamep
