import Mathlib.Algebra.Ring.Nat
import Bamep.Library.Table

/-! Finite maps from keys to 64-bit counters. A key without a row counts as zero. Adding checks for
overflow and stops at the first one; subtracting saturates and drops a row that reaches zero. -/
namespace Relational
variable {κ α : Type*}

structure Count (κ : Type*) where
  key : κ
  amount : UInt64
  deriving DecidableEq, Repr

abbrev Tally (κ : Type*) := Table (Count.key : Count κ → κ)

def checkedAdd (a b : UInt64) : Option UInt64 :=
  if a.toNat + b.toNat < UInt64.size then some (a + b) else none

def saturatingSub (a b : UInt64) : UInt64 := if b ≤ a then a - b else 0

theorem checkedAddSome {a b c} (ok : checkedAdd a b = some c) : c.toNat = a.toNat + b.toNat := by
  unfold checkedAdd at ok
  split at ok
  · rename_i fits
    cases ok
    rw [UInt64.toNat_add,Nat.mod_eq_of_lt fits]
  · cases ok

theorem checkedAddNone {a b} (overflow : checkedAdd a b = none) :
    UInt64.size ≤ a.toNat + b.toNat := by
  unfold checkedAdd at overflow
  split at overflow
  · cases overflow
  · exact Nat.le_of_not_lt ‹_›

theorem saturatingSubToNat (a b : UInt64) : (saturatingSub a b).toNat = a.toNat - b.toNat := by
  unfold saturatingSub
  split
  · rename_i fits
    exact UInt64.toNat_sub_of_le a b fits
  · rename_i exceeds
    rw [UInt64.le_iff_toNat_le] at exceeds
    rw [UInt64.toNat_zero]
    omega

/- What a list of items asks of one key, as an unbounded sum. -/
def demand [DecidableEq κ] (kind : α → κ) (quantity : α → UInt64) (items : List α) (k : κ) : Nat :=
  (items.map fun item => if kind item = k then (quantity item).toNat else 0).sum

namespace Tally
variable [DecidableEq κ] {t t' : Tally κ} {j k : κ} {amount : UInt64}

def get (t : Tally κ) (k : κ) : UInt64 := ((t.find? k).map Count.amount).getD 0

def set (t : Tally κ) (k : κ) (amount : UInt64) : Tally κ :=
  t.upsert ⟨k,amount⟩ (fun row => { row with amount := amount }) fun _ => rfl

def remove (t : Tally κ) (k : κ) : Tally κ := t.retain fun row => row.key ≠ k

theorem memSet {row} : row ∈ set t k amount ↔ (row ∈ t ∧ row.key ≠ k) ∨ row = ⟨k,amount⟩ := by
  refine (Table.memUpsert (by exact fun _ => rfl)).trans ⟨?_,?_⟩
  · rintro (old | ⟨⟨_,_⟩,_,rfl,rfl⟩ | ⟨_,new⟩)
    · exact .inl old
    · exact .inr rfl
    · exact .inr new
  · rintro (old | rfl)
    · exact .inl old
    · by_cases present : ∃ old ∈ t, old.key = k
      · obtain ⟨old,mem,rfl⟩ := present
        exact .inr (.inl ⟨old,mem,rfl,rfl⟩)
      · exact .inr (.inr ⟨fun old mem same => present ⟨old,mem,same⟩,rfl⟩)

theorem getOfMem {row} (mem : row ∈ t) : get t row.key = row.amount := by
  unfold get
  rw [Table.findIff.mpr ⟨mem,rfl⟩]
  rfl

theorem getOfAbsent (absent : ∀ row ∈ t, row.key ≠ k) : get t k = 0 := by
  unfold get
  cases found : t.find? k with
  | none => rfl
  | some row => exact absurd (Table.findIff.mp found).2 (absent row (Table.findIff.mp found).1)

theorem getCongr (same : ∀ row : Count κ, row.key = k → (row ∈ t ↔ row ∈ t')) : get t k = get t' k := by
  by_cases present : ∃ row ∈ t, row.key = k
  · obtain ⟨row,mem,rfl⟩ := present
    rw [getOfMem mem,getOfMem ((same row rfl).mp mem)]
  · rw [getOfAbsent fun row mem named => present ⟨row,mem,named⟩,
      getOfAbsent fun row mem named => present ⟨row,(same row named).mpr mem,named⟩]

@[simp] theorem getSet : get (set t k amount) j = if k = j then amount else get t j := by
  split
  · rename_i same
    subst same
    exact getOfMem (memSet.mpr (.inr rfl))
  · rename_i other
    refine getCongr fun row named => memSet.trans ⟨?_,fun mem => .inl ⟨mem,fun same => other ?_⟩⟩
    · rintro (⟨mem,_⟩ | rfl)
      · exact mem
      · exact absurd named other
    · exact same.symm.trans named

@[simp] theorem getRemove : get (remove t k) j = if k = j then 0 else get t j := by
  split
  · rename_i same
    subst same
    exact getOfAbsent fun row mem => by simpa using (Table.memRetain.mp mem).2
  · rename_i other
    refine getCongr fun row named => Table.memRetain.trans ⟨And.left,fun mem => ⟨mem,?_⟩⟩
    rw [named]
    simpa using Ne.symm other

section Folds
variable (kind : α → κ) (quantity : α → UInt64)

def addChecked (t : Tally κ) (items : List α) : Option (Tally κ) :=
  items.foldlM (fun t item => (checkedAdd (get t (kind item)) (quantity item)).map (set t (kind item))) t

def subtract (t : Tally κ) (items : List α) : Tally κ :=
  items.foldl (fun t item =>
    match t.find? (kind item) with
    | none => t
    | some row =>
      let left := saturatingSub row.amount (quantity item)
      if left = 0 then remove t (kind item) else set t (kind item) left) t

variable {kind quantity}

theorem demandCons {item items} : demand kind quantity (item :: items) k =
    (if kind item = k then (quantity item).toNat else 0) + demand kind quantity items k := rfl

theorem addCheckedSome {items} (ok : addChecked kind quantity t items = some t') (k : κ) :
    (get t' k).toNat = (get t k).toNat + demand kind quantity items k := by
  induction items generalizing t with
  | nil => cases ok; rfl
  | cons item rest ih =>
    unfold addChecked at ok
    rw [List.foldlM_cons] at ok
    obtain ⟨middle,first,last⟩ := Option.bind_eq_some_iff.mp ok
    obtain ⟨total,added,rfl⟩ := Option.map_eq_some_iff.mp first
    rw [ih last,getSet,demandCons]
    split
    · rename_i same
      subst same
      rw [checkedAddSome added,Nat.add_assoc]
    · rw [Nat.zero_add]

theorem addCheckedNone {items} (overflow : addChecked kind quantity t items = none) :
    ∃ k, UInt64.size ≤ (get t k).toNat + demand kind quantity items k := by
  induction items generalizing t with
  | nil => cases overflow
  | cons item rest ih =>
    unfold addChecked at overflow
    rw [List.foldlM_cons] at overflow
    cases added : checkedAdd (get t (kind item)) (quantity item) with
    | none =>
      refine ⟨kind item,?_⟩
      have exceeds := checkedAddNone added
      rw [demandCons,if_pos rfl]
      omega
    | some total =>
      rw [added] at overflow
      obtain ⟨k,exceeds⟩ := ih overflow
      refine ⟨k,?_⟩
      rw [getSet] at exceeds
      rw [demandCons]
      split at exceeds
      · rename_i same
        subst same
        rw [checkedAddSome added] at exceeds
        rw [if_pos rfl]
        omega
      · rename_i other
        rw [if_neg other]
        omega

theorem subtractGet {items} :
    (get (subtract kind quantity t items) k).toNat = (get t k).toNat - demand kind quantity items k := by
  induction items generalizing t with
  | nil => rfl
  | cons item rest ih =>
    have step : ∀ u : Tally κ, (∀ j, (get u j).toNat =
        (get t j).toNat - if kind item = j then (quantity item).toNat else 0) →
        (get (subtract kind quantity u rest) k).toNat =
          (get t k).toNat - demand kind quantity (item :: rest) k := by
      intro u taken
      rw [ih,taken,demandCons,Nat.sub_sub]
    unfold subtract
    rw [List.foldl_cons]
    apply step
    intro j
    split
    · rename_i absent
      have none : get t (kind item) = 0 := by unfold get; rw [absent]; rfl
      split
      · rename_i same
        subst same
        rw [none,UInt64.toNat_zero,Nat.zero_sub]
      · rfl
    · rename_i row found
      obtain ⟨mem,named⟩ := Table.findIff.mp found
      have held : get t (kind item) = row.amount := named ▸ getOfMem mem
      have left := saturatingSubToNat row.amount (quantity item)
      by_cases same : kind item = j
      · subst same
        rw [if_pos rfl,held,← left]
        simp only
        split
        · rename_i zero
          rw [getRemove,if_pos rfl,zero]
        · rw [getSet,if_pos rfl]
      · rw [if_neg same,Nat.sub_zero]
        simp only
        split
        · rw [getRemove,if_neg same]
        · rw [getSet,if_neg same]

end Folds

def setAll (t : Tally κ) (rows : List (Count κ)) : Tally κ :=
  rows.foldl (fun t row => set t row.key row.amount) t

theorem setAllAbsent {rows} (absent : ∀ row ∈ rows, row.key ≠ k) :
    get (setAll t rows) k = get t k := by
  induction rows generalizing t with
  | nil => rfl
  | cons row rest ih =>
    unfold setAll
    rw [List.foldl_cons]
    refine (ih fun x mem => absent x (List.mem_cons_of_mem _ mem)).trans ?_
    rw [getSet,if_neg (absent row List.mem_cons_self)]

theorem setAllMem {rows} (distinct : (rows.map Count.key).Nodup) {row}
    (mem : row ∈ rows) : get (setAll t rows) row.key = row.amount := by
  induction rows generalizing t with
  | nil => cases mem
  | cons first rest ih =>
    obtain ⟨fresh,others⟩ := List.nodup_cons.mp distinct
    unfold setAll
    rw [List.foldl_cons]
    rcases List.mem_cons.mp mem with rfl | later
    · refine (setAllAbsent fun x present same => fresh ?_).trans (by rw [getSet,if_pos rfl])
      exact List.mem_map.mpr ⟨x,present,same⟩
    · exact ih others later

end Tally
end Relational
