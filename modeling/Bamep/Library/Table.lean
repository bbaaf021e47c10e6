import Mathlib.Data.List.Nodup
import Mathlib.Data.List.Basic

/-! Keyed tables. A table is a list of rows whose keys are pairwise distinct, in insertion order.
Insertion fails on a key that is present, and an update may not change a key, so the
distinctness of keys never has to be proved again by a user of a table. -/
namespace Relational

variable {κ α : Type*}

structure Table (key : α → κ) where
  rows : List α
  unique : (rows.map key).Nodup

namespace Table
variable {key : α → κ}

instance : Membership α (Table key) where
  mem table row := row ∈ table.rows

theorem memRows {table : Table key} {row} : row ∈ table.rows ↔ row ∈ table := Iff.rfl

theorem eqOfRows {a b : Table key} (same : a.rows = b.rows) : a = b := by
  cases a
  cases same
  rfl

instance forallMem (table : Table key) (p : α → Prop) [DecidablePred p] : Decidable (∀ row ∈ table, p row) :=
  inferInstanceAs (Decidable (∀ row ∈ table.rows, p row))

instance existsMem (table : Table key) (p : α → Prop) [DecidablePred p] : Decidable (∃ row ∈ table, p row) :=
  inferInstanceAs (Decidable (∃ row ∈ table.rows, p row))

instance memDecide [DecidableEq α] (table : Table key) (row : α) : Decidable (row ∈ table) :=
  inferInstanceAs (Decidable (row ∈ table.rows))

def empty : Table key := ⟨[],List.nodup_nil⟩

@[simp] theorem notMemEmpty (row : α) : row ∉ (empty : Table key) := List.not_mem_nil

theorem eqOfKey {table : Table key} {a b} (left : a ∈ table) (right : b ∈ table)
    (same : key a = key b) : a = b :=
  List.inj_on_of_nodup_map table.unique left right same

def select (table : Table key) (p : α → Bool) : List α := table.rows.filter p

@[simp] theorem memSelect {table : Table key} {p row} :
    row ∈ table.select p ↔ row ∈ table ∧ p row = true := List.mem_filter

def retain (table : Table key) (p : α → Bool) : Table key :=
  ⟨table.rows.filter p,table.unique.sublist (List.filter_sublist.map key)⟩

@[simp] theorem memRetain {table : Table key} {p row} :
    row ∈ table.retain p ↔ row ∈ table ∧ p row = true := List.mem_filter

theorem mapIfKey (p : α → Bool) (f : α → α) (keeps : ∀ row, key (f row) = key row) (rows : List α) :
    (rows.map fun row => if p row then f row else row).map key = rows.map key := by
  rw [List.map_map]
  apply List.map_congr_left
  intro row _
  simp only [Function.comp_apply]
  split
  · exact keeps row
  · rfl

def updateWhere (table : Table key) (p : α → Bool) (f : α → α)
    (keeps : ∀ row, key (f row) = key row) : Table key :=
  ⟨table.rows.map fun row => if p row then f row else row,
    by rw [mapIfKey p f keeps]; exact table.unique⟩

theorem memUpdateWhere {table : Table key} {p f}
    (keeps : ∀ row, key (f row) = key row) {row} :
    row ∈ table.updateWhere p f keeps ↔ ∃ old ∈ table, row = if p old then f old else old := by
  constructor
  · intro mem
    obtain ⟨old,present,same⟩ := List.mem_map.mp mem
    exact ⟨old,present,same.symm⟩
  · rintro ⟨old,present,same⟩
    exact List.mem_map.mpr ⟨old,present,same.symm⟩

section Keyed
variable [DecidableEq κ]

def find? (table : Table key) (k : κ) : Option α := table.rows.find? fun row => key row = k

theorem findIff {table : Table key} {k row} :
    table.find? k = some row ↔ row ∈ table ∧ key row = k := by
  constructor
  · intro found
    exact ⟨List.mem_of_find?_eq_some found,by simpa using List.find?_some found⟩
  · rintro ⟨mem,same⟩
    cases found : table.find? k with
    | none =>
      have absent := List.find?_eq_none.mp found row mem
      exact absent (by simpa using same) |>.elim
    | some other =>
      have present := List.mem_of_find?_eq_some found
      have key' : key other = k := by simpa using List.find?_some found
      rw [eqOfKey present mem (key'.trans same.symm)]

theorem retainPerm {table : Table key} {row} (mem : row ∈ table) :
    table.rows.Perm (row :: (table.retain fun x => key x ≠ key row).rows) := by
  have distinct : (row :: (table.retain fun x => key x ≠ key row).rows).Nodup := by
    refine List.nodup_cons.mpr ⟨fun kept => ?_,(Table.unique _).of_map⟩
    simpa using (memRetain.mp kept).2
  refine (List.perm_ext_iff_of_nodup table.unique.of_map distinct).mpr fun x => ?_
  rw [List.mem_cons,memRows,memRows,memRetain,decide_eq_true_eq]
  constructor
  · intro present
    by_cases same : key x = key row
    · exact .inl (eqOfKey present mem same)
    · exact .inr ⟨present,same⟩
  · rintro (rfl | ⟨present,_⟩)
    · exact mem
    · exact present

def insert? (table : Table key) (row : α) : Option (Table key) :=
  if absent : key row ∉ table.rows.map key then
    some ⟨table.rows ++ [row],by
      rw [List.map_append]
      exact List.nodup_append.mpr ⟨table.unique,List.nodup_singleton _,fun a left b right same =>
        absent (by simp only [List.map_cons,List.map_nil,List.mem_singleton] at right
                   exact right ▸ same ▸ left)⟩⟩
  else none

theorem insertRows {table table' : Table key} {row} (ok : table.insert? row = some table') :
    table'.rows = table.rows ++ [row] := by
  unfold insert? at ok
  split at ok
  · cases Option.some.inj ok; rfl
  · contradiction

theorem memInsert {table table' : Table key} {row x} (ok : table.insert? row = some table') :
    x ∈ table' ↔ x ∈ table ∨ x = row := by
  change x ∈ table'.rows ↔ x ∈ table.rows ∨ x = row
  rw [insertRows ok]
  simp

theorem insertAbsent {table table' : Table key} {row x} (ok : table.insert? row = some table')
    (mem : x ∈ table) : key x ≠ key row := by
  intro same
  unfold insert? at ok
  split at ok
  · rename_i absent
    exact absent (List.mem_map.mpr ⟨x,mem,same⟩)
  · contradiction

theorem insertIsSome {table : Table key} {row} (absent : ∀ x ∈ table, key x ≠ key row) :
    ∃ table', table.insert? row = some table' := by
  have missing : key row ∉ table.rows.map key := by
    intro mem
    obtain ⟨x,present,same⟩ := List.mem_map.mp mem
    exact absent x present same
  exact ⟨_,by unfold insert?; rw [dif_pos missing]⟩

inductive Refusal where
  | occupied | saturated
  deriving DecidableEq, Repr

/-- Insertion into a table of bounded size; a key that is present is refused even when it is full. -/
def insertWithin (table : Table key) (capacity : Nat) (row : α) : Except Refusal (Table key) :=
  match table.insert? row with
  | none => .error .occupied
  | some table' => if capacity ≤ table.rows.length then .error .saturated else .ok table'

theorem insertWithinOk {table table' : Table key} {capacity row}
    (ok : table.insertWithin capacity row = .ok table') : table.insert? row = some table' := by
  unfold insertWithin at ok
  split at ok
  · contradiction
  rename_i inserted
  split at ok
  · contradiction
  · cases ok
    exact inserted

def insertAll? (table : Table key) : List α → Option (Table key)
  | [] => some table
  | row :: rest => (table.insert? row).bind fun table' => insertAll? table' rest

theorem insertAllRows {table table' : Table key} {rows}
    (ok : table.insertAll? rows = some table') : table'.rows = table.rows ++ rows := by
  induction rows generalizing table with
  | nil => cases Option.some.inj ok; simp
  | cons row rest ih =>
    obtain ⟨middle,first,last⟩ := Option.bind_eq_some_iff.mp ok
    rw [ih last,insertRows first]
    simp

theorem insertAllIsSome {table : Table key} {rows} (distinct : (rows.map key).Nodup)
    (absent : ∀ x ∈ table, ∀ y ∈ rows, key x ≠ key y) : ∃ table', table.insertAll? rows = some table' := by
  induction rows generalizing table with
  | nil => exact ⟨table,rfl⟩
  | cons row rest ih =>
    obtain ⟨first,others⟩ := List.nodup_cons.mp distinct
    obtain ⟨middle,inserted⟩ := insertIsSome fun x mem => absent x mem row List.mem_cons_self
    have stillAbsent : ∀ x ∈ middle, ∀ y ∈ rest, key x ≠ key y := by
      intro x mem y present same
      rcases (memInsert inserted).mp mem with old | new
      · exact absent x old y (List.mem_cons_of_mem _ present) same
      · exact first (List.mem_map.mpr ⟨y,present,by rw [← same,new]⟩)
    obtain ⟨table',ok⟩ := ih others stillAbsent
    exact ⟨table',by simp only [insertAll?,inserted,Option.bind_some,ok]⟩

theorem memInsertAll {table table' : Table key} {rows}
    (ok : table.insertAll? rows = some table') {x} : x ∈ table' ↔ x ∈ table ∨ x ∈ rows := by
  change x ∈ table'.rows ↔ x ∈ table.rows ∨ x ∈ rows
  rw [insertAllRows ok,List.mem_append]

theorem insertAllAbsent {table table' : Table key} {rows}
    (ok : table.insertAll? rows = some table') {x y} (old : x ∈ table) (new : y ∈ rows) :
    key x ≠ key y := by
  have unique := table'.unique
  rw [insertAllRows ok,List.map_append] at unique
  exact (List.nodup_append.mp unique).2.2 _ (List.mem_map.mpr ⟨x,old,rfl⟩) _ (List.mem_map.mpr ⟨y,new,rfl⟩)

def update (table : Table key) (k : κ) (f : α → α) (keeps : ∀ row, key (f row) = key row) :
    Table key :=
  table.updateWhere (fun row => key row = k) f keeps

theorem memUpdate {table : Table key} {k f} (keeps : ∀ row, key (f row) = key row)
    {row} :
    row ∈ table.update k f keeps ↔
      (row ∈ table ∧ key row ≠ k) ∨ ∃ old ∈ table, key old = k ∧ row = f old := by
  unfold update
  rw [memUpdateWhere]
  simp only [decide_eq_true_eq]
  constructor
  · rintro ⟨old,present,rfl⟩
    split
    · exact .inr ⟨old,present,‹_›,rfl⟩
    · exact .inl ⟨present,‹_›⟩
  · rintro (⟨present,other⟩ | ⟨old,present,named,rfl⟩)
    · exact ⟨row,present,(if_neg other).symm⟩
    · exact ⟨old,present,(if_pos named).symm⟩

theorem updateKept {table : Table key} {k f} (keeps : ∀ row, key (f row) = key row)
    {row} (mem : row ∈ table) :
    ∃ later ∈ table.update k f keeps, key later = key row ∧ (later = row ∨ later = f row) := by
  by_cases named : key row = k
  · exact ⟨f row,(memUpdate keeps).mpr (.inr ⟨row,mem,named,rfl⟩),keeps row,.inr rfl⟩
  · exact ⟨row,(memUpdate keeps).mpr (.inl ⟨mem,named⟩),rfl,.inl rfl⟩

theorem updateOrigin {table : Table key} {k f} (keeps : ∀ row, key (f row) = key row)
    {row} (mem : row ∈ table.update k f keeps) :
    ∃ old ∈ table, key old = key row ∧ (row = old ∨ row = f old) := by
  rcases (memUpdate keeps).mp mem with ⟨present,_⟩ | ⟨old,present,_,changed⟩
  · exact ⟨row,present,rfl,.inl rfl⟩
  · exact ⟨old,present,by rw [changed,keeps],.inr changed⟩

/-- `INSERT … ON CONFLICT (key) DO UPDATE`. -/
def upsert (table : Table key) (row : α) (f : α → α) (keeps : ∀ row, key (f row) = key row) : Table key :=
  match table.insert? row with
  | some table' => table'
  | none => table.update (key row) f keeps

theorem memUpsert {table : Table key} {row f} (keeps : ∀ row, key (f row) = key row)
    {x} :
    x ∈ table.upsert row f keeps ↔ (x ∈ table ∧ key x ≠ key row) ∨
      (∃ old ∈ table, key old = key row ∧ x = f old) ∨
      (∀ old ∈ table, key old ≠ key row) ∧ x = row := by
  unfold upsert
  by_cases absent : ∀ old ∈ table, key old ≠ key row
  · obtain ⟨table',ok⟩ := insertIsSome absent
    rw [ok]
    simp only [memInsert ok]
    constructor
    · rintro (old | new)
      · exact .inl ⟨old,absent x old⟩
      · exact .inr (.inr ⟨absent,new⟩)
    · rintro (⟨old,_⟩ | ⟨old,mem,same,_⟩ | ⟨_,new⟩)
      · exact .inl old
      · exact absurd same (absent old mem)
      · exact .inr new
  · cases ok : table.insert? row with
    | some table' => exact absurd (fun old mem => insertAbsent ok mem) absent
    | none =>
      simp only [memUpdate keeps]
      constructor
      · rintro (old | new)
        · exact .inl old
        · exact .inr (.inl new)
      · rintro (old | new | ⟨missing,_⟩)
        · exact .inl old
        · exact .inr new
        · exact absurd missing absent

theorem upsertPresent {table : Table key} {row old f} (keeps : ∀ row, key (f row) = key row)
    (mem : old ∈ table) (same : key old = key row) :
    table.upsert row f keeps = table.update (key row) f keeps := by
  unfold upsert
  cases ok : table.insert? row with
  | some table' => exact absurd same (insertAbsent ok mem)
  | none => rfl

theorem upsertAbsent {table : Table key} {row f} (keeps : ∀ row, key (f row) = key row)
    (absent : ∀ old ∈ table, key old ≠ key row) : (table.upsert row f keeps).rows = table.rows ++ [row] := by
  obtain ⟨table',ok⟩ := insertIsSome absent
  unfold upsert
  rw [ok]
  exact insertRows ok

end Keyed
end Table
end Relational
