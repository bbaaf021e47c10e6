import Bamep.Library.Table

/-! How a table evolves when rows are updated in place and inserted, never deleted: every old row is
still there under its key, related to what it was, and every further row is a new one. -/
namespace Relational
variable {κ α β : Type*} {key : α → κ}

def Evolves (rel : α → α → Prop) (new : α → Prop) (before after : Table key) : Prop :=
  ∃ f fresh, after.rows = before.rows.map f ++ fresh ∧
    (∀ row ∈ before, key (f row) = key row ∧ rel row (f row)) ∧ ∀ row ∈ fresh, new row

namespace Evolves
variable {rel : α → α → Prop} {new : α → Prop} {a b c : Table key}

theorem refl (still : ∀ row ∈ a, rel row row) : Evolves rel new a a :=
  ⟨id,[],by simp,fun row mem => ⟨rfl,still row mem⟩,nofun⟩

theorem mono {rel' : α → α → Prop} {new' : α → Prop} (evolves : Evolves rel new a b)
    (weaker : ∀ x y, rel x y → rel' x y) (older : ∀ x, new x → new' x) : Evolves rel' new' a b := by
  obtain ⟨f,fresh,rows,old,added⟩ := evolves
  exact ⟨f,fresh,rows,fun row mem => ⟨(old row mem).1,weaker _ _ (old row mem).2⟩,
    fun row mem => older row (added row mem)⟩

theorem updateWhere {p f} (keeps : ∀ row, key (f row) = key row)
    (still : ∀ row ∈ a, rel row row) (moved : ∀ row ∈ a, p row = true → rel row (f row)) :
    Evolves rel new a (a.updateWhere p f keeps) := by
  refine ⟨fun row => if p row then f row else row,[],by simp [Table.updateWhere],?_,nofun⟩
  intro row mem
  by_cases chosen : p row = true
  · simp only [if_pos chosen]
    exact ⟨keeps row,moved row mem chosen⟩
  · simp only [if_neg chosen]
    exact ⟨trivial,still row mem⟩

theorem forward (evolves : Evolves rel new a b) {row} (mem : row ∈ a) :
    ∃ row' ∈ b, key row' = key row ∧ rel row row' := by
  obtain ⟨f,fresh,rows,old,_⟩ := evolves
  refine ⟨f row,?_,old row mem⟩
  rw [← Table.memRows,rows]
  exact List.mem_append_left _ (List.mem_map_of_mem mem)

theorem back (evolves : Evolves rel new a b) {row'} (mem : row' ∈ b) :
    (∃ row ∈ a, key row' = key row ∧ rel row row') ∨ new row' := by
  obtain ⟨f,fresh,rows,old,added⟩ := evolves
  rw [← Table.memRows,rows] at mem
  rcases List.mem_append.mp mem with kept | inserted
  · obtain ⟨row,present,same⟩ := List.mem_map.mp kept
    subst same
    exact .inl ⟨row,present,old row present⟩
  · exact .inr (added row' inserted)

/-- A projection of selected rows stays as it is when no row enters or leaves the selection. -/
theorem selectMap (evolves : Evolves rel new a b) {p} {g : α → β}
    (stays : ∀ x y, rel x y → p y = p x ∧ g y = g x) (outside : ∀ x, new x → p x = false) :
    (b.select p).map g = (a.select p).map g := by
  obtain ⟨f,added,rows,old,news⟩ := evolves
  have none : added.filter p = [] :=
    List.filter_eq_nil_iff.mpr fun x mem chosen => by simp [outside x (news x mem)] at chosen
  have same : ∀ x ∈ a.rows, p (f x) = p x ∧ g (f x) = g x := fun x mem => stays x _ (old x mem).2
  have inside : a.rows.filter (p ∘ f) = a.rows.filter p := List.filter_congr fun x mem => (same x mem).1
  unfold Table.select
  rw [rows,List.filter_append,none,List.append_nil,List.filter_map,List.map_map,inside]
  exact List.map_congr_left fun x mem => (same x (List.mem_of_mem_filter mem)).2

section Keyed
variable [DecidableEq κ]

theorem update {k f} (keeps : ∀ row, key (f row) = key row)
    (still : ∀ row ∈ a, rel row row) (moved : ∀ row ∈ a, key row = k → rel row (f row)) :
    Evolves rel new a (a.update k f keeps) :=
  updateWhere keeps still fun row mem chosen => moved row mem (of_decide_eq_true chosen)

theorem insertAll {rows} (ok : a.insertAll? rows = some b) (still : ∀ row ∈ a, rel row row)
    (added : ∀ row ∈ rows, new row) : Evolves rel new a b :=
  ⟨id,rows,by rw [Table.insertAllRows ok,List.map_id],fun row mem => ⟨rfl,still row mem⟩,added⟩

theorem insert {row} (ok : a.insert? row = some b) (still : ∀ row ∈ a, rel row row)
    (added : new row) : Evolves rel new a b :=
  ⟨id,[row],by rw [Table.insertRows ok,List.map_id],fun row mem => ⟨rfl,still row mem⟩,by simpa using added⟩

end Keyed
end Evolves
end Relational
