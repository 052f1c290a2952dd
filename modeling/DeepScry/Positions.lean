/-
Elements sent as positions and read back: where the position of every chosen
element gives the element back, the positions of a choice give the choice back,
in its order.
-/
import Mathlib.Data.Nat.Basic
import Mathlib.Data.List.Basic

namespace DeepScry

namespace Positions

variable {α β ε : Type}

/-- Read positions one by one; `pick` takes an element, skips the position or
fails. -/
def collect (pick : Nat → Except ε (Option α)) :
    List Nat → Except ε (List α)
  | [] => .ok []
  | position :: rest =>
      match pick position with
      | .error e => .error e
      | .ok none => collect pick rest
      | .ok (some a) => (collect pick rest).map fun as => a :: as

theorem collect_filterMap {index : α → Option Nat}
    {pick : Nat → Except ε (Option α)} {chosen : List α}
    (hround : ∀ a ∈ chosen, ∃ position, index a = some position ∧
      pick position = .ok (some a)) :
    collect pick (chosen.filterMap index) = .ok chosen := by
  induction chosen with
  | nil => rfl
  | cons a rest ih =>
      obtain ⟨ha, hrest⟩ := List.forall_mem_cons.mp hround
      obtain ⟨position, hindex, hpick⟩ := ha
      rw [List.filterMap_cons_some hindex, collect, hpick, ih hrest]
      rfl

theorem filterMap_filterMap {index : α → Option Nat} {get : Nat → Option α}
    {chosen : List α}
    (hround : ∀ a ∈ chosen, ∃ position, index a = some position ∧
      get position = some a) :
    (chosen.filterMap index).filterMap get = chosen := by
  induction chosen with
  | nil => rfl
  | cons a rest ih =>
      obtain ⟨ha, hrest⟩ := List.forall_mem_cons.mp hround
      obtain ⟨position, hindex, hget⟩ := ha
      rw [List.filterMap_cons_some hindex, List.filterMap_cons_some hget,
        ih hrest]

/-- As many positions as chosen elements. -/
theorem length_filterMap {index : α → Option Nat} {chosen : List α}
    (hsome : ∀ a ∈ chosen, ∃ position, index a = some position) :
    (chosen.filterMap index).length = chosen.length := by
  induction chosen with
  | nil => rfl
  | cons a rest ih =>
      obtain ⟨⟨position, hindex⟩, hrest⟩ := List.forall_mem_cons.mp hsome
      rw [List.filterMap_cons_some hindex, List.length_cons, List.length_cons,
        ih hrest]

/-- All positions of the choice satisfy what the position of each chosen
element does. -/
theorem forall_mem_filterMap {index : α → Option Nat} {P : Nat → Prop}
    {chosen : List α}
    (hindex : ∀ a ∈ chosen, ∀ position, index a = some position →
      P position) :
    ∀ position ∈ chosen.filterMap index, P position := by
  intro position hposition
  obtain ⟨a, ha, hsome⟩ := List.mem_filterMap.mp hposition
  exact hindex a ha position hsome

variable [BEq α] [LawfulBEq α] [BEq β] [LawfulBEq β]

theorem exists_idxOf? {options : List α} {a : α} (ha : a ∈ options) :
    ∃ position, options.idxOf? a = some position ∧
      options[position]? = some a ∧ position < options.length := by
  obtain ⟨position, hposition⟩ :=
    Option.isSome_iff_exists.mp (List.isSome_idxOf?.mpr ha)
  obtain ⟨hlt, heq, -⟩ := List.idxOf?_eq_some_iff.mp hposition
  exact ⟨position, hposition, by rw [List.getElem?_eq_getElem hlt, heq], hlt⟩

/-- The position of a pair in the list of all pairs, row by row. -/
def pairIndex (rows : List α) (columns : List β) (pair : α × β) :
    Option Nat :=
  (rows.idxOf? pair.1).bind fun row =>
    (columns.idxOf? pair.2).map fun column => row * columns.length + column

theorem exists_pairIndex {rows : List α} {columns : List β} {pair : α × β}
    (hrow : pair.1 ∈ rows) (hcolumn : pair.2 ∈ columns) :
    ∃ position, pairIndex rows columns pair = some position ∧
      rows[position / columns.length]? = some pair.1 ∧
      columns[position % columns.length]? = some pair.2 ∧
      position < rows.length * columns.length := by
  obtain ⟨row, hrowIndex, hrowGet, hrowLt⟩ := exists_idxOf? hrow
  obtain ⟨column, hcolumnIndex, hcolumnGet, hcolumnLt⟩ :=
    exists_idxOf? hcolumn
  have hpos : 0 < columns.length := Nat.zero_lt_of_lt hcolumnLt
  refine ⟨row * columns.length + column, ?_, ?_, ?_, ?_⟩
  · rw [pairIndex, hrowIndex, hcolumnIndex]
    rfl
  · rw [Nat.add_comm, Nat.add_mul_div_right _ _ hpos,
      Nat.div_eq_of_lt hcolumnLt, Nat.zero_add, hrowGet]
  · rw [Nat.add_comm, Nat.add_mul_mod_self_right, Nat.mod_eq_of_lt hcolumnLt,
      hcolumnGet]
  · calc row * columns.length + column
        < row * columns.length + columns.length :=
          Nat.add_lt_add_left hcolumnLt _
      _ = (row + 1) * columns.length := (Nat.succ_mul _ _).symm
      _ ≤ rows.length * columns.length := Nat.mul_le_mul_right _ hrowLt

end Positions

end DeepScry
