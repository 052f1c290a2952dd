/-
Picking weighted items under different keys until no other item fits into the
budget.
-/
import Mathlib.Algebra.BigOperators.Group.List.Basic
import Mathlib.Algebra.Order.BigOperators.Group.List
import Mathlib.Algebra.Order.Group.Defs
import Mathlib.Data.List.Nodup
import Mathlib.Tactic.Abel

namespace MaximalPick

universe u v

variable {K : Type u} {W : Type v} [DecidableEq K] [AddCommGroup W]

def total (items : List (K × W)) : W :=
  (items.map Prod.snd).sum

/-- The weight under one key. -/
def weightOf (items : List (K × W)) (k : K) : W :=
  (items.map fun item => if item.1 = k then item.2 else 0).sum

/-- The items under the other keys. -/
def others (items : List (K × W)) (k : K) : List (K × W) :=
  items.filter fun item => item.1 != k

omit [DecidableEq K] in
theorem total_cons (item : K × W) (items : List (K × W)) :
    total (item :: items) = item.2 + total items :=
  List.sum_cons

theorem weightOf_cons (item : K × W) (items : List (K × W)) (k : K) :
    weightOf (item :: items) k =
      (if item.1 = k then item.2 else 0) + weightOf items k :=
  List.sum_cons

omit [DecidableEq K] in
theorem total_perm {items other : List (K × W)} (hperm : items.Perm other) :
    total items = total other :=
  (hperm.map _).sum_eq

theorem weightOf_perm {items other : List (K × W)} (hperm : items.Perm other)
    (k : K) : weightOf items k = weightOf other k :=
  (hperm.map _).sum_eq

omit [AddCommGroup W] in
theorem mem_others {items : List (K × W)} {item : K × W} {k : K} :
    item ∈ others items k ↔ item ∈ items ∧ item.1 ≠ k := by
  simp [others]

omit [AddCommGroup W] in
theorem mem_keys_others_iff {items : List (K × W)} {k other : K}
    (hkey : other ≠ k) :
    other ∈ items.map Prod.fst ↔ other ∈ (others items k).map Prod.fst := by
  simp only [List.mem_map, mem_others]
  constructor
  · rintro ⟨item, hitem, rfl⟩
    exact ⟨item, ⟨hitem, hkey⟩, rfl⟩
  · rintro ⟨item, ⟨hitem, -⟩, hsame⟩
    exact ⟨item, hitem, hsame⟩

theorem weightOf_of_not_mem {items : List (K × W)} {k : K}
    (hnot : k ∉ items.map Prod.fst) : weightOf items k = 0 := by
  induction items with
  | nil => rfl
  | cons item rest ih =>
      rw [List.map_cons, List.mem_cons, not_or] at hnot
      rw [weightOf_cons, if_neg (Ne.symm hnot.1), ih hnot.2, add_zero]

omit [AddCommGroup W] in
theorem others_of_not_mem {items : List (K × W)} {k : K}
    (hnot : k ∉ items.map Prod.fst) : others items k = items := by
  apply List.filter_eq_self.mpr
  intro item hitem
  have hkey : item.1 ≠ k := by
    rintro rfl
    exact hnot (List.mem_map.mpr ⟨item, hitem, rfl⟩)
  simpa using hkey

/-- Taking one item out. -/
theorem total_eq_add_others {items : List (K × W)}
    (hnodup : (items.map Prod.fst).Nodup) {k : K} {w : W}
    (hmem : (k, w) ∈ items) : total items = w + total (others items k) := by
  induction items with
  | nil => cases hmem
  | cons item rest ih =>
      obtain ⟨hnot, hrest⟩ := List.nodup_cons.mp hnodup
      rcases List.mem_cons.mp hmem with rfl | hmem
      · have hothers : others ((k, w) :: rest) k = rest := by
          rw [others, List.filter_cons_of_neg (by simp), ← others,
            others_of_not_mem hnot]
        rw [hothers, total_cons]
      · have hkey : item.1 ≠ k := by
          rintro rfl
          exact hnot (List.mem_map.mpr ⟨_, hmem, rfl⟩)
        have hothers : others (item :: rest) k = item :: others rest k := by
          rw [others, List.filter_cons_of_pos (by simpa using hkey), ← others]
        rw [hothers, total_cons, total_cons, ih hrest hmem]
        abel

section Maximal

variable [LinearOrder W] [IsOrderedAddMonoid W]

omit [DecidableEq K] in
theorem total_nonneg {items : List (K × W)}
    (hnonneg : ∀ item ∈ items, 0 ≤ item.2) : 0 ≤ total items := by
  apply List.sum_nonneg
  intro weight hweight
  obtain ⟨item, hitem, rfl⟩ := List.mem_map.mp hweight
  exact hnonneg item hitem

theorem weightOf_nonneg {items : List (K × W)}
    (hnonneg : ∀ item ∈ items, 0 ≤ item.2) (k : K) : 0 ≤ weightOf items k := by
  apply List.sum_nonneg
  intro weight hweight
  obtain ⟨item, hitem, rfl⟩ := List.mem_map.mp hweight
  split
  · exact hnonneg item hitem
  · exact le_rfl

theorem weightOf_le_total {items : List (K × W)}
    (hnonneg : ∀ item ∈ items, 0 ≤ item.2) (k : K) :
    weightOf items k ≤ total items := by
  induction items with
  | nil => exact le_rfl
  | cons item rest ih =>
      obtain ⟨hitem, hrest⟩ := List.forall_mem_cons.mp hnonneg
      rw [weightOf_cons, total_cons]
      apply add_le_add _ (ih hrest)
      split
      · exact le_rfl
      · exact hitem

/-- The picked items fit into the budget, and no other item does on top of
them. -/
structure Maximal (budget : W) (items picked : List (K × W)) : Prop where
  subset : picked ⊆ items
  nodup : (picked.map Prod.fst).Nodup
  within : total picked ≤ budget
  maximal : ∀ item ∈ items, item.1 ∉ picked.map Prod.fst →
    budget < total picked + item.2

variable {budget : W} {items picked : List (K × W)}

omit [DecidableEq K] [IsOrderedAddMonoid W] in
theorem Maximal.nil (hbudget : 0 ≤ budget)
    (hnone : ∀ item ∈ items, budget < item.2) : Maximal budget items [] := by
  refine ⟨List.nil_subset _, List.nodup_nil, hbudget, ?_⟩
  intro item hitem _
  rw [total, List.map_nil, List.sum_nil, zero_add]
  exact hnone item hitem

/-- First one item, then as much of the others as fits. -/
theorem Maximal.cons {k : K} {w : W} (hitem : (k, w) ∈ items)
    (hrest : Maximal (budget - w) (others items k) picked) :
    Maximal budget items ((k, w) :: picked) := by
  constructor
  · apply List.cons_subset.mpr
    refine ⟨hitem, ?_⟩
    intro item hmem
    exact (mem_others.mp (hrest.subset hmem)).1
  · apply List.nodup_cons.mpr
    refine ⟨?_, hrest.nodup⟩
    intro hmem
    obtain ⟨item, hpicked, hkey⟩ := List.mem_map.mp hmem
    exact (mem_others.mp (hrest.subset hpicked)).2 hkey
  · rw [total_cons]
    exact le_sub_iff_add_le'.mp hrest.within
  · intro other hother hnot
    rw [List.map_cons, List.mem_cons, not_or] at hnot
    have hless := hrest.maximal other (mem_others.mpr ⟨hother, hnot.1⟩) hnot.2
    rw [total_cons, add_assoc]
    exact sub_lt_iff_lt_add'.mp hless

/-- Whichever item is picked first, the rest is picked from the others. -/
theorem Maximal.others (hmax : Maximal budget items picked) {k : K} {w : W}
    (hmem : (k, w) ∈ picked) :
    Maximal (budget - w) (others items k) (others picked k) := by
  have htotal := total_eq_add_others hmax.nodup hmem
  constructor
  · intro item hitem
    obtain ⟨hpicked, hkey⟩ := mem_others.mp hitem
    exact mem_others.mpr ⟨hmax.subset hpicked, hkey⟩
  · exact hmax.nodup.sublist (List.filter_sublist.map Prod.fst)
  · have hwithin := hmax.within
    rw [htotal] at hwithin
    exact le_sub_iff_add_le'.mpr hwithin
  · intro item hitem hnot
    obtain ⟨hitem, hkey⟩ := mem_others.mp hitem
    have hless := hmax.maximal item hitem (by
      intro hpicked
      obtain ⟨other, hother, hsame⟩ := List.mem_map.mp hpicked
      apply hnot
      rw [← hsame] at hkey ⊢
      exact List.mem_map.mpr ⟨other, mem_others.mpr ⟨hother, hkey⟩, rfl⟩)
    rw [htotal, add_assoc] at hless
    exact sub_lt_iff_lt_add'.mpr hless

omit [IsOrderedAddMonoid W] in
/-- If not everything fits, something is left out. -/
theorem Maximal.exists_left_out (hmax : Maximal budget items picked)
    (hnodup : (items.map Prod.fst).Nodup) (hmore : budget < total items) :
    ∃ item ∈ items, item.1 ∉ picked.map Prod.fst := by
  by_contra hnone
  have hsubset : items ⊆ picked := by
    intro item hitem
    by_contra hnot
    apply hnone
    refine ⟨item, hitem, ?_⟩
    intro hpicked
    obtain ⟨other, hother, hkey⟩ := List.mem_map.mp hpicked
    have hsame : other = item :=
      List.inj_on_of_nodup_map hnodup (hmax.subset hother) hitem hkey
    exact hnot (hsame ▸ hother)
  have hperm : picked.Perm items :=
    (List.perm_ext_iff_of_nodup (List.Nodup.of_map _ hmax.nodup)
      (List.Nodup.of_map _ hnodup)).mpr
        fun item => ⟨fun hmem => hmax.subset hmem, fun hmem => hsubset hmem⟩
  rw [← total_perm hperm] at hmore
  exact absurd hmax.within (not_le.mpr hmore)

end Maximal

end MaximalPick
