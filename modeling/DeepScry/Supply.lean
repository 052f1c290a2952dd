/-
Units of several kinds against a demand that asks for some units by kind and
for some of any kind.  A supply covers a demand when every kind is there and
the total suffices.
-/
import Mathlib.Algebra.BigOperators.Group.Finset.Basic
import Mathlib.Algebra.Order.BigOperators.Group.Finset
import Mathlib.Data.Fintype.BigOperators

namespace Supply

universe u v

variable {K : Type u}

/-- What is asked for: `typed k` units of kind `k` and `wild` units of any. -/
structure Demand (K : Type u) where
  typed : K → Nat
  wild : Nat

variable [Fintype K]

def Demand.total (demand : Demand K) : Nat :=
  ∑ k, demand.typed k + demand.wild

def Covers (supply : K → Nat) (demand : Demand K) : Prop :=
  (∀ k, demand.typed k ≤ supply k) ∧ demand.total ≤ ∑ k, supply k

instance (supply : K → Nat) (demand : Demand K) :
    Decidable (Covers supply demand) :=
  inferInstanceAs (Decidable (_ ∧ _))

/-- Covering leaves, kind by kind, a remainder from which the untyped part of
the demand is spent. -/
theorem covers_iff_exists_spend (supply : K → Nat) (demand : Demand K) :
    Covers supply demand ↔
      (∀ k, demand.typed k ≤ supply k) ∧
        demand.wild ≤ ∑ k, (supply k - demand.typed k) := by
  have hsplit : (∀ k, demand.typed k ≤ supply k) →
      ∑ k, (supply k - demand.typed k) + ∑ k, demand.typed k =
        ∑ k, supply k := by
    intro htyped
    rw [← Finset.sum_add_distrib]
    exact Finset.sum_congr rfl fun k _ => Nat.sub_add_cancel (htyped k)
  constructor
  · rintro ⟨htyped, htotal⟩
    have := hsplit htyped
    unfold Demand.total at htotal
    exact ⟨htyped, by omega⟩
  · rintro ⟨htyped, hwild⟩
    have := hsplit htyped
    refine ⟨htyped, ?_⟩
    unfold Demand.total
    omega

theorem Covers.zero (supply : K → Nat) : Covers supply ⟨fun _ => 0, 0⟩ := by
  refine ⟨fun _ => Nat.zero_le _, ?_⟩
  simp [Demand.total]

theorem Covers.mono_wild {supply : K → Nat} {typed : K → Nat} {w w' : Nat}
    (hcover : Covers supply ⟨typed, w⟩) (hle : w' ≤ w) :
    Covers supply ⟨typed, w'⟩ := by
  refine ⟨hcover.1, ?_⟩
  have := hcover.2
  simp only [Demand.total] at this ⊢
  omega

/-- Two supplies side by side cover two demands side by side. -/
theorem Covers.add {s t : K → Nat} {typed typed' : K → Nat} {w w' : Nat}
    (hs : Covers s ⟨typed, w⟩) (ht : Covers t ⟨typed', w'⟩) :
    Covers (fun k => s k + t k) ⟨fun k => typed k + typed' k, w + w'⟩ := by
  refine ⟨fun k => Nat.add_le_add (hs.1 k) (ht.1 k), ?_⟩
  have h₁ := hs.2
  have h₂ := ht.2
  simp only [Demand.total, Finset.sum_add_distrib] at h₁ h₂ ⊢
  omega

/-- A batch that is all of one kind serves that kind first; what it has to
spare serves the untyped part. -/
theorem covers_single [DecidableEq K] (k : K) {n t : Nat} (hle : n ≤ t) :
    Covers (fun j => if j = k then t else 0)
      ⟨fun j => if j = k then n else 0, t - n⟩ := by
  refine ⟨fun j => ?_, ?_⟩
  · by_cases hj : j = k
    · simpa [hj] using hle
    · simp [hj]
  · simp only [Demand.total, Finset.sum_ite_eq', Finset.mem_univ, ↓reduceIte]
    omega

/-- Any batch serves the untyped part with its whole size. -/
theorem covers_wild (supply : K → Nat) :
    Covers supply ⟨fun _ => 0, ∑ k, supply k⟩ := by
  refine ⟨fun _ => Nat.zero_le _, ?_⟩
  simp [Demand.total]

end Supply
