/-
Arithmetic on signed bytes: sums that stop at an overflow beside sums that
wrap, both measured against the exact integer.
-/
import Mathlib.Data.UInt

namespace CheckedInt8

/-- The integers that an `i8` can hold. -/
def Fits (z : Int) : Prop := -128 ≤ z ∧ z ≤ 127

instance (z : Int) : Decidable (Fits z) :=
  inferInstanceAs (Decidable (_ ∧ _))

/-- `i8::checked_add`. -/
def add (a b : Int8) : Option Int8 :=
  if Fits (a.toInt + b.toInt) then some (a + b) else none

/-- `i8::checked_sub`. -/
def sub (a b : Int8) : Option Int8 :=
  if Fits (a.toInt - b.toInt) then some (a - b) else none

theorem bmod_of_fits {z : Int} (hfits : Fits z) : z.bmod 256 = z := by
  obtain ⟨hlow, hhigh⟩ := hfits
  rw [Int.bmod_eq_emod]
  split <;> omega

/-- A sum that fits is returned. -/
theorem add_of_fits {a b : Int8} (hfits : Fits (a.toInt + b.toInt)) :
    ∃ c, add a b = some c ∧ c.toInt = a.toInt + b.toInt := by
  refine ⟨a + b, if_pos hfits, ?_⟩
  rw [Int8.toInt_add]
  exact bmod_of_fits hfits

theorem sub_of_fits {a b : Int8} (hfits : Fits (a.toInt - b.toInt)) :
    ∃ c, sub a b = some c ∧ c.toInt = a.toInt - b.toInt := by
  refine ⟨a - b, if_pos hfits, ?_⟩
  rw [Int8.toInt_sub]
  exact bmod_of_fits hfits

theorem add_isSome_iff {a b : Int8} :
    (add a b).isSome ↔ Fits (a.toInt + b.toInt) := by
  rw [add]
  split <;> simp_all

theorem toInt_toInt8 (n : UInt8) : n.toInt8.toInt = (n.toNat : Int).bmod 256 :=
  BitVec.toInt_eq_toNat_bmod n.toBitVec

/-- Going up by less than the number of bytes wraps just past the last. -/
theorem le_bmod_add_iff {v : Int} {n : Nat} (hv : Fits v) (hn : n ≤ 255) :
    v ≤ (v + n).bmod 256 ↔ v + n ≤ 127 := by
  obtain ⟨hlow, hhigh⟩ := hv
  rw [Int.bmod_eq_emod]
  split <;> omega

end CheckedInt8
