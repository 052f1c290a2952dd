/-
Saturating arithmetic on fixed-width unsigned integers.  Plain `+` and `-` on
these types wrap; the operations here stop at the ends of the range.
-/
import Mathlib.Data.UInt

namespace Saturating

/-- `u8::saturating_add`. -/
def add8 (a b : UInt8) : UInt8 :=
  if a.toNat + b.toNat < 256 then a + b else 255

/-- `u8::saturating_sub`. -/
def sub8 (a b : UInt8) : UInt8 :=
  if b ≤ a then a - b else 0

/-- `u8::saturating_mul`. -/
def mul8 (a b : UInt8) : UInt8 :=
  if a.toNat * b.toNat < 256 then a * b else 255

/-- `u16::saturating_add`. -/
def add16 (a b : UInt16) : UInt16 :=
  if a.toNat + b.toNat < 65536 then a + b else 65535

/-- `u16::saturating_mul`. -/
def mul16 (a b : UInt16) : UInt16 :=
  if a.toNat * b.toNat < 65536 then a * b else 65535

/-- `u32::saturating_sub`. -/
def sub32 (a b : UInt32) : UInt32 :=
  if b ≤ a then a - b else 0

theorem add8_toNat (a b : UInt8) :
    (add8 a b).toNat = min (a.toNat + b.toNat) 255 := by
  unfold add8
  split
  · next hlt =>
    rw [UInt8.toNat_add]
    omega
  · next hge =>
    change 255 = _
    omega

theorem sub8_toNat (a b : UInt8) : (sub8 a b).toNat = a.toNat - b.toNat := by
  unfold sub8
  split
  · next hle => exact UInt8.toNat_sub_of_le a b hle
  · next hlt =>
    rw [UInt8.le_iff_toNat_le] at hlt
    change 0 = _
    omega

/-- Sums that are capped at every step are capped once. -/
theorem min_add_min (n b m : Nat) : min (min n m + b) m = min (n + b) m := by
  omega

theorem mul8_toNat (a b : UInt8) :
    (mul8 a b).toNat = min (a.toNat * b.toNat) 255 := by
  unfold mul8
  split
  · next hlt =>
    rw [UInt8.toNat_mul, Nat.mod_eq_of_lt hlt]
    omega
  · next hge =>
    change 255 = _
    omega

theorem min8_toNat (a b : UInt8) :
    (min a b).toNat = min a.toNat b.toNat := by
  change (if a ≤ b then a else b).toNat = _
  split
  · next hle =>
    rw [UInt8.le_iff_toNat_le] at hle
    omega
  · next hgt =>
    rw [UInt8.le_iff_toNat_le] at hgt
    omega

theorem sub32_toNat (a b : UInt32) : (sub32 a b).toNat = a.toNat - b.toNat := by
  unfold sub32
  split
  · next hle => exact UInt32.toNat_sub_of_le a b hle
  · next hlt =>
    rw [UInt32.le_iff_toNat_le] at hlt
    change 0 = _
    omega

/-- Taking back what a total below the range holds. -/
theorem sub32_ofNat_add (a : UInt32) (n : Nat) (hlt : a.toNat + n < 2 ^ 32) :
    sub32 (UInt32.ofNat (a.toNat + n)) a = UInt32.ofNat n := by
  apply UInt32.toNat_inj.mp
  rw [sub32_toNat, UInt32.toNat_ofNat', UInt32.toNat_ofNat']
  omega

/-- A saturating sum never reports more than the exact one. -/
theorem add8_toNat_le (a b : UInt8) :
    (add8 a b).toNat ≤ a.toNat + b.toNat := by
  rw [add8_toNat]
  omega

end Saturating
