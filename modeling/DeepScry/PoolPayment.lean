/-
Paying a cost from a mana pool: exact as long as the totals compare as they
wrap, which the test does not make sure of.
-/
import DeepScry.TotalMana

namespace DeepScry

namespace ManaPool

variable {pool paid : ManaPool} {cost : ManaCost}

/-- `pay_cost` as a write to the pool, with its result. -/
def pay (pool : ManaPool) (cost : ManaCost) :
    ManaPool × Except String Unit :=
  match pool.payCost cost with
  | .ok paid => (paid, .ok ())
  | .error message => (pool, .error message)

/-- Every colour is there. -/
def CoversColors (pool : ManaPool) (cost : ManaCost) : Prop :=
  ∀ color, (cost.amountOf color).toNat ≤ (pool.amountOf color).toNat

/-- The payment succeeds when the pool covers the cost, takes the cost out of
the pool, and otherwise leaves the pool alone. -/
structure PaysExactly (pool : ManaPool) (cost : ManaCost) : Prop where
  succeeds : (pool.pay cost).2 = .ok () ↔
    pool.CoversColors cost ∧ cost.total ≤ pool.amount
  takesColors : (pool.pay cost).2 = .ok () → ∀ color,
    ((pool.pay cost).1.amountOf color).toNat +
      (cost.amountOf color).toNat ≤ (pool.amountOf color).toNat
  takesTotal : (pool.pay cost).2 = .ok () →
    (pool.pay cost).1.amount + cost.total = pool.amount
  atomic : (pool.pay cost).2 ≠ .ok () → (pool.pay cost).1 = pool

theorem pay_eq_ok_iff (pool : ManaPool) (cost : ManaCost) :
    (pool.pay cost).2 = .ok () ↔ pool.canPay cost = true := by
  rw [pay, payCost]
  cases pool.canPay cost with
  | false =>
      refine iff_of_false ?_ Bool.false_ne_true
      intro heq
      cases heq
  | true => exact iff_of_true rfl rfl

theorem payCost_of_pay (hpay : (pool.pay cost).2 = .ok ()) :
    pool.payCost cost = .ok (pool.pay cost).1 := by
  rw [pay] at hpay ⊢
  cases hpaid : pool.payCost cost with
  | ok paid => rfl
  | error message =>
      rw [hpaid] at hpay
      cases hpay

theorem spend_fst_le (available need : UInt8) :
    (spend available need).1.toNat ≤ available.toNat := by
  have hspend := spend_spec available need
  omega

/-- Each component pays its own part of the cost. -/
theorem payCost_color_le (hcolors : pool.CoversColors cost)
    (hpaid : pool.payCost cost = .ok paid) (color : Color) :
    (paid.amountOf color).toNat + (cost.amountOf color).toNat ≤
      (pool.amountOf color).toNat := by
  have hleft : (paid.amountOf color).toNat ≤
      (pool.amountOf color - cost.amountOf color).toNat := by
    rw [payCost] at hpaid
    split at hpaid
    · cases hpaid
      cases color <;> exact spend_fst_le _ _
    · cases hpaid
  rw [UInt8.toNat_sub_of_le _ _
    (UInt8.le_iff_toNat_le.mpr (hcolors color))] at hleft
  have hcolor := hcolors color
  omega

/-- The payment is exact unless the colours are there and the totals compare
differently when they wrap. -/
theorem paysExactly_iff (pool : ManaPool) (cost : ManaCost) :
    pool.PaysExactly cost ↔
      (pool.CoversColors cost →
        (cost.total % 256 ≤ pool.amount % 256 ↔
          cost.total ≤ pool.amount)) := by
  have hpay := (pool.pay_eq_ok_iff cost).trans (pool.canPay_iff cost)
  constructor
  · intro hexact hcolors
    have hiff := hpay.symm.trans hexact.succeeds
    exact ⟨fun hle => (hiff.mp ⟨hcolors, hle⟩).2,
      fun hle => (hiff.mpr ⟨hcolors, hle⟩).2⟩
  · intro hwrap
    have hcovers (hok : (pool.pay cost).2 = .ok ()) :
        pool.CoversColors cost ∧ cost.total ≤ pool.amount := by
      obtain ⟨hcolors, hle⟩ := hpay.mp hok
      exact ⟨hcolors, (hwrap hcolors).mp hle⟩
    refine ⟨⟨hcovers, ?_⟩, ?_, ?_, ?_⟩
    · rintro ⟨hcolors, hle⟩
      exact hpay.mpr ⟨hcolors, (hwrap hcolors).mpr hle⟩
    · exact fun hok => payCost_color_le (hcovers hok).1 (payCost_of_pay hok)
    · exact fun hok => payCost_exact (hcovers hok).1 (hcovers hok).2
        (payCost_of_pay hok)
    · intro herror
      rw [pay] at herror ⊢
      cases hpaid : pool.payCost cost with
      | ok paid =>
          rw [hpaid] at herror
          exact absurd rfl herror
      | error message => rfl

/-- One white mana pays for 256, and 256 mana do not pay for one. -/
theorem not_paysExactly :
    ¬ PaysExactly { white := 1 } { generic := 255, white := 1 } ∧
      ¬ PaysExactly { white := 128, blue := 128 } { generic := 1 } := by
  constructor
  · intro hexact
    have hcovers := hexact.succeeds.mp (by decide)
    exact absurd hcovers.2 (by decide)
  · intro hexact
    have hpaid := hexact.succeeds.mpr ⟨by unfold CoversColors; decide, by decide⟩
    revert hpaid
    decide

end ManaPool

end DeepScry
