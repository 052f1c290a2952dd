/-
Power and toughness as sums of signed bytes: the range in which no step of a
sum overflows and one more plus counter does not lower it.
-/
import DeepScry.CheckedInt8
import DeepScry.Counters

namespace DeepScry

open CheckedInt8

/-- The four parts that power and toughness are summed from. -/
structure Stat where
  base : Int8
  plus : UInt8
  minus : UInt8
  bonus : Int32
deriving DecidableEq

namespace Stat

/-- The sum as the release build computes it. -/
def current (stat : Stat) : Int8 :=
  stat.base + stat.plus.toInt8 - stat.minus.toInt8 + stat.bonus.toInt8

/-- The sum as a build with overflow checks computes it. -/
def checked (stat : Stat) : Option Int8 := do
  let withPlus ← add stat.base stat.plus.toInt8
  let withMinus ← sub withPlus stat.minus.toInt8
  add withMinus stat.bonus.toInt8

/-- The sum as the rules have it. -/
def exact (stat : Stat) : Int :=
  stat.base.toInt + stat.plus.toNat - stat.minus.toNat + stat.bonus.toInt

/-- The base with the plus counters, cast to `i8`. -/
def withPlus (stat : Stat) : Int :=
  stat.base.toInt + stat.plus.toInt8.toInt

/-- The base with all counters, cast to `i8`. -/
def withCounters (stat : Stat) : Int :=
  stat.withPlus - stat.minus.toInt8.toInt

/-- All four parts, each cast to `i8`. -/
def castSum (stat : Stat) : Int :=
  stat.withCounters + stat.bonus.toInt8.toInt

/-- How many counters are added, as their number stops at 255. -/
def gain (stat : Stat) (amount : UInt8) : Nat :=
  min amount.toNat (255 - stat.plus.toNat)

/-- No step overflows, a sum that fits is exact, and the later stat, with more
plus counters, is not lower. -/
structure Sound (stat later : Stat) : Prop where
  noOverflow : stat.checked.isSome
  exact : Fits stat.exact → stat.current.toInt = stat.exact
  monotone : stat.current ≤ later.current

/-- The partial sums stay within an `i8`, the last one with room for what is
gained. -/
structure InRange (stat : Stat) (amount : UInt8) : Prop where
  withPlus : Fits stat.withPlus
  withCounters : Fits stat.withCounters
  castSum : -128 ≤ stat.castSum
  room : stat.castSum + stat.gain amount ≤ 127

variable {stat later : Stat} {amount : UInt8}

/-- The release build wraps the exact sum. -/
theorem toInt_current (stat : Stat) :
    stat.current.toInt = stat.exact.bmod 256 := by
  simp [current, exact, toInt_toInt8]

theorem checked_isSome_iff :
    stat.checked.isSome ↔
      Fits stat.withPlus ∧ Fits stat.withCounters ∧ Fits stat.castSum := by
  by_cases hplus : Fits stat.withPlus
  · obtain ⟨first, hfirst, hfirstInt⟩ := add_of_fits hplus
    have hcounters : stat.withCounters =
        first.toInt - stat.minus.toInt8.toInt := by
      rw [hfirstInt]
      rfl
    by_cases hminus : Fits stat.withCounters
    · obtain ⟨second, hsecond, hsecondInt⟩ :=
        sub_of_fits (hcounters ▸ hminus)
      have hsum : stat.castSum = second.toInt + stat.bonus.toInt8.toInt := by
        rw [castSum, hcounters, hsecondInt]
      simp [checked, hfirst, hsecond, add_isSome_iff, hplus, hminus, hsum]
    · have hsecond : sub first stat.minus.toInt8 = none :=
        if_neg (hcounters ▸ hminus)
      simp [checked, hfirst, hsecond, hminus]
  · have hfirst : add stat.base stat.plus.toInt8 = none := if_neg hplus
    simp [checked, hfirst, hplus]

/-- Without an overflow the sum of the casts is what the build returns. -/
theorem castSum_eq_current (hfits : Fits stat.castSum) :
    stat.castSum = stat.current.toInt := by
  rw [← bmod_of_fits hfits]
  simp [castSum, withCounters, withPlus, current]

/-- What the exact sum gains when only the counters change. -/
theorem exact_of_counters {gained : Nat} (hbase : later.base = stat.base)
    (hbonus : later.bonus = stat.bonus)
    (hcounters : (later.plus.toNat : Int) - later.minus.toNat =
      stat.plus.toNat - stat.minus.toNat + gained) :
    later.exact = stat.exact + gained := by
  rw [exact, exact, hbase, hbonus]
  omega

/-- When a stat is as the rules have it, also after more plus counters. -/
theorem sound_iff
    (hlater : later.exact = stat.exact + stat.gain amount) :
    stat.Sound later ↔ stat.InRange amount := by
  have hgain : stat.gain amount ≤ 255 := by
    rw [gain]
    omega
  have hmonotone (hfits : Fits stat.castSum) :
      stat.current ≤ later.current ↔
        stat.castSum + stat.gain amount ≤ 127 := by
    have hcurrent := castSum_eq_current hfits
    rw [Int8.le_iff_toInt_le, toInt_current later, hlater,
      ← le_bmod_add_iff hfits hgain, hcurrent, toInt_current,
      Int.bmod_add_bmod]
  constructor
  · rintro ⟨hsome, -, hle⟩
    obtain ⟨hplus, hminus, hsum⟩ := checked_isSome_iff.mp hsome
    exact ⟨hplus, hminus, hsum.1, (hmonotone hsum).mp hle⟩
  · rintro ⟨hplus, hminus, hlow, hroom⟩
    have hsum : Fits stat.castSum := ⟨hlow, by omega⟩
    refine ⟨checked_isSome_iff.mpr ⟨hplus, hminus, hsum⟩, ?_,
      (hmonotone hsum).mpr hroom⟩
    intro hfits
    rw [toInt_current, bmod_of_fits hfits]

end Stat

namespace Card

def powerStat (card : Card) : Stat where
  base := (card.tempBasePower.or card.basePower).getD 0
  plus := card.getCounter .p1p1
  minus := card.getCounter .m1m1
  bonus := card.powerBonus

def toughnessStat (card : Card) : Stat where
  base := (card.tempBaseToughness.or card.baseToughness).getD 0
  plus := card.getCounter .p1p1
  minus := card.getCounter .m1m1
  bonus := card.toughnessBonus

theorem currentPower_eq (card : Card) :
    card.currentPower = card.powerStat.current := rfl

theorem currentToughness_eq (card : Card) :
    card.currentToughness = card.toughnessStat.current := rfl

/-- What is added to the plus counters, up to 255, is gained in all, also where
it cancels minus counters. -/
theorem counters_addCounter_p1p1 (card : Card) (amount : UInt8) :
    (((card.addCounter .p1p1 amount).getCounter .p1p1).toNat : Int) -
        ((card.addCounter .p1p1 amount).getCounter .m1m1).toNat =
      (card.getCounter .p1p1).toNat - (card.getCounter .m1m1).toNat +
        card.powerStat.gain amount := by
  have hplus := counterCount_addEntry card.counters .p1p1 .p1p1 amount
  have hminus := counterCount_addEntry card.counters .p1p1 .m1m1 amount
  rw [if_pos rfl] at hplus
  rw [if_neg (by decide)] at hminus
  rw [addCounter_eq]
  split
  · next hzero =>
    rw [hzero]
    simp [Stat.gain]
  · have hmin := Saturating.min8_toNat
      (counterCount (addEntry .p1p1 amount card.counters) .p1p1)
      (counterCount (addEntry .p1p1 amount card.counters) .m1m1)
    have hsaturated := congrArg UInt8.toNat hplus
    have hfirst := counterCount_annihilate
      (addEntry .p1p1 amount card.counters) .p1p1
    have hsecond := counterCount_annihilate
      (addEntry .p1p1 amount card.counters) .m1m1
    rw [if_pos (.inl rfl)] at hfirst
    rw [if_pos (.inr rfl)] at hsecond
    rw [Saturating.add8_toNat] at hsaturated
    have hlt := (counterCount card.counters .p1p1).toNat_lt
    simp only [getCounter, powerStat, Stat.gain]
    rw [hfirst, hsecond, UInt8.toNat_sub_of_le, UInt8.toNat_sub_of_le, hmin,
      hminus]
    · rw [hminus] at hmin
      omega
    · rw [UInt8.le_iff_toNat_le, hmin]
      omega
    · rw [UInt8.le_iff_toNat_le, hmin]
      omega

/-- Power and toughness, and both again after more plus counters, are as the
rules have them. -/
structure StatsSound (card : Card) (amount : UInt8) : Prop where
  power : card.powerStat.Sound (card.addCounter .p1p1 amount).powerStat
  toughness : card.toughnessStat.Sound
    (card.addCounter .p1p1 amount).toughnessStat

/-- When no counter or bonus takes power or toughness out of an `i8`. -/
theorem statsSound_iff (card : Card) (amount : UInt8) :
    card.StatsSound amount ↔
      card.powerStat.InRange amount ∧ card.toughnessStat.InRange amount := by
  have hcounters := card.counters_addCounter_p1p1 amount
  have hkept : ∃ counters, card.addCounter .p1p1 amount =
      { card with counters } := by
    rw [addCounter]
    split
    · exact ⟨_, rfl⟩
    · exact ⟨_, rfl⟩
  obtain ⟨counters, hadded⟩ := hkept
  rw [hadded] at hcounters
  have hpower : (card.addCounter .p1p1 amount).powerStat.exact =
      card.powerStat.exact + card.powerStat.gain amount := by
    rw [hadded]
    exact Stat.exact_of_counters rfl rfl hcounters
  have htoughness : (card.addCounter .p1p1 amount).toughnessStat.exact =
      card.toughnessStat.exact + card.toughnessStat.gain amount := by
    rw [hadded]
    exact Stat.exact_of_counters rfl rfl hcounters
  rw [← Stat.sound_iff hpower, ← Stat.sound_iff htoughness]
  exact ⟨fun h => ⟨h.power, h.toughness⟩, fun h => ⟨h.1, h.2⟩⟩

/-- A two-power, two-toughness card with as many plus counters. -/
def twoTwoWith (plus : UInt8) : Card :=
  addCounter
    { id := ⟨0⟩
      owner := ⟨0⟩
      controller := ⟨0⟩
      basePower := some 2
      baseToughness := some 2 } .p1p1 plus

/-- The next plus counter after 125 turns power and toughness negative. -/
theorem statsSound_fails :
    ¬(twoTwoWith 125).StatsSound 1 ∧
      (twoTwoWith 125).currentPower = 127 ∧
      ((twoTwoWith 125).addCounter .p1p1 1).currentPower = -128 ∧
      ((twoTwoWith 125).addCounter .p1p1 1).powerStat.checked = none := by
  refine ⟨?_, by decide, by decide, by decide⟩
  intro hsound
  exact absurd hsound.power.monotone (by decide)

end Card

end DeepScry
