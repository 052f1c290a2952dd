/-
A player's two pools, and paying from both: the regular pool first, then the
mana that lasts until the end of combat.
-/
import DeepScry.Player

namespace DeepScry

namespace ManaPool

/-- The mana in the pool, without wrapping. -/
def amount (pool : ManaPool) : Nat :=
  pool.white.toNat + pool.blue.toNat + pool.black.toNat + pool.red.toNat +
    pool.green.toNat + pool.colorless.toNat

/-- Pay a generic cost from whatever is left, in the order of the colours, and
say what is still owed. -/
def payGeneric (pool : ManaPool) (generic : UInt8) : ManaPool × UInt8 :=
  let (white, need) := spend pool.white generic
  let (blue, need) := spend pool.blue need
  let (black, need) := spend pool.black need
  let (red, need) := spend pool.red need
  let (green, need) := spend pool.green need
  let (colorless, need) := spend pool.colorless need
  (⟨white, blue, black, red, green, colorless⟩, need)

/-- Pay a coloured cost as far as the pool goes, and say what is still owed of
each colour. -/
def payColored (pool : ManaPool) (cost : ManaCost) : ManaPool × ManaCost :=
  let (white, oweWhite) := spend pool.white cost.white
  let (blue, oweBlue) := spend pool.blue cost.blue
  let (black, oweBlack) := spend pool.black cost.black
  let (red, oweRed) := spend pool.red cost.red
  let (green, oweGreen) := spend pool.green cost.green
  let (colorless, oweColorless) := spend pool.colorless cost.colorless
  (⟨white, blue, black, red, green, colorless⟩,
    { cost with
      white := oweWhite
      blue := oweBlue
      black := oweBlack
      red := oweRed
      green := oweGreen
      colorless := oweColorless })

def add (pool other : ManaPool) : ManaPool where
  white := pool.white + other.white
  blue := pool.blue + other.blue
  black := pool.black + other.black
  red := pool.red + other.red
  green := pool.green + other.green
  colorless := pool.colorless + other.colorless

end ManaPool

namespace Player

def totalAvailableMana (player : Player) : ManaPool :=
  match player.combatManaPool with
  | none => player.manaPool
  | some combat => player.manaPool.add combat

/-- Colours first, from both pools, then the generic part; a combat pool that
is spent is gone. -/
def payFromTotalMana (player : Player) (cost : ManaCost) :
    Except String Player :=
  if player.totalAvailableMana.canPay cost then
    match player.combatManaPool with
    | none =>
        (player.manaPool.payCost cost).map fun pool =>
          { player with manaPool := pool }
    | some combat =>
        let colored := player.manaPool.payColored cost
        let combatColored := combat.payColored colored.2
        let regular := colored.1.payGeneric cost.generic
        let extra := combatColored.1.payGeneric regular.2
        .ok { player with
          manaPool := regular.1
          combatManaPool := if extra.1.total = 0 then none else some extra.1 }
  else
    .error ("Insufficient total mana to pay " ++ cost.display ++
      ". Have: " ++ toString player.manaPool.white ++ "W " ++
      toString player.manaPool.blue ++ "U " ++
      toString player.manaPool.black ++ "B " ++
      toString player.manaPool.red ++ "R " ++
      toString player.manaPool.green ++ "G " ++
      toString player.manaPool.colorless ++ "C (regular) + combat")

/-- The mana in the two pools together. -/
def mana (player : Player) : Nat :=
  player.manaPool.amount +
    (player.combatManaPool.map ManaPool.amount).getD 0

end Player

/-- What is spent leaves the component; the need is met or the component is
empty. -/
theorem ManaPool.spend_spec (available need : UInt8) :
    (spend available need).1.toNat + need.toNat =
        available.toNat + (spend available need).2.toNat ∧
      (spend available need).2.toNat ≤ need.toNat ∧
      ((spend available need).2.toNat = 0 ∨
        (spend available need).1.toNat = 0) := by
  have hmin := Saturating.min8_toNat need available
  have hleft : min need available ≤ available := by
    rw [UInt8.le_iff_toNat_le, hmin]
    exact Nat.min_le_right _ _
  have hneed : min need available ≤ need := by
    rw [UInt8.le_iff_toNat_le, hmin]
    exact Nat.min_le_left _ _
  rw [spend, UInt8.toNat_sub_of_le _ _ hleft, UInt8.toNat_sub_of_le _ _ hneed,
    hmin]
  omega

theorem ManaPool.payGeneric_spec (pool : ManaPool) (generic : UInt8) :
    (pool.payGeneric generic).1.amount + generic.toNat =
        pool.amount + (pool.payGeneric generic).2.toNat ∧
      (pool.payGeneric generic).2.toNat ≤ generic.toNat ∧
      ((pool.payGeneric generic).2.toNat = 0 ∨
        (pool.payGeneric generic).1.amount = 0) := by
  have hwhite := spend_spec pool.white generic
  have hblue := spend_spec pool.blue (spend pool.white generic).2
  rw [payGeneric]
  dsimp only [amount]
  generalize spend pool.white generic = white at *
  generalize spend pool.blue white.2 = blue at *
  have hblack := spend_spec pool.black blue.2
  generalize spend pool.black blue.2 = black at *
  have hred := spend_spec pool.red black.2
  generalize spend pool.red black.2 = red at *
  have hgreen := spend_spec pool.green red.2
  generalize spend pool.green red.2 = green at *
  have hcolorless := spend_spec pool.colorless green.2
  generalize spend pool.colorless green.2 = colorless at *
  omega

theorem ManaPool.payColored_spec (pool : ManaPool) (cost : ManaCost) :
    (pool.payColored cost).1.amount + cost.total =
      pool.amount + (pool.payColored cost).2.total := by
  have hwhite := spend_spec pool.white cost.white
  have hblue := spend_spec pool.blue cost.blue
  have hblack := spend_spec pool.black cost.black
  have hred := spend_spec pool.red cost.red
  have hgreen := spend_spec pool.green cost.green
  have hcolorless := spend_spec pool.colorless cost.colorless
  rw [ManaCost.total_eq, ManaCost.total_eq, payColored]
  dsimp only [amount]
  omega

theorem ManaPool.spend_snd (available need : UInt8) :
    (spend available need).2.toNat = need.toNat - available.toNat := by
  have hspend := spend_spec available need
  omega

theorem ManaPool.payColored_owed (pool : ManaPool) (cost : ManaCost)
    (color : Color) :
    ((pool.payColored cost).2.amountOf color).toNat =
      (cost.amountOf color).toNat - (pool.amountOf color).toNat := by
  cases color <;> exact spend_snd _ _

theorem ManaCost.total_eq_sum (cost : ManaCost) :
    cost.total = ∑ color, (cost.amountOf color).toNat + cost.generic.toNat :=
  rfl

theorem ManaCost.amountOf_le (cost : ManaCost) (color : Color) :
    (cost.amountOf color).toNat ≤ cost.total := by
  rw [total_eq_sum]
  exact (Finset.single_le_sum (f := fun color => (cost.amountOf color).toNat)
    (fun _ _ => Nat.zero_le _) (Finset.mem_univ color)).trans
      (Nat.le_add_right _ _)

theorem ManaPool.amount_eq_sum (pool : ManaPool) :
    pool.amount = ∑ color, (pool.amountOf color).toNat := by
  rw [Color.sum_univ]
  rfl

theorem ManaPool.amountOf_le (pool : ManaPool) (color : Color) :
    (pool.amountOf color).toNat ≤ pool.amount := by
  rw [amount_eq_sum]
  exact Finset.single_le_sum (f := fun color => (pool.amountOf color).toNat)
    (fun _ _ => Nat.zero_le _) (Finset.mem_univ color)

theorem ManaPool.total_toNat (pool : ManaPool) :
    pool.total.toNat = pool.amount % 256 := by
  rw [amount]
  simp only [total, UInt8.toNat_add]
  omega

/-- What an affordable cost asks of a pool: the colours, and the totals as
they wrap. -/
theorem ManaPool.canPay_iff (pool : ManaPool) (cost : ManaCost) :
    pool.canPay cost = true ↔
      (∀ color, (cost.amountOf color).toNat ≤
        (pool.amountOf color).toNat) ∧
        cost.total % 256 ≤ pool.amount % 256 := by
  have henough : (pool.white + pool.blue + pool.black + pool.red +
      pool.green + pool.colorless ≥ cost.cmc) ↔
        cost.total % 256 ≤ pool.amount % 256 := by
    rw [← pool.total_toNat, ← cost.cmc_toNat]
    exact UInt8.le_iff_toNat_le
  have hcolors : (∀ color, (cost.amountOf color).toNat ≤
      (pool.amountOf color).toNat) ↔
        ¬(pool.white < cost.white || pool.blue < cost.blue ||
          pool.black < cost.black || pool.red < cost.red ||
          pool.green < cost.green || pool.colorless < cost.colorless) := by
    simp only [Bool.or_eq_true, decide_eq_true_eq, not_or,
      UInt8.lt_iff_toNat_lt, Nat.not_lt]
    constructor
    · intro hle
      exact ⟨⟨⟨⟨⟨hle .white, hle .blue⟩, hle .black⟩, hle .red⟩,
        hle .green⟩, hle .colorless⟩
    · rintro ⟨⟨⟨⟨⟨hwhite, hblue⟩, hblack⟩, hred⟩, hgreen⟩, hcolorless⟩ color
      cases color <;> assumption
  rw [canPay, ManaCost.isAffordable, hcolors, ← henough]
  split
  · next hshort => exact iff_of_false Bool.false_ne_true fun h => h.1 hshort
  · next hcovered =>
    rw [decide_eq_true_eq]
    exact ⟨fun h => ⟨hcovered, h⟩, And.right⟩

/-- The same for a pool that is not full. -/
theorem ManaPool.canPay_spec {pool : ManaPool} {cost : ManaCost}
    (hpool : pool.amount < 256) (hcost : cost.total < 256) :
    pool.canPay cost = true ↔
      (∀ color, (cost.amountOf color).toNat ≤
        (pool.amountOf color).toNat) ∧ cost.total ≤ pool.amount := by
  rw [canPay_iff, Nat.mod_eq_of_lt hpool, Nat.mod_eq_of_lt hcost]

namespace ManaPool

variable {pool paid : ManaPool} {cost : ManaCost}

/-- What the pool falls short of is not paid. -/
theorem payCost_spec (hcolors : ∀ color, (cost.amountOf color).toNat ≤
      (pool.amountOf color).toNat) (hpaid : pool.payCost cost = .ok paid) :
    paid.amount + cost.total =
      pool.amount + (cost.total - pool.amount) := by
  let left : ManaPool :=
    ⟨pool.white - cost.white, pool.blue - cost.blue, pool.black - cost.black,
      pool.red - cost.red, pool.green - cost.green,
      pool.colorless - cost.colorless⟩
  have hcolor (color : Color) : (left.amountOf color).toNat +
      (cost.amountOf color).toNat = (pool.amountOf color).toNat := by
    have hleft : left.amountOf color =
        pool.amountOf color - cost.amountOf color := by
      cases color <;> rfl
    rw [hleft, UInt8.toNat_sub_of_le _ _
      (UInt8.le_iff_toNat_le.mpr (hcolors color)),
      Nat.sub_add_cancel (hcolors color)]
  have hleft : left.amount + cost.total =
      pool.amount + cost.generic.toNat := by
    rw [amount_eq_sum, ManaCost.total_eq_sum, ← Nat.add_assoc,
      ← Finset.sum_add_distrib,
      Finset.sum_congr rfl fun color _ => hcolor color, ← amount_eq_sum]
  rw [payCost] at hpaid
  split at hpaid
  · have hgeneric : (left.payGeneric cost.generic).1 = paid :=
      Except.ok.inj hpaid
    have hspec := left.payGeneric_spec cost.generic
    rw [hgeneric] at hspec
    omega
  · cases hpaid

theorem payCost_exact (hcolors : ∀ color, (cost.amountOf color).toNat ≤
      (pool.amountOf color).toNat)
    (henough : cost.total ≤ pool.amount) (hpaid : pool.payCost cost = .ok paid) :
    paid.amount + cost.total = pool.amount := by
  have hspec := payCost_spec hcolors hpaid
  omega

/-- A pool that is dropped when it is empty. -/
theorem keepUnlessSpent (hpool : pool.amount < 256) :
    ((if pool.total = 0 then none else some pool).map amount).getD 0 =
      pool.amount := by
  have htotal := pool.total_toNat
  rw [Nat.mod_eq_of_lt hpool] at htotal
  split
  · next hzero =>
    rw [hzero] at htotal
    exact htotal
  · rfl

/-- Colours from both pools, then the generic part from both. -/
theorem payBoth_exact {regular combat : ManaPool}
    (hcolors : ∀ color, (cost.amountOf color).toNat ≤
      (regular.amountOf color).toNat + (combat.amountOf color).toNat)
    (henough : cost.total ≤ regular.amount + combat.amount) :
    ((regular.payColored cost).1.payGeneric cost.generic).1.amount +
        ((combat.payColored (regular.payColored cost).2).1.payGeneric
          ((regular.payColored cost).1.payGeneric cost.generic).2).1.amount +
        cost.total = regular.amount + combat.amount := by
  have hregular := regular.payColored_spec cost
  have hcombat := combat.payColored_spec (regular.payColored cost).2
  have howed : (combat.payColored (regular.payColored cost).2).2.total =
      cost.generic.toNat := by
    rw [ManaCost.total_eq_sum, Finset.sum_eq_zero, Nat.zero_add]
    · rfl
    · intro color _
      have hcolor := hcolors color
      rw [payColored_owed, payColored_owed]
      omega
  have hfirst := (regular.payColored cost).1.payGeneric_spec cost.generic
  have hsecond := (combat.payColored (regular.payColored cost).2).1.payGeneric_spec
    ((regular.payColored cost).1.payGeneric cost.generic).2
  omega

end ManaPool

namespace Player

variable {player paid : Player} {cost : ManaCost}

theorem totalAvailableMana_amountOf (hmana : player.mana < 256)
    (color : Color) :
    (player.totalAvailableMana.amountOf color).toNat =
      (player.manaPool.amountOf color).toNat +
        (player.combatManaPool.map fun combat =>
          (combat.amountOf color).toNat).getD 0 := by
  rw [mana] at hmana
  rw [totalAvailableMana]
  cases hcombat : player.combatManaPool with
  | none => rfl
  | some combat =>
      rw [hcombat, Option.map_some, Option.getD_some] at hmana
      have hregular := player.manaPool.amountOf_le color
      have hextra := combat.amountOf_le color
      have hadd : (player.manaPool.add combat).amountOf color =
          player.manaPool.amountOf color + combat.amountOf color := by
        cases color <;> rfl
      dsimp only
      rw [hadd, UInt8.toNat_add, Nat.mod_eq_of_lt (by omega),
        Option.map_some, Option.getD_some]

theorem totalAvailableMana_amount (hmana : player.mana < 256) :
    player.totalAvailableMana.amount = player.mana := by
  rw [ManaPool.amount_eq_sum, mana, ManaPool.amount_eq_sum]
  simp only [totalAvailableMana_amountOf hmana]
  cases player.combatManaPool with
  | none => rfl
  | some combat =>
      rw [Finset.sum_add_distrib, Option.map_some, Option.getD_some,
        ManaPool.amount_eq_sum]
      rfl

theorem payFromTotalMana_id (hpaid : player.payFromTotalMana cost = .ok paid) :
    paid.id = player.id := by
  rw [payFromTotalMana] at hpaid
  split at hpaid
  · split at hpaid
    · cases hregular : player.manaPool.payCost cost with
      | error message =>
          rw [hregular] at hpaid
          cases hpaid
      | ok pool =>
          rw [hregular] at hpaid
          cases hpaid
          rfl
    · rw [← Except.ok.inj hpaid]
  · cases hpaid

/-- A payment takes exactly the cost out of the two pools. -/
theorem payFromTotalMana_exact (hmana : player.mana < 256)
    (hcost : cost.total < 256)
    (hpaid : player.payFromTotalMana cost = .ok paid) :
    paid.mana + cost.total = player.mana := by
  have hamount := totalAvailableMana_amount hmana
  have hcovers := ManaPool.canPay_spec (hamount ▸ hmana) hcost
  rw [payFromTotalMana] at hpaid
  split at hpaid
  · next hcan =>
    obtain ⟨hcolors, henough⟩ := hcovers.mp hcan
    rw [hamount] at henough
    cases hcombat : player.combatManaPool with
    | none =>
        rw [hcombat] at hpaid
        rw [totalAvailableMana, hcombat] at hcolors
        rw [mana, hcombat] at henough
        dsimp only at hpaid
        cases hregular : player.manaPool.payCost cost with
        | error message =>
            rw [hregular] at hpaid
            cases hpaid
        | ok pool =>
            rw [hregular] at hpaid
            cases hpaid
            have hexact := ManaPool.payCost_exact hcolors henough hregular
            rw [mana, mana, hcombat]
            exact hexact
    | some combat =>
        rw [hcombat] at hpaid
        simp only [totalAvailableMana_amountOf hmana, hcombat,
          Option.map_some, Option.getD_some] at hcolors
        rw [mana, hcombat] at henough hmana
        have hexact := ManaPool.payBoth_exact hcolors henough
        rw [← Except.ok.inj hpaid, mana, mana, hcombat]
        dsimp only
        rw [ManaPool.keepUnlessSpent]
        · exact hexact
        · rw [Option.map_some, Option.getD_some] at hmana
          omega
  · cases hpaid

end Player

end DeepScry
