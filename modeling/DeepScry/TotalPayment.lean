/-
Paying a cost from the regular and the combat mana together: exact as long as
no sum of the two pools wraps below what the cost asks for.
-/
import DeepScry.PoolPayment

namespace DeepScry

namespace Player

variable (player : Player) (cost : ManaCost)

/-- The mana of a colour in the two pools together. -/
def combined (color : Color) : Nat :=
  (player.manaPool.amountOf color).toNat +
    (player.combatManaPool.map fun combat =>
      (combat.amountOf color).toNat).getD 0

/-- `pay_from_total_mana` as a write to the player, with its result. -/
def payTotal : Player × Except String Unit :=
  match player.payFromTotalMana cost with
  | .ok paid => (paid, .ok ())
  | .error message => (player, .error message)

/-- The two pools together can pay the cost. -/
def Covers : Prop :=
  (∀ color, (cost.amountOf color).toNat ≤ player.combined color) ∧
    cost.total ≤ player.mana

/-- What the regular pool lacks of the colours. -/
def lacking : Nat :=
  ∑ color, ((cost.amountOf color).toNat -
    (player.manaPool.amountOf color).toNat)

/-- The payment succeeds when the two pools cover the cost, takes the cost out
of them, the regular mana of a colour before the combat mana, drops a combat
pool that is empty, and otherwise leaves the player alone. -/
structure PaysExactly : Prop where
  succeeds : (player.payTotal cost).2 = .ok () ↔ player.Covers cost
  takesColors : (player.payTotal cost).2 = .ok () → ∀ color,
    (player.payTotal cost).1.combined color + (cost.amountOf color).toNat ≤
      player.combined color
  takesTotal : (player.payTotal cost).2 = .ok () →
    (player.payTotal cost).1.mana + cost.total = player.mana
  regularLeft : (player.payTotal cost).2 = .ok () → ∀ color,
    (player.payTotal cost).1.manaPool.amountOf color ≤
      player.manaPool.amountOf color
  combatLeft : (player.payTotal cost).2 = .ok () → ∀ left,
    (player.payTotal cost).1.combatManaPool = some left →
      left.amount ≠ 0 ∧ ∃ combat, player.combatManaPool = some combat ∧
        ∀ color, left.amountOf color ≤ combat.amountOf color
  regularFirst : ∀ combat, player.combatManaPool = some combat → ∀ color,
    (combat.payColored (player.manaPool.payColored cost).2).1.amountOf color <
      combat.amountOf color →
        (player.manaPool.payColored cost).1.amountOf color = 0
  atomic : (player.payTotal cost).2 ≠ .ok () →
    (player.payTotal cost).1 = player

/-- Where the pools cover the cost, no sum wraps below it, and what is left of
the combat pool does not look empty. -/
def Unwrapped : Prop :=
  player.Covers cost →
    (∀ color, (cost.amountOf color).toNat ≤ player.combined color % 256) ∧
      cost.total ≤ player.mana % 256 ∧
        ∀ combat, player.combatManaPool = some combat →
          256 ∣ min (combat.amount - player.lacking cost)
              (player.mana - cost.total) →
            min (combat.amount - player.lacking cost)
              (player.mana - cost.total) = 0

end Player

namespace ManaPool

variable {pool regular combat : ManaPool} {cost : ManaCost}

theorem amountOf_payColored (pool : ManaPool) (cost : ManaCost)
    (color : Color) :
    (pool.payColored cost).1.amountOf color =
        (spend (pool.amountOf color) (cost.amountOf color)).1 ∧
      (pool.payColored cost).2.amountOf color =
        (spend (pool.amountOf color) (cost.amountOf color)).2 := by
  cases color <;> exact ⟨rfl, rfl⟩

theorem amountOf_payGeneric_le (pool : ManaPool) (generic : UInt8)
    (color : Color) :
    ((pool.payGeneric generic).1.amountOf color).toNat ≤
      (pool.amountOf color).toNat := by
  cases color <;> exact spend_fst_le _ _

/-- The second pool gives a colour only when the first has none left of it. -/
theorem payColored_first (color : Color)
    (hused : (combat.payColored (regular.payColored cost).2).1.amountOf color <
      combat.amountOf color) :
    (regular.payColored cost).1.amountOf color = 0 := by
  have hregular := spend_spec (regular.amountOf color) (cost.amountOf color)
  rw [UInt8.lt_iff_toNat_lt, (combat.amountOf_payColored _ color).1,
    (regular.amountOf_payColored cost color).2] at hused
  have hcombat := spend_spec (combat.amountOf color)
    (spend (regular.amountOf color) (cost.amountOf color)).2
  rw [(regular.amountOf_payColored cost color).1, ← UInt8.toNat_inj]
  change _ = 0
  omega

/-- What both pools have left of a colour after its requirement. -/
theorem payColored_both (color : Color)
    (hcolor : (cost.amountOf color).toNat ≤
      (regular.amountOf color).toNat + (combat.amountOf color).toNat) :
    ((regular.payColored cost).1.amountOf color).toNat +
        ((combat.payColored (regular.payColored cost).2).1.amountOf
          color).toNat + (cost.amountOf color).toNat =
      (regular.amountOf color).toNat + (combat.amountOf color).toNat := by
  have hregular := spend_spec (regular.amountOf color) (cost.amountOf color)
  have hcombat := spend_spec (combat.amountOf color)
    (spend (regular.amountOf color) (cost.amountOf color)).2
  rw [(regular.amountOf_payColored cost color).1,
    (combat.amountOf_payColored _ color).1,
    (regular.amountOf_payColored cost color).2]
  omega

/-- What the first pool owes after the colours. -/
theorem payColored_lacking (regular : ManaPool) (cost : ManaCost) :
    (regular.payColored cost).2.total =
      (∑ color, ((cost.amountOf color).toNat -
        (regular.amountOf color).toNat)) + cost.generic.toNat := by
  rw [ManaCost.total_eq_sum]
  simp only [payColored_owed]
  rfl

/-- What is left of the second pool after the whole payment. -/
theorem payBoth_left (hcolors : ∀ color, (cost.amountOf color).toNat ≤
      (regular.amountOf color).toNat + (combat.amountOf color).toNat)
    (henough : cost.total ≤ regular.amount + combat.amount) :
    ((combat.payColored (regular.payColored cost).2).1.payGeneric
        ((regular.payColored cost).1.payGeneric cost.generic).2).1.amount =
      min (combat.amount - ∑ color, ((cost.amountOf color).toNat -
          (regular.amountOf color).toNat))
        (regular.amount + combat.amount - cost.total) := by
  have hexact := payBoth_exact hcolors henough
  have hregular := regular.payColored_spec cost
  have hcombat := combat.payColored_spec (regular.payColored cost).2
  have hlacking := regular.payColored_lacking cost
  have howed : (combat.payColored (regular.payColored cost).2).2.total =
      cost.generic.toNat := by
    rw [payColored_lacking, Finset.sum_eq_zero, Nat.zero_add]
    · rfl
    · intro color _
      have hcolor := hcolors color
      rw [payColored_owed]
      omega
  have hfirst := (regular.payColored cost).1.payGeneric_spec cost.generic
  have hsecond := (combat.payColored
    (regular.payColored cost).2).1.payGeneric_spec
      ((regular.payColored cost).1.payGeneric cost.generic).2
  omega

end ManaPool

namespace Player

variable {player paid : Player} {cost : ManaCost}

theorem amountOf_totalAvailableMana (player : Player) (color : Color) :
    (player.totalAvailableMana.amountOf color).toNat =
      player.combined color % 256 := by
  rw [totalAvailableMana, combined]
  cases player.combatManaPool with
  | none =>
      rw [Option.map_none, Option.getD_none, Nat.add_zero,
        Nat.mod_eq_of_lt (player.manaPool.amountOf color).toNat_lt]
  | some combat =>
      have hadd : (player.manaPool.add combat).amountOf color =
          player.manaPool.amountOf color + combat.amountOf color := by
        cases color <;> rfl
      dsimp only
      rw [hadd, UInt8.toNat_add]
      rfl

theorem mana_eq_sum (player : Player) :
    player.mana = ∑ color, player.combined color := by
  simp only [mana, combined, Finset.sum_add_distrib, ManaPool.amount_eq_sum]
  cases player.combatManaPool <;> simp [ManaPool.amount_eq_sum]

theorem amount_totalAvailableMana (player : Player) :
    player.totalAvailableMana.amount % 256 = player.mana % 256 := by
  rw [ManaPool.amount_eq_sum, mana_eq_sum, Finset.sum_nat_mod,
    Finset.sum_nat_mod _ _ player.combined]
  simp only [amountOf_totalAvailableMana, Nat.mod_mod]

/-- What the test compares. -/
theorem canPay_totalAvailableMana (player : Player) (cost : ManaCost) :
    player.totalAvailableMana.canPay cost = true ↔
      (∀ color, (cost.amountOf color).toNat ≤
        player.combined color % 256) ∧
        cost.total % 256 ≤ player.mana % 256 := by
  rw [ManaPool.canPay_iff, amount_totalAvailableMana]
  simp only [amountOf_totalAvailableMana]

theorem payTotal_eq_ok_iff (player : Player) (cost : ManaCost) :
    (player.payTotal cost).2 = .ok () ↔
      player.totalAvailableMana.canPay cost = true := by
  rw [payTotal, payFromTotalMana]
  cases hcan : player.totalAvailableMana.canPay cost with
  | false =>
      refine iff_of_false ?_ Bool.false_ne_true
      intro heq
      cases heq
  | true =>
      refine iff_of_true ?_ rfl
      rw [if_pos rfl]
      cases hcombat : player.combatManaPool with
      | none =>
          rw [totalAvailableMana, hcombat] at hcan
          dsimp only at hcan ⊢
          rw [ManaPool.payCost, if_pos hcan]
          rfl
      | some combat => rfl

theorem payFromTotalMana_of_payTotal
    (hok : (player.payTotal cost).2 = .ok ()) :
    player.payFromTotalMana cost = .ok (player.payTotal cost).1 := by
  rw [payTotal] at hok ⊢
  cases hpaid : player.payFromTotalMana cost with
  | ok paid => rfl
  | error message =>
      rw [hpaid] at hok
      cases hok

theorem payTotal_atomic (herror : (player.payTotal cost).2 ≠ .ok ()) :
    (player.payTotal cost).1 = player := by
  rw [payTotal] at herror ⊢
  cases hpaid : player.payFromTotalMana cost with
  | ok paid =>
      rw [hpaid] at herror
      exact absurd rfl herror
  | error message => rfl

/-- The two shapes of a payment that succeeds. -/
theorem payFromTotalMana_cases
    (hpaid : player.payFromTotalMana cost = .ok paid) :
    (player.combatManaPool = none ∧ ∃ pool,
      player.manaPool.payCost cost = .ok pool ∧
        paid = { player with manaPool := pool }) ∨
    ∃ combat left, player.combatManaPool = some combat ∧
      left = ((combat.payColored (player.manaPool.payColored cost).2).1.payGeneric
        ((player.manaPool.payColored cost).1.payGeneric cost.generic).2).1 ∧
      paid = { player with
        manaPool :=
          ((player.manaPool.payColored cost).1.payGeneric cost.generic).1
        combatManaPool := if left.total = 0 then none else some left } := by
  rw [payFromTotalMana] at hpaid
  split at hpaid
  · cases hcombat : player.combatManaPool with
    | none =>
        rw [hcombat] at hpaid
        dsimp only at hpaid
        cases hpool : player.manaPool.payCost cost with
        | error message =>
            rw [hpool] at hpaid
            cases hpaid
        | ok pool =>
            rw [hpool] at hpaid
            exact Or.inl ⟨rfl, pool, rfl, (Except.ok.inj hpaid).symm⟩
    | some combat =>
        rw [hcombat] at hpaid
        exact Or.inr ⟨combat, _, rfl, rfl, (Except.ok.inj hpaid).symm⟩
  · cases hpaid

/-- What a payment that the pools cover leaves of a combat pool. -/
theorem left_amount {combat left : ManaPool} (hcovers : player.Covers cost)
    (hcombat : player.combatManaPool = some combat)
    (hleft : left =
      ((combat.payColored (player.manaPool.payColored cost).2).1.payGeneric
        ((player.manaPool.payColored cost).1.payGeneric cost.generic).2).1) :
    left.amount = min (combat.amount - player.lacking cost)
        (player.mana - cost.total) ∧
      ((player.manaPool.payColored cost).1.payGeneric cost.generic).1.amount +
        left.amount + cost.total = player.mana := by
  obtain ⟨hcolors, henough⟩ := hcovers
  simp only [combined, mana, hcombat, Option.map_some, Option.getD_some]
    at hcolors henough ⊢
  rw [hleft]
  exact ⟨ManaPool.payBoth_left hcolors henough,
    ManaPool.payBoth_exact hcolors henough⟩

theorem takesColors_of_covers (hcovers : player.Covers cost)
    (hpaid : player.payFromTotalMana cost = .ok paid) (color : Color) :
    paid.combined color + (cost.amountOf color).toNat ≤
      player.combined color := by
  have hcolors := hcovers.1
  rcases payFromTotalMana_cases hpaid with
    ⟨hnone, pool, hpool, rfl⟩ | ⟨combat, left, hsome, hleft, rfl⟩
  · simp only [combined, hnone, Option.map_none, Option.getD_none,
      Nat.add_zero] at hcolors ⊢
    exact ManaPool.payCost_color_le hcolors hpool color
  · simp only [combined, hsome, Option.map_some, Option.getD_some]
      at hcolors ⊢
    have hboth := ManaPool.payColored_both color (hcolors color)
    have hregular := (player.manaPool.payColored cost).1.amountOf_payGeneric_le
      cost.generic color
    have hextra := (combat.payColored
      (player.manaPool.payColored cost).2).1.amountOf_payGeneric_le
        ((player.manaPool.payColored cost).1.payGeneric cost.generic).2 color
    rw [← hleft] at hextra
    split
    · rw [Option.map_none, Option.getD_none]
      omega
    · rw [Option.map_some, Option.getD_some]
      omega

theorem regular_le (hcovers : player.Covers cost)
    (hpaid : player.payFromTotalMana cost = .ok paid) (color : Color) :
    paid.manaPool.amountOf color ≤ player.manaPool.amountOf color := by
  rw [UInt8.le_iff_toNat_le]
  rcases payFromTotalMana_cases hpaid with
    ⟨hnone, pool, hpool, rfl⟩ | ⟨combat, left, hsome, hleft, rfl⟩
  · have hcolors := hcovers.1
    simp only [combined, hnone, Option.map_none, Option.getD_none,
      Nat.add_zero] at hcolors
    exact (Nat.le_add_right _ _).trans
      (ManaPool.payCost_color_le hcolors hpool color)
  · have hspend := ManaPool.spend_fst_le (player.manaPool.amountOf color)
      (cost.amountOf color)
    rw [← (player.manaPool.amountOf_payColored cost color).1] at hspend
    exact (ManaPool.amountOf_payGeneric_le _ _ color).trans hspend

theorem combat_le {left : ManaPool}
    (hpaid : player.payFromTotalMana cost = .ok paid)
    (hleft : paid.combatManaPool = some left) :
    left.amount ≠ 0 ∧ ∃ combat, player.combatManaPool = some combat ∧
      ∀ color, left.amountOf color ≤ combat.amountOf color := by
  rcases payFromTotalMana_cases hpaid with
    ⟨hnone, pool, hpool, rfl⟩ | ⟨combat, extra, hsome, hextra, rfl⟩
  · rw [hnone] at hleft
    cases hleft
  · dsimp only at hleft
    split at hleft
    · cases hleft
    · next htotal =>
      cases hleft
      constructor
      · intro hzero
        apply htotal
        rw [← UInt8.toNat_inj, ManaPool.total_toNat, hzero]
        rfl
      · refine ⟨combat, hsome, fun color => ?_⟩
        rw [UInt8.le_iff_toNat_le, hextra]
        refine (ManaPool.amountOf_payGeneric_le _ _ color).trans ?_
        rw [(ManaPool.amountOf_payColored _ _ color).1]
        exact ManaPool.spend_fst_le _ _

/-- The whole cost is taken exactly if the rest of the combat pool is not
taken for an empty one. -/
theorem takesTotal_iff (hcovers : player.Covers cost)
    (hpaid : player.payFromTotalMana cost = .ok paid) :
    paid.mana + cost.total = player.mana ↔
      ∀ combat, player.combatManaPool = some combat →
        256 ∣ min (combat.amount - player.lacking cost)
            (player.mana - cost.total) →
          min (combat.amount - player.lacking cost)
            (player.mana - cost.total) = 0 := by
  rcases payFromTotalMana_cases hpaid with
    ⟨hnone, pool, hpool, rfl⟩ | ⟨combat, left, hsome, hleft, rfl⟩
  · refine iff_of_true ?_ fun combat hcombat => ?_
    · obtain ⟨hcolors, henough⟩ := hcovers
      simp only [combined, mana, hnone, Option.map_none, Option.getD_none,
        Nat.add_zero] at hcolors henough ⊢
      exact ManaPool.payCost_exact hcolors henough hpool
    · rw [hnone] at hcombat
      cases hcombat
  · obtain ⟨hmin, hexact⟩ := left_amount hcovers hsome hleft
    have htotal := left.total_toNat
    have hkept : (∀ other, player.combatManaPool = some other →
        256 ∣ min (other.amount - player.lacking cost)
            (player.mana - cost.total) →
          min (other.amount - player.lacking cost)
            (player.mana - cost.total) = 0) ↔
        (256 ∣ left.amount → left.amount = 0) := by
      rw [hmin]
      constructor
      · exact fun hall => hall combat hsome
      · intro hone other hother
        cases hsome.symm.trans hother
        exact hone
    rw [hkept, mana]
    dsimp only
    split
    · next hzero =>
      rw [hzero] at htotal
      rw [Option.map_none, Option.getD_none]
      change 0 = _ at htotal
      omega
    · next hzero =>
      have hne : left.total.toNat ≠ 0 := by
        intro heq
        exact hzero (UInt8.toNat_inj.mp heq)
      rw [Option.map_some, Option.getD_some]
      omega

/-- Paying from both pools is exact unless a sum of them wraps below the cost,
or what is left of the combat pool looks empty. -/
theorem paysTotalExactly_iff (player : Player) {cost : ManaCost}
    (hcost : cost.total < 256) :
    player.PaysExactly cost ↔ player.Unwrapped cost := by
  have hpay := (player.payTotal_eq_ok_iff cost).trans
    (player.canPay_totalAvailableMana cost)
  rw [Nat.mod_eq_of_lt hcost] at hpay
  have hcovers (hok : (player.payTotal cost).2 = .ok ()) :
      player.Covers cost := by
    obtain ⟨hcolors, henough⟩ := hpay.mp hok
    exact ⟨fun color => (hcolors color).trans (Nat.mod_le _ _),
      henough.trans (Nat.mod_le _ _)⟩
  constructor
  · intro hexact hcovered
    have hok := hexact.succeeds.mpr hcovered
    obtain ⟨hcolors, henough⟩ := hpay.mp hok
    exact ⟨hcolors, henough, (takesTotal_iff hcovered
      (payFromTotalMana_of_payTotal hok)).mp (hexact.takesTotal hok)⟩
  · intro hunwrapped
    refine ⟨⟨hcovers, ?_⟩, ?_, ?_, ?_, ?_, ?_, payTotal_atomic⟩
    · intro hcovered
      obtain ⟨hcolors, henough, -⟩ := hunwrapped hcovered
      exact hpay.mpr ⟨hcolors, henough⟩
    · exact fun hok => takesColors_of_covers (hcovers hok)
        (payFromTotalMana_of_payTotal hok)
    · intro hok
      exact (takesTotal_iff (hcovers hok)
        (payFromTotalMana_of_payTotal hok)).mpr
          (hunwrapped (hcovers hok)).2.2
    · exact fun hok => regular_le (hcovers hok)
        (payFromTotalMana_of_payTotal hok)
    · exact fun hok left => combat_le (payFromTotalMana_of_payTotal hok)
    · exact fun combat _ color => ManaPool.payColored_first color

/-- Two white and a combat red mana pay for {1}{R}. -/
theorem paysTotalExactly_red :
    PaysExactly
      { id := ⟨0⟩
        manaPool := { white := 2 }
        combatManaPool := some { red := 1 } }
      { generic := 1, red := 1 } := by
  apply (paysTotalExactly_iff _ (by decide)).mpr
  intro _
  refine ⟨fun color => ?_, by decide, ?_⟩
  · cases color <;> decide
  · intro combat hcombat
    cases hcombat
    decide

/-- With 200 white and 100 blue mana a cost of 100 is refused. -/
theorem not_paysTotalExactly :
    ¬ PaysExactly { id := ⟨0⟩, manaPool := { white := 200, blue := 100 } }
      { generic := 100 } := by
  intro hexact
  have hpaid := hexact.succeeds.mpr
    ⟨fun color => by cases color <;> decide, by decide⟩
  revert hpaid
  decide

end Player

end DeepScry
