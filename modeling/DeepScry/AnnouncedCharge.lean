/-
What is charged for the extras of a spell: colourless parts and the offspring
are free, many kicks wrap, and an alternative cost takes none of them along.
-/
import DeepScry.EffectiveCost
import DeepScry.SpellCasting
import DeepScry.Sweep

namespace DeepScry

open Saturating

namespace ManaCost

/-- One of the seven components: the generic part or a kind of mana. -/
def part (cost : ManaCost) : Option Color → UInt8
  | none => cost.generic
  | some color => cost.amountOf color

theorem part_plus (cost extra : ManaCost) {part : Option Color}
    (hpart : part ≠ some .colorless) :
    ((cost.plus extra).part part).toNat =
      min ((cost.part part).toNat + (extra.part part).toNat) 255 := by
  rcases part with _ | color
  · exact add8_toNat _ _
  · cases color <;> first | exact add8_toNat _ _ | exact absurd rfl hpart

theorem part_times (cost : ManaCost) (n : UInt8) {part : Option Color}
    (hpart : part ≠ some .colorless) :
    ((cost.times n).part part).toNat =
      (n.toNat * (cost.part part).toNat) % 256 := by
  have hmul (a : UInt8) : (a * n).toNat = (n.toNat * a.toNat) % 256 := by
    rw [UInt8.toNat_mul, Nat.mul_comm]
  rcases part with _ | color
  · exact hmul _
  · cases color <;> first | exact hmul _ | exact absurd rfl hpart

@[simp] theorem part_empty (part : Option Color) :
    (({} : ManaCost).part part).toNat = 0 := by
  rcases part with _ | color
  · rfl
  · cases color <;> rfl

theorem generic_raise (cost : ManaCost) (amount : UInt8) :
    ((cost.raise amount).part none).toNat =
      min ((cost.part none).toNat + amount.toNat) 255 :=
  add8_toNat _ _

end ManaCost

namespace Card

variable (spell : Card)

/-- The paid X for each X symbol of a cost. -/
def xExtra (cost : ManaCost) : Option Color → Nat
  | none => cost.xCount.toNat * spell.xPaid.toNat
  | some _ => 0

def kicksExtra (part : Option Color) : Nat :=
  spell.timesKicked.toNat *
    ((spell.multikickerCost.getD {}).part part).toNat

def kickerExtra (part : Option Color) : Nat :=
  if spell.kickerPaid then ((spell.kickerCost.getD {}).part part).toNat else 0

def offspringExtra (part : Option Color) : Nat :=
  if spell.offspringPaid then
    ((spell.offspringCost.getD {}).part part).toNat
  else 0

def modeExtra : Option Color → Nat
  | none => spell.modeCostPaid.toNat
  | some _ => 0

/-- Everything that was announced on top of a cost. -/
def extras (cost : ManaCost) (part : Option Color) : Nat :=
  spell.xExtra cost part + spell.kicksExtra part + spell.kickerExtra part +
    spell.offspringExtra part + spell.modeExtra part

/-- What is added without the offspring, the kicks of a component wrapping. -/
def wrappedExtras (cost : ManaCost) (part : Option Color) : Nat :=
  spell.xExtra cost part + spell.kicksExtra part % 256 +
    spell.kickerExtra part + spell.modeExtra part

/-- A component of the printed cost that is charged in full: it is at the cap
without what gets lost, or nothing gets lost. -/
def PrintedInFull (part : Option Color) : Prop :=
  if part = some .colorless then
    spell.manaCost.colorless = 255 ∨
      spell.kicksExtra part = 0 ∧ spell.kickerExtra part = 0 ∧
        spell.offspringExtra part = 0
  else
    255 ≤ (spell.manaCost.part part).toNat +
        spell.wrappedExtras spell.manaCost part ∨
      spell.kicksExtra part < 256 ∧ spell.offspringExtra part = 0

instance (part : Option Color) : Decidable (spell.PrintedInFull part) :=
  inferInstanceAs (Decidable (ite _ _ _))

end Card

/-- Abilities that make a spell cheaper or dearer. -/
def StaticAbility.changesCost : StaticAbility → Bool
  | reduceCost _ _ _ | raiseCost _ _ => true
  | _ => false

namespace GameState

/-- Neither the spell nor a permanent changes what the spell costs. -/
structure PlainCosts (game : GameState) (spell : Card) : Prop where
  affinity : spell.keywords.getArgs .affinity = none
  own : ∀ ability ∈ spell.staticAbilities, ability.changesCost = false
  board : ∀ id ∈ game.zones.battlefield, ∀ source, game.card? id = some source →
    ∀ ability ∈ source.staticAbilities, ability.changesCost = false

end GameState

namespace CastingMethods

variable (methods : CastingMethods) (queries : CostQueries)
  (game : GameState) (player : PlayerId) (card : CardId) (spell : Card)
  (numTargets : Nat)

/-- One more for each target beyond the first, where the spell says so. -/
def perTarget : Option Color → Nat
  | none =>
      if methods.relativeTargetCost game card then min (numTargets - 1) 255
      else 0
  | some _ => 0

/-- Each component that is charged, with the printed cost or another one, is
the sum of the cost and all extras, capped. -/
def ChargesExtras : Option ManaCost → Prop
  | none => ∀ part,
      ((queries.calculateEffectiveCost game player card).part part).toNat =
        min 255 ((spell.manaCost.part part).toNat +
          spell.extras spell.manaCost part)
  | some cost => ∀ part,
      ((methods.totalCost game player card numTargets (some cost)).part
          part).toNat =
        min 255 ((cost.part part).toNat +
          methods.perTarget game card numTargets part + spell.extras cost part)

/-- When the extras are all charged. -/
def ChargesInFull : Option ManaCost → Prop
  | none => ∀ part, spell.PrintedInFull part
  | some cost => ∀ part,
      255 ≤ (cost.part part).toNat +
          methods.perTarget game card numTargets part ∨
        spell.extras cost part = 0

end CastingMethods

namespace CostQueries

variable {queries : CostQueries} {game : GameState} {player : PlayerId}
  {card : CardId} {spell : Card}

theorem changeCost_plain {source : Card} {cost : ManaCost}
    {ability : StaticAbility} (hability : ability.changesCost = false) :
    queries.changeCost game player spell source cost ability = cost := by
  cases ability <;> first | rfl | simp [StaticAbility.changesCost] at hability

theorem reduceSelf_plain {cost : ManaCost} {ability : StaticAbility}
    (hability : ability.changesCost = false) :
    queries.reduceSelf game player cost ability = cost := by
  cases ability <;> first | rfl | simp [StaticAbility.changesCost] at hability

theorem changedCost_plain (hplain : game.PlainCosts spell) :
    queries.changedCost game player spell = spell.manaCost := by
  have haffinity : affinityCost game player spell = spell.manaCost := by
    simp [affinityCost, hplain.affinity]
  have hself : spell.staticAbilities.foldl (queries.reduceSelf game player)
      spell.manaCost = spell.manaCost :=
    Sweep.foldl_eq_self fun ability hability =>
      reduceSelf_plain (hplain.own ability hability)
  rw [changedCost, haffinity, hself]
  apply Sweep.foldl_eq_self
  intro id hid
  cases hsource : game.card? id with
  | none => rfl
  | some source =>
      exact Sweep.foldl_eq_self fun ability hability =>
        changeCost_plain (hplain.board id hid source hsource ability hability)

/-! ## One extra after the other -/

theorem part_withX (spell : Card) (cost : ManaCost) (part : Option Color) :
    ((withX spell cost).part part).toNat =
      min ((cost.part part).toNat + spell.xExtra cost part) 255 := by
  have hle := (cost.part part).toNat_lt
  by_cases hx : cost.hasX
  · rcases part with _ | color
    · have hadd := add8_toNat cost.generic (mul8 cost.xCount spell.xPaid)
      have hmul := mul8_toNat cost.xCount spell.xPaid
      simp only [withX, hx, if_true, ManaCost.withXValue, ManaCost.part,
        Card.xExtra]
      omega
    · have hsame : (withX spell cost).part (some color) =
          cost.part (some color) := by
        cases color <;> simp [withX, hx, ManaCost.withXValue, ManaCost.part,
          ManaCost.amountOf]
      rw [hsame, Card.xExtra]
      omega
  · have hzero : cost.xCount.toNat = 0 := by
      simp only [ManaCost.hasX, decide_eq_true_eq,
        UInt8.lt_iff_toNat_lt] at hx
      simpa using hx
    have hnone : spell.xExtra cost part = 0 := by
      rcases part with _ | color <;> simp [Card.xExtra, hzero]
    rw [hnone, withX, if_neg hx]
    omega

theorem part_withMultikicker (spell : Card) (cost : ManaCost)
    {part : Option Color} (hpart : part ≠ some .colorless) :
    ((withMultikicker spell cost).part part).toNat =
      min ((cost.part part).toNat + spell.kicksExtra part % 256) 255 := by
  have hle := (cost.part part).toNat_lt
  by_cases hkicked : 0 < spell.timesKicked
  · cases hcost : spell.multikickerCost with
    | none =>
        simp only [withMultikicker, hkicked, if_true, hcost, Card.kicksExtra,
          Option.getD_none, ManaCost.part_empty]
        omega
    | some kick =>
        have hplus := cost.part_plus (kick.times spell.timesKicked) hpart
        have htimes := kick.part_times spell.timesKicked hpart
        simp only [withMultikicker, hkicked, if_true, hcost, Card.kicksExtra,
          Option.getD_some]
        omega
  · have hzero : spell.timesKicked.toNat = 0 := by
      rw [UInt8.lt_iff_toNat_lt] at hkicked
      simpa using hkicked
    simp only [withMultikicker, if_neg hkicked, Card.kicksExtra, hzero]
    omega

theorem part_withKicker (spell : Card) (cost : ManaCost)
    {part : Option Color} (hpart : part ≠ some .colorless) :
    ((withKicker spell cost).part part).toNat =
      min ((cost.part part).toNat + spell.kickerExtra part) 255 := by
  have hle := (cost.part part).toNat_lt
  by_cases hpaid : spell.kickerPaid
  · cases hcost : spell.kickerCost with
    | none =>
        simp only [withKicker, hpaid, if_true, hcost, Card.kickerExtra,
          Option.getD_none, ManaCost.part_empty]
        omega
    | some kick =>
        simpa [withKicker, hpaid, hcost, Card.kickerExtra] using
          cost.part_plus kick hpart
  · simp only [withKicker, hpaid, Card.kickerExtra]
    simp
    omega

theorem part_withModeCost (spell : Card) (cost : ManaCost)
    (part : Option Color) :
    ((withModeCost spell cost).part part).toNat =
      min ((cost.part part).toNat + spell.modeExtra part) 255 := by
  have hle := (cost.part part).toNat_lt
  by_cases hpaid : 0 < spell.modeCostPaid
  · rcases part with _ | color
    · rw [withModeCost, if_pos hpaid]
      exact cost.generic_raise spell.modeCostPaid
    · have hsame : (withModeCost spell cost).part (some color) =
          cost.part (some color) := by
        cases color <;> simp [withModeCost, hpaid, ManaCost.raise,
          ManaCost.part, ManaCost.amountOf]
      rw [hsame, Card.modeExtra]
      omega
  · have hzero : spell.modeCostPaid.toNat = 0 := by
      rw [UInt8.lt_iff_toNat_lt] at hpaid
      simpa using hpaid
    have hnone : spell.modeExtra part = 0 := by
      rcases part with _ | color <;> simp [Card.modeExtra, hzero]
    rw [hnone, withModeCost, if_neg hpaid]
    omega

/-- What the extras make of a component that they look at. -/
theorem part_effectiveCost (hcard : game.getCard card = some spell)
    (hplain : game.PlainCosts spell) {part : Option Color}
    (hpart : part ≠ some .colorless) :
    ((queries.calculateEffectiveCost game player card).part part).toNat =
      min ((spell.manaCost.part part).toNat +
        spell.wrappedExtras spell.manaCost part) 255 := by
  simp only [calculateEffectiveCost, hcard, changedCost_plain hplain,
    part_withModeCost, part_withKicker _ _ hpart,
    part_withMultikicker _ _ hpart, part_withX, Card.wrappedExtras,
    min_add_min]
  omega

/-- Colourless mana is never added. -/
theorem colorless_effectiveCost (hcard : game.getCard card = some spell)
    (hplain : game.PlainCosts spell) :
    (queries.calculateEffectiveCost game player card).part
        (some .colorless) = spell.manaCost.colorless := by
  have hx (cost : ManaCost) :
      (withX spell cost).colorless = cost.colorless := by
    by_cases hhas : cost.hasX <;> simp [withX, hhas, ManaCost.withXValue]
  have hkicks (cost : ManaCost) :
      (withMultikicker spell cost).colorless = cost.colorless := by
    unfold withMultikicker
    cases spell.multikickerCost <;> split <;> rfl
  have hkicker (cost : ManaCost) :
      (withKicker spell cost).colorless = cost.colorless := by
    unfold withKicker
    cases spell.kickerCost <;> split <;> rfl
  have hmode (cost : ManaCost) :
      (withModeCost spell cost).colorless = cost.colorless := by
    unfold withModeCost
    split <;> rfl
  simp only [calculateEffectiveCost, hcard, changedCost_plain hplain,
    ManaCost.part, ManaCost.amountOf, hmode, hkicker, hkicks, hx]

/-- One component of the effective cost is the capped sum exactly when it is
charged in full. -/
theorem part_eq_sum_iff (hcard : game.getCard card = some spell)
    (hplain : game.PlainCosts spell) (part : Option Color) :
    ((queries.calculateEffectiveCost game player card).part part).toNat =
        min 255 ((spell.manaCost.part part).toNat +
          spell.extras spell.manaCost part) ↔
      spell.PrintedInFull part := by
  by_cases hpart : part = some .colorless
  · subst hpart
    have hle := spell.manaCost.colorless.toNat_lt
    rw [colorless_effectiveCost hcard hplain, Card.PrintedInFull, if_pos rfl,
      ← UInt8.toNat_inj]
    simp only [Card.extras, Card.xExtra, Card.modeExtra, ManaCost.part,
      ManaCost.amountOf, UInt8.reduceToNat]
    omega
  · rw [part_effectiveCost hcard hplain hpart, Card.PrintedInFull,
      if_neg hpart]
    simp only [Card.extras, Card.wrappedExtras]
    omega

end CostQueries

namespace CastingMethods

variable {methods : CastingMethods} {queries : CostQueries}
  {game : GameState} {player : PlayerId} {card : CardId} {spell : Card}
  {numTargets : Nat}

theorem part_totalCost (cost : ManaCost) (part : Option Color) :
    ((methods.totalCost game player card numTargets (some cost)).part
        part).toNat =
      min ((cost.part part).toNat +
        methods.perTarget game card numTargets part) 255 := by
  have hle := (cost.part part).toNat_lt
  by_cases hmore : methods.relativeTargetCost game card ∧ 1 < numTargets
  · rcases part with _ | color
    · have hadd := add8_toNat cost.generic
        (UInt8.ofNat (min (numTargets - 1) 255))
      have hofNat : (UInt8.ofNat (min (numTargets - 1) 255)).toNat =
          min (numTargets - 1) 255 := by
        rw [UInt8.toNat_ofNat']
        omega
      simp only [totalCost, Option.getD_some, hmore, decide_true,
        Bool.and_true, if_true, ManaCost.part, perTarget]
      omega
    · have hsame : (methods.totalCost game player card numTargets
          (some cost)).part (some color) = cost.part (some color) := by
        cases color <;> simp [totalCost, hmore, ManaCost.part,
          ManaCost.amountOf]
      rw [hsame, perTarget]
      omega
  · have hsame : methods.totalCost game player card numTargets (some cost) =
        cost := by
      simp only [totalCost, Option.getD_some, Bool.and_eq_true,
        decide_eq_true_eq, if_neg hmore]
    have hnone : methods.perTarget game card numTargets part = 0 := by
      rcases part with _ | color
      · simp only [perTarget]
        split
        · next hrelative =>
          have hone : ¬ 1 < numTargets := fun hlt => hmore ⟨hrelative, hlt⟩
          omega
        · rfl
      · rfl
    rw [hsame, hnone]
    omega

/-- The extras are all charged exactly when, with the printed cost, each
component is charged in full and, with another cost, nothing was announced
that the cap does not hide. -/
theorem chargesExtras_iff (hcard : game.getCard card = some spell)
    (hplain : game.PlainCosts spell) (overrideCost : Option ManaCost) :
    methods.ChargesExtras queries game player card spell numTargets
        overrideCost ↔
      methods.ChargesInFull game card spell numTargets overrideCost := by
  cases overrideCost with
  | none => exact forall_congr' (CostQueries.part_eq_sum_iff hcard hplain)
  | some cost =>
      apply forall_congr'
      intro part
      rw [part_totalCost]
      omega

/-- Castings without other costs. -/
def manaOnly : CastingMethods where
  choose game _ _ := .ok game (some [])
  checkDelayedTriggers game _ _ _ := .ok game ()
  calculateEffectiveCost game card _ := game.costByGet card
  relativeTargetCost _ _ := false
  paySacrificeCosts game _ _ := .ok game ()
  updateMut game _ := (game.manaCaches, [])
  tapForManaAndUpdateHint game _ _ hint := .ok game hint
  checkSpellcastTriggers game _ _ := .ok game ()

/-- Nothing is counted for a cost. -/
def noCounts : CostQueries where
  countCardsMatchingFilter _ _ _ _ := 0
  evaluateCountExpression _ _ _ := none

/-- A red creature spell on the stack, with a kicker and an offspring. -/
def announcedSpell (kickerPaid offspringPaid : Bool) : Card where
  id := ⟨3⟩
  owner := ⟨0⟩
  controller := ⟨0⟩
  types := [.creature]
  manaCost := { generic := 1, red := 1 }
  keywords :=
    { keywords := [.kicker, .offspring]
      args := [.kicker { generic := 3 }, .offspring { generic := 2 }] }
  kickerPaid := kickerPaid
  offspringPaid := offspringPaid

def announcedGame (spell : Card) : GameState where
  cards := ⟨[none, none, none, some spell]⟩
  players := [{ id := ⟨0⟩ }, { id := ⟨1⟩ }]
  zones :=
    { battlefield := []
      stack := [⟨3⟩]
      playerZones := [(⟨0⟩, {}), (⟨1⟩, {})] }
  turn := { activePlayer := ⟨0⟩ }

theorem announcedGame_plain (kickerPaid offspringPaid : Bool) :
    (announcedGame (announcedSpell kickerPaid offspringPaid)).PlainCosts
      (announcedSpell kickerPaid offspringPaid) where
  affinity := rfl
  own := by simp [announcedSpell]
  board := by simp [announcedGame]

/-- A kicker alone is charged. -/
theorem chargesExtras_kicker :
    manaOnly.ChargesExtras noCounts (announcedGame (announcedSpell true false))
      ⟨0⟩ ⟨3⟩ (announcedSpell true false) 0 none :=
  (chargesExtras_iff rfl (announcedGame_plain true false) none).mpr
    (by
      intro part
      rcases part with _ | color
      · decide
      · cases color <;> decide)

/-- A paid offspring is free, and so is a kicker beside another cost. -/
theorem not_chargesExtras :
    ¬ manaOnly.ChargesExtras noCounts
        (announcedGame (announcedSpell false true)) ⟨0⟩ ⟨3⟩
        (announcedSpell false true) 0 none ∧
      ¬ manaOnly.ChargesExtras noCounts
        (announcedGame (announcedSpell true false)) ⟨0⟩ ⟨3⟩
        (announcedSpell true false) 0 (some {}) := by
  constructor
  · intro hcharges
    exact absurd (hcharges none) (by decide)
  · intro hcharges
    exact absurd (hcharges none) (by decide)

end CastingMethods

end DeepScry
