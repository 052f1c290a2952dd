/-
What a spell costs: the printed cost, the changes by the spell itself and by
permanents, and what was announced for it.
-/
import DeepScry.ContinuousEffects

namespace DeepScry

open Saturating

namespace ManaCost

def hasX (cost : ManaCost) : Bool := 0 < cost.xCount

/-- Each X symbol adds the value to the generic part. -/
def withXValue (cost : ManaCost) (xValue : UInt8) : ManaCost :=
  { cost with
    generic := add8 cost.generic (mul8 cost.xCount xValue)
    xCount := 0 }

def reduce (cost : ManaCost) (amount : UInt8) : ManaCost :=
  { cost with generic := sub8 cost.generic amount }

def raise (cost : ManaCost) (amount : UInt8) : ManaCost :=
  { cost with generic := add8 cost.generic amount }

/-- An additional cost; its colorless part is not looked at. -/
def plus (cost extra : ManaCost) : ManaCost :=
  { cost with
    generic := add8 cost.generic extra.generic
    white := add8 cost.white extra.white
    blue := add8 cost.blue extra.blue
    black := add8 cost.black extra.black
    red := add8 cost.red extra.red
    green := add8 cost.green extra.green }

/-- A cost paid several times, wrapping. -/
def times (cost : ManaCost) (n : UInt8) : ManaCost where
  generic := cost.generic * n
  white := cost.white * n
  blue := cost.blue * n
  black := cost.black * n
  red := cost.red * n
  green := cost.green * n

end ManaCost

namespace Card

/-- `spell_matches_cost_filter`. -/
def matchesCostFilter (card : Card) : CostReductionTarget → Bool
  | .allSpells => true
  | .selfCard => false
  | .nonCreature => !card.isCreature
  | .creature => card.isCreature
  | .subtype subtype => card.subtypes.contains subtype
  | .color color => card.colors.contains color

def multikickerCost (card : Card) : Option ManaCost :=
  match card.keywords.getArgs .multikicker with
  | some (.multikicker cost) => some cost
  | _ => none

def kickerCost (card : Card) : Option ManaCost :=
  match card.keywords.getArgs .kicker with
  | some (.kicker cost) => some cost
  | _ => none

def offspringCost (card : Card) : Option ManaCost :=
  match card.keywords.getArgs .offspring with
  | some (.offspring cost) => some cost
  | _ => none

end Card

/-- How cards are counted for a cost. -/
structure CostQueries where
  countCardsMatchingFilter : GameState → PlayerId → String → Zone → Nat
  evaluateCountExpression : GameState → Nat → PlayerId → Option Int32

namespace CostQueries

variable (queries : CostQueries) (game : GameState) (player : PlayerId)

def conditionMet (condition : Option CostReductionCondition) : Bool :=
  condition.all fun condition =>
    condition.minCount.toNat ≤
      queries.countCardsMatchingFilter game player condition.isPresent
        condition.presentZone

/-- A negative count is none, a large one is truncated. -/
def reduceBy : CostReductionAmount → UInt8
  | .fixed amount => amount
  | .dynamic expression =>
      (max ((queries.evaluateCountExpression game expression player).getD 0)
        0).toUInt32.toUInt8

/-- What an ability of the spell takes off its own cost. -/
def reduceSelf (cost : ManaCost) : StaticAbility → ManaCost
  | .reduceCost .selfCard amount condition =>
      if queries.conditionMet game player condition then
        cost.reduce (queries.reduceBy game player amount)
      else cost
  | _ => cost

/-- What an ability of a permanent changes; reductions only help their
controller. -/
def changeCost (spell source : Card) (cost : ManaCost) :
    StaticAbility → ManaCost
  | .reduceCost validCard amount condition =>
      if source.controller == player && spell.matchesCostFilter validCard &&
          queries.conditionMet game player condition then
        cost.reduce (queries.reduceBy game player amount)
      else cost
  | .raiseCost validCard (.mana amount) =>
      if spell.matchesCostFilter validCard then cost.raise amount else cost
  | _ => cost

def affinityCost (spell : Card) : ManaCost :=
  match spell.keywords.getArgs .affinity with
  | some (.affinity cardType) =>
      spell.manaCost.reduce (UInt8.ofNat (game.zones.battlefield.countP
        fun id => (game.card? id).any fun card =>
          card.controller == player && card.subtypes.contains cardType))
  | _ => spell.manaCost

/-- The cost before anything was announced. -/
def changedCost (spell : Card) : ManaCost :=
  game.zones.battlefield.foldl
    (fun cost id =>
      match game.card? id with
      | none => cost
      | some source => source.staticAbilities.foldl
          (queries.changeCost game player spell source) cost)
    (spell.staticAbilities.foldl (queries.reduceSelf game player)
      (affinityCost game player spell))

/-- The X that was paid. -/
def withX (spell : Card) (cost : ManaCost) : ManaCost :=
  if cost.hasX then cost.withXValue spell.xPaid else cost

def withMultikicker (spell : Card) (cost : ManaCost) : ManaCost :=
  if 0 < spell.timesKicked then
    match spell.multikickerCost with
    | some kick => cost.plus (kick.times spell.timesKicked)
    | none => cost
  else cost

def withKicker (spell : Card) (cost : ManaCost) : ManaCost :=
  if spell.kickerPaid then
    match spell.kickerCost with
    | some kick => cost.plus kick
    | none => cost
  else cost

def withModeCost (spell : Card) (cost : ManaCost) : ManaCost :=
  if 0 < spell.modeCostPaid then cost.raise spell.modeCostPaid else cost

/-- A card that does not exist costs nothing. -/
def calculateEffectiveCost (card : CardId) : ManaCost :=
  match game.getCard card with
  | none => {}
  | some spell =>
      withModeCost spell (withKicker spell (withMultikicker spell
        (withX spell (queries.changedCost game player spell))))

end CostQueries

end DeepScry
