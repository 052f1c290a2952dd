/-
Counting for a cost or an effect: permanents, cards of a hand or a graveyard,
and what happened this turn.
-/
import DeepScry.CardFilter
import DeepScry.Selectors

namespace DeepScry

open TextLines

inductive CompareCondition where
  | greaterOrEqual (threshold : Int32)
  | lessOrEqual (threshold : Int32)
  | equal (threshold : Int32)
  | greaterThan (threshold : Int32)
  | lessThan (threshold : Int32)
deriving DecidableEq

def CompareCondition.evaluate : CompareCondition → Int32 → Bool
  | greaterOrEqual threshold, value => threshold ≤ value
  | lessOrEqual threshold, value => value ≤ threshold
  | equal threshold, value => value == threshold
  | greaterThan threshold, value => threshold < value
  | lessThan threshold, value => value < threshold

inductive CountExpression where
  | fixed (n : Int32)
  | validPermanents (filter : String) (modifier : Layers.CountModifier)
  | cardsDrawnThisTurn
  | cardsInHand (selector : String) (modifier : Layers.CountModifier)
  | xPaid
  | targetedCardPower
  | triggeredCardPower
  | spellsCastThisTurn
  | validGraveyard (filter : String) (modifier : Layers.CountModifier)
  | compare (source : CountExpression) (condition : CompareCondition)
      (trueValue falseValue : Int32)
  | timesKicked
  | kicked (kickedValue unkickedValue : Int32)
  | bargain (bargainedValue unbargainedValue : Int32)

/-- A count as an `i32`, capped. -/
def countToInt32 (count : Nat) : Int32 := Int32.ofNat (min count 2147483647)

/-- The type or subtype that stands before the first dot of a filter. -/
def Card.matchesTypeToken (card : Card) (filter : String) : Bool :=
  match String.ofList (filter.toList.takeWhile (· != '.')) with
  | "Artifact" => card.isArtifact
  | "Creature" => card.isCreature
  | "Land" => card.isLand
  | "Enchantment" => card.isEnchantment
  | "Permanent" | "Card" => true
  | "Swamp" => card.definition.cache.hasSubtype .black
  | "Plains" => card.definition.cache.hasSubtype .white
  | "Island" => card.definition.cache.hasSubtype .blue
  | "Mountain" => card.definition.cache.hasSubtype .red
  | "Forest" => card.definition.cache.hasSubtype .green
  | other =>
      (card.subtypes.any fun subtype => eqIgnoreAsciiCase subtype other) ||
        card.tempAnimateSubtypes.any fun subtype =>
          eqIgnoreAsciiCase subtype other

/-- Whether a permanent is counted; the qualifiers are looked for anywhere in
the filter. -/
def Card.matchesPermanentFilter (card : Card) (filter : String)
    (controller : PlayerId) : Bool :=
  let mentions (word : String) : Bool :=
    decide (word.toList <:+: filter.toList)
  card.matchesTypeToken filter &&
    !(mentions "withDefender" && !card.keywords.contains .defender) &&
      if mentions "OppCtrl" then card.controller != controller
      else if mentions "YouCtrl" || mentions "ActivePlayerCtrl" then
        card.controller == controller
      else true

namespace GameState

variable (game : GameState)

def countPermanentsMatching (filter : String) (controller : PlayerId) : Nat :=
  game.zones.battlefield.countP fun id =>
    (game.card? id).any fun card =>
      card.matchesPermanentFilter filter controller

/-- `evaluate_count_expression`; what needs a card that is not given is 0, or
as if nothing was paid. -/
def evaluateCountExpression (controller : PlayerId) :
    CountExpression → Int32
  | .fixed n => n
  | .validPermanents filter modifier =>
      modifier.apply
        (countToInt32 (game.countPermanentsMatching filter controller))
  | .cardsDrawnThisTurn =>
      ((game.getPlayer controller).map fun p =>
        Int32.ofNat p.cardsDrawnThisTurn.toNat).getD 0
  | .cardsInHand _ modifier =>
      modifier.apply (countToInt32
        (((game.zones.getPlayerZones controller).map fun own =>
          own.hand.length).getD 0))
  | .spellsCastThisTurn =>
      ((game.getPlayer controller).map fun p =>
        Int32.ofNat p.spellsCastThisTurn.toNat).getD 0
  | .validGraveyard filter modifier =>
      modifier.apply (countToInt32
        (game.countCardsMatchingFilter controller .graveyard filter))
  | .compare source condition trueValue falseValue =>
      if condition.evaluate (evaluateCountExpression controller source) then
        trueValue
      else falseValue
  | .kicked _ unkickedValue => unkickedValue
  | .bargain _ unbargainedValue => unbargainedValue
  | .xPaid | .timesKicked | .targetedCardPower | .triggeredCardPower => 0

/-! ## The order of the board -/

/-- The same game with the battlefield and the static abilities of the
permanents on it in another order. -/
structure Permutes (before after : GameState) : Prop where
  board : after.zones.battlefield.Perm before.zones.battlefield
  rest : after =
    { before with
      zones := { before.zones with battlefield := after.zones.battlefield }
      cards := after.cards }
  absent : ∀ id, before.card? id = none → after.card? id = none
  reordered : ∀ id card, before.card? id = some card →
    ∃ abilities, abilities.Perm card.staticAbilities ∧
      after.card? id = some { card with staticAbilities := abilities }
  elsewhere : ∀ id, id ∉ before.zones.battlefield →
    after.card? id = before.card? id

namespace Permutes

variable {before after : GameState} (hsame : before.Permutes after)
include hsame

/-- What does not look at static abilities reads the same from a card. -/
theorem any_eq {p : Card → Bool}
    (hp : ∀ card abilities, p { card with staticAbilities := abilities } =
      p card) (id : CardId) :
    (after.card? id).any p = (before.card? id).any p := by
  cases hcard : before.card? id with
  | none => rw [hsame.absent id hcard]
  | some card =>
      obtain ⟨abilities, -, hafter⟩ := hsame.reordered id card hcard
      simp [hafter, hp]

theorem playerZones : after.zones.playerZones = before.zones.playerZones := by
  rw [hsame.rest]

theorem getPlayerZones (player : PlayerId) :
    after.zones.getPlayerZones player = before.zones.getPlayerZones player := by
  rw [Zones.getPlayerZones, hsame.playerZones, Zones.getPlayerZones]

theorem getPlayer (player : PlayerId) :
    after.getPlayer player = before.getPlayer player := by
  rw [hsame.rest]
  rfl

theorem filterZone (player : PlayerId) (zone : Zone) :
    (after.filterZone player zone).Perm (before.filterZone player zone) := by
  cases zone <;>
    simp [GameState.filterZone, hsame.getPlayerZones, hsame.board]

theorem matchesFilter (player : PlayerId) (text : List Char) (id : CardId) :
    after.matchesFilter player text id =
      before.matchesFilter player text id := by
  have hreserved (filter : CardFilter) :
      after.reservedMatches filter = before.reservedMatches filter := by
    rw [hsame.rest]
    rfl
  cases hcard : before.card? id with
  | none =>
      simp only [GameState.matchesFilter, hcard, hsame.absent id hcard,
        hreserved]
  | some card =>
      obtain ⟨abilities, -, hafter⟩ := hsame.reordered id card hcard
      simp only [GameState.matchesFilter, hcard, hafter]
      rfl

theorem countSingle (player : PlayerId) (zone : Zone) (text : List Char) :
    after.countSingle player zone text =
      before.countSingle player zone text := by
  rw [GameState.countSingle, funext (hsame.matchesFilter player text)]
  exact (hsame.filterZone player zone).countP_eq _

theorem takenByPart (player : PlayerId) (zone : Zone) (text : List Char)
    (id : CardId) :
    after.takenByPart player zone text id =
      before.takenByPart player zone text id := by
  have hany : (after.filterZone player zone).any
      (after.matchesFilter player (trim text)) =
      (before.filterZone player zone).any
        (before.matchesFilter player (trim text)) := by
    rw [funext (hsame.matchesFilter player (trim text))]
    exact (hsame.filterZone player zone).any_eq
  rw [GameState.takenByPart, GameState.takenByPart, hany,
    hsame.any_eq fun _ _ => rfl]

/-- The order of the board does not change what a filter counts. -/
theorem countCardsMatchingFilter (player : PlayerId) (zone : Zone)
    (filter : String) :
    after.countCardsMatchingFilter player zone filter =
      before.countCardsMatchingFilter player zone filter := by
  simp only [GameState.countCardsMatchingFilter, foldl_insertPart,
    hsame.countSingle, hsame.takenByPart,
    List.toFinset_eq_of_perm _ _ (hsame.filterZone player zone)]

/-- A count of permanents does not see the order of the battlefield. -/
theorem countP_battlefield {p : Card → Bool}
    (hp : ∀ card abilities, p { card with staticAbilities := abilities } =
      p card) :
    (after.zones.battlefield.countP fun id => (after.card? id).any p) =
      before.zones.battlefield.countP fun id => (before.card? id).any p := by
  simp only [hsame.any_eq hp]
  exact hsame.board.countP_eq _

theorem evaluateCountExpression (player : PlayerId)
    (expression : CountExpression) :
    after.evaluateCountExpression player expression =
      before.evaluateCountExpression player expression := by
  induction expression with
  | validPermanents filter modifier =>
      have hcount : after.countPermanentsMatching filter player =
          before.countPermanentsMatching filter player :=
        hsame.countP_battlefield fun _ _ => rfl
      simp only [GameState.evaluateCountExpression, hcount]
  | compare source condition trueValue falseValue hsource =>
      simp only [GameState.evaluateCountExpression, hsource]
  | _ =>
      simp only [GameState.evaluateCountExpression, hsame.getPlayer,
        hsame.getPlayerZones, hsame.countCardsMatchingFilter]

end Permutes

end GameState

end DeepScry
