/-
Changes of permanents that log their own inverse: tapping, counters, base
stats, the earthbend animation and the regeneration shield.
-/
import DeepScry.MoveCard

namespace DeepScry

inductive MtgError where
  | entityNotFound (id : Nat)
  | invalidAction (message : String)
  | needInput
  | other (message : String)
deriving DecidableEq

/-- What a fallible call leaves: the state also after an error, and `none`
when the call does not return. -/
abbrev Outcome (α : Type) := Option (GameState × Except MtgError α)

namespace Outcome

def ok {α : Type} (game : GameState) (value : α) : Outcome α :=
  some (game, .ok value)

def error {α : Type} (game : GameState) (e : MtgError) : Outcome α :=
  some (game, .error e)

/-- The `?` operator: an error ends the caller too. -/
def andThen {α β : Type} (outcome : Outcome α)
    (next : GameState → α → Outcome β) : Outcome β :=
  match outcome with
  | some (game, .ok value) => next game value
  | some (game, .error e) => some (game, .error e)
  | none => none

theorem andThen_eq_ok {α β : Type} {outcome : Outcome α}
    {next : GameState → α → Outcome β} {game : GameState} {value : β} :
    outcome.andThen next = some (game, .ok value) ↔
      ∃ middle a, outcome = some (middle, .ok a) ∧
        next middle a = some (game, .ok value) := by
  constructor
  · intro hdone
    rcases outcome with _ | ⟨middle, e | a⟩
    · cases hdone
    · cases hdone
    · exact ⟨middle, a, rfl, hdone⟩
  · rintro ⟨middle, a, rfl, hnext⟩
    exact hnext

end Outcome

/-- `remove_from_combat`. -/
def CombatState.removeFromCombat (combat : CombatState) (id : CardId) :
    CombatState :=
  { combat with
    attackers := combat.attackers.filter fun entry => entry.1 != id
    blockers := combat.blockers.filter fun entry => entry.1 != id
    attackerBlockers :=
      (combat.attackerBlockers.filter fun entry => entry.1 != id).map
        fun entry => (entry.1, entry.2.filter fun other => other != id) }

namespace GameState

/-- `tap_permanent` and `untap_permanent`: a permanent that is already so
stays, without an action. -/
def setTapped (game : GameState) (id : CardId) (tapped : Bool)
    (write : Card → Card)
    (notify : CardId → Card → ManaSourceCache → ManaSourceCache) :
    Outcome Unit :=
  match game.card? id with
  | none => .error game (.entityNotFound id.raw)
  | some card =>
      if card.tapped = tapped then .ok game ()
      else
        let logged := (game.modifyCard id write).logAction (.tapCard id tapped)
          game.logger.logCount
        .ok ((logged.mapCaches (notify id (write card))).incrementManaVersion)
          ()

def tapPermanent (game : GameState) (id : CardId) : Outcome Unit :=
  game.setTapped id true Card.tap fun id card cache => cache.onTap id card

def untapPermanent (game : GameState) (id : CardId) : Outcome Unit :=
  game.setTapped id false Card.untap fun id card cache => cache.onUntap id card

/-- A creature that entered in this turn, without haste. -/
def hasSummoningSickness (game : GameState) (card : Card) : Bool :=
  card.isCreature &&
    card.turnEnteredBattlefield.any fun enteredTurn =>
      enteredTurn == game.turn.turnNumber && !card.hasKeyword .haste

/-- `set_temp_base_stats_logged` with both stats given. -/
def setTempBaseStatsLogged (game : GameState) (id : CardId)
    (power toughness : Int8) : GameState :=
  match game.card? id with
  | some card =>
      (game.modifyCard id fun c =>
        { c with
          tempBasePower := some power
          tempBaseToughness := some toughness }).logAction
        (.setTempBaseStats id card.tempBasePower card.tempBaseToughness)
        game.logger.logCount
  | none => game

/-- Make a land a creature with haste, as far as it is not one already. -/
def earthbendAnimateCreatureHasteLogged (game : GameState) (id : CardId) :
    GameState :=
  match game.card? id with
  | some card =>
      let hasHaste := card.hasKeyword .haste
      if card.isCreature && hasHaste then game
      else
        let animate (c : Card) : Card :=
          if card.isCreature then c
          else
            { c with
              types := c.types ++ [.creature]
              tempAnimateTypes := c.tempAnimateTypes ++ [.creature]
              : Card }.refreshCache
        (game.modifyCard id fun c =>
          animate { c with keywords := c.keywords.insert .haste }).logAction
          (.animateTypeline id card.types card.subtypes card.tempAnimateTypes
            card.tempAnimateSubtypes card.tempRemovedSubtypes
            (if hasHaste then [] else [.haste]) [])
          game.logger.logCount
  | none => game

def addCounters (game : GameState) (id : CardId) (counterType : CounterType)
    (amount : UInt8) : Outcome Unit :=
  match game.card? id with
  | some card =>
      .ok ((game.modifyCard id fun c =>
        c.addCounter counterType amount).logAction
          (.setCardCounters id card.counters) game.logger.logCount) ()
  | none => .error game (.entityNotFound id.raw)

/-- Use up a shield in place of the destruction: tap, heal and leave combat. -/
def applyRegenerationShield (game : GameState) (id : CardId) : Outcome Unit :=
  match game.card? id with
  | some card =>
      let shielded := game.modifyCard id fun c =>
        { c with
          regenerationShields := Saturating.sub8 c.regenerationShields 1
          damage := 0 }
      (shielded.tapPermanent id).andThen fun tapped _ =>
        let removed := { tapped with
          combat := tapped.combat.removeFromCombat id }
        .ok (removed.logAction
          (.regenerateReplaceDestroy id card.regenerationShields card.damage
            game.combat) removed.logger.logCount).message ()
  | none => .error game (.entityNotFound id.raw)

end GameState

end DeepScry
