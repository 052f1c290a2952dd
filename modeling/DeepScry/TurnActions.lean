/-
The turn-based actions: the counters that the untap step resets, the draw that
Island Sanctuary replaces, and the cleanup step.  What the game loop prints
leaves the game alone.
-/
import DeepScry.CombatDamage
import DeepScry.DelayedFiring
import DeepScry.Turns
import DeepScry.WinCondition

namespace DeepScry

/-- `should_cleanup_at_eot`. -/
def CleanupCondition.atEot : CleanupCondition → Bool
  | .endOfTurn => true
  | .any conditions => anyOf conditions
  | .trackedCardLeavesZone _ _ => false
  | .sourceLeavesBattlefield _ => false
  | .trackedCardIsCast _ => false
  | .never => false
where
  anyOf : List CleanupCondition → Bool
    | [] => false
    | condition :: rest => condition.atEot || anyOf rest

def PersistentEffectStore.findEffectsToCleanupAtEot
    (store : PersistentEffectStore) : List PersistentEffectId :=
  (store.effects.filter fun effect => effect.cleanupCondition.atEot).map
    PersistentEffect.id

/-- `cleanup_end_of_turn`: the triggers left, after those that expire. -/
def DelayedTriggerStore.cleanupEndOfTurn (store : DelayedTriggerStore) :
    DelayedTriggerStore :=
  { store with
    triggers := store.triggers.filter fun trigger =>
      trigger.expiry != some .endOfTurn }

/-- What the cleanup step takes off a permanent. -/
def Card.clearAtCleanup (card : Card) : Card :=
  let healed := if card.isCreature then
      { card with damage := 0, regenerationShields := 0 }
    else card
  { healed with
    damagePrevention := 0
    exileIfWouldDieThisTurn := false
    exileIfWouldGoToGraveyardThisTurn := false
    preventAllCombatDamageThisTurn := false
    damagedByThisTurn := [] }

def Player.emptyManaPool (player : Player) : Player :=
  { player with manaPool := {} }

/-- What the cleanup step takes off a player. -/
def Player.clearAtCleanup (player : Player) : Player :=
  { player with
    damagePrevention := 0
    sourcePreventionShields := []
    islandSanctuaryProtected := false
    hadCreatureCounteredThisTurn := false }

/-- The answer to the question which cards to discard. -/
inductive DiscardChoice where
  | ok (cards : List CardId)
  | undoRequest (n : Nat)
  | exitGame
  | error (message : String)
  | needInput
deriving DecidableEq

/-- The game loop around a cleanup step: its stop conditions, the number of
choices so far, and the record it keeps of a discard. -/
structure CleanupLoop where
  checkStopConditions : GameState → PlayerId → Option GameResult
  choiceCounter : UInt32
  replayDiscard : List CardId → ReplayChoice
  chooseDiscard : GameState → PlayerId → List CardId → Nat → DiscardChoice

namespace GameState

/-- The resets at the start of the untap step; only the first is logged. -/
def resetTurnCounters (game : GameState) : GameState :=
  match game.getPlayer game.turn.activePlayer with
  | some player =>
      (game.modifyPlayer game.turn.activePlayer fun p =>
        { p with cardsDrawnThisTurn := 0, spellsCastThisTurn := 0 }).logAction
          (.setCardsDrawnThisTurn game.turn.activePlayer
            player.cardsDrawnThisTurn 0) game.logger.logCount
  | none => game

/-- Whether the active player controls an Island Sanctuary. -/
def sanctuaryActive (game : GameState) : Bool :=
  game.zones.battlefield.any fun id => (game.card? id).any fun card =>
    card.controller == game.turn.activePlayer &&
      card.definition.cache.isIslandSanctuary

/-- The start of the draw step: outside the first turn an Island Sanctuary
replaces the draw. -/
def takeSanctuary (game : GameState) : GameState :=
  if game.turn.turnNumber ≠ 1 ∧ game.sanctuaryActive = true then
    game.modifyPlayer game.turn.activePlayer fun p =>
      { p with islandSanctuaryProtected := true }
  else game

/-- The end of the cleanup step, after the discards; nothing is logged. -/
def emptyManaPools (game : GameState) (players : List PlayerId) : GameState :=
  players.foldl (fun game id => game.modifyPlayer id Player.emptyManaPool) game

def cleanupEndOfTurn (game : GameState) : GameState :=
  { game with
    persistentEffects := game.persistentEffects.removeMany
      game.persistentEffects.findEffectsToCleanupAtEot
    delayedTriggers := game.delayedTriggers.cleanupEndOfTurn }

def clearPermanents (game : GameState) : GameState :=
  game.zones.battlefield.foldl
    (fun game id => game.modifyCard id Card.clearAtCleanup) game

def clearPlayers (game : GameState) : GameState :=
  { game with players := game.players.map Player.clearAtCleanup }

/-- Everything that ends with the turn. -/
def finishTurn (game : GameState) (players : List PlayerId) : GameState :=
  (((game.emptyManaPools players).cleanupEndOfTurn).clearPermanents).clearPlayers

section Cleanup

variable (executor : EffectExecutor) (depth : Nat)

/-- Discard the chosen cards, which have to be in the hand. -/
def discardChosen (player : PlayerId) :
    GameState → List CardId → Outcome Unit
  | game, [] => .ok game ()
  | game, id :: rest =>
      if (game.zones.getPlayerZones player).any fun own =>
          !own.hand.contains id then
        .error game (.invalidAction
          ("Card " ++ toString id.raw ++ " not in player's hand"))
      else
        (moveCard executor depth game id .hand .graveyard player).andThen
          fun moved _ => discardChosen player moved rest

/-- The active player discards down to the maximum hand size; `some` result
leaves the step early. -/
def discardToHandSize (loop : CleanupLoop) (game : GameState)
    (player : PlayerId) : Outcome (Option (Option GameResult)) :=
  let hand := ((game.zones.getPlayerZones player).map fun own =>
    own.hand).getD []
  match game.getPlayer player with
  | none => .error game (.entityNotFound player.raw)
  | some p =>
      if hand.length ≤ p.maxHandSize then .ok game none
      else
        let discardCount := hand.length - p.maxHandSize
        match loop.checkStopConditions game player with
        | some result => .ok game (some (some result))
        | none =>
            match loop.chooseDiscard game player hand discardCount with
            | .undoRequest n =>
                .ok (game.handleUndoRequest player n) (some none)
            | .exitGame => .error game (.invalidAction
                "Game exit requested by controller")
            | .error message =>
                .error game (.invalidAction ("Controller error: " ++ message))
            | .needInput => .error game .needInput
            | .ok cards =>
                let logged := game.logAction
                  (.choicePoint player (loop.choiceCounter + 1)
                    (some (loop.replayDiscard cards))) game.logger.logCount
                if cards.length ≠ discardCount then
                  .error logged (.invalidAction
                    ("Must discard exactly " ++ toString discardCount ++
                      " cards, got " ++ toString cards.length))
                else
                  (discardChosen executor depth player logged cards).andThen
                    fun discarded _ => .ok discarded none

/-- `cleanup_step`; without a second player it is a panic. -/
def cleanupStep (loop : CleanupLoop) (game : GameState) :
    Outcome (Option GameResult) :=
  let activePlayer := game.turn.activePlayer
  match game.getOtherPlayerId activePlayer with
  | none => none
  | some nonActivePlayer =>
      (discardToHandSize executor depth loop game activePlayer).andThen
        fun discarded early =>
          match early with
          | some result => .ok discarded result
          | none =>
              .ok (discarded.finishTurn [activePlayer, nonActivePlayer]) none

end Cleanup

end GameState

end DeepScry
