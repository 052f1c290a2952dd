/-
The turn structure: the order of steps and players, what the end of a turn
cleans up, and the advance to the next step.
-/
import DeepScry.Permanents

namespace DeepScry

/-- The step after this one; none follows the last of the turn. -/
def Step.next : Step → Option Step
  | untap => some upkeep
  | upkeep => some draw
  | draw => some main1
  | main1 => some beginCombat
  | beginCombat => some declareAttackers
  | declareAttackers => some declareBlockers
  | declareBlockers => some combatDamage
  | combatDamage => some endCombat
  | endCombat => some main2
  | main2 => some «end»
  | «end» => some cleanup
  | cleanup => none

/-- `false` at the end of the turn. -/
def TurnStructure.advanceStep (turn : TurnStructure) : TurnStructure × Bool :=
  match turn.currentStep.next with
  | some nextStep => ({ turn with currentStep := nextStep }, true)
  | none => (turn, false)

def TurnStructure.nextTurn (turn : TurnStructure) (nextPlayer : PlayerId) :
    TurnStructure :=
  { turn with
    turnNumber := turn.turnNumber + 1
    currentStep := .untap
    activePlayer := nextPlayer
    priorityPlayer := none
    consecutivePasses := 0 }

def Player.resetLandsPlayed (player : Player) : Player :=
  { player with landsPlayedThisTurn := 0 }

namespace Card

def clearTempBaseStats (card : Card) : Card :=
  { card with tempBasePower := none, tempBaseToughness := none }

/-- Roll the type line of an animated card back.  The flags are whether anything
changed, and whether the card is a mana source then. -/
def revertTempAnimation (card : Card) : Card × (Bool × Bool) :=
  let touchedTypes := !card.tempAnimateTypes.isEmpty
  let touchedSubtypes :=
    !card.tempAnimateSubtypes.isEmpty || !card.tempRemovedSubtypes.isEmpty
  let card :=
    if touchedTypes then
      { card with
        tempAnimateTypes := []
        types := card.types.filter fun cardType =>
          !card.tempAnimateTypes.contains cardType }
    else card
  let card :=
    if touchedSubtypes then
      { card with
        tempAnimateSubtypes := []
        tempRemovedSubtypes := []
        subtypes := (card.subtypes.filter fun subtype =>
          !card.tempAnimateSubtypes.contains subtype) ++
            card.tempRemovedSubtypes }
    else card
  if touchedTypes || touchedSubtypes then
    let card := card.refreshCache
    (card, true, card.isManaSource)
  else (card, false, false)

/-- The resets of a permanent at the end of the turn. -/
def endTurnReset (card : Card) : Card × (Bool × Bool) :=
  { card.clearTempBaseStats with
    powerBonus := 0
    toughnessBonus := 0
    damage := 0
    dealtDamageToOpponentThisTurn := false
    attackedThisTurn := false : Card }.revertTempAnimation

end Card

namespace GameState

/-- One permanent of the cleanup, and whether a mana source was rolled back so
far. -/
def cleanupPermanent (state : EntityStore Card × Bool) (id : CardId) :
    EntityStore Card × Bool :=
  match state.1.tryGet id.raw with
  | some card =>
      let (card, _, revertedManaSource) := card.endTurnReset
      (state.1.modify id.raw fun _ => card, revertedManaSource || state.2)
  | none => state

/-- What lasts until the end of the turn: on permanents first, then on all
cards. -/
def cleanupTemporaryEffects (game : GameState) : GameState :=
  let (cards, anyManaSourceTypelineReverted) :=
    game.zones.battlefield.foldl cleanupPermanent (game.cards, false)
  let cleaned :=
    { game with
      cards := cards.modifyAll fun card =>
        { card.clearTempKeywordsUntilEot with
          exileIfWouldGoToGraveyardThisTurn := false } }
  if anyManaSourceTypelineReverted then
    (cleaned.mapCaches ManaSourceCache.markDirty).incrementManaVersion
  else cleaned

/-- The generator always serialises. -/
def captureRngState (game : GameState) : Option SavedRng :=
  some ⟨some game.rng⟩

def getPlayerIdx (game : GameState) (id : PlayerId) : Option Nat :=
  game.players.findIdx? fun player => player.id == id

def getNextPlayerIdx (game : GameState) (currentIdx : Nat) : Nat :=
  (currentIdx + 1) % game.players.length

def getNextPlayer (game : GameState) (currentPlayer : PlayerId) :
    Except MtgError PlayerId :=
  match game.getPlayerIdx currentPlayer with
  | some currentIdx =>
      -- In range, since there is a player.
      match game.players[game.getNextPlayerIdx currentIdx]? with
      | some player => .ok player.id
      | none => .error (.entityNotFound currentPlayer.raw)
  | none => .error (.entityNotFound currentPlayer.raw)

/-- The extra turn in front of the queue, else the turn of the next player. -/
def takeNextPlayer (game : GameState) :
    GameState × Except MtgError PlayerId :=
  match game.extraTurns with
  | extraTurnPlayer :: rest =>
      ({ game with extraTurns := rest : GameState }.message,
        .ok extraTurnPlayer)
  | [] => (game, game.getNextPlayer game.turn.activePlayer)

/-- Hand the turn over: the separator lines, the logged turn change and the
reset of the land drop. -/
def beginTurn (game : GameState) (nextPlayer : PlayerId) : GameState :=
  let fromPlayer := game.turn.activePlayer
  let oldTurnNumber := game.turn.turnNumber
  let rngState := game.captureRngState
  let turned := { game with turn := game.turn.nextTurn nextPlayer : GameState }
    |>.turnSeparator |>.turnSeparator
  (turned.logAction
    (.changeTurn fromPlayer nextPlayer (oldTurnNumber + 1) rngState)
    turned.logger.logCount).modifyPlayer nextPlayer Player.resetLandsPlayed

/-- `advance_step`. -/
def advanceStep (game : GameState) : GameState × Except MtgError Unit :=
  let fromStep := game.turn.currentStep
  let game :=
    if fromStep = .end ∧ game.turn.currentStep.next = some .cleanup then
      game.cleanupTemporaryEffects
    else game
  if fromStep = .endCombat ∧ 0 < game.extraCombatPhases then
    -- Back to the beginning of combat.
    ({ game with
      extraCombatPhases := game.extraCombatPhases - 1
      turn := { game.turn with currentStep := .beginCombat }
      : GameState }.message, .ok ())
  else
    let game :=
      if fromStep = .cleanup then { game with extraCombatPhases := 0 } else game
    match game.turn.advanceStep with
    | (turn, true) =>
        let advanced := { game with turn := turn }
        (advanced.logAction (.advanceStep fromStep turn.currentStep)
          advanced.logger.logCount, .ok ())
    | (_, false) =>
        match game.takeNextPlayer with
        | (game, .ok nextPlayer) => (game.beginTurn nextPlayer, .ok ())
        | (game, .error e) => (game, .error e)

end GameState

end DeepScry
