/-
Undoing logged actions: the inverse of each action, one undo of the game, and
the rewind to the start of the turn.
-/
import DeepScry.GameState

namespace DeepScry

/-- The message of an undo that finds nothing to restore. -/
def notFound (kind : String) (id : Nat) (action : String) : String :=
  kind ++ " " ++ toString id ++ " not found for " ++ action ++ " undo"

namespace GameState

/-- Restore a field of a card; a missing card is an error. -/
def undoCard (game : GameState) (card : CardId) (action : String)
    (f : Card → Card) : GameState × Except String Unit :=
  match game.card? card with
  | some _ => (game.modifyCard card f, .ok ())
  | none => (game, .error (notFound "Card" card.raw action))

/-- Restore a field of a player; a missing player is an error. -/
def undoPlayer (game : GameState) (player : PlayerId) (action : String)
    (f : Player → Player) : GameState × Except String Unit :=
  match game.getPlayer player with
  | some _ => (game.modifyPlayer player f, .ok ())
  | none => (game, .error (notFound "Player" player.raw action))

/-- Put the saved generator back; malformed bytes are an error. -/
def undoRng (game : GameState) (message : String) :
    Option SavedRng → GameState × Except String Unit
  | none => (game, .ok ())
  | some saved =>
      match saved.decoded with
      | some rng => ({ game with rng := rng }, .ok ())
      | none => (game, .error message)

/-- Take the card out of `toZone` and put it back where it was; a card that is
not there stays where it is. -/
def undoMove (game : GameState) (card : CardId) (fromZone toZone : Zone)
    (owner : PlayerId) (fromPosition : Option UInt32) : GameState :=
  if game.zones.holds toZone owner card then
    { game with
      zones := game.zones.putBack card fromZone toZone owner fromPosition }
  else game

/-- `get_mut` finds the instance a late-binding reveal was waiting for, or the
card keeps only its mask. -/
def undoReveal (game : GameState) (card : CardId) (name : Option String)
    (oldMask : UInt8) : GameState :=
  let cleared := { game with cards := game.cards.clear card.raw }
  match game.card? card with
  | some _ =>
      if name.isNone && oldMask == 0 then cleared
      else game.modifyCard card fun c => { c with revealedToMask := oldMask }
  | none => if oldMask == 0 && name.isSome then cleared else game

/-- Restore the damage a commander dealt, and the loss it caused. -/
def undoCommanderDamage (fromPlayer : PlayerId) (oldDamage : UInt16)
    (player : Player) : Player :=
  let restored := FirstMatch.modifyFirst (fun entry => entry.1 == fromPlayer)
    (fun entry => (entry.1, oldDamage)) player.commanderDamageTaken
  let taken := if oldDamage = 0 then
      restored.filter fun entry => entry.1 != fromPlayer
    else restored
  { player with
    commanderDamageTaken := taken
    hasLost := player.hasLost && !(0 < player.life &&
      !taken.any fun entry => 21 ≤ entry.2) }

end GameState

/-- Drop the last occurrence. -/
def eraseLast (ids : List CardId) (id : CardId) : List CardId :=
  (ids.reverse.erase id).reverse

open GameState in
/-- `GameAction::undo`. -/
def GameAction.undo (action : GameAction) (game : GameState) :
    GameState × Except String Unit :=
  match action with
  | moveCard card fromZone toZone owner fromPosition =>
      (game.undoMove card fromZone toZone owner fromPosition, .ok ())
  | tapCard card tapped =>
      match game.card? card with
      | some _ =>
          ((game.modifyCard card fun c =>
            { c with tapped := !tapped }).incrementManaVersion, .ok ())
      | none => (game, .error (notFound "Card" card.raw "TapCard"))
  | setChosenColor card prev =>
      game.undoCard card "SetChosenColor" fun c => { c with chosenColor := prev }
  | setChosenPlayer card prev =>
      game.undoCard card "SetChosenPlayer" fun c =>
        { c with chosenPlayer := prev }
  | setChosenMode card prev =>
      game.undoCard card "SetChosenMode" fun c => { c with chosenMode := prev }
  | setChosenName card prev =>
      game.undoCard card "SetChosenName" fun c => { c with chosenName := prev }
  | setRememberedName prev => ({ game with rememberedName := prev }, .ok ())
  | setStoredInt card prev =>
      game.undoCard card "SetStoredInt" fun c => { c with storedInt := prev }
  | modifyLife player delta =>
      game.undoPlayer player "ModifyLife" fun p =>
        { p with
          life := p.life - delta
          hasLost := p.hasLost && !(0 < p.life - delta) }
  | addMana player mana =>
      game.undoPlayer player "AddMana" fun p =>
        { p with
          manaPool :=
            { white := Saturating.sub8 p.manaPool.white mana.white
              blue := Saturating.sub8 p.manaPool.blue mana.blue
              black := Saturating.sub8 p.manaPool.black mana.black
              red := Saturating.sub8 p.manaPool.red mana.red
              green := Saturating.sub8 p.manaPool.green mana.green
              colorless :=
                Saturating.sub8 p.manaPool.colorless mana.colorless } }
  | emptyManaPool player prev =>
      game.undoPlayer player "EmptyManaPool" fun p => { p with manaPool := prev }
  | addCounter card counterType amount =>
      game.undoCard card "AddCounter" fun c =>
        c.removeCounter counterType amount
  | removeCounter card counterType amount =>
      game.undoCard card "RemoveCounter" fun c =>
        c.addCounter counterType amount
  | advanceStep fromStep _ =>
      ({ game with turn := { game.turn with currentStep := fromStep } }, .ok ())
  | changeTurn fromPlayer _ turnNumber rngState =>
      { game with
        turn := { game.turn with
          activePlayer := fromPlayer
          turnNumber := if turnNumber ≤ 1 then 1 else turnNumber - 1 }
        : GameState }.undoRng "Failed to deserialize RNG state" rngState
  | pumpCreature card powerDelta toughnessDelta granted grantedArgs =>
      game.undoCard card "PumpCreature" fun c =>
        let keywords := granted ++ grantedArgs.map KeywordArgs.keyword
        { c with
          powerBonus := c.powerBonus - powerDelta
          toughnessBonus := c.toughnessBonus - toughnessDelta
          keywords := keywords.foldl KeywordSet.remove c.keywords
          tempKeywordsUntilEot :=
            keywords.foldl KeywordSet.remove c.tempKeywordsUntilEot }
  | debuffCreature card removed =>
      game.undoCard card "DebuffCreature" fun c =>
        { c with keywords := removed.foldl KeywordSet.insert c.keywords }
  | setTurnEnteredBattlefield card oldValue _ =>
      game.undoCard card "SetTurnEnteredBattlefield" fun c =>
        { c with turnEnteredBattlefield := oldValue }
  | setLandsPlayedThisTurn player oldValue _ =>
      game.undoPlayer player "SetLandsPlayedThisTurn" fun p =>
        { p with landsPlayedThisTurn := oldValue }
  | setSpellsCastThisTurn player oldValue _ =>
      game.undoPlayer player "SetSpellsCastThisTurn" fun p =>
        { p with spellsCastThisTurn := oldValue }
  | setCardsDrawnThisTurn player oldValue _ =>
      game.undoPlayer player "SetCardsDrawnThisTurn" fun p =>
        { p with cardsDrawnThisTurn := oldValue }
  | changeController card oldController _ =>
      game.undoCard card "ChangeController" fun c =>
        { c with controller := oldController }
  | setAttachedTo equipment oldTarget _ =>
      match game.card? equipment with
      | some _ =>
          (game.modifyCard equipment fun c =>
            { c with attachedTo := oldTarget }, .ok ())
      | none =>
          (game, .error (notFound "Equipment" equipment.raw "SetAttachedTo"))
  | choicePoint _ _ _ => (game, .ok ())
  | revealCard card name _ oldMask =>
      (game.undoReveal card name oldMask, .ok ())
  | setRevealedToMask card oldValue _ =>
      (game.modifyCard card fun c => { c with revealedToMask := oldValue },
        .ok ())
  | setLoyaltyActivated card oldValue _ =>
      game.undoCard card "SetLoyaltyActivated" fun c =>
        { c with loyaltyActivatedThisTurn := oldValue }
  | setCommanderCastCount player oldValue _ =>
      game.undoPlayer player "SetCommanderCastCount" fun p =>
        { p with commanderCastCount := oldValue }
  | setCommanderDamage player fromPlayer oldDamage _ =>
      game.undoPlayer player "SetCommanderDamage"
        (undoCommanderDamage fromPlayer oldDamage)
  | shuffleLibrary player previousOrder rngState =>
      match game.zones.getPlayerZones player with
      | some _ =>
          { game with
            zones := game.zones.modifyPlayerZones player fun own =>
              { own with library := previousOrder }
            : GameState }.undoRng
              "Failed to deserialize ShuffleLibrary RNG state" rngState
      | none =>
          (game, .error ("Player " ++ toString player.raw ++
            " zones not found for ShuffleLibrary undo"))
  | registerDelayedTrigger id =>
      ({ game with delayedTriggers := (game.delayedTriggers.undoAdd id).2 },
        .ok ())
  | fireDelayedTrigger trigger =>
      ({ game with delayedTriggers := game.delayedTriggers.restore trigger },
        .ok ())
  | setRememberedAmount previous =>
      ({ game with rememberedAmount := previous }, .ok ())
  | declareAttacker card prevCombatActive =>
      ({ game with
        combat := game.combat.undoDeclareAttacker card prevCombatActive },
        .ok ())
  | declareBlocker blocker attackers =>
      ({ game with combat := game.combat.undoDeclareBlocker blocker attackers },
        .ok ())
  | clearCombat prev => ({ game with combat := prev }, .ok ())
  | setTempBaseStats card prevPower prevToughness =>
      (game.modifyCard card fun c =>
        { c with tempBasePower := prevPower, tempBaseToughness := prevToughness },
        .ok ())
  | animateTypeline card prevTypes prevSubtypes prevTempTypes prevTempSubtypes
      prevRemovedSubtypes granted grantedArgs =>
      (game.modifyCard card fun c =>
        { c with
          types := prevTypes
          subtypes := prevSubtypes
          tempAnimateTypes := prevTempTypes
          tempAnimateSubtypes := prevTempSubtypes
          tempRemovedSubtypes := prevRemovedSubtypes
          keywords := (granted ++ grantedArgs.map KeywordArgs.keyword).foldl
            KeywordSet.remove c.keywords
          : Card }.refreshCache, .ok ())
  | markDamagedBy target source =>
      (game.modifyCard target fun c =>
        { c with damagedByThisTurn := eraseLast c.damagedByThisTurn source },
        .ok ())
  | markDealtDamageToOpponent card prev =>
      (game.modifyCard card fun c =>
        { c with dealtDamageToOpponentThisTurn := prev }, .ok ())
  | markAttackedThisTurn card prev =>
      (game.modifyCard card fun c => { c with attackedThisTurn := prev },
        .ok ())
  | cloneCard card prev =>
      (game.modifyCard card fun c =>
        (c.restoreCopiableState prev).refreshCache, .ok ())
  | pushExtraTurn player =>
      ({ game with
        extraTurns := if game.extraTurns.getLast? = some player then
          game.extraTurns.dropLast else game.extraTurns }, .ok ())
  | setSkipUntapNextTurn player oldValue _ =>
      (game.modifyPlayer player fun p => { p with skipUntapNextTurn := oldValue },
        .ok ())
  | setCantCastSpells player oldValue =>
      (game.modifyPlayer player fun p => { p with cantCastSpells := oldValue },
        .ok ())
  | createEntity card =>
      ({ game with
        zones := { game.zones with
          battlefield := game.zones.battlefield.erase card }
        cards := game.cards.clearAndTruncate card.raw
        nextEntityId := UInt32.ofNat card.raw }, .ok ())
  | setCardCounters card prevCounters =>
      (game.modifyCard card fun c => { c with counters := prevCounters }, .ok ())
  | reorderLibrary player previousOrder previousGraveyard =>
      ({ game with
        zones := game.zones.modifyPlayerZones player fun own =>
          { own with
            library := previousOrder
            graveyard := previousGraveyard.getD own.graveyard } }, .ok ())
  | regenerateReplaceDestroy card prevShields prevDamage prevCombat =>
      ({ game.modifyCard card fun c =>
          { c with regenerationShields := prevShields, damage := prevDamage }
        with combat := prevCombat }, .ok ())
  | setSourcePreventionShields player prev =>
      (game.modifyPlayer player fun p => { p with sourcePreventionShields := prev },
        .ok ())
  | setCombatManaPool player prev =>
      (game.modifyPlayer player fun p => { p with combatManaPool := prev },
        .ok ())
  | setManaPool player prev =>
      (game.modifyPlayer player fun p => { p with manaPool := prev }, .ok ())
  | setDamage card prev =>
      (game.modifyCard card fun c => { c with damage := prev }, .ok ())
  | setXPaid card prev =>
      (game.modifyCard card fun c => { c with xPaid := prev }, .ok ())
  | setTimesKicked card prev =>
      (game.modifyCard card fun c => { c with timesKicked := prev }, .ok ())
  | setBargainPaid card prev =>
      (game.modifyCard card fun c => { c with bargainPaid := prev }, .ok ())
  | setKickerPaid card prev =>
      (game.modifyCard card fun c => { c with kickerPaid := prev }, .ok ())
  | setOffspringPaid card prev =>
      (game.modifyCard card fun c => { c with offspringPaid := prev }, .ok ())
  | setModeCostPaid card prev =>
      (game.modifyCard card fun c => { c with modeCostPaid := prev }, .ok ())
  | restoreCardState card snapshot =>
      game.undoCard card "RestoreCardState" fun c =>
        c.restoreStateSnapshot snapshot

namespace GameState

/-- A fully rewound game has no spell waiting to resolve. -/
def clearPending (game : GameState) : GameState :=
  if game.undoLog.actions.isEmpty then { game with spellTargets := [] }
  else game

/-- Undo the newest action; the caches are rebuilt at the next query.  A
failing inverse is only reported. -/
def undo (game : GameState) : Option Nat × GameState :=
  match game.undoLog.pop with
  | some ((action, priorLogSize), rest) =>
      let (undone, _) := action.undo { game with undoLog := rest }
      (some priorLogSize,
        (undone.mapCaches ManaSourceCache.markDirty).clearPending)
  | none => (none, game)

/-- One undo is the inverse of the newest action, but for what it clears. -/
theorem undo_of_pop {game : GameState} {action : GameAction} {size : Nat}
    {rest : UndoLog} (hpop : game.undoLog.pop = some ((action, size), rest)) :
    ∃ manaCaches spellTargets, game.undo = (some size,
      { (action.undo { game with undoLog := rest }).1 with
        manaCaches, spellTargets }) := by
  rw [undo, hpop]
  dsimp only
  rw [clearPending]
  split
  · exact ⟨_, [], rfl⟩
  · exact ⟨_, _, rfl⟩

/-- The cards lying in the library of a listed player. -/
def libraryCards (game : GameState) : List CardId :=
  (game.players.filterMap fun player =>
    game.zones.getPlayerZones player.id).flatMap PlayerZones.library

/-- What a rewind resets because no action logs it. -/
def resetAtTurnStart (game : GameState) : GameState :=
  let onBattlefield (card : Card) : Card :=
    { card with
      damage := 0
      powerBonus := 0
      toughnessBonus := 0
      tempBasePower := none
      tempBaseToughness := none
      damagePrevention := 0
      exileIfWouldDieThisTurn := false
      preventAllCombatDamageThisTurn := false }
  let everywhere (card : Card) : Card :=
    { card with regenerationShields := 0 : Card }.clearTempKeywordsUntilEot
  let cards := game.zones.battlefield.foldl
    (fun cards id => cards.modify id.raw onBattlefield) game.cards
  let cards := cards.modifyAll everywhere
  let reset := { game.mapCaches ManaSourceCache.clear with
    cards := cards
    manaStateVersion := game.manaStateVersion + 1
    turn := { game.turn with priorityPlayer := none, consecutivePasses := 0 }
    spellTargets := []
    pendingLibraryReorders := []
    combat := .clear
    players := game.players.map fun player =>
      { player with
        damagePrevention := 0
        sourcePreventionShields := []
        combatManaPool := none } }
  if game.isShadowGame then
    { reset with
      cards := reset.libraryCards.foldl
        (fun cards id => cards.clear id.raw) reset.cards }
  else reset

end GameState

/-- What a rewind hands back. -/
structure RewindResult where
  turnNumber : UInt32
  choices : List GameAction
  actionsRewound : Nat
  logSizeAtTurnBoundary : Nat

/-- The local variables of the rewind loop. -/
structure RewindLoop where
  log : UndoLog
  game : GameState
  choicesReversed : List GameAction := []
  turnNumber : Option UInt32 := none
  actionsRewound : Nat := 0
  logSizeAtTurnBoundary : Nat := 0

theorem UndoLog.pop_length {undoLog rest : UndoLog} {action : GameAction}
    {logSize : Nat} (hpop : undoLog.pop = some ((action, logSize), rest)) :
    rest.actions.length < undoLog.actions.length := by
  rw [UndoLog.pop] at hpop
  split at hpop
  · next last hlast =>
    cases hpop
    have hne : undoLog.actions ≠ [] := by
      rintro hnil
      simp [hnil] at hlast
    rw [List.length_dropLast]
    exact Nat.sub_lt (List.length_pos_iff.mpr hne) Nat.one_pos
  · cases hpop

/-- One popped action that is no turn change: a choice is collected, anything
else is undone.  A failing inverse is only reported. -/
def RewindLoop.rewindAction (loop : RewindLoop) (action : GameAction)
    (rest : UndoLog) : RewindLoop :=
  let popped := { loop with
    log := rest
    actionsRewound := loop.actionsRewound + 1 }
  match action with
  | .choicePoint _ _ _ =>
      { popped with choicesReversed := popped.choicesReversed ++ [action] }
  | action => { popped with game := (action.undo popped.game).1 }

theorem RewindLoop.rewindAction_log (loop : RewindLoop) (action : GameAction)
    (rest : UndoLog) : (loop.rewindAction action rest).log = rest := by
  cases action <;> rfl

/-- Pop until a turn change, which is pushed back and not counted. -/
def RewindLoop.run (loop : RewindLoop) : RewindLoop :=
  match _hpop : loop.log.pop with
  | none => loop
  | some ((action, logSize), rest) =>
      match action.turnNumber? with
      | some turnNumber =>
          { loop with
            log := rest.pushBack action logSize
            turnNumber := some turnNumber
            actionsRewound := loop.actionsRewound + 1 - 1
            logSizeAtTurnBoundary := logSize }
      | none => run (loop.rewindAction action rest)
termination_by loop.log.actions.length
decreasing_by
  rw [RewindLoop.rewindAction_log]
  exact UndoLog.pop_length _hpop

/-- `rewind_to_turn_start`; a disabled log does nothing. -/
def UndoLog.rewindToTurnStart (undoLog : UndoLog) (game : GameState) :
    Option RewindResult × UndoLog × GameState :=
  if undoLog.enabled then
    let loop := RewindLoop.run { log := undoLog, game := game }
    (some
      { turnNumber := loop.turnNumber.getD 1
        choices := loop.choicesReversed.reverse
        actionsRewound := loop.actionsRewound
        logSizeAtTurnBoundary := loop.logSizeAtTurnBoundary },
      loop.log, loop.game.resetAtTurnStart)
  else (none, undoLog, game)

/-- The game's own log, taken out for the rewind and put back after it. -/
def GameState.rewindToTurnStart (game : GameState) :
    Option RewindResult × GameState :=
  let (result, undoLog, rewound) :=
    game.undoLog.rewindToTurnStart { game with undoLog := .new }
  (result, { rewound with undoLog := undoLog })

end DeepScry
