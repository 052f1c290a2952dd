/-
The two phases of a resolving spell: its effects, which one resolver executes
one after the other and another collects first, and what becomes of the card.
-/
import DeepScry.EffectTargets
import DeepScry.SpellResolution

namespace DeepScry

/-- The characteristics of a target before any effect of the spell. -/
structure TargetSnapshot where
  power : Int32
  manaValue : Int32
  drainCap : Int32

/-- The parts of the engine that a resolving spell hands over to.
`delayedEffect` is an effect of the spell as a delayed trigger keeps it. -/
structure SpellMethods extends ResolutionQueries where
  executeEffect : GameState → SpellEffect → Outcome Unit
  checkTriggersWithDamage : GameState → CardId → Int32 → Outcome Unit
  checkDelayedTriggers : GameState → CardId → Zone → Zone → Outcome Unit
  delayedEffect : SpellEffect → Effect
  attachAura : GameState → CardId → CardId → Outcome Unit
  reanimateAuraTarget : GameState → CardId → CardId → PlayerId → Outcome Unit
  applyEtbCounters : GameState → CardId → Outcome Unit
  advanceSagaLoreCounter : GameState → CardId → Outcome Unit
  checkEntersTriggers : GameState → CardId → Outcome Unit
  createOffspringTokenIfPaid : GameState → CardId → Outcome Unit

namespace SpellEffect

/-- `ChooseColor` names the spell as its source. -/
def resolveChooseColorSource (card : CardId) : SpellEffect → SpellEffect
  | onPlayer (.chooseColor source) player =>
      onPlayer (.chooseColor (if source.isPlaceholder then card else source))
        player
  | effect => effect

/-- The marker for the card itself becomes the spell. -/
def resolveSelfTarget (card : CardId) : SpellEffect → SpellEffect
  | destroyAll true noRegenerate none tag =>
      destroyAll true noRegenerate (some card) tag
  | onTarget (.destroyPermanent noRegenerate tag) target =>
      onTarget (.destroyPermanent noRegenerate tag)
        (if target.isSelfTarget then card else target)
  | selfExileFromStack source rememberChanged =>
      selfExileFromStack (if source.isSelfTarget then card else source)
        rememberChanged
  | onTarget (.putCounter counterType amount) target =>
      onTarget (.putCounter counterType amount)
        (if target.isSelfTarget then card else target)
  | onTarget (.removeCounter counterType amount) target =>
      onTarget (.removeCounter counterType amount)
        (if target.isSelfTarget then card else target)
  | moveSelfBetweenZones source origin destination =>
      moveSelfBetweenZones (if source.isSelfTarget then card else source)
        origin destination
  | conditionalSelfCounter source inner tag =>
      conditionalSelfCounter (if source.isSelfTarget then card else source)
        (resolveSelfTarget card inner) tag
  | effect => effect

/-- Control that lasts as long as its source remembers the spell. -/
def resolveGainControlSource (card : CardId) : SpellEffect → SpellEffect
  | gainControl target newController untap none tag =>
      gainControl target newController untap (some card) tag
  | effect => effect

/-- A life gain read off a target is locked to what the target was. -/
def resolveGainLifeSnapshot (snapshots : CardId → Option TargetSnapshot) :
    SpellEffect → SpellEffect
  | gainLifeDynamic player amount reference =>
      gainLifeDynamic player
        (match amount, snapshots reference with
        | .targetPower, some snapshot => .fixed (max snapshot.power 0)
        | .targetManaValue, some snapshot => .fixed snapshot.manaValue
        | .damageDealtCappedByTarget _, some snapshot =>
            .damageDealtCappedByTarget (some (max snapshot.drainCap 0))
        | amount, _ => amount) reference
  | effect => effect

/-- Effects that may be for all players at once. -/
def expands : PlayerEffect → Bool
  | .drawCards _ | .drawCardsXPaid | .discardCards _ _ _ _
  | .discardCardsXPaid _ | .gainLife _ | .loseLife _ | .forceSacrifice _ _
  | .setLife _ | .mill _ => true
  | _ => false

/-- `expand_all_players_effect`. -/
def expandAllPlayers (players : List PlayerId) :
    SpellEffect → List SpellEffect
  | onPlayer effect player =>
      if expands effect && player.isAllPlayers then
        players.map (onPlayer effect)
      else [onPlayer effect player]
  | effect => [effect]

/-- Everything that is filled in after the targets. -/
def complete (card : CardId) (snapshots : CardId → Option TargetSnapshot)
    (effect : SpellEffect) : SpellEffect :=
  (((effect.resolveChooseColorSource card).resolveSelfTarget
    card).resolveGainControlSource card).resolveGainLifeSnapshot snapshots

end SpellEffect

namespace GameState

def playerIds (game : GameState) : List PlayerId :=
  game.players.map Player.id

/-- The context in which the effects of a spell are resolved. -/
def spellContext (game : GameState) (card : CardId) (owner : PlayerId)
    (chosenTargets : List CardId) : SpellContext where
  chosenTargets := chosenTargets
  cardOwner := owner
  opponentId := game.playerIds.find? fun player => player != owner
  sourceCardId := some card

/-- Neither on the battlefield nor on the stack, and no player. -/
def isGone (game : GameState) (target : CardId) : Bool :=
  !game.zones.battlefield.contains target &&
    !game.zones.stack.contains target && target.playerTarget?.isNone

/-- The test under which a spell fizzles. -/
def allTargetsIllegal (game : GameState) (chosenTargets : List CardId) :
    Bool :=
  !chosenTargets.isEmpty && chosenTargets.any game.isGone

end GameState

namespace SpellMethods

variable (methods : SpellMethods)

/-- `snapshot_target_amounts`, for one target. -/
def snapshotOf (game : GameState) (target : CardId) : Option TargetSnapshot :=
  match target.playerTarget? with
  | some player => (game.getPlayer player).map fun p => ⟨0, 0, p.life⟩
  | none => (game.card? target).map fun card =>
      { power := (methods.getEffectivePower game target).getD
          card.currentPower.toInt32
        manaValue := Int32.ofNat card.manaCost.cmc.toNat
        drainCap :=
          if card.isPlaneswalker then
            Int32.ofNat (card.getCounter .loyalty).toNat
          else (methods.getEffectiveToughness game target).getD
            card.currentToughness.toInt32 }

def snapshotTargetAmounts (game : GameState) (chosenTargets : List CardId)
    (target : CardId) : Option TargetSnapshot :=
  if chosenTargets.contains target then methods.snapshotOf game target
  else none

/-- `move_card`. -/
def moveCard (game : GameState) (id : CardId) (fromZone toZone : Zone)
    (owner : PlayerId) : Outcome Unit :=
  match game.moveUntilTriggers id fromZone toZone owner with
  | (moved, true) => methods.checkDelayedTriggers moved id fromZone
      (game.moveDestination id toZone)
  | (unmoved, false) => .ok unmoved ()

/-- Execute effects up to the first error. -/
def runEffects : List SpellEffect → GameState → Outcome Unit
  | [], game => .ok game ()
  | effect :: rest, game =>
      (methods.executeEffect game effect).andThen fun game _ =>
        runEffects rest game

/-- Effects of which the spell is the source of damage; it is forgotten
afterwards, also after an error. -/
def runAsSource (card : CardId) (effects : List SpellEffect)
    (game : GameState) : Outcome Unit :=
  (methods.runEffects effects
    { game with currentDamageSource := some card }).map
      fun (game, result) => ({ game with currentDamageSource := none }, result)

/-- One effect as it is executed: for every player it is for. -/
def resolveOne (game : GameState) (card : CardId) (context : SpellContext)
    (snapshots : CardId → Option TargetSnapshot) (effect : SpellEffect)
    (cursor : TargetCursor) : List SpellEffect × TargetCursor :=
  let resolved := methods.resolveEffectTarget game context effect cursor
  ((resolved.1.complete card snapshots).expandAllPlayers game.playerIds,
    resolved.2)

/-- Resolve and execute the effects from an index on; the card is read again
for each. -/
def executeFrom (card : CardId) (context : SpellContext)
    (snapshots : CardId → Option TargetSnapshot) (xPaid : UInt8) :
    Nat → Nat → TargetCursor → GameState → Outcome Unit
  | _, 0, _, game => .ok game ()
  | index, count + 1, cursor, game =>
      match game.cards.get card.raw with
      | none => .error game (.entityNotFound card.raw)
      | some c =>
          match c.effects[index]? with
          | none => executeFrom card context snapshots xPaid (index + 1) count
              cursor game
          | some effect =>
              let (resolved, cursor) := methods.resolveOne game card context
                snapshots (effect.resolveXPaid xPaid) cursor
              (methods.runAsSource card resolved game).andThen fun game _ =>
                executeFrom card context snapshots xPaid (index + 1) count
                  cursor game

/-- The damage of the whole resolution triggers once. -/
def fireDamageTriggers (card : CardId) (game : GameState) : Outcome Unit :=
  let dealt := game.damageDealtBySource.getD 0
  let taken := { game with damageDealtBySource := none }
  if 0 < dealt then methods.checkTriggersWithDamage taken card dealt
  else .ok taken ()

/-- All effects of the spell, and the trigger for the damage they dealt. -/
def executeAll (game : GameState) (card : CardId) (c : Card)
    (chosenTargets : List CardId) : Outcome Unit :=
  let started := { game with damageDealtBySource := some 0 }
  (methods.executeFrom card (game.spellContext card c.owner chosenTargets)
    (methods.snapshotTargetAmounts game chosenTargets) c.xPaid 0
    c.effects.length {} started).andThen fun game _ =>
      (methods.fireDamageTriggers card game).andThen fun game _ =>
        .ok { game with currentSpellController := none } ()

def resolveSpellExecuteEffects (game : GameState) (card : CardId)
    (chosenTargets : List CardId) : Outcome Unit :=
  match game.cards.get card.raw with
  | none => .error game (.entityNotFound card.raw)
  | some c =>
      let started := { game with currentSpellController := some c.owner }
      if started.allTargetsIllegal chosenTargets then
        .ok { started with currentSpellController := none } ()
      else methods.executeAll started card c chosenTargets

/-- The effects in order, all resolved before any is executed. -/
def collectFrom (game : GameState) (card : CardId) (context : SpellContext)
    (snapshots : CardId → Option TargetSnapshot) :
    List SpellEffect → TargetCursor → List SpellEffect
  | [], _ => []
  | effect :: rest, cursor =>
      let (resolved, cursor) := methods.resolveOne game card context snapshots
        effect cursor
      resolved ++ collectFrom game card context snapshots rest cursor

/-- `none` among the results when the spell fizzles. -/
def resolveSpellCollectEffects (game : GameState) (card : CardId)
    (chosenTargets : List CardId) :
    Except MtgError (Option (List SpellEffect)) :=
  match game.cards.get card.raw with
  | none => .error (.entityNotFound card.raw)
  | some c =>
      if game.allTargetsIllegal chosenTargets then .ok none
      else .ok (some (methods.collectFrom game card
        (game.spellContext card c.owner chosenTargets)
        (methods.snapshotTargetAmounts game chosenTargets) c.effects {}))

/-- The creature definition kept on the Adventure face, else the printed
one. -/
def creatureDef (game : GameState) (c : Card) : Option CardDefinition :=
  c.definition.adventure.or (game.cardDefinitions c.printedName)

/-- The card with its creature face up again. -/
def creatureFace (game : GameState) (c : Card) : Card :=
  { c.resetTransientState (creatureDef game c) with castAsAdventure := false }

/-- The owner may cast the exiled creature for its mana cost. -/
def addAdventurePermission (game : GameState) (card : CardId)
    (owner : PlayerId) (creatureCost : ManaCost) : GameState :=
  { game with
    persistentEffects :=
      { effects := game.persistentEffects.effects ++
          [{ id := ⟨game.persistentEffects.nextId⟩
             sourceCard := card
             controller := owner
             kind := .mayPlayFromExile card creatureCost owner
             cleanupCondition := .trackedCardLeavesZone card .exile }]
        nextId := game.persistentEffects.nextId + 1 } }

/-- An Adventure is exiled with its creature face up, and may be cast from
there. -/
def finalizeAdventureSpell (game : GameState) (card : CardId) :
    Outcome Unit :=
  match game.cards.get card.raw with
  | none => .error game (.entityNotFound card.raw)
  | some c =>
      let restored := game.modifyCard card (creatureFace game)
      (methods.moveCard (restored.forgetTargets card) card .stack .exile
        c.owner).andThen fun moved _ =>
          .ok (addAdventurePermission moved card c.owner
            (creatureFace game c).manaCost).message ()

/-- The trigger that repeats the first effect of an Epic spell. -/
def epicTrigger (card : CardId) (owner : PlayerId) (effect : SpellEffect) :
    DelayedTrigger where
  id := ⟨0⟩
  trackedCard := card
  sourceCard := card
  controller := owner
  triggerCondition := .phase [.upkeep] .you
  effect := .executeEffect (methods.delayedEffect effect)
  repeating := true

/-- An Epic spell is exiled, its owner casts no more spells, and its effect
comes back every upkeep. -/
def finalizeEpicSpell (game : GameState) (card : CardId) (c : Card) :
    Outcome Unit :=
  let oldValue := ((game.getPlayer c.owner).map Player.cantCastSpells).getD
    false
  let barred := (game.modifyPlayer c.owner fun p =>
    { p with cantCastSpells := true }).logAction
      (.setCantCastSpells c.owner oldValue) game.logger.logCount
  let registered := match c.effects with
    | [] => barred
    | effect :: _ =>
        { barred with
          delayedTriggers := (barred.delayedTriggers.add
            (methods.epicTrigger card c.owner effect)).2 }
  if registered.zones.stack.contains card then
    methods.moveCard registered card .stack .exile c.owner
  else .ok registered ()

/-- The turn in which a permanent entered, for summoning sickness. -/
def recordEntry (game : GameState) (card : CardId) : GameState :=
  match game.cards.get card.raw with
  | some c =>
      (game.modifyCard card fun c =>
        { c with turnEnteredBattlefield := some game.turn.turnNumber }).logAction
          (.setTurnEnteredBattlefield card c.turnEnteredBattlefield
            (some game.turn.turnNumber)) game.logger.logCount
  | none => game

/-- An Aura goes to its target; one in a graveyard comes back first, and
without one the Aura goes to the graveyard. -/
def settleAura (game : GameState) (card : CardId) (owner : PlayerId)
    (chosenTargets : List CardId) : Outcome Unit :=
  match chosenTargets with
  | [] => .ok game ()
  | target :: _ =>
      if ((game.cards.get card.raw).map Card.isAura).getD false then
        if game.zones.battlefield.contains target then
          methods.attachAura game card target
        else if game.findCardZone target = some .graveyard then
          methods.reanimateAuraTarget game card target owner
        else methods.moveCard game card .battlefield .graveyard owner
      else .ok game ()

/-- A permanent spell that has entered the battlefield. -/
def enterBattlefield (game : GameState) (card : CardId) (owner : PlayerId)
    (chosenTargets : List CardId) : Outcome Unit :=
  (methods.settleAura (recordEntry game card) card owner
    chosenTargets).andThen fun game _ =>
      (methods.applyEtbCounters game card).andThen fun game _ =>
        (methods.advanceSagaLoreCounter game card).andThen fun game _ =>
          (methods.checkEntersTriggers game card).andThen fun game _ =>
            methods.createOffspringTokenIfPaid game card

/-- Where a spell goes by its types. -/
def defaultDestination (c : Card) : Zone :=
  if c.types.contains .instant || c.types.contains .sorcery then .graveyard
  else .battlefield

def resolveSpellFinalize (game : GameState) (card : CardId)
    (chosenTargets : List CardId) : Outcome Unit :=
  match game.cards.get card.raw with
  | none => .error game (.entityNotFound card.raw)
  | some c =>
      let onStack := game.zones.stack.contains card
      if c.castAsAdventure && onStack then
        methods.finalizeAdventureSpell game card
      else if c.hasKeyword .epic then methods.finalizeEpicSpell game card c
      else if !onStack then .ok game ()
      else if defaultDestination c = .graveyard then
        if c.isToken then
          -- A copy ceases to exist.
          methods.moveCard (game.forgetTargets card) card .stack .exile
            c.owner
        else
          methods.moveCard game card .stack
            (if c.exileIfWouldGoToGraveyardThisTurn then .exile
            else .graveyard) c.owner
      else
        (methods.moveCard game card .stack .battlefield c.owner).andThen
          fun moved _ =>
            methods.enterBattlefield moved card c.owner chosenTargets

def resolveSpell (game : GameState) (card : CardId)
    (chosenTargets : List CardId) : Outcome Unit :=
  (methods.resolveSpellExecuteEffects game card chosenTargets).andThen
    fun game _ => methods.resolveSpellFinalize game card chosenTargets

end SpellMethods

end DeepScry
