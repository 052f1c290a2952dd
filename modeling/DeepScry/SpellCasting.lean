/-
Casting a spell with priority: six actions go through the eight-step routine,
casting from the graveyard has a routine of its own.
-/
import DeepScry.DelayedFiring
import DeepScry.ManaPayment
import DeepScry.NetworkController
import DeepScry.TotalMana
import DeepScry.WinCondition

namespace DeepScry

def MtgError.display : MtgError → String
  | entityNotFound id => "Entity not found: " ++ toString id
  | invalidAction message => "Invalid game action: " ++ message
  | needInput => "Game needs input: waiting for human player"
  | other message => message

namespace ManaCost

/-- The derived debug text. -/
def debug (cost : ManaCost) : String :=
  "ManaCost \x7b generic: " ++ toString cost.generic ++ ", white: " ++
    toString cost.white ++ ", blue: " ++ toString cost.blue ++ ", black: " ++
    toString cost.black ++ ", red: " ++ toString cost.red ++ ", green: " ++
    toString cost.green ++ ", colorless: " ++ toString cost.colorless ++
    ", x_count: " ++ toString cost.xCount ++ " \x7d"

end ManaCost

/-- What a casting calls: the choices before it, the delayed triggers of a
move, the costs other than mana, the mana engine and the tapping of a source,
which returns the cost still to be covered. -/
structure CastingMethods where
  choose : GameState → PlayerId → SpellAbility → Outcome (Option (List CardId))
  checkDelayedTriggers : GameState → CardId → Zone → Zone → Outcome Unit
  calculateEffectiveCost : GameState → CardId → PlayerId → ManaCost
  relativeTargetCost : GameState → CardId → Bool
  paySacrificeCosts : GameState → CardId → PlayerId → Outcome Unit
  updateMut : GameState → PlayerId →
    List (PlayerId × ManaSourceCache) × List ManaSource
  tapForManaAndUpdateHint : GameState → PlayerId → CardId → ManaCost →
    Outcome ManaCost
  checkSpellcastTriggers : GameState → CardId → PlayerId → Outcome Unit

/-- A spell on the stack with its cost, and the sources to tap for it. -/
structure CastPlan where
  card : CardId
  owner : PlayerId
  sourceZone : Zone
  cost : ManaCost
  sources : List CardId
  hint : ManaCost

namespace GameState

def ownerByGet (game : GameState) (id : CardId) (player : PlayerId) :
    PlayerId :=
  ((game.cards.get id.raw).map Card.owner).getD player

/-- The error of a card that is not in the zone it is cast from. -/
def sourceZoneError (game : GameState) (player : PlayerId) (id : CardId) :
    Zone → Option MtgError
  | .hand =>
      if (game.zones.getPlayerZones player).all fun zones =>
        zones.hand.contains id then none
      else some (.invalidAction "Card not in hand")
  | .exile =>
      if (game.zones.getPlayerZones player).all (fun zones =>
          zones.exile.contains id) ||
        game.ownerByGet id player != player &&
          (game.zones.getPlayerZones (game.ownerByGet id player)).all
            fun zones => zones.exile.contains id then none
      else some (.invalidAction "Card not in exile")
  | .command =>
      if (game.zones.getPlayerZones player).all fun zones =>
        zones.command.contains id then none
      else some (.invalidAction "Card not in command zone")
  | .library =>
      if (game.zones.getPlayerZones (game.ownerByGet id player)).any
        fun zones => zones.library.getLast? == some id then none
      else some (.invalidAction "Card is not the top of library")
  | .battlefield =>
      some (.invalidAction "Cannot cast spell from Battlefield")
  | .graveyard => some (.invalidAction "Cannot cast spell from Graveyard")
  | .stack => some (.invalidAction "Cannot cast spell from Stack")

/-- Snapshot the pools for undo before a payment. -/
def logPools (game : GameState) (player : PlayerId) : GameState :=
  match game.getPlayer player with
  | none => game
  | some p =>
      let combat := if p.combatManaPool.isSome then
          game.logAction (.setCombatManaPool player p.combatManaPool)
            game.logger.logCount
        else game
      combat.logAction (.setManaPool player p.manaPool)
        combat.logger.logCount

/-- Errors of `untap_permanent` are dropped. -/
def untapQuietly (game : GameState) (id : CardId) : GameState :=
  ((game.untapPermanent id).map Prod.fst).getD game

end GameState

namespace CastingMethods

variable (methods : CastingMethods)

/-- `move_card`. -/
def moveCard (game : GameState) (id : CardId) (fromZone toZone : Zone)
    (owner : PlayerId) : Outcome Unit :=
  match game.moveUntilTriggers id fromZone toZone owner with
  | (moved, true) => methods.checkDelayedTriggers moved id fromZone
      (game.moveDestination id toZone)
  | (unmoved, false) => .ok unmoved ()

/-- The alternative cost or the effective one, with one more for each target
beyond the first where the spell says so. -/
def totalCost (game : GameState) (player : PlayerId) (card : CardId)
    (numTargets : Nat) (overrideCost : Option ManaCost) : ManaCost :=
  let cost := overrideCost.getD
    (methods.calculateEffectiveCost game card player)
  if methods.relativeTargetCost game card && decide (1 < numTargets) then
    { cost with
      generic := Saturating.add8 cost.generic
        (UInt8.ofNat (min (numTargets - 1) 255)) }
  else cost

/-- Move the spell back from the stack, with an error. -/
def putBack {α : Type} (game : GameState) (card : CardId) (sourceZone : Zone)
    (owner : PlayerId) (e : MtgError) : Outcome α :=
  (methods.moveCard game card .stack sourceZone owner).andThen
    fun game _ => .error game e

/-- Put the spell on the stack, pay the costs other than mana and find sources
for what the pools do not cover. -/
def propose (player : PlayerId) (card : CardId) (numTargets : Nat)
    (sourceZone : Zone) (overrideCost : Option ManaCost)
    (sources : List ManaSource) (game : GameState) : Outcome CastPlan :=
  match game.sourceZoneError player card sourceZone with
  | some e => .error game e
  | none =>
      let owner := game.ownerByGet card player
      (methods.moveCard game card sourceZone .stack owner).andThen
        fun moved _ =>
          let cost := methods.totalCost moved player card numTargets
            overrideCost
          match methods.paySacrificeCosts moved card player with
          | none => none
          | some (game, .error e) =>
              methods.putBack game card sourceZone owner e
          | some (game, .ok _) =>
              match game.getPlayer player with
              | none => .error game (.entityNotFound player.raw)
              | some p =>
                  let hint := cost.afterPool p.totalAvailableMana
                  if hint.cmc = 0 then
                    .ok game ⟨card, owner, sourceZone, cost, [], hint⟩
                  else
                    match GreedyManaResolver.computeTapOrder hint sources with
                    | some order =>
                        .ok game ⟨card, owner, sourceZone, cost, order, hint⟩
                    | none =>
                        methods.putBack game card sourceZone owner
                          (.invalidAction ("Failed to pay mana cost " ++
                            cost.debug ++ ": Insufficient mana"))

/-- Tap one source after the other, up to the first error; says which were
tapped. -/
def tapSources (player : PlayerId) :
    List CardId → ManaCost → GameState →
      Option (GameState × List CardId × Option MtgError)
  | [], _, game => some (game, [], none)
  | source :: rest, hint, game =>
      match methods.tapForManaAndUpdateHint game player source hint with
      | none => none
      | some (game, .error e) => some (game, [], some e)
      | some (game, .ok hint) =>
          (tapSources player rest hint game).map fun (game, tapped, e) =>
            (game, source :: tapped, e)

/-- The spell goes back, the sources are untapped and the regular pool is
cleared. -/
def unwind (player : PlayerId) (plan : CastPlan) (tapped : List CardId)
    (e : MtgError) (game : GameState) : Outcome Unit :=
  (methods.moveCard game plan.card .stack plan.sourceZone
    plan.owner).andThen fun game _ =>
      let untapped := tapped.foldl GameState.untapQuietly game
      match untapped.getPlayer player with
      | none => .error untapped (.entityNotFound player.raw)
      | some _ =>
          .error (untapped.modifyPlayer player fun p =>
            { p with manaPool := {} }) e

/-- Pay from the two pools; then the spell is cast. -/
def pay (player : PlayerId) (plan : CastPlan) (tapped : List CardId)
    (game : GameState) : Outcome Unit :=
  let logged := game.logPools player
  match logged.getPlayer player with
  | none => .error logged (.entityNotFound player.raw)
  | some p =>
      match p.payFromTotalMana plan.cost with
      | .ok paid =>
          methods.checkSpellcastTriggers
            (logged.modifyPlayer player fun _ => paid) plan.card player
      | .error message =>
          methods.unwind player plan tapped
            (.invalidAction ("Failed to pay mana cost: " ++ message)) logged

/-- Tap the sources of a proposed spell and pay for it. -/
def payFor (player : PlayerId) (plan : CastPlan) (game : GameState) :
    Outcome Unit :=
  match methods.tapSources player plan.sources plan.hint game with
  | none => none
  | some (game, tapped, some e) =>
      methods.unwind player plan tapped
        (.invalidAction ("Failed to tap mana source: " ++ e.display)) game
  | some (game, tapped, none) => methods.pay player plan tapped game

def castSpell8StepFrom (player : PlayerId) (card : CardId) (numTargets : Nat)
    (sourceZone : Zone) (overrideCost : Option ManaCost)
    (sources : List ManaSource) (game : GameState) : Outcome Unit :=
  (methods.propose player card numTargets sourceZone overrideCost sources
    game).andThen fun proposed plan => methods.payFor player plan proposed

/-- The same, but a source that fails is passed over. -/
def tapIgnoringErrors (player : PlayerId) :
    List CardId → ManaCost → GameState → Option GameState
  | [], _, game => some game
  | source :: rest, hint, game =>
      match methods.tapForManaAndUpdateHint game player source hint with
      | none => none
      | some (game, .error _) => tapIgnoringErrors player rest hint game
      | some (game, .ok hint) => tapIgnoringErrors player rest hint game

end CastingMethods

/-- The card, its zone and the alternative cost of an action that casts in
eight steps. -/
def SpellAbility.castRequest? :
    SpellAbility → Option (CardId × Zone × Option ManaCost)
  | castSpell card => some (card, .hand, none)
  | castAdventure card => some (card, .hand, none)
  | castFromExile card alternativeCost _ =>
      some (card, .exile, some alternativeCost)
  | castFromCommand card totalCost => some (card, .command, some totalCost)
  | castFromHandWithAltCost card alternativeCost =>
      some (card, .hand, some alternativeCost)
  | castFromLibrary card => some (card, .library, none)
  | _ => none

/-- The spell of a casting action. -/
def SpellAbility.spell? : SpellAbility → Option CardId
  | castFromGraveyard card _ _ => some card
  | ability => ability.castRequest?.map fun request => request.1

namespace GameState

def costByGet (game : GameState) (id : CardId) : ManaCost :=
  ((game.cards.get id.raw).map fun card => card.manaCost).getD {}

/-- Choosing an ability starts the count of passes again. -/
def resetPasses (game : GameState) : GameState :=
  { game with turn := { game.turn with consecutivePasses := 0 } }

/-- A failed casting counts as passing priority. -/
def passAfterError (game : GameState) (player : PlayerId) : GameState :=
  let active := game.turn.activePlayer
  let next := if player = active then game.getOtherPlayerId active
    else some active
  { game with
    turn := { game.turn with
      consecutivePasses := game.turn.consecutivePasses + 1
      priorityPlayer := next } }

/-- What the loop does with a spell that is on the stack: store its targets,
and take away the permission or count the cast. -/
def recordCast (game : GameState) (player : PlayerId) (targets : List CardId) :
    SpellAbility → GameState
  | .castSpell card | .castAdventure card =>
      { game with spellTargets := game.spellTargets ++ [(card, targets)] }
  | .castFromExile card _ effect =>
      { game with
        spellTargets := if targets.isEmpty then game.spellTargets
          else game.spellTargets ++ [(card, targets)]
        persistentEffects := game.persistentEffects.remove effect }
  | .castFromCommand card _ =>
      let stored := { game with
        spellTargets := if targets.isEmpty then game.spellTargets
          else game.spellTargets ++ [(card, targets)] }
      match game.getPlayer player with
      | some p =>
          (stored.modifyPlayer player fun q =>
            { q with commanderCastCount := q.commanderCastCount + 1 }).logAction
              (.setCommanderCastCount player p.commanderCastCount
                (p.commanderCastCount + 1)) game.logger.logCount
      | none => stored
  | _ => game

end GameState

namespace CastingMethods

variable (methods : CastingMethods)

/-- The choices before the casting; two actions make none. -/
def choices (player : PlayerId) (ability : SpellAbility) (game : GameState) :
    Outcome (Option (List CardId)) :=
  match ability with
  | .castFromHandWithAltCost _ _ | .castFromLibrary _ => .ok game (some [])
  | ability => methods.choose game player ability

/-- The mana engine reads the state and writes its caches. -/
def withEngine (game : GameState) (player : PlayerId) : GameState :=
  { game with manaCaches := (methods.updateMut game player).1 }

def engineSources (game : GameState) (player : PlayerId) : List ManaSource :=
  (methods.updateMut game player).2

/-- An action that casts in eight steps. -/
def castByRequest (player : PlayerId) (ability : SpellAbility)
    (request : CardId × Zone × Option ManaCost) (game : GameState) :
    Outcome Unit :=
  (methods.choices player ability game).andThen fun chosen targets? =>
    match targets? with
    | none => .ok chosen ()
    | some targets =>
        match methods.castSpell8StepFrom player request.1 targets.length
          request.2.1 request.2.2 (methods.engineSources chosen player)
          (methods.withEngine chosen player) with
        | none => none
        | some (game, .error _) => .ok (game.passAfterError player) ()
        | some (game, .ok _) =>
            .ok (game.recordCast player targets ability) ()

/-- Casting from the graveyard: the card moves and sources are tapped. -/
def castFromGraveyard (player : PlayerId) (card : CardId)
    (addFinalityCounter : Bool) (game : GameState) : Outcome Unit :=
  match methods.moveCard game card .graveyard .stack
    (game.ownerByGet card player) with
  | none => none
  | some (game, .error _) => .ok (game.passAfterError player) ()
  | some (moved, .ok _) =>
      let cost := moved.costByGet card
      let order := (GreedyManaResolver.computeTapOrder cost
        (methods.engineSources moved player)).getD []
      (methods.tapIgnoringErrors player order cost
        (methods.withEngine moved player)).map fun tapped =>
          (if addFinalityCounter then
            tapped.modifyCard card fun c => c.addCounter .finality 1
          else tapped, .ok ())

/-- A casting action of the player with priority. -/
def execute (player : PlayerId) (ability : SpellAbility) (game : GameState) :
    Outcome Unit :=
  match ability with
  | .castFromGraveyard card _ addFinalityCounter =>
      methods.castFromGraveyard player card addFinalityCounter
        game.resetPasses
  | ability =>
      match ability.castRequest? with
      | some request =>
          methods.castByRequest player ability request game.resetPasses
      | none => .ok game ()

end CastingMethods

end DeepScry
