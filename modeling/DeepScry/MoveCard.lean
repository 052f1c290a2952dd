/-
Moving a card between zones, up to the delayed triggers: the commander
replacement, the reveals, the zone change with the replacements of a card that
enters the battlefield, and the clean-up after a card that leaves it.
-/
import DeepScry.Undo

namespace DeepScry

/-- `min(max(life - 1, 0), 7)`: what a card may take as it enters. -/
def lifePayment (life : Int32) : Int32 :=
  let payable := if life - 1 ≤ 0 then 0 else life - 1
  if payable ≤ 7 then payable else 7

/-- The designated mode if it is on offer, else the first one. -/
def chosenModeOf (aiLogic : Option String) (choices : List String) : String :=
  match aiLogic.filter fun mode => choices.any fun c => eqIgnoreAsciiCase c mode with
  | some mode => mode
  | none => choices.head?.getD "unknown"

namespace GameState

/-- Whether the command zone takes the place of the destination. -/
def commanderReplaces (game : GameState) (id : CardId) (toZone : Zone) :
    Bool :=
  game.isCommanderGame && (toZone == .graveyard || toZone == .exile) &&
    (game.card? id).any fun card => card.isCommander

/-- Where the card will really go. -/
def moveDestination (game : GameState) (id : CardId) (toZone : Zone) : Zone :=
  if game.commanderReplaces id toZone then .command else toZone

/-- Reveal an existing card if its mask does not show it yet; a card without
an instance is only logged. -/
def maybeReveal (game : GameState) (id : CardId) (target : RevealTarget)
    (shown : Card → Bool) (mark : Card → Card) (priorLogSize : Nat) :
    GameState :=
  if game.skipReveals then game
  else
    match game.card? id with
    | some card =>
        if shown card then game
        else
          (game.modifyCard id mark).logAction
            (.revealCard id (some card.name) target card.revealedToMask)
            priorLogSize
    | none => game.logAction (.revealCard id none target 0) priorLogSize

def maybeRevealToPlayer (game : GameState) (id : CardId) (player : PlayerId)
    (priorLogSize : Nat) : GameState :=
  game.maybeReveal id (.player player) (fun card => card.isRevealedTo player)
    (fun card => card.markRevealedTo player) priorLogSize

def maybeRevealToAll (game : GameState) (id : CardId) (priorLogSize : Nat) :
    GameState :=
  game.maybeReveal id .all Card.isRevealedToAll Card.markRevealedToAll
    priorLogSize

/-- A card that enters a library is hidden again; a shadow logs the same for a
card it has no instance of. -/
def maybeConcealInLibrary (game : GameState) (id : CardId)
    (priorLogSize : Nat) : GameState :=
  if game.skipReveals then game
  else
    match game.card? id with
    | some card =>
        if card.revealedToMask != 0 then
          (game.modifyCard id Card.clearRevealedToAll).logAction
            (.setRevealedToMask id card.revealedToMask 0) priorLogSize
        else game
    | none =>
        if game.isShadowGame then
          game.logAction (.setRevealedToMask id 0 0) priorLogSize
        else game

/-- The reveals of a move from a hidden zone, and the concealing of a move into
a library. -/
def revealForMove (game : GameState) (id : CardId) (fromZone toZone : Zone)
    (owner : PlayerId) : GameState :=
  match fromZone, toZone with
  | .library, .hand => game.maybeRevealToPlayer id owner game.logger.logCount
  | _, .library => game.maybeConcealInLibrary id game.logger.logCount
  | .library, _ => game.maybeRevealToAll id game.logger.logCount
  | .hand, .hand => game
  | .hand, _ => game.maybeRevealToAll id game.logger.logCount
  | _, _ => game

/-- The equipment on the battlefield that is attached to a card. -/
def attachedEquipment (game : GameState) (id : CardId) : List CardId :=
  game.zones.battlefield.filter fun equip =>
    (game.card? equip).any fun card =>
      card.isEquipment && card.attachedTo == some id

/-- Taking one piece of equipment off; no action is logged. -/
def detach (game : GameState) (equip : CardId) : GameState :=
  (game.modifyCard equip fun c => { c with attachedTo := none }).message

/-- Equipment stays behind when its creature leaves the battlefield. -/
def detachEquipment (game : GameState) (id : CardId) (fromZone : Zone) :
    GameState :=
  if fromZone = .battlefield && (game.card? id).any Card.isCreature then
    (game.attachedEquipment id).foldl detach game
  else game

/-- Out of the one zone, into the other at its end. -/
def changeZone (game : GameState) (id : CardId) (fromZone toZone : Zone)
    (owner : PlayerId) : GameState :=
  { game with zones := game.zones.afterMove id fromZone toZone owner }

/-- One replacement of an entering card: if the card has it, write to the
card, report it and log what undoes the write. -/
def replaceAsEnters (game : GameState) (id : CardId) (has reports : Card → Bool)
    (write : Card → Card → Card) (action : Card → GameAction) : GameState :=
  match game.card? id with
  | some card =>
      if has card then
        let written := game.modifyCard id (write card)
        (if reports card then written.message else written).logAction
          (action card) game.logger.logCount
      else game
  | none => game

def entersTapped (game : GameState) (id : CardId) : GameState :=
  game.replaceAsEnters id (fun card => card.definition.cache.entersTapped)
    (fun _ => true) (fun _ => Card.tap) fun _ => .tapCard id true

/-- Whether a permanent makes a card like the entering one come in tapped. -/
def tapsEntering (game : GameState) (entering : Card) (source : CardId) :
    Bool :=
  (game.card? source).any fun card =>
    card.definition.etbTappedGlobal.any fun restriction =>
      restriction.matchesWithController entering card.controller
        entering.controller

/-- Whether another permanent makes the entering card come in tapped. -/
def entersTappedByOther (game : GameState) (id : CardId) : Bool :=
  (game.card? id).any fun entering =>
    !entering.tapped && game.zones.battlefield.any fun source =>
      source != id && game.tapsEntering entering source

/-- The tap by another permanent writes no action. -/
def tapForGlobal (game : GameState) (id : CardId) : GameState :=
  if game.entersTappedByOther id then
    (game.modifyCard id Card.tap).message
  else game

/-- Symbols of each colour in the costs of the player's cards. -/
def colorCount (game : GameState) (player : PlayerId) (color : Color) : Nat :=
  match game.zones.getPlayerZones player with
  | some own =>
      ((own.hand ++ own.library ++ own.graveyard).map fun id =>
        match game.card? id with
        | some card => (card.manaCost.amountOf color).toNat
        | none => 0).sum
  | none => 0

/-- The first of the most frequent colours that are not excluded; with none in
the costs, the first colour that is not excluded. -/
def pickProminentColor (game : GameState) (player : PlayerId)
    (exclude : List Color) : Color :=
  let counted := [Color.white, .blue, .black, .red, .green].filter fun color =>
    0 < game.colorCount player color && !exclude.contains color
  match counted with
  | first :: rest =>
      rest.foldl (fun best color =>
        if game.colorCount player best < game.colorCount player color then color
        else best) first
  | [] =>
      ([Color.white, .blue, .black, .red, .green].find? fun color =>
        !exclude.contains color).getD .white

def handSize (game : GameState) (player : PlayerId) : Nat :=
  ((game.zones.getPlayerZones player).map fun own => own.hand.length).getD 0

/-- The opponent with the most cards in hand; a tie goes to the lower id, and
between entries of one id to the later one. -/
def pickChosenOpponent (game : GameState) (chooser : PlayerId) :
    Option PlayerId :=
  (game.players.map Player.id).foldl
    (fun best player =>
      if player == chooser then best
      else
        match best with
        | none => some player
        | some previous =>
            if game.handSize player < game.handSize previous ||
                (game.handSize player == game.handSize previous &&
                  previous.raw < player.raw) then best
            else some player) none

/-- The card of an opponent with the most activated abilities that are no mana
abilities, the first of them. -/
def mostActivatedName (game : GameState) (controller : PlayerId) :
    Option String :=
  (game.zones.battlefield.foldl
    (fun best id =>
      match game.card? id with
      | some card =>
          if card.controller == controller then best
          else
            let count := (card.activatedAbilities.filter fun ability =>
              !ability.isManaAbility).length
            if best.2 < count then (some card.name, count) else best
      | none => best) ((none : Option String), 0)).1

def chooseColorAsEnters (game : GameState) (id : CardId) (owner : PlayerId) :
    GameState :=
  game.replaceAsEnters id (fun card => card.definition.cache.etbChooseColor)
    (fun _ => true)
    (fun card c =>
      { c with
        chosenColor := some (game.pickProminentColor owner
          card.definition.cache.etbExcludeColors) })
    fun card => .setChosenColor id card.chosenColor

def choosePlayerAsEnters (game : GameState) (id : CardId) : GameState :=
  game.replaceAsEnters id (fun card => card.definition.cache.etbChoosePlayer)
    (fun card => (game.pickChosenOpponent card.controller).isSome)
    (fun card c =>
      { c with chosenPlayer := game.pickChosenOpponent card.controller })
    fun card => .setChosenPlayer id card.chosenPlayer

def chooseModeAsEnters (game : GameState) (id : CardId) : GameState :=
  game.replaceAsEnters id (fun card => card.definition.cache.etbChooseMode)
    (fun _ => true)
    (fun card c =>
      { c with
        chosenMode := some (chosenModeOf
          card.definition.cache.etbModeAiLogic
          card.definition.cache.etbModeChoices) })
    fun card => .setChosenMode id card.chosenMode

def chooseNameAsEnters (game : GameState) (id : CardId) : GameState :=
  game.replaceAsEnters id (fun card => card.definition.cache.etbChooseName)
    (fun _ => true)
    (fun card c =>
      { c with chosenName := game.mostActivatedName card.controller })
    fun card => .setChosenName id card.chosenName

/-- What the controller of the card pays; a missing controller pays nothing. -/
def entersPayment (game : GameState) (card : Card) : Int32 :=
  lifePayment (((game.getPlayer card.controller).map Player.life).getD 1)

/-- The player loses the life; the logged delta has the sign of a gain. -/
def payLife (game : GameState) (player : PlayerId) (amount : Int32) :
    GameState :=
  let paid := game.modifyPlayer player fun p => p.loseLife amount
  (if (game.getPlayer player).isSome then paid.message else paid).logAction
    (.modifyLife player amount) game.logger.logCount

/-- Keep the paid amount on the card. -/
def storePayment (game : GameState) (id : CardId) (amount : Int32) :
    GameState :=
  game.replaceAsEnters id (fun _ => true) (fun _ => true)
    (fun _ c => { c with storedInt := some amount.toUInt32 })
    fun card => .setStoredInt id card.storedInt

def payLifeAsEnters (game : GameState) (id : CardId) : GameState :=
  match game.card? id with
  | some card =>
      if card.definition.cache.etbPayLife then
        let amount := game.entersPayment card
        (game.payLife card.controller amount).storePayment id amount
      else game
  | none => game

/-- All replacements of a card that enters the battlefield, in order. -/
def entersBattlefield (game : GameState) (id : CardId) (owner : PlayerId) :
    GameState :=
  (((((((game.entersTapped id).tapForGlobal id).chooseColorAsEnters id
    owner).choosePlayerAsEnters id).chooseModeAsEnters
    id).chooseNameAsEnters id).payLifeAsEnters id)

/-- The messages of a move; a discard is reported also for a card without an
instance. -/
def reportMove (game : GameState) (id : CardId) (fromZone toZone : Zone) :
    GameState :=
  match fromZone, toZone with
  | .hand, .graveyard => game.message
  | .battlefield, .graveyard | .battlefield, .exile | .battlefield, .hand =>
      if (game.card? id).isSome then game.message else game
  | _, _ => game

/-- The caches of all players hear of a card that left or entered; any change
of the battlefield makes the engines' copies stale. -/
def updateManaCaches (game : GameState) (id : CardId)
    (fromZone toZone : Zone) : GameState :=
  let updated :=
    match game.card? id with
    | some card =>
        let left := if fromZone = .battlefield then
            game.mapCaches fun cache => cache.onCardLeft id card
          else game
        if toZone = .battlefield then
          left.mapCaches fun cache => cache.onCardEntered id card
        else left
    | none => game
  if fromZone = .battlefield || toZone = .battlefield then
    updated.incrementManaVersion
  else updated

/-- The definition a card goes back to. -/
def originalDefinition (game : GameState) (card : Card) :
    Option CardDefinition :=
  (game.cardDefinitions card.printedName).or
    (game.tokenDefinitions card.printedName)

/-- A card that leaves the battlefield is a new object: log its state, then
reset it. -/
def resetIfLeft (game : GameState) (id : CardId) (fromZone : Zone) :
    GameState :=
  if fromZone = .battlefield then
    match game.card? id with
    | some card =>
        (game.logAction (.restoreCardState id card.captureStateSnapshot)
          game.logger.logCount).modifyCard id fun c =>
            c.resetTransientState (game.originalDefinition card)
    | none => game
  else game

/-- The effects that end with the zone change; no action is logged. -/
def cleanupPersistentEffects (game : GameState) (id : CardId)
    (fromZone : Zone) : GameState :=
  { game with
    persistentEffects := game.persistentEffects.removeMany
      (game.persistentEffects.findEffectsToCleanupOnZoneChange id fromZone) }

/-- The move after the card was found in its zone. -/
def relocate (game : GameState) (id : CardId) (fromZone toZone : Zone)
    (owner : PlayerId) : GameState :=
  let position := game.zones.positionOf fromZone owner id
  let changed := game.changeZone id fromZone toZone owner
  let entered := if toZone = .battlefield then
      changed.entersBattlefield id owner
    else changed
  let logged := entered.logAction
    (.moveCard id fromZone toZone owner (position.map UInt32.ofNat))
    entered.logger.logCount
  (((logged.reportMove id fromZone toZone).updateManaCaches id fromZone
    toZone).resetIfLeft id fromZone).cleanupPersistentEffects id fromZone

/-- What happens before the card is looked for in its zone. -/
def prepareMove (game : GameState) (id : CardId) (fromZone toZone : Zone)
    (owner : PlayerId) : GameState :=
  (game.revealForMove id fromZone toZone owner).detachEquipment id fromZone

/-- A card that is not in its zone, likely moved by another effect before,
stays where it is; says whether it was there. -/
def finishMove (game : GameState) (id : CardId) (fromZone toZone : Zone)
    (owner : PlayerId) : GameState × Bool :=
  if game.zones.holds fromZone owner id then
    (game.relocate id fromZone toZone owner, true)
  else (game, false)

/-- `move_card` up to the delayed triggers. -/
def moveUntilTriggers (game : GameState) (id : CardId)
    (fromZone toZone : Zone) (owner : PlayerId) : GameState × Bool :=
  let reported := if game.commanderReplaces id toZone then game.message
    else game
  let toZone := game.moveDestination id toZone
  (reported.prepareMove id fromZone toZone owner).finishMove id fromZone
    toZone owner

end GameState

end DeepScry
