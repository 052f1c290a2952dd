/-
Paying the cost of an activated ability.  Which triggers a tap or a sacrifice
sets off, and what they do, stays a parameter.
-/
import DeepScry.DelayedFiring

namespace DeepScry

/-- The events that a payment checks for triggers. -/
inductive TriggerEvent where
  | taps
  | sacrificed
deriving DecidableEq

/-- The parts of the engine that a payment hands over to.  `counterName` is the
name of a counter kind in messages. -/
structure PaymentExecutor extends EffectExecutor where
  triggersOn : GameState → TriggerEvent → CardId → Bool
  fireTriggers : GameState → TriggerEvent → CardId → Outcome Unit
  counterName : CounterType → String

namespace Card

/-- How many counters `remove_counter` takes off. -/
def removedCounters (card : Card) (counterType : CounterType)
    (amount : UInt8) : UInt8 :=
  if amount = 0 then 0
  else if card.counters.any fun entry => entry.1 == counterType then
    min (card.getCounter counterType) amount
  else 0

/-- `card_matches_type_filter_static`. -/
def matchesTypeFilter (card : Card) (typeFilter : String) : Bool :=
  match typeFilter with
  | "Land" => card.isLand
  | "Creature" => card.isCreature
  | "Artifact" => card.isArtifact
  | "Enchantment" => card.isEnchantment
  | "Permanent" => true
  | _ => card.subtypes.contains typeFilter

end Card

namespace GameState

/-- The scan of the battlefield, which changes nothing unless a trigger
fires. -/
def checkTriggers (executor : PaymentExecutor) (game : GameState)
    (event : TriggerEvent) (id : CardId) : Outcome Unit :=
  if executor.triggersOn game event id then
    executor.fireTriggers game event id
  else .ok game ()

/-- Snapshot the pool of a player, if there is one, for the undo. -/
def logManaPool (game : GameState) (player : PlayerId) : GameState :=
  match game.getPlayer player with
  | some p =>
      game.logAction (.setManaPool player p.manaPool) game.logger.logCount
  | none => game

/-- Take the cost out of the pool. -/
def spendMana (game : GameState) (player : PlayerId) (cost : ManaCost) :
    Outcome Unit :=
  match game.getPlayer player with
  | some p =>
      match p.manaPool.payCost cost with
      | .ok pool =>
          .ok (game.modifyPlayer player fun p => { p with manaPool := pool })
            ()
      | .error message => .error game (.invalidAction message)
  | none => .error game (.entityNotFound player.raw)

def payMana (game : GameState) (player : PlayerId) (cost : ManaCost) :
    Outcome Unit :=
  let logged := game.logManaPool player
  if (logged.getPlayer player).any fun p => !p.manaPool.canPay cost then
    .error logged (.invalidAction "Cannot pay mana cost")
  else logged.spendMana player cost

/-- The life is taken without `lose_life`, and without an action. -/
def payLifeCost (game : GameState) (player : PlayerId) (amount : Int32) :
    Outcome Unit :=
  match game.getPlayer player with
  | some p =>
      if p.life < amount then
        .error game (.invalidAction "Not enough life")
      else
        .ok (game.modifyPlayer player fun p =>
          { p with life := p.life - amount }) ()
  | none => .error game (.entityNotFound player.raw)

/-- The card is untapped directly, without an action. -/
def payUntap (game : GameState) (id : CardId) : Outcome Unit :=
  match game.card? id with
  | some card =>
      if card.tapped then .ok (game.modifyCard id Card.untap) ()
      else .error game (.invalidAction "Permanent is not tapped")
  | none => .error game (.entityNotFound id.raw)

def removeCounters (game : GameState) (id : CardId)
    (counterType : CounterType) (amount : UInt8) : Outcome UInt8 :=
  match game.card? id with
  | some card =>
      let removed := card.removedCounters counterType amount
      .ok ((game.modifyCard id fun c =>
        c.removeCounter counterType amount).logAction
          (.removeCounter id counterType removed) game.logger.logCount) removed
  | none => .error game (.entityNotFound id.raw)

/-- Add loyalty counters, without an action for them, and mark the activation
of this turn. -/
def payAddLoyalty (game : GameState) (id : CardId) (amount : UInt8) :
    Outcome Unit :=
  match game.card? id with
  | some card =>
      .ok ((game.modifyCard id fun c =>
        { c.addCounter .loyalty amount with
          loyaltyActivatedThisTurn := true }).logAction
        (.setLoyaltyActivated id card.loyaltyActivatedThisTurn true)
        game.logger.logCount).message ()
  | none => .error game (.entityNotFound id.raw)

/-- The state after the loyalty counters came off, without an action for them,
and the activation was marked. -/
def loyaltySpent (game : GameState) (id : CardId) (card : Card)
    (amount : UInt8) : GameState :=
  ((game.modifyCard id fun c =>
    { c.removeCounter .loyalty amount with
      loyaltyActivatedThisTurn := true }).logAction
    (.setLoyaltyActivated id card.loyaltyActivatedThisTurn true)
    game.logger.logCount).message

def paySubCounter (executor : PaymentExecutor) (game : GameState)
    (id : CardId) (amount : UInt8) (counterType : CounterType) :
    Outcome Unit :=
  match game.cards.get id.raw with
  | none => .error game (.entityNotFound id.raw)
  | some card =>
      let current := card.getCounter counterType
      if current < amount then
        .error game (.invalidAction ("Not enough " ++
          executor.counterName counterType ++ " counters (" ++
          toString current ++ " < " ++ toString amount ++ ") on " ++
          card.name))
      else
        (game.removeCounters id counterType amount).andThen fun removed _ =>
          match removed.cards.get id.raw with
          | none => .error removed (.entityNotFound id.raw)
          | some _ => .ok removed.message ()

/-- The untapped lands of the player, apart from the source. -/
def waterbendLands (game : GameState) (player : PlayerId) (id : CardId) :
    List CardId :=
  game.zones.battlefield.filter fun other =>
    other != id && (game.card? other).any fun card =>
      !card.tapped && card.controller == player && card.isLand

/-- The other untapped creatures and artifacts of the player. -/
def waterbendHelpers (game : GameState) (player : PlayerId) (id : CardId) :
    List CardId :=
  game.zones.battlefield.filter fun other =>
    other != id && !(game.waterbendLands player id).contains other &&
      (game.card? other).any fun card =>
        !card.tapped && card.controller == player &&
          (card.isCreature || card.isArtifact)

/-- Tap one permanent after the other until nothing remains to be paid. -/
def tapToPay : List CardId → UInt8 → GameState → Outcome UInt8
  | [], remaining, game => .ok game remaining
  | id :: rest, remaining, game =>
      if remaining = 0 then .ok game remaining
      else if (game.card? id).isSome then
        (game.tapPermanent id).andThen fun tapped _ =>
          tapToPay rest (remaining - 1) tapped
      else tapToPay rest remaining game

/-- Floating mana first, then creatures and artifacts, then lands.  The counts
are added up in a `u8`. -/
def payWaterbend (game : GameState) (player : PlayerId) (id : CardId)
    (amount : UInt8) : Outcome Unit :=
  match game.getPlayer player with
  | none => .error game (.entityNotFound player.raw)
  | some p =>
      let floating := p.manaPool.total
      let lands := game.waterbendLands player id
      let helpers := game.waterbendHelpers player id
      let available := floating + lands.length.toUInt8 +
        helpers.length.toUInt8
      if available < amount then
        .error game (.invalidAction ("Cannot pay Waterbend " ++
          toString amount ++ ": only " ++ toString available ++
          " available (floating: " ++ toString floating ++ ", lands: " ++
          toString lands.length ++ ", tappable: " ++
          toString helpers.length ++ ")"))
      else
        let fromPool := min amount floating
        (if 0 < fromPool then
          -- `from_string` reads the decimal numeral as generic mana.
          (game.logManaPool player).spendMana player { generic := fromPool }
        else .ok game ()).andThen fun spent _ =>
          (spent.tapToPay helpers (amount - fromPool)).andThen
            fun tapped remaining =>
              (tapped.tapToPay lands remaining).andThen fun paid _ =>
                .ok paid ()

/-- The first `count` permanents that are wanted, in battlefield order. -/
def findPermanents (game : GameState) (isWanted : CardId → Card → Bool)
    (count : Nat) : List CardId → List CardId → Except MtgError (List CardId)
  | chosen, [] => .ok chosen
  | chosen, id :: rest =>
      if count ≤ chosen.length then .ok chosen
      else
        match game.cards.get id.raw with
        | none => .error (.entityNotFound id.raw)
        | some card =>
            if isWanted id card then
              game.findPermanents isWanted count (chosen ++ [id]) rest
            else game.findPermanents isWanted count chosen rest

/-- The permanents a sacrifice pattern takes; "CARDNAME" is the source. -/
def permanentsToSacrifice (game : GameState) (player : PlayerId)
    (id : CardId) (count : UInt8) (cardType : String) :
    Except MtgError (List CardId) :=
  if cardType = "CARDNAME" then .ok [id]
  else
    game.findPermanents (fun permanent card =>
      card.owner == player &&
        if cardType = "Creature.Other" then
          card.isCreature && permanent != id
        else card.matchesTypeFilter cardType)
      count.toNat [] game.zones.battlefield

/-- Keep the toughness of a creature that is about to be sacrificed. -/
def recordToughness (game : GameState) (id : CardId) : GameState :=
  match game.cards.get id.raw with
  | some card =>
      if card.isCreature then
        { game with
          lastSacrificedToughness := some card.currentToughness.toInt32 }
      else game
  | none => game

section Paying

variable (executor : PaymentExecutor) (depth : Nat)

def payTap (game : GameState) (id : CardId) : Outcome Unit :=
  (game.tapPermanent id).andThen fun tapped _ =>
    tapped.checkTriggers executor .taps id

/-- A tap that the mana then does not follow is not taken back. -/
def payTapAndMana (game : GameState) (player : PlayerId) (id : CardId)
    (cost : ManaCost) : Outcome Unit :=
  match game.cards.get id.raw with
  | none => .error game (.entityNotFound id.raw)
  | some card =>
      if card.tapped then
        .error game (.invalidAction "Permanent is already tapped")
      else
        (game.payTap executor id).andThen fun tapped _ =>
          tapped.payMana player cost

/-- Put a permanent where it dies to and check for triggers. -/
def sacrifice (game : GameState) (id : CardId) : Outcome Unit :=
  match game.cards.get id.raw with
  | none => .error game (.entityNotFound id.raw)
  | some card =>
      (game.moveCard executor.toEffectExecutor depth id .battlefield
        (game.deathDestinationForCard id) card.owner).andThen fun moved _ =>
          moved.checkTriggers executor .sacrificed id

def sacrificeAll : List CardId → GameState → Outcome Unit
  | [], game => .ok game ()
  | id :: rest, game =>
      ((game.recordToughness id).sacrifice executor depth id).andThen
        fun sacrificed _ => sacrificeAll rest sacrificed

def paySacrificePattern (game : GameState) (player : PlayerId) (id : CardId)
    (count : UInt8) (cardType : String) : Outcome Unit :=
  match game.permanentsToSacrifice player id count cardType with
  | .error e => .error game e
  | .ok chosen =>
      if chosen.length < count.toNat then
        .error game (.invalidAction ("Not enough permanents of type " ++
          cardType ++ " to sacrifice (need " ++ toString count ++
          ", found " ++ toString chosen.length ++ ")"))
      else
        let noted := match chosen[count.toNat - 1]? with
          | some last => { game with sacrificedForCost := some last }
          | none => game
        noted.sacrificeAll executor depth (chosen.take count.toNat)

def discardAll (player : PlayerId) : List CardId → GameState → Outcome Unit
  | [], game => .ok game ()
  | id :: rest, game =>
      (game.moveCard executor.toEffectExecutor depth id .hand .graveyard
        player).andThen fun discarded _ => discardAll player rest discarded

def payDiscardHand (game : GameState) (player : PlayerId) : Outcome Unit :=
  match game.zones.getPlayerZones player with
  | none => .ok game ()
  | some own =>
      (game.discardAll executor depth player own.hand).andThen
        fun discarded _ =>
          match discarded.getPlayer player with
          | some _ => .ok discarded.message ()
          | none => .error discarded (.entityNotFound player.raw)

/-- A planeswalker without loyalty counters left dies. -/
def paySubLoyalty (game : GameState) (id : CardId) (amount : UInt8) :
    Outcome Unit :=
  match game.cards.get id.raw with
  | none => .error game (.entityNotFound id.raw)
  | some card =>
      let current := card.getCounter .loyalty
      if current < amount then
        .error game (.invalidAction ("Not enough loyalty counters (" ++
          toString current ++ " < " ++ toString amount ++ ") on " ++
          card.name))
      else
        let spent := game.loyaltySpent id card amount
        if (card.removeCounter .loyalty amount).getCounter .loyalty = 0 then
          let reported := spent.message
          match reported.cards.get id.raw with
          | none => .error reported (.entityNotFound id.raw)
          | some card =>
              reported.moveCard executor.toEffectExecutor depth id
                .battlefield (reported.deathDestinationForCard id) card.owner
        else .ok spent ()

/-- `pay_ability_cost`.  The parts of a composite cost are paid in order, and
an error ends the payment where it is. -/
def payAbilityCost (player : PlayerId) (id : CardId) :
    Cost → GameState → Outcome Unit
  | .tap, game => game.payTap executor id
  | .untap, game => game.payUntap id
  | .mana cost, game => game.payMana player cost
  | .tapAndMana cost, game => game.payTapAndMana executor player id cost
  | .sacrifice card, game => game.sacrifice executor depth card
  | .sacrificePattern count cardType, game =>
      game.paySacrificePattern executor depth player id count cardType
  | .payLife amount, game => game.payLifeCost player amount
  | .discard card, game =>
      .error game (.invalidAction ("Cost type Discard \x7b card_id: " ++
        toString card.raw ++ " \x7d not yet implemented"))
  | .discardHand, game => game.payDiscardHand executor depth player
  | .composite parts, game => payAll parts game
  | .waterbend amount, game => game.payWaterbend player id amount
  | .addLoyalty amount, game => game.payAddLoyalty id amount
  | .subLoyalty amount, game => game.paySubLoyalty executor depth id amount
  | .subCounter amount counterType, game =>
      game.paySubCounter executor id amount counterType
where
  payAll : List Cost → GameState → Outcome Unit
    | [], game => .ok game ()
    | part :: rest, game =>
        (payAbilityCost player id part game).andThen fun paid _ =>
          payAll rest paid

end Paying

/-- A payment of games without such triggers. -/
def idlePayments : PaymentExecutor where
  toEffectExecutor := idleExecutor
  triggersOn _ _ _ := false
  fireTriggers game _ _ := .ok game ()
  counterName _ := "counter"

end GameState

end DeepScry
