/-
Firing delayed triggers on a zone change, and the whole of `move_card`: the
effect of a trigger may move cards again.  The executor of card effects and
the scan for death triggers stay parameters.
-/
import DeepScry.LibraryOrder
import DeepScry.Permanents

namespace DeepScry

/-- The parts of the engine that a firing trigger hands over to. -/
structure EffectExecutor where
  executeEffect : GameState → PlayerId → Effect → Outcome Unit
  checkDeathTriggers : GameState → CardId → Outcome Unit

/-- Write an entity into an empty slot, growing the store as needed; an
occupied slot is a panic. -/
def EntityStore.insert {α : Type} (store : EntityStore α) (id : Nat)
    (entity : α) : Option (EntityStore α) :=
  match store.tryGet id with
  | some _ => none
  | none =>
      some ⟨(store.entities ++
        List.replicate (id + 1 - store.entities.length) none).set id
          (some entity)⟩

theorem EntityStore.tryGet_insert {α : Type} {store inserted : EntityStore α}
    {id : Nat} {entity : α} (hinsert : store.insert id entity = some inserted)
    (other : Nat) :
    inserted.tryGet other =
      if other = id then some entity else store.tryGet other := by
  rw [EntityStore.insert] at hinsert
  split at hinsert
  · cases hinsert
  · cases hinsert
    rw [EntityStore.tryGet, EntityStore.tryGet, List.getElem?_set]
    have hlength : id < (store.entities ++
        List.replicate (id + 1 - store.entities.length) none).length := by
      rw [List.length_append, List.length_replicate]
      omega
    by_cases hid : id = other
    · subst hid
      rw [if_pos rfl, if_pos hlength, if_pos rfl]
      rfl
    · rw [if_neg hid, if_neg fun heq => hid heq.symm]
      rcases Nat.lt_or_ge other store.entities.length with hlt | hge
      · rw [List.getElem?_append_left hlt]
      · rw [List.getElem?_append_right hge,
          List.getElem?_eq_none_iff.mpr hge, List.getElem?_replicate]
        split <;> rfl

namespace GameState

/-- The zone a card lies in, looked for in a fixed order. -/
def findCardZone (game : GameState) (id : CardId) : Option Zone :=
  if game.zones.battlefield.contains id then some .battlefield
  else if game.zones.stack.contains id then some .stack
  else game.zones.playerZones.findSome? fun entry =>
    [Zone.hand, .library, .graveyard, .exile, .command].find? fun zone =>
      (entry.2.getZone zone).any fun cards => cards.contains id

/-- Exile for a card with a finality counter or a mark of this turn. -/
def deathDestinationForCard (game : GameState) (id : CardId) : Zone :=
  match game.cards.get id.raw with
  | some card =>
      if 0 < card.getCounter .finality || card.exileIfWouldDieThisTurn then
        .exile
      else .graveyard
  | none => .graveyard

/-- The owner of a card, or the player that stands in for it. -/
def ownerOr (game : GameState) (id : CardId) (player : PlayerId) : PlayerId :=
  ((game.card? id).map Card.owner).getD player

/-- The first untapped land on the battlefield that a player controls. -/
def firstUntappedLand (game : GameState) (controller : PlayerId) :
    Option CardId :=
  game.zones.battlefield.find? fun id =>
    (game.cards.get id.raw).any fun card =>
      card.isLand && card.controller == controller && !card.tapped

/-- `MAX_SPELL_COPIES_ON_STACK`. -/
def maxSpellCopiesOnStack : Nat := 100

/-- A copy of a spell gets an id of its own and goes on top of it. -/
def copySpellOntoStack (game : GameState) (original : CardId)
    (newController : PlayerId) : Outcome (Option CardId) :=
  let isCopy (id : CardId) : Bool := (game.card? id).any Card.isToken
  if !game.zones.stack.contains original then .ok game none
  else if maxSpellCopiesOnStack ≤ (game.zones.stack.filter isCopy).length then
    .ok game none
  else
    match game.cards.get original.raw with
    | none => .error game (.entityNotFound original.raw)
    | some spell =>
        let copyId : CardId := ⟨game.nextEntityId.toNat⟩
        let spellCopy := { spell with
          id := copyId
          owner := newController
          controller := newController
          isToken := true }
        match game.cards.insert copyId.raw spellCopy with
        | none => none
        | some cards =>
            let copied := { game with
              nextEntityId := game.nextEntityId + 1
              cards := cards
              zones := { game.zones with
                stack := game.zones.stack ++ [copyId] } }
            match copied.getPlayer newController with
            | some _ => .ok copied.message (some copyId)
            | none => .error copied (.entityNotFound newController.raw)

/-- Earthbend as a delayed effect; the trigger it adds writes no action. -/
def earthbendDelayed (game : GameState) (controller : PlayerId)
    (numCounters : UInt8) : Outcome Unit :=
  match game.firstUntappedLand controller with
  | some land =>
      let animated := (game.earthbendAnimateCreatureHasteLogged
        land).setTempBaseStatsLogged land 0 0
      (animated.addCounters land .p1p1 numCounters).andThen fun game _ =>
        let returnTrigger : DelayedTrigger :=
          { id := ⟨0⟩
            trackedCard := land
            sourceCard := land
            controller := controller
            triggerCondition := .zoneChange [.battlefield] [.graveyard, .exile]
            effect := .returnToBattlefield true true }
        .ok { game with
          delayedTriggers := (game.delayedTriggers.add returnTrigger).2
          : GameState }.message ()
  | none => .ok game.message ()

/-- The mana of a delayed trigger is colorless. -/
def addManaDelayed (game : GameState) (player : PlayerId) (mana : ManaCost)
    (amountVar : Option String) (rememberedAmount : Option UInt32) :
    Outcome Unit :=
  let count := if amountVar.isSome then rememberedAmount.getD 0
    else mana.colorless.toUInt32
  if count = 0 then .ok game ()
  else
    match game.getPlayer player with
    | some _ =>
        let added := game.modifyPlayer player fun p =>
          { p with
            manaPool := { p.manaPool with
              colorless := p.manaPool.colorless + count.toUInt8 } }
        .ok (added.logAction
          (.addMana player
            { colorless := if count ≤ 255 then count.toUInt8 else 255 })
          game.logger.logCount).message ()
    | none => .error game (.entityNotFound player.raw)

/-- The heuristic keeps all cards on top. -/
def scryDelayed (game : GameState) (player : PlayerId) (count : UInt8) :
    GameState :=
  let reported := game.message
  let revealed := reported.scrySnapshotTopN player count
  reported.scryApplyDecision player revealed
    (ScryDecision.keepAllOnTop revealed)

section Firing

variable (executor : EffectExecutor)
  (moveCard : GameState → CardId → Zone → Zone → PlayerId → Outcome Unit)

/-- Put a tracked card onto the battlefield, from wherever it is. -/
def returnTracked (game : GameState) (trigger : DelayedTrigger)
    (tapped toOwner : Bool) : Outcome Unit :=
  let id := trigger.trackedCard
  match game.card? id with
  | none => .ok game ()
  | some card =>
      let zone := (game.findCardZone id).getD .graveyard
      let controller := if toOwner then card.owner else trigger.controller
      (moveCard game id zone .battlefield controller).andThen fun moved _ =>
        .ok (if tapped then
          moved.modifyCard id fun c => { c with tapped := true }
        else moved).message ()

/-- Send a card from the battlefield to where it dies to. -/
def sacrificeDelayed (game : GameState) (id : CardId) (controller : PlayerId)
    (reports : Bool) : Outcome Unit :=
  if game.findCardZone id = some .battlefield then
    (moveCard game id .battlefield (game.deathDestinationForCard id)
      (game.ownerOr id controller)).andThen fun moved _ =>
        .ok (if reports then moved.message else moved) ()
  else .ok game ()

/-- Destroy a card on the battlefield, past indestructible and
regeneration. -/
def destroyDelayed (game : GameState) (id : CardId) (lookup : Option Card)
    (noRegenerate reports : Bool) : Outcome Unit :=
  match lookup with
  | none => .error game (.entityNotFound id.raw)
  | some card =>
      if card.hasKeyword .indestructible then .ok game ()
      else if 0 < card.regenerationShields && !noRegenerate then
        game.applyRegenerationShield id
      else
        match game.cards.get id.raw with
        | none => .error game (.entityNotFound id.raw)
        | some card =>
            let destination := game.deathDestinationForCard id
            match executor.checkDeathTriggers game id with
            | none => none
            | some (scanned, _) =>
                (moveCard scanned id .battlefield destination
                  card.owner).andThen fun moved _ =>
                    .ok (if reports then moved.message else moved) ()

/-- Effects that a delayed trigger carries out itself, hands to the executor,
or only warns about. -/
def executeDelayed (game : GameState) (trigger : DelayedTrigger)
    (effect : Effect) : Outcome Unit :=
  match effect with
  | .earthbend numCounters =>
      game.earthbendDelayed trigger.controller numCounters
  | .addMana _ mana _ amountVar =>
      game.addManaDelayed trigger.controller mana amountVar
        trigger.rememberedAmount
  | .scry player count => .ok (game.scryDelayed player count) ()
  | .destroyPermanent target noRegenerate =>
      let id := trigger.trackedCard
      if target.raw != 0 then .ok game ()
      else if !(game.card? id).any fun c => c.attackedThisTurn then
        .ok game ()
      else if game.zones.battlefield.contains id then
        game.destroyDelayed executor moveCard id (game.card? id) noRegenerate
          false
      else .ok game ()
  | .searchLibrary tag =>
      executor.executeEffect game.message trigger.controller
        (.searchLibrary tag)
  | .delegated tag =>
      executor.executeEffect game trigger.controller (.delegated tag)
  | .attachEquipment _ _ | .unsupported _ => .ok game ()

/-- The effect of a trigger that was just taken out of the store. -/
def fireEffect (game : GameState) (trigger : DelayedTrigger) : Outcome Unit :=
  let id := trigger.trackedCard
  match trigger.effect with
  | .returnToBattlefield tapped toOwner =>
      game.returnTracked moveCard trigger tapped toOwner
  | .sacrifice => game.sacrificeDelayed moveCard id trigger.controller false
  | .sacrificeOther card =>
      game.sacrificeDelayed moveCard card trigger.controller true
  | .exileCard =>
      match game.findCardZone id with
      | some zone =>
          moveCard game id zone .exile (game.ownerOr id trigger.controller)
      | none => .ok game ()
  | .destroyTracked requireAttackedThisTurn =>
      if game.findCardZone id = some .battlefield &&
          (!requireAttackedThisTurn ||
            (game.card? id).any fun c => c.attackedThisTurn) then
        game.destroyDelayed executor moveCard id (game.cards.get id.raw) false
          true
      else .ok game ()
  | .castWithoutPaying => .ok game ()
  | .copySpellAbility _ =>
      (game.copySpellOntoStack id trigger.controller).andThen fun copied _ =>
        .ok copied ()
  | .executeEffect effect =>
      game.executeDelayed executor moveCard trigger effect

/-- Whether the effect returns early, before a repeating trigger is stored
again. -/
def returnsEarly (game : GameState) (trigger : DelayedTrigger) : Bool :=
  match trigger.effect with
  | .returnToBattlefield _ _ => (game.card? trigger.trackedCard).isNone
  | _ => false

/-- Fire a trigger; a repeating one is stored again under a new id, without
an action. -/
def fireDelayedTrigger (game : GameState) (trigger : DelayedTrigger) :
    Outcome Unit :=
  (game.fireEffect executor moveCard trigger).andThen fun fired _ =>
    if trigger.repeating && !game.returnsEarly trigger then
      .ok { fired with
        delayedTriggers := (fired.delayedTriggers.add
          { trigger with
            expiry := none
            rememberedAmount := none }).2 } ()
    else .ok fired ()

/-- Take each matching trigger out, log it and fire it; one that an earlier
effect removed is passed over. -/
def fireAll (game : GameState) : List DelayedTriggerId → Outcome Unit
  | [] => .ok game ()
  | id :: rest =>
      match game.delayedTriggers.remove id with
      | (some trigger, store) =>
          let taken := { game with delayedTriggers := store
            : GameState }.logAction (.fireDelayedTrigger trigger)
              game.logger.logCount
          (taken.fireDelayedTrigger executor moveCard trigger).andThen
            fun fired _ => fireAll fired rest
      | (none, _) => fireAll game rest

/-- `check_delayed_triggers_on_zone_change`. -/
def checkDelayedTriggersOnZoneChange (game : GameState) (id : CardId)
    (fromZone toZone : Zone) : Outcome Unit :=
  game.fireAll executor moveCard
    (game.delayedTriggers.findZoneChangeTriggers id fromZone toZone)

end Firing

/-- `move_card`.  The effects of delayed triggers may move cards again, at most
`depth` moves deep. -/
def moveCard (executor : EffectExecutor) :
    Nat → GameState → CardId → Zone → Zone → PlayerId → Outcome Unit
  | 0, _, _, _, _, _ => none
  | depth + 1, game, id, fromZone, toZone, owner =>
      match game.moveUntilTriggers id fromZone toZone owner with
      | (moved, true) =>
          moved.checkDelayedTriggersOnZoneChange executor
            (moveCard executor depth) id fromZone
            (game.moveDestination id toZone)
      | (unmoved, false) => .ok unmoved ()

/-- Where no trigger waits for the move there is only the move. -/
theorem moveCard_of_untriggered (executor : EffectExecutor) (depth : Nat)
    {game : GameState} {id : CardId} {fromZone toZone : Zone}
    {owner : PlayerId}
    (htriggers : (game.moveUntilTriggers id fromZone toZone
      owner).1.delayedTriggers = game.delayedTriggers)
    (hquiet : game.delayedTriggers.findZoneChangeTriggers id fromZone
      (game.moveDestination id toZone) = []) :
    moveCard executor (depth + 1) game id fromZone toZone owner =
      .ok (game.moveUntilTriggers id fromZone toZone owner).1 () := by
  rw [moveCard]
  split
  · next moved hmoved =>
    rw [hmoved] at htriggers
    rw [checkDelayedTriggersOnZoneChange, htriggers, hquiet, hmoved]
    rfl
  · next unmoved hunmoved => rw [hunmoved]

/-- An executor for games whose triggers hand nothing over. -/
def idleExecutor : EffectExecutor where
  executeEffect game _ _ := .ok game ()
  checkDeathTriggers game _ := .ok game ()

end GameState

end DeepScry
