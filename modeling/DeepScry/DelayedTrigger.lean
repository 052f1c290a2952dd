/-
Delayed triggers and the store that holds them.  Ids come from a counter that
`undoAdd` rolls back.
-/
import DeepScry.Effects

namespace DeepScry

structure DelayedTriggerId where
  raw : UInt32
deriving DecidableEq

inductive TriggerPhase where
  | upkeep
  | draw
  | main1
  | beginCombat
  | endCombat
  | main2
  | endStep
  | cleanup
deriving DecidableEq

inductive TurnOwner where
  | you
  | opponent
  | any
deriving DecidableEq

inductive DelayedTriggerCondition where
  | zoneChange (fromZones toZones : List Zone)
  | phase (phases : List TriggerPhase) (whoseTurn : TurnOwner)
  | lastCounterRemoved (counterType : CounterType)
  | spellCast (validCardType : Option String) (youOnly : Bool)
deriving DecidableEq

inductive DelayedEffect where
  | returnToBattlefield (tapped toOwner : Bool)
  | sacrifice
  | sacrificeOther (card : CardId)
  | exileCard
  | destroyTracked (requireAttackedThisTurn : Bool)
  | castWithoutPaying
  | executeEffect (effect : Effect)
  | copySpellAbility (mayChooseTargets : Bool)
deriving DecidableEq

inductive DelayedTriggerExpiry where
  | endOfTurn
  | endOfNextTurn
  | sourceLeavesBattlefield
  | never
deriving DecidableEq

structure DelayedTrigger where
  id : DelayedTriggerId
  trackedCard : CardId
  sourceCard : CardId
  controller : PlayerId
  triggerCondition : DelayedTriggerCondition
  effect : DelayedEffect
  expiry : Option DelayedTriggerExpiry := none
  rememberedAmount : Option UInt32 := none
  repeating : Bool := false
deriving DecidableEq

def DelayedTrigger.matchesZoneChange (trigger : DelayedTrigger)
    (card : CardId) (fromZone toZone : Zone) : Bool :=
  if card != trigger.trackedCard then false
  else
    match trigger.triggerCondition with
    | .zoneChange fromZones toZones =>
        (fromZones.isEmpty || fromZones.contains fromZone) &&
          (toZones.isEmpty || toZones.contains toZone)
    | .phase _ _ => false
    | .lastCounterRemoved _ => false
    | .spellCast _ _ => false

structure DelayedTriggerStore where
  triggers : List DelayedTrigger
  nextId : UInt32
deriving DecidableEq

namespace DelayedTriggerStore

def new : DelayedTriggerStore := ⟨[], 1⟩

/-- Store a trigger under the next id; returns the id. -/
def add (store : DelayedTriggerStore) (trigger : DelayedTrigger) :
    DelayedTriggerId × DelayedTriggerStore :=
  let id : DelayedTriggerId := ⟨store.nextId⟩
  (id, ⟨store.triggers ++ [{ trigger with id := id }], store.nextId + 1⟩)

/-- Take out the first trigger with this id. -/
def remove (store : DelayedTriggerStore) (id : DelayedTriggerId) :
    Option DelayedTrigger × DelayedTriggerStore :=
  (store.triggers.find? fun t => t.id == id,
    { store with triggers := store.triggers.eraseP fun t => t.id == id })

/-- Reverse an `add`, rolling the counter back when the id is the newest. -/
def undoAdd (store : DelayedTriggerStore) (id : DelayedTriggerId) :
    Option DelayedTrigger × DelayedTriggerStore :=
  let (removed, rest) := store.remove id
  if removed.isSome && id.raw + 1 == rest.nextId then
    (removed, { rest with nextId := id.raw })
  else (removed, rest)

/-- Put a fired trigger back, at the end of the list. -/
def restore (store : DelayedTriggerStore) (trigger : DelayedTrigger) :
    DelayedTriggerStore :=
  ⟨store.triggers ++ [trigger],
    if trigger.id.raw ≥ store.nextId then trigger.id.raw + 1
    else store.nextId⟩

def findZoneChangeTriggers (store : DelayedTriggerStore) (card : CardId)
    (fromZone toZone : Zone) : List DelayedTriggerId :=
  (store.triggers.filter fun t =>
    t.matchesZoneChange card fromZone toZone).map DelayedTrigger.id

end DelayedTriggerStore

end DeepScry
