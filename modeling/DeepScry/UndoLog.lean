/-
The undo log: the game actions in the order they happened, each with the size
of the message log before it.
-/
import DeepScry.DelayedTrigger
import DeepScry.PersistentEffect
import DeepScry.Player

namespace DeepScry

inductive RevealTarget where
  | player (player : PlayerId)
  | all
deriving DecidableEq

/-- The random number generator, by its serialised state. -/
structure Rng where
  state : Nat
deriving DecidableEq

/-- Saved generator bytes, by what they decode to. -/
structure SavedRng where
  decoded : Option Rng
deriving DecidableEq

/-- A recorded choice of a player; its content is only replayed. -/
structure ReplayChoice where
  content : Nat
deriving DecidableEq

/-- One logged action, with what its undo needs. -/
inductive GameAction where
  | moveCard (card : CardId) (fromZone toZone : Zone) (owner : PlayerId)
      (fromPosition : Option UInt32)
  | tapCard (card : CardId) (tapped : Bool)
  | setChosenColor (card : CardId) (prev : Option Color)
  | setChosenPlayer (card : CardId) (prev : Option PlayerId)
  | setChosenMode (card : CardId) (prev : Option String)
  | setChosenName (card : CardId) (prev : Option String)
  | setRememberedName (prev : Option String)
  | setStoredInt (card : CardId) (prev : Option UInt32)
  | modifyLife (player : PlayerId) (delta : Int32)
  | addMana (player : PlayerId) (mana : ManaCost)
  | emptyManaPool (player : PlayerId) (prev : ManaPool)
  | addCounter (card : CardId) (counterType : CounterType) (amount : UInt8)
  | removeCounter (card : CardId) (counterType : CounterType) (amount : UInt8)
  | advanceStep (fromStep toStep : Step)
  | changeTurn (fromPlayer toPlayer : PlayerId) (turnNumber : UInt32)
      (rngState : Option SavedRng)
  | pumpCreature (card : CardId) (powerDelta toughnessDelta : Int32)
      (keywordsGranted : List Keyword) (keywordArgsGranted : List KeywordArgs)
  | debuffCreature (card : CardId) (keywordsRemoved : List Keyword)
  | setTurnEnteredBattlefield (card : CardId) (oldValue newValue :
      Option UInt32)
  | setLandsPlayedThisTurn (player : PlayerId) (oldValue newValue : UInt8)
  | setSpellsCastThisTurn (player : PlayerId) (oldValue newValue : UInt8)
  | setCardsDrawnThisTurn (player : PlayerId) (oldValue newValue : UInt8)
  | changeController (card : CardId) (oldController newController : PlayerId)
  | setAttachedTo (equipment : CardId) (oldTarget newTarget : Option CardId)
  | choicePoint (player : PlayerId) (choiceId : UInt32)
      (choice : Option ReplayChoice)
  | revealCard (card : CardId) (name : Option String)
      (revealedTo : RevealTarget) (oldMask : UInt8)
  | setRevealedToMask (card : CardId) (oldValue newValue : UInt8)
  | setLoyaltyActivated (card : CardId) (oldValue newValue : Bool)
  | setCommanderCastCount (player : PlayerId) (oldValue newValue : UInt8)
  | setCommanderDamage (player fromPlayer : PlayerId)
      (oldDamage newDamage : UInt16)
  | shuffleLibrary (player : PlayerId) (previousOrder : List CardId)
      (rngState : Option SavedRng)
  | registerDelayedTrigger (id : DelayedTriggerId)
  | fireDelayedTrigger (trigger : DelayedTrigger)
  | setRememberedAmount (previous : Option UInt32)
  | declareAttacker (card : CardId) (prevCombatActive : Bool)
  | declareBlocker (blocker : CardId) (attackers : List CardId)
  | clearCombat (prev : CombatState)
  | setTempBaseStats (card : CardId) (prevPower prevToughness : Option Int8)
  | animateTypeline (card : CardId) (prevTypes : List CardType)
      (prevSubtypes : List String) (prevTempAnimateTypes : List CardType)
      (prevTempAnimateSubtypes prevTempRemovedSubtypes : List String)
      (grantedKeywords : List Keyword) (grantedKeywordArgs : List KeywordArgs)
  | markDamagedBy (target source : CardId)
  | markDealtDamageToOpponent (card : CardId) (prev : Bool)
  | markAttackedThisTurn (card : CardId) (prev : Bool)
  | cloneCard (card : CardId) (prev : CardCopiableState)
  | pushExtraTurn (player : PlayerId)
  | setSkipUntapNextTurn (player : PlayerId) (oldValue newValue : Bool)
  | setCantCastSpells (player : PlayerId) (oldValue : Bool)
  | createEntity (card : CardId)
  | setCardCounters (card : CardId) (prevCounters : List (CounterType × UInt8))
  | reorderLibrary (player : PlayerId) (previousOrder : List CardId)
      (previousGraveyard : Option (List CardId))
  | regenerateReplaceDestroy (card : CardId) (prevShields : UInt8)
      (prevDamage : Int32) (prevCombat : CombatState)
  | setSourcePreventionShields (player : PlayerId)
      (prev : List DamagePreventionShield)
  | setCombatManaPool (player : PlayerId) (prev : Option ManaPool)
  | setManaPool (player : PlayerId) (prev : ManaPool)
  | setDamage (card : CardId) (prev : Int32)
  | setXPaid (card : CardId) (prev : UInt8)
  | setTimesKicked (card : CardId) (prev : UInt8)
  | setBargainPaid (card : CardId) (prev : Bool)
  | setKickerPaid (card : CardId) (prev : Bool)
  | setOffspringPaid (card : CardId) (prev : Bool)
  | setModeCostPaid (card : CardId) (prev : UInt8)
  | restoreCardState (card : CardId) (snapshot : CardStateSnapshot)

namespace GameAction

/-- The turn a turn change starts. -/
def turnNumber? : GameAction → Option UInt32
  | changeTurn _ _ turnNumber _ => some turnNumber
  | _ => none

def isChangeTurn (action : GameAction) : Bool := action.turnNumber?.isSome

def isChoicePoint : GameAction → Bool
  | choicePoint _ _ _ => true
  | _ => false

end GameAction

theorem noActions_sized :
    ([] : List Nat).length = ([] : List GameAction).length := rfl

/-- The two parallel stacks, newest last, of the same height. -/
@[ext]
structure UndoLog where
  actions : List GameAction := []
  enabled : Bool := true
  choicePoints : List Nat := []
  logSizes : List Nat := []
  sized : logSizes.length = actions.length := by
    first
    | exact DeepScry.noActions_sized
    | rfl

namespace UndoLog

/-- `UndoLog::default`: enabled and empty. -/
def new : UndoLog := {}

def log (undoLog : UndoLog) (action : GameAction) (priorLogSize : Nat) :
    UndoLog :=
  if undoLog.enabled then
    { undoLog with
      actions := undoLog.actions ++ [action]
      logSizes := undoLog.logSizes ++ [priorLogSize]
      sized := by simp [undoLog.sized] }
  else undoLog

/-- The newest action with its log size, and the log without them. -/
def pop (undoLog : UndoLog) : Option ((GameAction × Nat) × UndoLog) :=
  match undoLog.actions.getLast? with
  | some action =>
      some ((action, undoLog.logSizes.getLast?.getD 0),
        { undoLog with
          actions := undoLog.actions.dropLast
          logSizes := undoLog.logSizes.dropLast
          sized := by simp [undoLog.sized] })
  | none => none

/-- Push an action back with its log size, enabled or not. -/
def pushBack (undoLog : UndoLog) (action : GameAction) (logSize : Nat) :
    UndoLog :=
  { undoLog with
    actions := undoLog.actions ++ [action]
    logSizes := undoLog.logSizes ++ [logSize]
    sized := by simp [undoLog.sized] }

end UndoLog

end DeepScry
