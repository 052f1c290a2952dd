/-
The game state and its accessors.  The message log is kept as its length: no
modelled function reads a message.
-/
import DeepScry.ManaSourceCache
import DeepScry.UndoLog
import DeepScry.Zones

namespace DeepScry

/-- `captures` holds in the output modes that keep messages in memory,
`showsNormal` from the normal verbosity level on. -/
structure GameLogger where
  logCount : Nat := 0
  captures : Bool := true
  suppressed : Bool := false
  showsNormal : Bool := true
deriving DecidableEq

/-- One message at any level. -/
def GameLogger.message (logger : GameLogger) : GameLogger :=
  if logger.captures && !logger.suppressed then
    { logger with logCount := logger.logCount + 1 }
  else logger

/-- `turn_separator`: kept in memory in every output mode. -/
def GameLogger.turnSeparator (logger : GameLogger) : GameLogger :=
  if !logger.suppressed && (logger.showsNormal || logger.captures) then
    { logger with logCount := logger.logCount + 1 }
  else logger

structure GameState where
  cards : EntityStore Card := {}
  players : List Player := []
  zones : Zones := {}
  manaCaches : List (PlayerId × ManaSourceCache) := []
  turn : TurnStructure
  combat : CombatState := {}
  rng : Rng := ⟨0⟩
  nextEntityId : UInt32 := 0
  undoLog : UndoLog := {}
  logger : GameLogger := {}
  tokenDefinitions : String → Option CardDefinition := fun _ => none
  cardDefinitions : String → Option CardDefinition := fun _ => none
  manaStateVersion : UInt32 := 0
  skipReveals : Bool := true
  persistentEffects : PersistentEffectStore := {}
  delayedTriggers : DelayedTriggerStore := .new
  rememberedAmount : Option UInt32 := none
  rememberedName : Option String := none
  extraTurns : List PlayerId := []
  extraCombatPhases : UInt8 := 0
  sacrificedForCost : Option CardId := none
  lastSacrificedToughness : Option Int32 := none
  isShadowGame : Bool := false
  isCommanderGame : Bool := false
  spellTargets : List (CardId × List CardId) := []
  pendingLibraryReorders : List (PlayerId × Nat) := []
  currentSpellController : Option PlayerId := none
  currentDamageSource : Option CardId := none
  damageDealtBySource : Option Int32 := none

namespace GameState

/-- `cards.try_get`. -/
def card? (game : GameState) (id : CardId) : Option Card :=
  game.cards.tryGet id.raw

/-- Write to a card through `cards.get_mut`, if it exists. -/
def modifyCard (game : GameState) (id : CardId) (f : Card → Card) :
    GameState :=
  { game with cards := game.cards.modify id.raw f }

/-- `get_player`: the first player with this id. -/
def getPlayer (game : GameState) (id : PlayerId) : Option Player :=
  game.players.find? fun player => player.id == id

/-- Change the first player with this id. -/
def modifyPlayer (game : GameState) (id : PlayerId) (f : Player → Player) :
    GameState :=
  { game with
    players := FirstMatch.modifyFirst (fun player => player.id == id) f
      game.players }

def incrementManaVersion (game : GameState) : GameState :=
  { game with manaStateVersion := game.manaStateVersion + 1 }

/-- Write one message to the log. -/
def message (game : GameState) : GameState :=
  { game with logger := game.logger.message }

def turnSeparator (game : GameState) : GameState :=
  { game with logger := game.logger.turnSeparator }

/-- Log an action under the given log size. -/
def logAction (game : GameState) (action : GameAction)
    (priorLogSize : Nat) : GameState :=
  { game with undoLog := game.undoLog.log action priorLogSize }

def mapCaches (game : GameState) (f : ManaSourceCache → ManaSourceCache) :
    GameState :=
  { game with
    manaCaches := game.manaCaches.map fun entry => (entry.1, f entry.2) }

end GameState

end DeepScry
