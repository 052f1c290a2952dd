/-
Players, and the turn and combat records that the undo log restores.
-/
import DeepScry.Mana
import DeepScry.Types

namespace DeepScry

inductive DamageSourceFilter where
  | color (color : Color)
  | specificSource (source : CardId)
  | coloredSource (color : Color) (source : CardId)
deriving DecidableEq

inductive PreventionScope where
  | allThisTurn
  | nextEvent
  | nextPoints (points : UInt32)
deriving DecidableEq

structure DamagePreventionShield where
  source : DamageSourceFilter
  scope : PreventionScope
deriving DecidableEq

structure Player where
  id : PlayerId
  life : Int32 := 20
  manaPool : ManaPool := {}
  combatManaPool : Option ManaPool := none
  hasLost : Bool := false
  landsPlayedThisTurn : UInt8 := 0
  maxHandSize : Nat := 7
  cardsDrawnThisTurn : UInt8 := 0
  commanderCastCount : UInt8 := 0
  commanderDamageTaken : List (PlayerId × UInt16) := []
  damagePrevention : Int32 := 0
  sourcePreventionShields : List DamagePreventionShield := []
  spellsCastThisTurn : UInt8 := 0
  skipUntapNextTurn : Bool := false
  islandSanctuaryProtected : Bool := false
  hadCreatureCounteredThisTurn : Bool := false
  cantCastSpells : Bool := false
deriving DecidableEq

/-- `lose_life`: dropping to zero or below loses the game. -/
def Player.loseLife (player : Player) (amount : Int32) : Player :=
  { player with
    life := player.life - amount
    hasLost := player.hasLost || player.life - amount ≤ 0 }

/-- Combat as it stands; each map is the list of its entries in key order. -/
structure CombatState where
  attackers : List (CardId × PlayerId) := []
  blockers : List (CardId × List CardId) := []
  attackerBlockers : List (CardId × List CardId) := []
  combatActive : Bool := false
deriving DecidableEq

namespace CombatState

def clear : CombatState := {}

def undoDeclareAttacker (combat : CombatState) (attacker : CardId)
    (prevCombatActive : Bool) : CombatState :=
  { combat with
    attackers := combat.attackers.filter fun entry => entry.1 != attacker
    combatActive := prevCombatActive }

/-- Take the blocker off one attacker; an entry left empty goes. -/
def unblock (blocker : CardId) (attackerBlockers : List (CardId × List CardId))
    (attacker : CardId) : List (CardId × List CardId) :=
  attackerBlockers.filterMap fun entry =>
    if entry.1 == attacker then
      let rest := entry.2.filter fun other => other != blocker
      if rest.isEmpty then none else some (entry.1, rest)
    else some entry

def undoDeclareBlocker (combat : CombatState) (blocker : CardId)
    (attackers : List CardId) : CombatState :=
  { combat with
    blockers := combat.blockers.filter fun entry => entry.1 != blocker
    attackerBlockers := attackers.foldl (unblock blocker)
      combat.attackerBlockers }

end CombatState

inductive Step where
  | untap
  | upkeep
  | draw
  | main1
  | beginCombat
  | declareAttackers
  | declareBlockers
  | combatDamage
  | endCombat
  | main2
  | «end»
  | cleanup
deriving DecidableEq

structure TurnStructure where
  turnNumber : UInt32 := 1
  currentStep : Step := .untap
  activePlayer : PlayerId
  priorityPlayer : Option PlayerId := none
  consecutivePasses : UInt8 := 0
deriving DecidableEq

end DeepScry
