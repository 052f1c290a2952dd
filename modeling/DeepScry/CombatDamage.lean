/-
Combat damage of one step: the damage assignment of attackers with several
blockers, then what each attacker and its blockers deal.  The running maps of
the step are kept as the list of what was added to them.
-/
import DeepScry.CombatMaps
import DeepScry.Prevention
import DeepScry.Undo

namespace DeepScry

open SortedMap

namespace CombatState

def getBlockers (combat : CombatState) (attacker : CardId) : List CardId :=
  (lookup combat.attackerBlockers attacker).getD []

def isBlocked (combat : CombatState) (attacker : CardId) : Bool :=
  !(combat.getBlockers attacker).isEmpty

def getDefendingPlayer (combat : CombatState) (attacker : CardId) :
    Option PlayerId :=
  lookup combat.attackers attacker

/-- `attackers_iter`. -/
def attackerIds (combat : CombatState) : List CardId :=
  combat.attackers.map Prod.fst

end CombatState

/-- A controller by its answers to the two questions of a damage
assignment.  No question is asked twice in a step. -/
structure DamageController where
  playerId : PlayerId
  chooseBlockerForLethalDamage :
    GameState → CardId → List (CardId × Int32) → Int32 → ChoiceResult CardId
  chooseBlockerForRemainingDamage :
    GameState → CardId → List CardId → Int32 → ChoiceResult CardId

/-- Blockers with the damage assigned to them. -/
abbrev Assignment := List (CardId × Int32)

/-- The assignments of the attackers with several blockers. -/
abbrev DamageAssignmentPlan := List (CardId × Assignment)

/-- `truncate_to`. -/
def GameLogger.truncateTo (logger : GameLogger) (size : Nat) : GameLogger :=
  { logger with logCount := min logger.logCount size }

namespace GameState

/-- Undo up to the newest choice of the player, which goes from the log too:
how many actions were undone besides the choices, and the log size of the
choice.  `fuel` is the height of the log. -/
def undoUntilChoice (player : PlayerId) :
    Nat → Nat → GameState → Option (Nat × Nat) × GameState
  | 0, _, game => (none, game)
  | fuel + 1, actionsUndone, game =>
      match game.undoLog.pop with
      | none => (none, game)
      | some ((.choicePoint owner _ _, priorLogSize), rest) =>
          if owner = player then
            (some (actionsUndone, priorLogSize), { game with undoLog := rest })
          else
            undoUntilChoice player fuel actionsUndone
              { game with undoLog := rest }
      | some ((action, priorLogSize), rest) =>
          let (undone, _) := action.undo { game with undoLog := rest }
          undoUntilChoice player fuel (actionsUndone + 1)
            { undone with logger := undone.logger.truncateTo priorLogSize }

/-- `undo_to_previous_choice_point`: the number of actions undone, and the size
to cut the messages to. -/
def undoToPreviousChoicePoint (game : GameState) (player : PlayerId) :
    Option (Nat × Nat) × GameState :=
  let isOwn : GameAction → Bool
    | .choicePoint owner _ _ => owner == player
    | _ => false
  if game.undoLog.actions.any isOwn then
    let (found, undone) :=
      undoUntilChoice player game.undoLog.actions.length 0 game
    (found, (undone.mapCaches ManaSourceCache.markDirty).incrementManaVersion)
  else (none, game)

/-- Cut the messages back to a size, if there is one. -/
def truncateLogger : Option Nat × GameState → GameState
  | (some size, game) =>
      { game with logger := game.logger.truncateTo size }
  | (none, game) => game

/-- `usize::MAX` asks for the previous choice point. -/
def handleUndoRequest (game : GameState) (player : PlayerId) (n : Nat) :
    GameState :=
  if n = 2 ^ 64 - 1 then
    truncateLogger
      ((game.undoToPreviousChoicePoint player).map
        (Option.map Prod.snd) id)
  else n.repeat (fun game => truncateLogger game.undo) game

section Effects

variable (effects : StaticEffects)

/-- Effective power, or the current power where it cannot be computed. -/
def combatPower (game : GameState) (id : CardId) (card : Card) : Int32 :=
  (game.getEffectivePower effects id).getD card.currentPower.toInt32

/-- Effective toughness, or the current toughness where it cannot be
computed. -/
def combatToughness (game : GameState) (id : CardId) (card : Card) : Int32 :=
  (game.getEffectiveToughness effects id).getD card.currentToughness.toInt32

/-- No damage is lethal for an indestructible blocker. -/
def calculateLethalDamage (game : GameState) (blocker : CardId)
    (attackerHasDeathtouch : Bool) : Option Int32 :=
  match game.getCard blocker with
  | none => none
  | some card =>
      if game.hasKeywordWithEffects effects blocker .indestructible then none
      else
        let toughness := (game.getEffectiveToughness effects blocker).getD
          card.currentToughness.toInt32
        if toughness ≤ 0 then none
        else if attackerHasDeathtouch then some 1
        else some toughness

end Effects

end GameState

namespace DamageAssignment

/-- Smaller lethal damage first, then the smaller id. -/
def Before (entry entry' : CardId × Option Int32) : Prop :=
  entry.2.getD Int32.maxValue < entry'.2.getD Int32.maxValue ∨
    entry.2.getD Int32.maxValue = entry'.2.getD Int32.maxValue ∧
      entry.1 ≤ entry'.1

instance (entry entry' : CardId × Option Int32) :
    Decidable (Before entry entry') :=
  inferInstanceAs (Decidable (_ ∨ _))

/-- What all lethal damages come to, in an `i32`. -/
def totalLethalNeeded (blockers : List (CardId × Option Int32)) : Int32 :=
  (blockers.filterMap Prod.snd).foldl (· + ·) 0

/-- Lethal damage to one blocker after the other; also what remains. -/
def assignInOrder : Int32 → List (CardId × Option Int32) → Assignment × Int32
  | remaining, [] => ([], remaining)
  | remaining, (_, none) :: rest => assignInOrder remaining rest
  | remaining, (blocker, some lethal) :: rest =>
      let damage := min remaining lethal
      let (assigned, left) := assignInOrder (remaining - damage) rest
      ((blocker, damage) :: assigned, left)

/-- Put what remains onto the last blocker. -/
def addToLast (extra : Int32) : Assignment → Assignment
  | [] => []
  | [(blocker, damage)] => [(blocker, damage + extra)]
  | entry :: rest => entry :: addToLast extra rest

/-- Every killable blocker is killed, and no choice is left. -/
def assignAll (totalPower : Int32) (hasTrample : Bool)
    (blockers : List (CardId × Option Int32)) : Assignment :=
  let (assigned, remaining) :=
    assignInOrder totalPower (blockers.insertionSort Before)
  if !hasTrample && 0 < remaining then addToLast remaining assigned
  else assigned

/-- The blockers that the remaining power can kill. -/
def killableWith (remaining : Int32)
    (blockers : List (CardId × Option Int32)) : Assignment :=
  blockers.filterMap fun entry =>
    match entry.2 with
    | some lethal => if lethal ≤ remaining then some (entry.1, lethal) else none
    | none => none

/-- Take a blocker off the list. -/
def without (blockers : List (CardId × Option Int32)) (blocker : CardId) :
    List (CardId × Option Int32) :=
  blockers.filter fun entry => entry.1 != blocker

theorem mem_of_mem_killableWith {remaining : Int32}
    {blockers : List (CardId × Option Int32)} {blocker : CardId}
    {lethal : Int32} (hmem : (blocker, lethal) ∈ killableWith remaining blockers) :
    (blocker, some lethal) ∈ blockers ∧ lethal ≤ remaining := by
  obtain ⟨entry, hentry, hkill⟩ := List.mem_filterMap.mp hmem
  obtain ⟨id, need⟩ := entry
  cases need with
  | none => cases hkill
  | some need =>
      simp only at hkill
      split at hkill
      · next hle =>
        cases hkill
        exact ⟨hentry, hle⟩
      · cases hkill

/-- A choice shortens the list. -/
theorem length_without_lt {blockers : List (CardId × Option Int32)}
    {blocker : CardId} {need : Option Int32}
    (hmem : (blocker, need) ∈ blockers) :
    (without blockers blocker).length < blockers.length := by
  apply List.length_filter_lt_length_iff_exists.mpr
  exact ⟨_, hmem, by simp⟩

theorem length_without_of_killable {remaining : Int32}
    {blockers : List (CardId × Option Int32)} {blocker : CardId}
    {lethal : Int32}
    (hmem : (blocker, lethal) ∈ killableWith remaining blockers) :
    (without blockers blocker).length < blockers.length :=
  length_without_lt (mem_of_mem_killableWith hmem).1

/-- The blocker that an answer names is one of the options. -/
theorem mem_of_find {killable : Assignment} {blocker chosen : CardId}
    {lethal : Int32}
    (hchosen : (killable.find? fun entry => entry.1 == blocker) =
      some (chosen, lethal)) : (blocker, lethal) ∈ killable := by
  have hsame : chosen = blocker := by simpa using List.find?_some hchosen
  rw [← hsame]
  exact List.mem_of_find?_eq_some hchosen

end DamageAssignment

namespace GameState

open DamageAssignment

/-- An answer of the controller; one that picks no card ends the
assignment. -/
def withAnswer (game : GameState) (owner : PlayerId)
    (answer : ChoiceResult CardId) (next : CardId → Outcome Assignment) :
    Outcome Assignment :=
  match answer with
  | .ok id => next id
  | .undoRequest n => .ok (game.handleUndoRequest owner n) []
  | .exitGame => .error game (.invalidAction "Game exit requested")
  | .error message =>
      .error game (.invalidAction ("Controller error: " ++ message))
  | .needInput => .error game .needInput

/-- Kill one blocker after the other, as the controller chooses.  An answer
that was not offered is asked for again, so a controller that insists on it
never gets out of the loop. -/
def chooseAssignment (game : GameState) (controller : DamageController)
    (attacker : CardId) (owner : PlayerId) (hasTrample : Bool)
    (remaining : Int32) (blockers : List (CardId × Option Int32))
    (result : Assignment) : Outcome Assignment :=
  if remaining ≤ 0 then .ok game result
  else
    match _hkillable : killableWith remaining blockers with
    | [] =>
        if blockers.isEmpty || hasTrample then .ok game result
        else
          game.withAnswer owner
            (controller.chooseBlockerForRemainingDamage game attacker
              (blockers.map Prod.fst) remaining)
            fun blocker => .ok game (result ++ [(blocker, remaining)])
    | [(blocker, lethal)] =>
        game.chooseAssignment controller attacker owner hasTrample
          (remaining - lethal) (without blockers blocker)
          (result ++ [(blocker, lethal)])
    | first :: second :: others =>
        game.withAnswer owner
          (controller.chooseBlockerForLethalDamage game attacker
            (first :: second :: others) remaining)
          fun blocker =>
            match _hchosen : (first :: second :: others).find?
                fun entry => entry.1 == blocker with
            | some (_chosen, lethal) =>
                game.chooseAssignment controller attacker owner hasTrample
                  (remaining - lethal) (without blockers blocker)
                  (result ++ [(blocker, lethal)])
            | none => none
termination_by blockers.length
decreasing_by
  · exact length_without_of_killable
      (_hkillable ▸ List.mem_singleton_self _)
  · exact length_without_of_killable (_hkillable ▸ mem_of_find _hchosen)

section Effects

variable (effects : StaticEffects)

/-- `smart_damage_assignment`. -/
def smartDamageAssignment (game : GameState) (attacker : CardId)
    (blockers : List CardId) (controller : DamageController) :
    Outcome Assignment :=
  match game.getCard attacker with
  | none => .error game (.entityNotFound attacker.raw)
  | some card =>
      let hasDeathtouch :=
        game.hasKeywordWithEffects effects attacker .deathtouch
      let hasTrample := game.hasKeywordWithEffects effects attacker .trample
      let totalPower := game.combatPower effects attacker card
      let blockerInfo := blockers.map fun id =>
        (id, game.calculateLethalDamage effects id hasDeathtouch)
      if totalLethalNeeded blockerInfo ≤ totalPower then
        .ok game (assignAll totalPower hasTrample blockerInfo)
      else
        game.chooseAssignment controller attacker card.owner hasTrample
          totalPower blockerInfo []

/-- The first pass: an assignment for each attacker with several blockers. -/
def planDamage (attackerController blockerController : DamageController) :
    GameState → List CardId → Outcome DamageAssignmentPlan
  | game, [] => .ok game []
  | game, attacker :: rest =>
      let blockers := game.combat.getBlockers attacker
      if 1 < blockers.length then
        match game.getCard attacker with
        | none => .error game (.entityNotFound attacker.raw)
        | some card =>
            let controller :=
              if card.owner = attackerController.playerId then
                attackerController
              else blockerController
            (game.smartDamageAssignment effects attacker blockers
              controller).andThen fun game assignment =>
                (planDamage attackerController blockerController game
                  rest).andThen fun game plan =>
                    .ok game (if assignment.isEmpty then plan
                      else (attacker, assignment) :: plan)
      else planDamage attackerController blockerController game rest

end Effects

end GameState

end DeepScry
