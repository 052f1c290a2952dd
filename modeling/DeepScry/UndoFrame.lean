/-
What the undo of an action reads and writes: never the log, and on the cards,
players, zones and persistent effects only these themselves.  So the undo of a
stretch of the log can be followed there alone.
-/
import DeepScry.Rewind

namespace DeepScry

/-- The parts of a game that the undo of a move restores. -/
@[ext]
structure Tableau where
  cards : EntityStore Card
  players : List Player
  zones : Zones
  persistentEffects : PersistentEffectStore

def GameState.tableau (game : GameState) : Tableau :=
  ⟨game.cards, game.players, game.zones, game.persistentEffects⟩

namespace GameAction

open GameState

theorem undo_undoLog (action : GameAction) (game : GameState) :
    (action.undo game).1.undoLog = game.undoLog := by
  cases action <;>
    simp only [undo, undoCard, undoPlayer, undoRng, undoMove, undoReveal,
      modifyCard, modifyPlayer, incrementManaVersion] <;>
    repeat' (first | rfl | split)

/-- Equal tableaux are undone to equal tableaux. -/
theorem undo_tableau (action : GameAction) {game other : GameState}
    (heq : game.tableau = other.tableau) :
    (action.undo game).1.tableau = (action.undo other).1.tableau := by
  cases game
  cases other
  simp only [tableau, Tableau.mk.injEq] at heq
  obtain ⟨rfl, rfl, rfl, rfl⟩ := heq
  cases action <;>
    simp only [undo, undoCard, undoPlayer, undoRng, undoMove, undoReveal,
      modifyCard, modifyPlayer, incrementManaVersion, card?, getPlayer] <;>
    repeat' (first | rfl | split)

end GameAction

namespace GameState

/-- Undo a list of actions, the newest last in the list and first to go. -/
def undoAll (actions : List GameAction) (game : GameState) : GameState :=
  actions.foldr (fun action game => (action.undo game).1) game

@[simp]
theorem undoAll_nil (game : GameState) : undoAll [] game = game := rfl

@[simp]
theorem undoAll_cons (action : GameAction) (actions : List GameAction)
    (game : GameState) :
    undoAll (action :: actions) game = (action.undo (undoAll actions game)).1 :=
  rfl

theorem undoAll_append (older newer : List GameAction) (game : GameState) :
    undoAll (older ++ newer) game = undoAll older (undoAll newer game) :=
  List.foldr_append

theorem undoAll_tableau (actions : List GameAction) {game other : GameState}
    (heq : game.tableau = other.tableau) :
    (undoAll actions game).tableau = (undoAll actions other).tableau := by
  induction actions with
  | nil => exact heq
  | cons action rest ih => exact action.undo_tableau ih

/-- Undo until the log is as long as it was at some moment. -/
def undoTo (game : GameState) (height : Nat) : GameState :=
  (fun game => game.undo.2)^[game.undoLog.actions.length - height] game

/-- One undo takes the newest action off the log and undoes it. -/
theorem undo_of_log_append {game : GameState} {older : List GameAction}
    {action : GameAction}
    (hlog : game.undoLog.actions = older ++ [action]) :
    game.undo.2.undoLog.actions = older ∧
      game.undo.2.tableau = (action.undo game).1.tableau := by
  cases hpop : game.undoLog.pop with
  | none =>
      have hnil := UndoLog.pop_eq_none hpop
      rw [hlog] at hnil
      simp at hnil
  | some popped =>
      obtain ⟨⟨top, logSize⟩, rest⟩ := popped
      obtain ⟨hactions, -⟩ := UndoLog.pop_eq_some hpop
      rw [hlog, List.append_singleton_inj] at hactions
      obtain ⟨rfl, rfl⟩ := hactions
      obtain ⟨manaCaches, spellTargets, hundo⟩ := undo_of_pop hpop
      constructor
      · rw [hundo]
        change (action.undo { game with undoLog := rest }).1.undoLog.actions = _
        rw [action.undo_undoLog]
      · rw [hundo]
        exact action.undo_tableau rfl

/-- Undoing back to an earlier height undoes the actions logged since. -/
theorem undoTo_tableau {game : GameState} {older actions : List GameAction}
    (hlog : game.undoLog.actions = older ++ actions) :
    (game.undoTo older.length).undoLog.actions = older ∧
      (game.undoTo older.length).tableau = (undoAll actions game).tableau := by
  have hheight : game.undoLog.actions.length - older.length =
      actions.length := by
    rw [hlog, List.length_append, Nat.add_sub_cancel_left]
  rw [undoTo, hheight]
  clear hheight
  induction actions using List.reverseRecOn generalizing game with
  | nil => exact ⟨by simpa using hlog, rfl⟩
  | append_singleton actions action ih =>
      rw [← List.append_assoc] at hlog
      obtain ⟨hrest, htableau⟩ := undo_of_log_append hlog
      rw [List.length_append, List.length_singleton, Function.iterate_succ,
        Function.comp_apply, undoAll_append]
      obtain ⟨hdone, hundone⟩ := ih hrest
      exact ⟨hdone, hundone.trans (undoAll_tableau actions htableau)⟩

end GameState

end DeepScry
