/-
What a rewind to the start of the turn leaves on the log and what it hands
back, in terms of the log alone: the prefix up to the last turn change stays,
the actions after it go.
-/
import DeepScry.Undo
import Mathlib.Data.List.DropRight

namespace DeepScry

namespace UndoLog

/-- The prefix up to and including the last turn change. -/
def kept (undoLog : UndoLog) : List GameAction :=
  undoLog.actions.rdropWhile fun action => !action.isChangeTurn

/-- The actions after the last turn change. -/
def afterTurnStart (undoLog : UndoLog) : List GameAction :=
  undoLog.actions.rtakeWhile fun action => !action.isChangeTurn

theorem kept_append (undoLog : UndoLog) :
    undoLog.kept ++ undoLog.afterTurnStart = undoLog.actions :=
  List.rdropWhile_append_rtakeWhile

/-- Popping takes the newest entry off both stacks. -/
theorem pop_eq_some {undoLog rest : UndoLog} {action : GameAction}
    {logSize : Nat} (hpop : undoLog.pop = some ((action, logSize), rest)) :
    undoLog.actions = rest.actions ++ [action] ∧
      undoLog.logSizes = rest.logSizes ++ [logSize] ∧
      rest.enabled = undoLog.enabled ∧
      rest.choicePoints = undoLog.choicePoints := by
  rw [pop] at hpop
  split at hpop
  · next last hlast =>
    cases hpop
    have hne : undoLog.logSizes ≠ [] := by
      intro hnil
      have hsized := undoLog.sized
      rw [hnil] at hsized
      simp [List.eq_nil_of_length_eq_zero hsized.symm] at hlast
    refine ⟨?_, ?_, rfl, rfl⟩
    · exact (List.dropLast_append_getLast? _ hlast).symm
    · rw [List.getLast?_eq_some_getLast hne]
      exact (List.dropLast_append_getLast hne).symm
  · cases hpop

theorem pop_eq_none {undoLog : UndoLog} (hpop : undoLog.pop = none) :
    undoLog.actions = [] := by
  rw [pop] at hpop
  split at hpop
  · cases hpop
  · next hlast => exact List.getLast?_eq_none_iff.mp hlast

/-- What one more action on the log does to the two parts. -/
theorem kept_of_pop {undoLog rest : UndoLog} {action : GameAction}
    {logSize : Nat} (hpop : undoLog.pop = some ((action, logSize), rest)) :
    (action.isChangeTurn = true →
      undoLog.kept = undoLog.actions ∧ undoLog.afterTurnStart = []) ∧
    (action.isChangeTurn = false →
      undoLog.kept = rest.kept ∧
        undoLog.afterTurnStart = rest.afterTurnStart ++ [action]) := by
  obtain ⟨hactions, -⟩ := pop_eq_some hpop
  constructor
  · intro hturn
    constructor
    · rw [kept, hactions, List.rdropWhile_concat_neg]
      simp [hturn]
    · rw [afterTurnStart, hactions, List.rtakeWhile_concat_neg]
      simp [hturn]
  · intro hother
    constructor
    · rw [kept, hactions, List.rdropWhile_concat_pos]
      · rfl
      · simp [hother]
    · rw [afterTurnStart, hactions, List.rtakeWhile_concat_pos]
      · rfl
      · simp [hother]

theorem kept_length_le (undoLog : UndoLog) :
    undoLog.kept.length ≤ undoLog.actions.length :=
  (List.rdropWhile_prefix _ _).length_le

/-- The log size recorded with the last turn change, or zero. -/
def boundaryLogSize (undoLog : UndoLog) : Nat :=
  (undoLog.logSizes.take undoLog.kept.length).getLast?.getD 0

end UndoLog

/-- What the loop has done when it stops, in terms of the log it started on. -/
structure RewindLoop.Finished (start done : RewindLoop) : Prop where
  actions : done.log.actions = start.log.kept
  logSizes : done.log.logSizes =
    start.log.logSizes.take start.log.kept.length
  enabled : done.log.enabled = start.log.enabled
  choicePoints : done.log.choicePoints = start.log.choicePoints
  choices : done.choicesReversed = start.choicesReversed ++
    (start.log.afterTurnStart.filter GameAction.isChoicePoint).reverse
  rewound : done.actionsRewound =
    start.actionsRewound + start.log.afterTurnStart.length
  turnNumber : done.turnNumber =
    (start.log.kept.getLast?.bind GameAction.turnNumber?).or start.turnNumber
  boundary : done.logSizeAtTurnBoundary =
    if start.log.kept.isEmpty then start.logSizeAtTurnBoundary
    else start.log.boundaryLogSize

namespace RewindLoop

/-- An action that is undone or collected leaves the rest to the loop. -/
theorem Finished.of_pop {start next done : RewindLoop} {action : GameAction}
    {logSize : Nat}
    (hpop : start.log.pop = some ((action, logSize), next.log))
    (hother : action.isChangeTurn = false)
    (hchoices : next.choicesReversed = start.choicesReversed ++
      [action].filter GameAction.isChoicePoint)
    (hrewound : next.actionsRewound = start.actionsRewound + 1)
    (hturn : next.turnNumber = start.turnNumber)
    (hboundary : next.logSizeAtTurnBoundary = start.logSizeAtTurnBoundary)
    (hdone : next.Finished done) : start.Finished done := by
  obtain ⟨hactions, hsizes, henabled, hpoints⟩ := UndoLog.pop_eq_some hpop
  obtain ⟨hkept, hafter⟩ := (UndoLog.kept_of_pop hpop).2 hother
  have htake : start.log.logSizes.take start.log.kept.length =
      next.log.logSizes.take next.log.kept.length := by
    rw [hkept, hsizes, List.take_append_of_le_length]
    rw [next.log.sized]
    exact next.log.kept_length_le
  refine ⟨?_, ?_, ?_, ?_, ?_, ?_, ?_, ?_⟩
  · rw [hdone.actions, hkept]
  · rw [hdone.logSizes, htake]
  · rw [hdone.enabled, henabled]
  · rw [hdone.choicePoints, hpoints]
  · rw [hdone.choices, hchoices, hafter, List.filter_append,
      List.reverse_append, ← List.append_assoc]
    cases hchoice : action.isChoicePoint <;> simp [hchoice]
  · rw [hdone.rewound, hrewound, hafter, List.length_append]
    simp only [List.length_singleton]
    omega
  · rw [hdone.turnNumber, hturn, hkept]
  · rw [hdone.boundary, hboundary, hkept, UndoLog.boundaryLogSize, ← htake]
    rfl

/-- With nothing left to pop the loop has already finished. -/
theorem finished_of_pop_eq_none {loop : RewindLoop}
    (hpop : loop.log.pop = none) : loop.Finished loop := by
  have hactions := UndoLog.pop_eq_none hpop
  have hsizes : loop.log.logSizes = [] :=
    List.eq_nil_of_length_eq_zero (by rw [loop.log.sized, hactions]; rfl)
  have hkept : loop.log.kept = [] := by simp [UndoLog.kept, hactions]
  have hafter : loop.log.afterTurnStart = [] := by
    simp [UndoLog.afterTurnStart, hactions]
  refine ⟨?_, ?_, rfl, rfl, ?_, ?_, ?_, ?_⟩
  · rw [hactions, hkept]
  · rw [hsizes, List.take_nil]
  · simp [hafter]
  · simp [hafter]
  · simp [hkept]
  · simp [hkept]

/-- A turn change goes back on the log and ends the loop. -/
theorem finished_of_changeTurn {loop : RewindLoop} {action : GameAction}
    {logSize : Nat} {rest : UndoLog} {turnNumber : UInt32}
    (hpop : loop.log.pop = some ((action, logSize), rest))
    (hturn : action.turnNumber? = some turnNumber) :
    loop.Finished
      { loop with
        log := rest.pushBack action logSize
        turnNumber := some turnNumber
        actionsRewound := loop.actionsRewound + 1 - 1
        logSizeAtTurnBoundary := logSize } := by
  obtain ⟨hactions, hsizes, henabled, hpoints⟩ := UndoLog.pop_eq_some hpop
  have hchange : action.isChangeTurn = true := by
    rw [GameAction.isChangeTurn, hturn]
    rfl
  obtain ⟨hkept, hafter⟩ := (UndoLog.kept_of_pop hpop).1 hchange
  have hwhole : loop.log.logSizes.take loop.log.kept.length =
      loop.log.logSizes := by
    rw [hkept, ← loop.log.sized, List.take_length]
  refine ⟨?_, ?_, henabled, hpoints, ?_, ?_, ?_, ?_⟩
  · rw [hkept, hactions]
    rfl
  · rw [hwhole, hsizes]
    rfl
  · simp [hafter]
  · simp [hafter]
  · simp [hkept, hactions, hturn]
  · rw [UndoLog.boundaryLogSize, hwhole, hkept, hactions, hsizes]
    simp

theorem run_finished (start : RewindLoop) : start.Finished start.run := by
  induction start using RewindLoop.run.induct with
  | case1 loop hpop =>
      have hrun : loop.run = loop := by
        rw [run]
        split
        · rfl
        · next hsome => simp [hpop] at hsome
      rw [hrun]
      exact finished_of_pop_eq_none hpop
  | case2 loop action logSize rest hpop turnNumber hturn =>
      rw [run]
      split
      · next hnone => simp [hpop] at hnone
      · next hsome =>
        rw [hpop] at hsome
        cases hsome
        rw [hturn]
        exact finished_of_changeTurn hpop hturn
  | case3 loop action logSize rest hpop hturn ih =>
      have hrun : loop.run = (loop.rewindAction action rest).run := by
        rw [run]
        split
        · next hnone => simp [hpop] at hnone
        · next hsome =>
          rw [hpop] at hsome
          cases hsome
          rw [hturn]
      have hother : action.isChangeTurn = false := by
        rw [GameAction.isChangeTurn, hturn]
        rfl
      have hpop' : loop.log.pop =
          some ((action, logSize), (loop.rewindAction action rest).log) := by
        rw [rewindAction_log, hpop]
      rw [hrun]
      apply ih.of_pop hpop' hother
      · cases action with
        | choicePoint player id choice => rfl
        | _ => exact (List.append_nil _).symm
      · cases action <;> rfl
      · cases action <;> rfl
      · cases action <;> rfl

end RewindLoop

namespace UndoLog

/-- What is kept is kept again. -/
theorem kept_idempotent {undoLog rewound : UndoLog}
    (hactions : rewound.actions = undoLog.kept) :
    rewound.kept = rewound.actions ∧ rewound.afterTurnStart = [] := by
  have hkept : rewound.kept = rewound.actions := by
    rw [kept, hactions, kept, List.rdropWhile_idempotent]
  refine ⟨hkept, ?_⟩
  have happend := rewound.kept_append
  rw [hkept] at happend
  exact List.append_right_eq_self.mp happend

/-- A rewind keeps the log up to its last turn change, returns the choices
after it in the order they were made, the number of actions it removed, and
the turn and log size of the boundary; a second rewind finds nothing more. -/
theorem rewindToTurnStart_spec {undoLog : UndoLog}
    (henabled : undoLog.enabled = true) (game : GameState) :
    ∃ result rewound game', undoLog.rewindToTurnStart game =
        (some result, rewound, game') ∧
      rewound.actions = undoLog.kept ∧
      rewound.logSizes = undoLog.logSizes.take undoLog.kept.length ∧
      rewound.logSizes.length = rewound.actions.length ∧
      result.choices =
        undoLog.afterTurnStart.filter GameAction.isChoicePoint ∧
      result.actionsRewound = undoLog.afterTurnStart.length ∧
      result.turnNumber =
        (undoLog.kept.getLast?.bind GameAction.turnNumber?).getD 1 ∧
      result.logSizeAtTurnBoundary = undoLog.boundaryLogSize ∧
      ∀ again, ∃ result' game'', rewound.rewindToTurnStart again =
          (some result', rewound, game'') ∧
        result'.choices = [] ∧ result'.actionsRewound = 0 := by
  have hdone := RewindLoop.run_finished { log := undoLog, game := game }
  rw [rewindToTurnStart, if_pos henabled]
  refine ⟨_, _, _, rfl, hdone.actions, hdone.logSizes,
    (RewindLoop.run _).log.sized, ?_, ?_, ?_, ?_, fun again => ?_⟩
  · simp [hdone.choices]
  · simp [hdone.rewound]
  · simp [hdone.turnNumber]
  · rw [hdone.boundary]
    split
    · next hnil => simp [boundaryLogSize, List.isEmpty_iff.mp hnil]
    · rfl
  · -- The second rewind starts on a log that ends with the turn change.
    obtain ⟨hkept, hafter⟩ := kept_idempotent hdone.actions
    have hagain := RewindLoop.run_finished
      { log := (RewindLoop.run { log := undoLog, game := game }).log
        game := again }
    have hsame : (RewindLoop.run
        { log := (RewindLoop.run { log := undoLog, game := game }).log
          game := again }).log =
        (RewindLoop.run { log := undoLog, game := game }).log := by
      ext1
      · rw [hagain.actions, hkept]
      · exact hagain.enabled
      · exact hagain.choicePoints
      · rw [hagain.logSizes, hkept, ← UndoLog.sized, List.take_length]
    rw [rewindToTurnStart, if_pos (hdone.enabled.trans henabled)]
    refine ⟨_, _, Prod.ext rfl (Prod.ext hsame rfl), ?_, ?_⟩
    · simp [hagain.choices, hafter]
    · simp [hagain.rewound, hafter]

/-- A choice in turn one, a turn change, then a tap and another choice. -/
def secondTurnLog : UndoLog where
  actions := [.choicePoint ⟨0⟩ 1 none, .changeTurn ⟨0⟩ ⟨1⟩ 2 none,
    .tapCard ⟨7⟩ true, .choicePoint ⟨1⟩ 2 none]
  logSizes := [3, 5, 5, 8]

theorem rewindToTurnStart_spec_secondTurn :
    ∃ result rewound game', secondTurnLog.rewindToTurnStart
        { turn := { activePlayer := ⟨1⟩ } } = (some result, rewound, game') ∧
      rewound.logSizes = [3, 5] ∧
      result.choices = [.choicePoint ⟨1⟩ 2 none] ∧
      result.actionsRewound = 2 ∧ result.turnNumber = 2 ∧
      result.logSizeAtTurnBoundary = 5 := by
  have henabled : secondTurnLog.enabled = true := rfl
  obtain ⟨result, rewound, game', heq, -, hsizes, -, hchoices, hcount, hturn,
    hboundary, -⟩ := rewindToTurnStart_spec henabled
      { turn := { activePlayer := ⟨1⟩ } }
  exact ⟨result, rewound, game', heq, hsizes, hchoices, hcount, hturn,
    hboundary⟩

end UndoLog

end DeepScry
