/-
The undo of an advance to the next step.  It is exact within a turn, as long as
the end of the turn has nothing to clean up.
-/
import DeepScry.MoveStages
import DeepScry.Turns

namespace DeepScry

/-- The bonuses until end of turn, and the damage. -/
def Card.turnMarks (card : Card) : Int32 × Int32 × Int32 :=
  (card.powerBonus, card.toughnessBonus, card.damage)

theorem UndoLog.pop_log {undoLog : UndoLog} (henabled : undoLog.enabled = true)
    (action : GameAction) (priorLogSize : Nat) :
    (undoLog.log action priorLogSize).pop =
      some ((action, priorLogSize), undoLog) := by
  rw [log, if_pos henabled, pop]
  simp only [List.getLast?_concat, Option.getD_some, List.dropLast_concat]

namespace EntityStore

variable {α : Type}

theorem tryGet_modifyAll (store : EntityStore α) (f : α → α) (id : Nat) :
    (store.modifyAll f).tryGet id = (store.tryGet id).map f := by
  rw [modifyAll, tryGet, List.getElem?_map, tryGet]
  cases store.entities[id]? <;> rfl

end EntityStore

theorem Card.turnMarks_endTurnReset (card : Card) :
    card.endTurnReset.1.turnMarks = (0, 0, 0) := by
  rw [endTurnReset, revertTempAnimation]
  repeat' (first | rfl | split)

namespace GameState

/-- What the undo of an advance has to bring back. -/
structure TurnRestored (undone before : GameState) : Prop where
  activePlayer : undone.turn.activePlayer = before.turn.activePlayer
  turnNumber : undone.turn.turnNumber = before.turn.turnNumber
  currentStep : undone.turn.currentStep = before.turn.currentStep
  extraTurns : undone.extraTurns = before.extraTurns
  extraCombatPhases : undone.extraCombatPhases = before.extraCombatPhases
  rng : undone.rng = before.rng
  landsPlayed : undone.players.map (fun p => (p.id, p.landsPlayedThisTurn)) =
    before.players.map (fun p => (p.id, p.landsPlayedThisTurn))
  cards : SameView Card.turnMarks undone.cards before.cards

/-- When an advance is undone exactly: no permanent has bonuses or damage to
clean up, no extra combat starts, and no turn ends. -/
structure AdvanceUndoable (game : GameState) : Prop where
  cleanup : game.turn.currentStep = .end → ∀ id ∈ game.zones.battlefield,
    ∀ card, game.card? id = some card → card.turnMarks = (0, 0, 0)
  extraCombat : game.turn.currentStep = .endCombat →
    game.extraCombatPhases = 0
  sameTurn : game.turn.currentStep = .cleanup →
    game.extraCombatPhases = 0 ∧ game.extraTurns = [] ∧
      game.getPlayerIdx game.turn.activePlayer = none

section Undo

variable {game : GameState}

theorem undoTo_of_length_eq {height : Nat}
    (hheight : game.undoLog.actions.length = height) :
    game.undoTo height = game := by
  rw [undoTo, hheight, Nat.sub_self]
  rfl

/-- The undo of the one action logged since. -/
theorem undoTo_of_log {after : GameState} {undoLog : UndoLog}
    (henabled : undoLog.enabled = true) {action : GameAction}
    {priorLogSize : Nat}
    (hlog : after.undoLog = undoLog.log action priorLogSize) :
    ∃ manaCaches spellTargets, after.undoTo undoLog.actions.length =
      { (action.undo { after with undoLog := undoLog }).1 with
        manaCaches, spellTargets } := by
  have hpop := UndoLog.pop_log henabled action priorLogSize
  rw [← hlog] at hpop
  have hlength := congrArg List.length (UndoLog.pop_eq_some hpop).1
  rw [List.length_append, List.length_singleton] at hlength
  obtain ⟨manaCaches, spellTargets, hundo⟩ := undo_of_pop hpop
  rw [undoTo, hlength, Nat.add_sub_cancel_left, Function.iterate_one, hundo]
  exact ⟨manaCaches, spellTargets, rfl⟩

/-- The cleanup visits the permanents one by one. -/
theorem cleanupPermanent_foldl (ids : List CardId)
    (state : EntityStore Card × Bool) (i : Nat) :
    ((ids.foldl cleanupPermanent state).1.tryGet i).map Card.turnMarks =
      (state.1.tryGet i).map fun card =>
        if ∃ id ∈ ids, id.raw = i then (0, 0, 0) else card.turnMarks := by
  induction ids generalizing state with
  | nil => simp
  | cons id rest ih =>
      rw [List.foldl_cons, ih, cleanupPermanent]
      cases hcard : state.1.tryGet id.raw with
      | none =>
          simp only [List.exists_mem_cons_iff]
          by_cases hid : id.raw = i
          · simp [← hid, hcard]
          · simp [hid]
      | some card =>
          simp only [List.exists_mem_cons_iff]
          by_cases hid : id.raw = i
          · subst hid
            simp [hcard, Card.turnMarks_endTurnReset]
          · simp [EntityStore.tryGet_modify_ne _ hid, hid]

/-- The cleanup leaves everything but cards and caches alone. -/
theorem cleanupTemporaryEffects_frame (game : GameState) :
    game.cleanupTemporaryEffects =
      { game with
        cards := game.cleanupTemporaryEffects.cards
        manaCaches := game.cleanupTemporaryEffects.manaCaches
        manaStateVersion := game.cleanupTemporaryEffects.manaStateVersion } := by
  simp only [cleanupTemporaryEffects]
  split <;> rfl

theorem cleanupTemporaryEffects_turnMarks (game : GameState) (i : Nat) :
    (game.cleanupTemporaryEffects.cards.tryGet i).map Card.turnMarks =
      (game.cards.tryGet i).map fun card =>
        if ∃ id ∈ game.zones.battlefield, id.raw = i then (0, 0, 0)
        else card.turnMarks := by
  have hcards : game.cleanupTemporaryEffects.cards =
      (game.zones.battlefield.foldl cleanupPermanent
        (game.cards, false)).1.modifyAll fun card =>
          { card.clearTempKeywordsUntilEot with
            exileIfWouldGoToGraveyardThisTurn := false } := by
    simp only [cleanupTemporaryEffects]
    split <;> rfl
  rw [hcards, EntityStore.tryGet_modifyAll, Option.map_map]
  exact cleanupPermanent_foldl _ _ i

/-- The cleanup changes no mark just when no permanent has one. -/
theorem sameView_cleanup_iff :
    SameView Card.turnMarks game.cleanupTemporaryEffects.cards game.cards ↔
      ∀ id ∈ game.zones.battlefield, ∀ card, game.card? id = some card →
        card.turnMarks = (0, 0, 0) := by
  constructor
  · intro hsame id hid card hcard
    have hmarks := hsame id.raw
    rw [cleanupTemporaryEffects_turnMarks, show game.cards.tryGet id.raw =
      some card from hcard, Option.map_some, Option.map_some,
      if_pos ⟨id, hid, rfl⟩] at hmarks
    exact (Option.some.inj hmarks).symm
  · intro hclean i
    rw [cleanupTemporaryEffects_turnMarks]
    cases hcard : game.cards.tryGet i with
    | none => rfl
    | some card =>
        rw [Option.map_some, Option.map_some]
        split
        · next hpermanent =>
          obtain ⟨id, hid, rfl⟩ := hpermanent
          rw [hclean id hid card hcard]
        · rfl

/-- An advance within the turn logs the step it left. -/
theorem advanceWithin_restored {cleaned : GameState} {nextStep : Step}
    (henabled : game.undoLog.enabled = true)
    (hframe : cleaned = { game with
      cards := cleaned.cards
      manaCaches := cleaned.manaCaches
      manaStateVersion := cleaned.manaStateVersion }) :
    (({ cleaned with
        turn := { game.turn with currentStep := nextStep } }.logAction
      (.advanceStep game.turn.currentStep nextStep)
      cleaned.logger.logCount).undoTo game.undoLog.actions.length).TurnRestored
        game ↔
      SameView Card.turnMarks cleaned.cards game.cards := by
  have hlogs : ({ cleaned with
        turn := { game.turn with currentStep := nextStep } }.logAction
      (.advanceStep game.turn.currentStep nextStep)
      cleaned.logger.logCount).undoLog = game.undoLog.log
        (.advanceStep game.turn.currentStep nextStep)
        cleaned.logger.logCount := by
    rw [hframe]
    rfl
  obtain ⟨manaCaches, spellTargets, hundone⟩ := undoTo_of_log henabled hlogs
  rw [hundone]
  constructor
  · intro hrestored
    exact hrestored.cards
  · intro hsame
    rw [hframe]
    exact ⟨rfl, rfl, rfl, rfl, rfl, rfl, rfl, hsame⟩

/-- The state in which the step changes. -/
def cleanedAtEnd (game : GameState) : GameState :=
  if game.turn.currentStep = .end then game.cleanupTemporaryEffects else game

theorem cleanedAtEnd_frame (game : GameState) :
    game.cleanedAtEnd = { game with
      cards := game.cleanedAtEnd.cards
      manaCaches := game.cleanedAtEnd.manaCaches
      manaStateVersion := game.cleanedAtEnd.manaStateVersion } := by
  rw [cleanedAtEnd]
  split
  · exact game.cleanupTemporaryEffects_frame
  · rfl

theorem advanceStep_of_next {nextStep : Step}
    (hnext : game.turn.currentStep.next = some nextStep)
    (hcombat : game.turn.currentStep = .endCombat →
      game.extraCombatPhases = 0) :
    game.advanceStep =
      ({ game.cleanedAtEnd with
          turn := { game.turn with currentStep := nextStep } }.logAction
        (.advanceStep game.turn.currentStep nextStep)
        game.cleanedAtEnd.logger.logCount, .ok ()) := by
  have hend : (game.turn.currentStep = .end ∧
      game.turn.currentStep.next = some .cleanup) =
        (game.turn.currentStep = .end) := by
    apply propext
    constructor
    · exact And.left
    · intro hstep
      exact ⟨hstep, by rw [hstep]; rfl⟩
  have hcleanup : game.turn.currentStep ≠ .cleanup := by
    intro hstep
    rw [hstep] at hnext
    cases hnext
  have hturn : game.cleanedAtEnd.turn = game.turn := by
    rw [game.cleanedAtEnd_frame]
  have hno : ¬(game.turn.currentStep = .endCombat ∧
      0 < game.cleanedAtEnd.extraCombatPhases) := by
    rintro ⟨hstep, hpositive⟩
    rw [game.cleanedAtEnd_frame, hcombat hstep] at hpositive
    exact absurd hpositive (by decide)
  simp only [advanceStep, hend]
  rw [← cleanedAtEnd, if_neg hno, if_neg hcleanup, hturn,
    TurnStructure.advanceStep, hnext]

/-- Back to the beginning of combat without a log entry. -/
theorem advanceStep_extraCombat (hstep : game.turn.currentStep = .endCombat)
    (hpositive : 0 < game.extraCombatPhases) :
    game.advanceStep =
      ({ game with
        extraCombatPhases := game.extraCombatPhases - 1
        turn := { game.turn with currentStep := .beginCombat }
        : GameState }.message, .ok ()) := by
  simp only [advanceStep, hstep, reduceCtorEq, false_and, ↓reduceIte,
    hpositive, and_self]

/-- The end of the turn. -/
theorem advanceStep_cleanup (hstep : game.turn.currentStep = .cleanup) :
    game.advanceStep =
      match { game with extraCombatPhases := 0 : GameState }.takeNextPlayer with
      | (game, .ok nextPlayer) => (game.beginTurn nextPlayer, .ok ())
      | (game, .error e) => (game, .error e) := by
  simp only [advanceStep, hstep, TurnStructure.advanceStep, Step.next,
    reduceCtorEq, false_and, ↓reduceIte] <;> rfl

/-- Undone, the next turn is still in its first step. -/
theorem beginTurn_not_restored {turned : GameState}
    (henabled : game.undoLog.enabled = true)
    (hlog : turned.undoLog = game.undoLog)
    (hstep : game.turn.currentStep = .cleanup) (nextPlayer : PlayerId) :
    ¬((turned.beginTurn nextPlayer).undoTo
      game.undoLog.actions.length).TurnRestored game := by
  intro hrestored
  have hturn : (turned.beginTurn nextPlayer).undoLog = game.undoLog.log _ _ :=
    congrArg (fun undoLog => UndoLog.log undoLog _ _) hlog
  obtain ⟨manaCaches, spellTargets, hundone⟩ := undoTo_of_log henabled hturn
  have huntap := hrestored.currentStep
  rw [hundone, hstep] at huntap
  cases huntap

/-- Among the players there is always a next one. -/
theorem getNextPlayer_of_getPlayerIdx {current : PlayerId} {idx : Nat}
    (hidx : game.getPlayerIdx current = some idx) :
    ∃ next, game.getNextPlayer current = .ok next := by
  have hlt : idx < game.players.length := by
    obtain ⟨hlt, -⟩ := List.findIdx?_eq_some_iff_getElem.mp hidx
    exact hlt
  have hnext : game.getNextPlayerIdx idx < game.players.length :=
    Nat.mod_lt _ (Nat.zero_lt_of_lt hlt)
  rw [getNextPlayer, hidx]
  simp only [List.getElem?_eq_getElem hnext]
  exact ⟨_, rfl⟩

/-- The next player comes from the queue or the order of the players. -/
theorem takeNextPlayer_cases (game : GameState) :
    (∃ taken next, game.takeNextPlayer = (taken, .ok next) ∧
      taken.undoLog = game.undoLog ∧
      ¬(game.extraTurns = [] ∧
        game.getPlayerIdx game.turn.activePlayer = none)) ∨
    ∃ e, game.takeNextPlayer = (game, .error e) ∧ game.extraTurns = [] ∧
      game.getPlayerIdx game.turn.activePlayer = none := by
  rw [takeNextPlayer]
  cases hextra : game.extraTurns with
  | cons player rest =>
      refine Or.inl ⟨_, player, rfl, rfl, ?_⟩
      rintro ⟨hnil, -⟩
      cases hnil
  | nil =>
      cases hidx : game.getPlayerIdx game.turn.activePlayer with
      | some idx =>
          obtain ⟨next, hnext⟩ := getNextPlayer_of_getPlayerIdx hidx
          refine Or.inl ⟨game, next, by rw [hnext], rfl, ?_⟩
          rintro ⟨-, hnone⟩
          cases hnone
      | none =>
          right
          exact ⟨.entityNotFound game.turn.activePlayer.raw,
            by rw [getNextPlayer, hidx], rfl, rfl⟩

/-- A turn that ends is not undone; where the call fails, just the reset of the
extra combats stays. -/
theorem turnEnd_restores_iff (henabled : game.undoLog.enabled = true)
    (hstep : game.turn.currentStep = .cleanup) :
    (game.advanceStep.1.undoTo game.undoLog.actions.length).TurnRestored game ↔
      game.extraCombatPhases = 0 ∧ game.extraTurns = [] ∧
        game.getPlayerIdx game.turn.activePlayer = none := by
  have hnext := takeNextPlayer_cases { game with extraCombatPhases := 0 }
  rw [advanceStep_cleanup hstep]
  rcases hnext with ⟨taken, next, htaken, hlog, hsome⟩ | ⟨e, hfails, hnone⟩
  · rw [htaken]
    constructor
    · intro hrestored
      exact absurd hrestored (beginTurn_not_restored henabled hlog hstep next)
    · rintro ⟨-, hnone⟩
      exact absurd hnone hsome
  · rw [hfails]
    dsimp only
    rw [undoTo_of_length_eq rfl]
    constructor
    · intro hrestored
      exact ⟨hrestored.extraCombatPhases.symm, hnone⟩
    · rintro ⟨hphases, -⟩
      exact ⟨rfl, rfl, rfl, rfl, hphases.symm, rfl, rfl, SameView.refl _⟩

end Undo

/-- The actions that one call of `advance_step` logs, undone, bring the turn
back exactly under `AdvanceUndoable`. -/
theorem advanceStep_restores_iff {game : GameState}
    (henabled : game.undoLog.enabled = true) :
    (game.advanceStep.1.undoTo game.undoLog.actions.length).TurnRestored game ↔
      game.AdvanceUndoable := by
  by_cases hcleanup : game.turn.currentStep = .cleanup
  · rw [turnEnd_restores_iff henabled hcleanup]
    constructor
    · intro hfails
      refine ⟨fun hend => ?_, fun hend => ?_, fun _ => hfails⟩ <;>
        rw [hcleanup] at hend <;> cases hend
    · intro hundoable
      exact hundoable.sameTurn hcleanup
  · obtain ⟨nextStep, hnext⟩ : ∃ next, game.turn.currentStep.next = some next := by
      cases hstep : game.turn.currentStep <;>
        first
        | exact ⟨_, rfl⟩
        | exact absurd hstep hcleanup
    by_cases hcombat : game.turn.currentStep = .endCombat →
        game.extraCombatPhases = 0
    · rw [advanceStep_of_next hnext hcombat,
        advanceWithin_restored henabled game.cleanedAtEnd_frame, cleanedAtEnd]
      constructor
      · intro hsame
        refine ⟨fun hend => ?_, hcombat, fun hlast => absurd hlast hcleanup⟩
        rw [if_pos hend] at hsame
        exact sameView_cleanup_iff.mp hsame
      · intro hundoable
        split
        · next hend => exact sameView_cleanup_iff.mpr (hundoable.cleanup hend)
        · exact SameView.refl _
    · obtain ⟨hstep, hphases⟩ := Classical.not_imp.mp hcombat
      have hpositive : 0 < game.extraCombatPhases :=
        UInt8.pos_iff_ne_zero.mpr hphases
      rw [advanceStep_extraCombat hstep hpositive]
      constructor
      · intro hrestored
        rw [undoTo_of_length_eq (by rfl)] at hrestored
        have hback := hrestored.currentStep
        rw [hstep] at hback
        cases hback
      · intro hundoable
        exact absurd (hundoable.extraCombat hstep) hphases

/-- A turn at some step, with a pumped creature and an extra combat to come. -/
def pumpedAt (step : Step) : GameState where
  cards := ⟨[some
    { id := ⟨0⟩, owner := ⟨0⟩, controller := ⟨0⟩, powerBonus := 3
      toughnessBonus := 3, damage := 1 }]⟩
  players := [{ id := ⟨0⟩, landsPlayedThisTurn := 1 }, { id := ⟨1⟩ }]
  zones := { battlefield := [⟨0⟩] }
  turn := { activePlayer := ⟨0⟩, currentStep := step }
  extraCombatPhases := 1

theorem advanceStep_restored_main1 :
    ((pumpedAt .main1).advanceStep.1.undoTo 0).TurnRestored
      (pumpedAt .main1) := by
  have hiff := advanceStep_restores_iff
    (show (pumpedAt .main1).undoLog.enabled = true from rfl)
  apply hiff.mpr
  refine ⟨fun hstep => ?_, fun hstep => ?_, fun hstep => ?_⟩ <;> cases hstep

/-- The cleanup, the loop back to combat and the turn change each leave
something behind. -/
theorem advanceStep_not_restored :
    ¬((pumpedAt .end).advanceStep.1.undoTo 0).TurnRestored (pumpedAt .end) ∧
    ¬((pumpedAt .endCombat).advanceStep.1.undoTo 0).TurnRestored
      (pumpedAt .endCombat) ∧
    ¬((pumpedAt .cleanup).advanceStep.1.undoTo 0).TurnRestored
      (pumpedAt .cleanup) := by
  refine ⟨fun hrestored => ?_, fun hrestored => ?_, fun hrestored => ?_⟩
  · have hmarks := hrestored.cards 0
    revert hmarks
    decide
  · have hstep := hrestored.currentStep
    cases hstep
  · have hstep := hrestored.currentStep
    cases hstep

end GameState

end DeepScry
