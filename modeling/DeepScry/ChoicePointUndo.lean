/-
The undo to the previous choice of a player: where the log is cut, and that
each action above the cut is taken back once, the newest first.
-/
import DeepScry.CombatDamage
import DeepScry.UndoFrame

namespace DeepScry

/-- A choice point of the player. -/
def GameAction.IsChoiceOf (player : PlayerId) (action : GameAction) : Prop :=
  ∃ choiceId choice, action = .choicePoint player choiceId choice

section WithLog

variable (game : GameState) (undoLog : UndoLog)

theorem GameState.undoCard_withLog (card : CardId) (label : String)
    (f : Card → Card) :
    ({ game with undoLog : GameState }.undoCard card label f).1 =
      { (game.undoCard card label f).1 with undoLog } := by
  simp only [undoCard, card?]
  split <;> rfl

theorem GameState.undoPlayer_withLog (player : PlayerId) (label : String)
    (f : Player → Player) :
    ({ game with undoLog : GameState }.undoPlayer player label f).1 =
      { (game.undoPlayer player label f).1 with undoLog } := by
  simp only [undoPlayer, getPlayer]
  split <;> rfl

theorem GameState.undoRng_withLog (message : String)
    (saved : Option SavedRng) :
    ({ game with undoLog : GameState }.undoRng message saved).1 =
      { (game.undoRng message saved).1 with undoLog } := by
  cases saved with
  | none => rfl
  | some saved =>
      simp only [undoRng]
      split <;> rfl

theorem GameState.undoMove_withLog (card : CardId) (fromZone toZone : Zone)
    (owner : PlayerId) (fromPosition : Option UInt32) :
    { game with undoLog : GameState }.undoMove card fromZone toZone owner
        fromPosition =
      { game.undoMove card fromZone toZone owner fromPosition with
        undoLog } := by
  simp only [undoMove]
  split <;> rfl

theorem GameState.undoReveal_withLog (card : CardId) (name : Option String)
    (oldMask : UInt8) :
    { game with undoLog : GameState }.undoReveal card name oldMask =
      { game.undoReveal card name oldMask with undoLog } := by
  simp only [undoReveal, card?]
  split <;> split <;> rfl

/-- No inverse reads or writes the log. -/
theorem GameAction.undo_withLog (action : GameAction) :
    (action.undo { game with undoLog }).1 =
      { (action.undo game).1 with undoLog } := by
  cases action with
  | moveCard => exact game.undoMove_withLog undoLog _ _ _ _ _
  | revealCard => exact game.undoReveal_withLog undoLog _ _ _
  | changeTurn =>
      exact GameState.undoRng_withLog { game with turn := _ } undoLog _ _
  | tapCard | setAttachedTo =>
      simp only [undo, GameState.card?]
      split <;> rfl
  | shuffleLibrary player previousOrder rngState =>
      let restored := game.zones.modifyPlayerZones player fun own =>
        { own with library := previousOrder }
      cases hown : game.zones.getPlayerZones player with
      | none => simp only [undo, hown]
      | some own =>
          simp only [undo, hown]
          exact GameState.undoRng_withLog { game with zones := restored }
            undoLog _ rngState
  | _ =>
      first
      | rfl
      | exact game.undoCard_withLog undoLog _ _ _
      | exact game.undoPlayer_withLog undoLog _ _ _

end WithLog

namespace UndoLog

/-- The two stacks as one list of entries, oldest first. -/
def entries (undoLog : UndoLog) : List (GameAction × Nat) :=
  undoLog.actions.zip undoLog.logSizes

/-- A pop takes the last entry and leaves the rest of the log. -/
theorem entries_of_pop {undoLog rest : UndoLog} {entry : GameAction × Nat}
    (hpop : undoLog.pop = some (entry, rest)) :
    undoLog.entries = rest.entries ++ [entry] := by
  obtain ⟨hactions, hsizes, -, -⟩ := pop_eq_some hpop
  rw [entries, entries, hactions, hsizes,
    List.zip_append rest.sized.symm]
  rfl

end UndoLog

namespace GameState

/-- Undo one popped action and cut the messages back; a choice leaves nothing
to undo. -/
def takeBack (game : GameState) (entry : GameAction × Nat) : GameState :=
  if entry.1.isChoicePoint then game
  else
    let (undone, _) := entry.1.undo game
    { undone with logger := undone.logger.truncateTo entry.2 }

/-- Undo entries of the log, the newest last in the list and first to go. -/
def takeBackAll (entries : List (GameAction × Nat)) (game : GameState) :
    GameState :=
  entries.foldr (fun entry game => game.takeBack entry) game

theorem takeBack_withLog (game : GameState) (entry : GameAction × Nat)
    (undoLog : UndoLog) :
    { game with undoLog : GameState }.takeBack entry =
      { game.takeBack entry with undoLog } := by
  rw [takeBack, takeBack]
  split
  · rfl
  · simp [GameAction.undo_withLog]

theorem takeBackAll_withLog (entries : List (GameAction × Nat))
    (game : GameState) (undoLog : UndoLog) :
    takeBackAll entries { game with undoLog } =
      { takeBackAll entries game with undoLog } := by
  induction entries with
  | nil => rfl
  | cons entry rest ih =>
      simp only [takeBackAll, List.foldr_cons] at ih ⊢
      rw [ih, takeBack_withLog]

theorem takeBackAll_append (older newer : List (GameAction × Nat))
    (game : GameState) :
    takeBackAll (older ++ newer) game =
      takeBackAll older (takeBackAll newer game) :=
  List.foldr_append

/-- How many of the entries are no choices. -/
def changesIn (entries : List (GameAction × Nat)) : Nat :=
  entries.countP fun entry => !entry.1.isChoicePoint

/-- Undone to the last choice of the player: the log is what lies before that
choice, and what lies after it is taken back. -/
structure UndoneToChoice (game : GameState) (player : PlayerId)
    (actionsUndone priorLogSize : Nat) (after : GameState)
    (newer : List (GameAction × Nat)) : Prop where
  cut : ∃ choiceId choice, game.undoLog.entries = after.undoLog.entries ++
    (.choicePoint player choiceId choice, priorLogSize) :: newer
  last : ∀ entry ∈ newer, ¬entry.1.IsChoiceOf player
  counted : actionsUndone = changesIn newer
  sized : after.undoLog.logSizes.length = after.undoLog.actions.length
  enabled : after.undoLog.enabled = game.undoLog.enabled
  choicePoints : after.undoLog.choicePoints = game.undoLog.choicePoints
  undone : after = { takeBackAll newer game with undoLog := after.undoLog }

section Search

variable {game : GameState} {player : PlayerId}

/-- One popped entry that the search goes past. -/
theorem UndoneToChoice.step {actionsUndone priorLogSize : Nat}
    {after : GameState} {newer : List (GameAction × Nat)}
    {entry : GameAction × Nat} {rest : UndoLog}
    (hpop : game.undoLog.pop = some (entry, rest))
    (hother : ¬entry.1.IsChoiceOf player)
    (hdone : UndoneToChoice { game.takeBack entry with undoLog := rest }
      player actionsUndone priorLogSize after newer) :
    game.UndoneToChoice player
      (actionsUndone + changesIn [entry]) priorLogSize after
      (newer ++ [entry]) := by
  obtain ⟨⟨choiceId, choice, hcut⟩, hlast, hcounted, hsized, henabled,
    hpoints, hundone⟩ := hdone
  obtain ⟨-, -, hrestEnabled, hrestPoints⟩ := UndoLog.pop_eq_some hpop
  refine ⟨⟨choiceId, choice, ?_⟩, ?_, ?_, hsized,
    henabled.trans hrestEnabled, hpoints.trans hrestPoints, ?_⟩
  · rw [UndoLog.entries_of_pop hpop, hcut, List.append_assoc]
    rfl
  · intro other hmem
    simp only [List.mem_append, List.mem_singleton] at hmem
    rcases hmem with hmem | rfl
    · exact hlast other hmem
    · exact hother
  · rw [hcounted, changesIn, changesIn, changesIn, List.countP_append]
  · rw [takeBackAll_withLog] at hundone
    rw [takeBackAll_append]
    exact hundone

/-- The search goes past an entry that is no choice of the player. -/
theorem undoUntilChoice_past {fuel actionsUndone : Nat}
    {entry : GameAction × Nat} {rest : UndoLog}
    (hpop : game.undoLog.pop = some (entry, rest))
    (hother : ¬entry.1.IsChoiceOf player) :
    undoUntilChoice player (fuel + 1) actionsUndone game =
      undoUntilChoice player fuel (actionsUndone + changesIn [entry])
        { game.takeBack entry with undoLog := rest } := by
  obtain ⟨action, size⟩ := entry
  rw [← takeBack_withLog, undoUntilChoice, hpop]
  cases action with
  | choicePoint owner choiceId choice =>
      have hne : owner ≠ player := by
        rintro rfl
        exact hother ⟨choiceId, choice, rfl⟩
      exact if_neg hne
  | _ => rfl

/-- The search ends at the last choice of the player. -/
theorem undoUntilChoice_spec {fuel : Nat} (actionsUndone : Nat)
    (hfuel : game.undoLog.actions.length ≤ fuel)
    (hchoice : ∃ action ∈ game.undoLog.actions, action.IsChoiceOf player) :
    ∃ undone size after newer,
      undoUntilChoice player fuel actionsUndone game =
        (some (actionsUndone + undone, size), after) ∧
      game.UndoneToChoice player undone size after newer := by
  induction fuel generalizing actionsUndone game with
  | zero =>
      obtain ⟨action, hmem, -⟩ := hchoice
      simp [List.eq_nil_of_length_eq_zero (Nat.le_zero.mp hfuel)] at hmem
  | succ fuel ih =>
      cases hpop : game.undoLog.pop with
      | none =>
          obtain ⟨action, hmem, -⟩ := hchoice
          simp [UndoLog.pop_eq_none hpop] at hmem
      | some popped =>
          obtain ⟨⟨action, size⟩, rest⟩ := popped
          obtain ⟨hactions, -, henabled, hpoints⟩ := UndoLog.pop_eq_some hpop
          have hrest : rest.actions.length ≤ fuel := by
            simp only [hactions, List.length_append, List.length_singleton]
              at hfuel
            omega
          by_cases hown : action.IsChoiceOf player
          · obtain ⟨choiceId, choice, rfl⟩ := hown
            refine ⟨0, size, { game with undoLog := rest }, [], ?_,
              ⟨choiceId, choice, UndoLog.entries_of_pop hpop⟩, by simp, rfl,
              rest.sized, henabled, hpoints, rfl⟩
            simp [undoUntilChoice, hpop]
          · have hearlier : ∃ action ∈ rest.actions,
                action.IsChoiceOf player := by
              obtain ⟨other, hmem, hother⟩ := hchoice
              simp only [hactions, List.mem_append, List.mem_singleton]
                at hmem
              rcases hmem with hmem | rfl
              · exact ⟨other, hmem, hother⟩
              · exact absurd hother hown
            obtain ⟨undone, bound, after, newer, hrun, hdone⟩ :=
              @ih { game.takeBack (action, size) with undoLog := rest }
                (actionsUndone + changesIn [(action, size)]) hrest hearlier
            refine ⟨_, bound, after, _, ?_, hdone.step hpop hown⟩
            rw [Nat.add_comm undone, ← Nat.add_assoc, ← hrun,
              undoUntilChoice_past hpop hown]

end Search

theorem any_isChoiceOf {actions : List GameAction} {player : PlayerId} :
    actions.any (fun action => match action with
      | .choicePoint owner _ _ => owner == player
      | _ => false) = true ↔
      ∃ action ∈ actions, action.IsChoiceOf player := by
  rw [List.any_eq_true]
  apply exists_congr
  intro action
  apply and_congr_right
  intro _
  cases action <;> simp [GameAction.IsChoiceOf]

/-- Without a choice of the player nothing changes; else the last one and all
that was logged since go, with the mana caches to be rebuilt. -/
theorem undoToPreviousChoicePoint_exact (game : GameState)
    (player : PlayerId) :
    ((∀ action ∈ game.undoLog.actions, ¬action.IsChoiceOf player) ∧
        game.undoToPreviousChoicePoint player = (none, game)) ∨
      ∃ actionsUndone size undone newer,
        game.UndoneToChoice player actionsUndone size undone newer ∧
        game.undoToPreviousChoicePoint player =
          (some (actionsUndone, size),
            (undone.mapCaches
              ManaSourceCache.markDirty).incrementManaVersion) := by
  rw [undoToPreviousChoicePoint]
  dsimp only
  split
  · next hfound =>
    obtain ⟨undone, size, after, newer, hrun, hdone⟩ :=
      undoUntilChoice_spec 0 le_rfl (any_isChoiceOf.mp hfound)
    right
    refine ⟨undone, size, after, newer, hdone, ?_⟩
    rw [hrun, Nat.zero_add]
  · next hmissing =>
    left
    refine ⟨?_, rfl⟩
    intro action hmem hown
    exact hmissing (any_isChoiceOf.mpr ⟨action, hmem, hown⟩)

end GameState

end DeepScry
