/-
When a game ends and for whom: the check between turns, beside a history of
the draws that found an empty library.
-/
import DeepScry.LossFlag
import DeepScry.CardFlow

namespace DeepScry

inductive GameEndReason where
  | playerDeath (loser : PlayerId)
  | decking (loser : PlayerId)
  | turnLimit
  | draw
  | manual
  | snapshot
deriving DecidableEq

def GameEndReason.loser? : GameEndReason → Option PlayerId
  | playerDeath loser => some loser
  | decking loser => some loser
  | turnLimit | draw | manual | snapshot => none

structure GameResult where
  winner : Option PlayerId
  turnsPlayed : UInt32
  endReason : GameEndReason
  actionCount : Nat
deriving DecidableEq

namespace GameState

/-- In a game of two the other player, else nobody. -/
def getOtherPlayerId (game : GameState) (player : PlayerId) :
    Option PlayerId :=
  if game.players.length = 2 then
    (game.players.find? fun p => p.id != player).map Player.id
  else none

def libraryEmpty (game : GameState) (player : PlayerId) : Bool :=
  (game.zones.getPlayerZones player).any fun own => own.library.isEmpty

/-- Report the end of the game; the winner is whoever the loser is not. -/
def endFor (game : GameState) (turnsElapsed : UInt32) (loser : PlayerId)
    (endReason : GameEndReason) : GameState × Option GameResult :=
  (game.message,
    some { winner := game.getOtherPlayerId loser
           turnsPlayed := turnsElapsed
           endReason := endReason
           actionCount := game.undoLog.actions.length })

/-- `check_win_condition`: life totals first, then libraries. -/
def checkWinCondition (game : GameState) (turnsElapsed : UInt32) :
    GameState × Option GameResult :=
  match game.players.find? fun p => decide (p.life ≤ 0) with
  | some p => game.endFor turnsElapsed p.id (.playerDeath p.id)
  | none =>
      match game.players.find? fun p => game.libraryEmpty p.id with
      | some p => game.endFor turnsElapsed p.id (.decking p.id)
      | none => (game, none)

end GameState

/-- A step of the engine, as far as draws from an empty library go. -/
inductive HistoryStep where
  | draw (player : PlayerId) (logGamelog : Bool)
  | other (effect : GameState → GameState)

/-- A game and the players that have drawn from an empty library so far. -/
structure History where
  game : GameState
  attempted : List PlayerId := []

namespace History

def step (history : History) : HistoryStep → History
  | .draw player logGamelog =>
      { game := ((history.game.drawCardInner player logGamelog).map
          Prod.fst).getD history.game
        attempted :=
          if history.game.libraryEmpty player then
            player :: history.attempted
          else history.attempted }
  | .other effect => { history with game := effect history.game }

def play (start : GameState) (steps : List HistoryStep) : History :=
  steps.foldl step { game := start }

/-- No life left, a draw from an empty library, or the flag. -/
def Lost (history : History) (player : PlayerId) : Prop :=
  player ∈ history.attempted ∨ ∃ p ∈ history.game.players,
    p.id = player ∧ (p.life ≤ 0 ∨ p.hasLost = true)

instance (history : History) (player : PlayerId) :
    Decidable (history.Lost player) :=
  inferInstanceAs (Decidable (_ ∨ _))

/-- The game ends exactly when a player has lost, against such a player and
for one who has not. -/
structure EndsRight (history : History) (result : Option GameResult) :
    Prop where
  ends : result.isSome = true ↔
    ∃ p ∈ history.game.players, history.Lost p.id
  loser : ∀ r, result = some r →
    ∃ loser, r.endReason.loser? = some loser ∧ history.Lost loser
  winner : ∀ r, result = some r →
    ∀ winner, r.winner = some winner → ¬ history.Lost winner
  tie : (∀ p ∈ history.game.players, history.Lost p.id) →
    ∀ r, result = some r → r.winner = none

/-- The losses are those that life totals and library sizes show. -/
structure LossesShow (history : History) : Prop where
  /-- Nobody has lost while all have life and cards left. -/
  hidden : (∀ p ∈ history.game.players, 0 < p.life ∧
      history.game.libraryEmpty p.id = false) →
    ∀ p ∈ history.game.players, ¬ history.Lost p.id
  /-- While all have life left, the first without a library has lost. -/
  drawn : (∀ p ∈ history.game.players, 0 < p.life) →
    ∀ p, (history.game.players.find? fun p =>
      history.game.libraryEmpty p.id) = some p → history.Lost p.id
  /-- Two opponents have not both lost. -/
  alone : ∀ p ∈ history.game.players, ∀ other,
    history.game.getOtherPlayerId p.id = some other →
      history.Lost p.id → ¬ history.Lost other

end History

namespace GameState

theorem getOtherPlayerId_mem {game : GameState} {player other : PlayerId}
    (hother : game.getOtherPlayerId player = some other) :
    game.players.length = 2 ∧ ∃ q ∈ game.players, q.id = other := by
  rw [getOtherPlayerId] at hother
  split at hother
  · next hlength =>
    obtain ⟨q, hfind, hid⟩ := Option.map_eq_some_iff.mp hother
    exact ⟨hlength, q, List.mem_of_find?_eq_some hfind, hid⟩
  · cases hother

/-- Of two players with different ids each is the other one of the other. -/
theorem getOtherPlayerId_of_ne {game : GameState} {p q : Player}
    (hlength : game.players.length = 2) (hp : p ∈ game.players)
    (hq : q ∈ game.players) (hne : q.id ≠ p.id) :
    game.getOtherPlayerId p.id = some q.id := by
  rw [getOtherPlayerId, if_pos hlength]
  obtain ⟨x, y, hplayers⟩ := List.length_eq_two.mp hlength
  rw [hplayers] at hp hq ⊢
  rcases List.mem_pair.mp hp with rfl | rfl <;>
    rcases List.mem_pair.mp hq with rfl | rfl
  · exact absurd rfl hne
  · rw [List.find?_cons_of_neg (by simp),
      List.find?_cons_of_pos (by simpa using hne)]
    rfl
  · rw [List.find?_cons_of_pos (by simpa using hne)]
    rfl
  · exact absurd rfl hne

/-- What the check finds. -/
theorem checkWinCondition_cases (game : GameState) (turnsElapsed : UInt32) :
    (∃ p ∈ game.players, p.life ≤ 0 ∧ game.checkWinCondition turnsElapsed =
        game.endFor turnsElapsed p.id (.playerDeath p.id)) ∨
    ((∀ p ∈ game.players, 0 < p.life) ∧ ∃ p ∈ game.players,
      (game.players.find? fun p => game.libraryEmpty p.id) = some p ∧
        game.checkWinCondition turnsElapsed =
          game.endFor turnsElapsed p.id (.decking p.id)) ∨
    ((∀ p ∈ game.players, 0 < p.life ∧ game.libraryEmpty p.id = false) ∧
      game.checkWinCondition turnsElapsed = (game, none)) := by
  rw [checkWinCondition]
  cases hdead : game.players.find? fun p => decide (p.life ≤ 0) with
  | some p =>
      have hlife : p.life ≤ 0 := by
        simpa using List.find?_some hdead
      exact .inl ⟨p, List.mem_of_find?_eq_some hdead, hlife, rfl⟩
  | none =>
      have halive : ∀ p ∈ game.players, 0 < p.life := by
        intro p hp
        have hnot := List.find?_eq_none.mp hdead p hp
        exact Int32.not_le.mp fun hle => hnot (decide_eq_true hle)
      right
      cases hdecked : game.players.find? fun p => game.libraryEmpty p.id with
      | some p =>
          exact .inl ⟨halive, p, List.mem_of_find?_eq_some hdecked, rfl, rfl⟩
      | none =>
          refine .inr ⟨fun p hp => ⟨halive p hp, ?_⟩, rfl⟩
          have hnot := List.find?_eq_none.mp hdecked p hp
          exact Bool.eq_false_iff.mpr hnot

end GameState

namespace History

variable {history : History}

theorem lost_of_life {p : Player} (hp : p ∈ history.game.players)
    (hlife : p.life ≤ 0) : history.Lost p.id :=
  .inr ⟨p, hp, rfl, .inl hlife⟩

/-- The end of the game against a player that has lost. -/
theorem endsRight_endFor (hshow : history.LossesShow) {p : Player}
    (hp : p ∈ history.game.players) (hlost : history.Lost p.id)
    (turnsElapsed : UInt32) {endReason : GameEndReason}
    (hloser : endReason.loser? = some p.id) :
    history.EndsRight
      (history.game.endFor turnsElapsed p.id endReason).2 where
  ends := ⟨fun _ => ⟨p, hp, hlost⟩, fun _ => rfl⟩
  loser := by
    rintro r ⟨⟩
    exact ⟨p.id, hloser, hlost⟩
  winner := by
    rintro r ⟨⟩ other hwinner
    exact hshow.alone p hp other hwinner hlost
  tie := by
    rintro hall r ⟨⟩
    apply Option.eq_none_iff_forall_ne_some.mpr
    intro other hwinner
    obtain ⟨-, q, hq, rfl⟩ := GameState.getOtherPlayerId_mem hwinner
    exact hshow.alone p hp q.id hwinner hlost (hall q hq)

theorem endsRight_of_lossesShow (hshow : history.LossesShow)
    (turnsElapsed : UInt32) :
    history.EndsRight (history.game.checkWinCondition turnsElapsed).2 := by
  rcases history.game.checkWinCondition_cases turnsElapsed with
    ⟨p, hp, hlife, hcheck⟩ | ⟨halive, p, hp, hfind, hcheck⟩ | ⟨hfine, hcheck⟩
  · rw [hcheck]
    exact endsRight_endFor hshow hp (lost_of_life hp hlife) turnsElapsed rfl
  · rw [hcheck]
    exact endsRight_endFor hshow hp (hshow.drawn halive p hfind)
      turnsElapsed rfl
  · rw [hcheck]
    constructor
    · constructor
      · intro hsome
        cases hsome
      · rintro ⟨p, hp, hlost⟩
        exact absurd hlost (hshow.hidden hfine p hp)
    · rintro r ⟨⟩
    · rintro r ⟨⟩
    · rintro - r ⟨⟩

/-- The winner of a game against one player is the other. -/
theorem not_lost_of_endFor {turnsElapsed : UInt32} {p : Player}
    {endReason : GameEndReason} (hp : p ∈ history.game.players)
    (hright : history.EndsRight
      (history.game.endFor turnsElapsed p.id endReason).2)
    {q : Player} (hq : q ∈ history.game.players) {other : PlayerId}
    (hopponent : history.game.getOtherPlayerId q.id = some other) :
    history.Lost q.id → ¬ history.Lost other := by
  intro hlost
  have hlength := (GameState.getOtherPlayerId_mem hopponent).1
  by_cases hsame : q.id = p.id
  · rw [hsame] at hopponent
    exact hright.winner _ rfl other hopponent
  · have hwinner :=
      GameState.getOtherPlayerId_of_ne hlength hp hq hsame
    exact absurd hlost (hright.winner _ rfl q.id hwinner)

theorem lossesShow_of_endsRight {turnsElapsed : UInt32}
    (hright :
      history.EndsRight (history.game.checkWinCondition turnsElapsed).2) :
    history.LossesShow := by
  rcases history.game.checkWinCondition_cases turnsElapsed with
    ⟨p, hp, hlife, hcheck⟩ | ⟨halive, p, hp, hfind, hcheck⟩ | ⟨hfine, hcheck⟩
  · rw [hcheck] at hright
    constructor
    · intro hfine
      exact absurd (hfine p hp).1 (Int32.not_lt.mpr hlife)
    · intro halive
      exact absurd (halive p hp) (Int32.not_lt.mpr hlife)
    · intro q hq other hopponent
      exact not_lost_of_endFor hp hright hq hopponent
  · rw [hcheck] at hright
    constructor
    · intro hfine
      have hempty := List.find?_some hfind
      rw [(hfine p hp).2] at hempty
      cases hempty
    · intro _ q hq
      obtain ⟨loser, hloser, hlost⟩ := hright.loser _ rfl
      cases hloser
      rw [hfind] at hq
      cases hq
      exact hlost
    · intro q hq other hopponent
      exact not_lost_of_endFor hp hright hq hopponent
  · rw [hcheck] at hright
    have hnone : ∀ p ∈ history.game.players, ¬ history.Lost p.id := by
      intro p hp hlost
      have hsome := hright.ends.mpr ⟨p, hp, hlost⟩
      cases hsome
    constructor
    · exact fun _ => hnone
    · intro _ p hfind
      have hempty := List.find?_some hfind
      rw [(hfine p (List.mem_of_find?_eq_some hfind)).2] at hempty
      cases hempty
    · intro p hp _ _ hlost
      exact absurd hlost (hnone p hp)

end History

/-- After any steps of any game the check ends it right exactly if the losses
show. -/
theorem checkWinCondition_endsRight_iff (start : GameState)
    (steps : List HistoryStep) (turnsElapsed : UInt32) :
    (History.play start steps).EndsRight
        ((History.play start steps).game.checkWinCondition turnsElapsed).2 ↔
      (History.play start steps).LossesShow :=
  ⟨History.lossesShow_of_endsRight,
    fun hshow => History.endsRight_of_lossesShow hshow turnsElapsed⟩

/-- Two players with a card each in their libraries. -/
def lastCards : GameState where
  players := [{ id := ⟨0⟩ }, { id := ⟨1⟩ }]
  zones := { playerZones :=
    [(⟨0⟩, { library := [⟨0⟩] }), (⟨1⟩, { library := [⟨1⟩] })] }
  turn := { activePlayer := ⟨0⟩ }

/-- The last card is drawn, and the game is over before the next draw. -/
theorem checkWinCondition_ends_with_last_card :
    ¬ (History.play lastCards [.draw ⟨0⟩ true]).EndsRight
      ((History.play lastCards [.draw ⟨0⟩ true]).game.checkWinCondition
        3).2 := by
  intro hright
  have hlost := hright.ends.mp (by decide)
  revert hlost
  decide

end DeepScry
