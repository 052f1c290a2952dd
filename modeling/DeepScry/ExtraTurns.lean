/-
Extra turns: the queue that `AddTurn` effects fill, and the order of the turns
that are not extra.
-/
import DeepScry.TurnBookkeeping

namespace DeepScry

namespace GameState

def pushExtraTurn (player : PlayerId) (game : GameState) : GameState :=
  { game with extraTurns := game.extraTurns ++ [player] : GameState }.logAction
    (.pushExtraTurn player) game.logger.logCount

/-- `Effect::AddTurn`. -/
def executeAddTurn (game : GameState) (player : PlayerId) (numTurns : UInt8) :
    GameState :=
  ((pushExtraTurn player)^[numTurns.toNat] game).message

end GameState

/-- A turn of the game, and whether it was an extra one. -/
structure Turn where
  player : PlayerId
  extra : Bool
deriving DecidableEq

/-- A game and the turns that have begun, the present one first. -/
structure TurnSequence where
  game : GameState
  turns : List Turn

inductive TurnSequenceMove where
  | advance
  | grant (player : PlayerId) (numTurns : UInt8)
  | other (effect : GameState → GameState)

namespace TurnSequence

/-- At the end of a turn another one begins, extra if one is queued. -/
def advance (sequence : TurnSequence) : TurnSequence where
  game := sequence.game.advanceStep.1
  turns :=
    if sequence.game.turn.currentStep = .cleanup then
      { player := sequence.game.advanceStep.1.turn.activePlayer
        extra := !sequence.game.extraTurns.isEmpty } :: sequence.turns
    else sequence.turns

/-- The players of the turns that are not extra, the latest first. -/
def normalTurns (sequence : TurnSequence) : List PlayerId :=
  (sequence.turns.filter fun turn => !turn.extra).map Turn.player

/-- Without the extra turns the players take turns. -/
structure Alternates (sequence : TurnSequence) : Prop where
  players : ∀ player ∈ sequence.normalTurns,
    player ∈ sequence.game.players.map Player.id
  strictly : sequence.normalTurns.IsChain (· ≠ ·)

/-- The first turn of a game of two. -/
structure Starts (sequence : TurnSequence) : Prop where
  two : ∃ first second, first ≠ second ∧
    sequence.game.players.map Player.id = [first, second]
  active : sequence.game.turn.activePlayer ∈
    sequence.game.players.map Player.id
  turns : sequence.turns = [⟨sequence.game.turn.activePlayer, false⟩]

end TurnSequence

/-- The steps of any number of turns, extra turns granted in between. -/
def turnSequence : Machine TurnSequence TurnSequenceMove where
  enabled sequence
    | .advance => sequence.game.advanceStep.2 = .ok ()
    | .grant _ _ => True
    | .other effect =>
        (effect sequence.game).turn = sequence.game.turn ∧
          (effect sequence.game).extraTurns = sequence.game.extraTurns ∧
          (effect sequence.game).players.map Player.id =
            sequence.game.players.map Player.id
  perform sequence
    | .advance => sequence.advance
    | .grant player numTurns =>
        { sequence with game := sequence.game.executeAddTurn player numTurns }
    | .other effect => { sequence with game := effect sequence.game }

namespace TurnSequence

/-- With no extra turn left, the turn that ends is the latest normal one or
belongs to the same player. -/
def InOrder (sequence : TurnSequence) : TurnSequenceMove → Prop
  | .advance => sequence.game.turn.currentStep = .cleanup →
      sequence.game.extraTurns = [] →
      sequence.normalTurns.head? = some sequence.game.turn.activePlayer
  | .grant _ _ | .other _ => True

/-- As long as every move is in order. -/
structure Ordered (sequence : TurnSequence) : Prop extends
    Alternates sequence where
  two : ∃ first second, first ≠ second ∧
    sequence.game.players.map Player.id = [first, second]
  begun : sequence.normalTurns ≠ []

theorem Starts.ordered {sequence : TurnSequence} (hstarts : sequence.Starts) :
    sequence.Ordered := by
  have hnormal : sequence.normalTurns = [sequence.game.turn.activePlayer] := by
    rw [normalTurns, hstarts.turns]
    rfl
  refine ⟨⟨?_, ?_⟩, hstarts.two, ?_⟩
  · intro player hplayer
    rw [hnormal, List.mem_singleton] at hplayer
    rw [hplayer]
    exact hstarts.active
  · rw [hnormal]
    exact List.isChain_singleton _
  · rw [hnormal]
    exact List.cons_ne_nil _ _

end TurnSequence

namespace GameState

variable {game : GameState}

theorem iterate_pushExtraTurn (game : GameState) (player : PlayerId)
    (count : Nat) :
    ((pushExtraTurn player)^[count] game).turn = game.turn ∧
      ((pushExtraTurn player)^[count] game).players = game.players ∧
      ((pushExtraTurn player)^[count] game).extraTurns =
        game.extraTurns ++ List.replicate count player := by
  induction count generalizing game with
  | zero => exact ⟨rfl, rfl, (List.append_nil _).symm⟩
  | succ count ih =>
      obtain ⟨hturn, hplayers, hextra⟩ := ih (pushExtraTurn player game)
      refine ⟨hturn, hplayers, hextra.trans ?_⟩
      rw [List.replicate_succ]
      exact List.append_assoc _ [player] _

/-- The turns granted go to the back of the queue. -/
theorem executeAddTurn_spec (game : GameState) (player : PlayerId)
    (numTurns : UInt8) :
    (game.executeAddTurn player numTurns).turn = game.turn ∧
      (game.executeAddTurn player numTurns).players = game.players ∧
      (game.executeAddTurn player numTurns).extraTurns =
        game.extraTurns ++ List.replicate numTurns.toNat player :=
  iterate_pushExtraTurn game player numTurns.toNat

/-- Among two players the next one is the other. -/
theorem getNextPlayer_of_two {first second current next : PlayerId}
    (hids : game.players.map Player.id = [first, second])
    (hnext : game.getNextPlayer current = .ok next) :
    current = first ∧ next = second ∨ current = second ∧ next = first := by
  obtain ⟨p, players, hplayers, rfl, hrest⟩ := List.map_eq_cons_iff.mp hids
  obtain ⟨q, rest, rfl, rfl, hnil⟩ := List.map_eq_cons_iff.mp hrest
  cases List.map_eq_nil_iff.mp hnil
  by_cases hp : p.id = current
  · have hidx : game.getPlayerIdx current = some 0 := by
      rw [getPlayerIdx, hplayers, List.findIdx?_cons, hp, beq_self_eq_true]
      rfl
    rw [getNextPlayer, hidx] at hnext
    simp only [getNextPlayerIdx, hplayers, List.length_cons, List.length_nil] at hnext
    cases hnext
    exact .inl ⟨hp.symm, rfl⟩
  · have hidx : game.getPlayerIdx current =
        if q.id = current then some 1 else none := by
      rw [getPlayerIdx, hplayers, List.findIdx?_cons,
        beq_eq_false_iff_ne.mpr hp, List.findIdx?_cons]
      by_cases hq : q.id = current
      · rw [if_pos hq, hq, beq_self_eq_true]
        rfl
      · rw [if_neg hq, beq_eq_false_iff_ne.mpr hq]
        rfl
    rw [getNextPlayer, hidx] at hnext
    split at hnext
    · rename_i heq
      split at heq
      · rename_i hq
        cases heq
        simp only [getNextPlayerIdx, hplayers, List.length_cons, List.length_nil] at hnext
        cases hnext
        exact .inr ⟨hq.symm, rfl⟩
      · cases heq
    · cases hnext

/-- The queue comes before the order of the players. -/
theorem takeNextPlayer_result (game : GameState) :
    (∃ player rest, game.extraTurns = player :: rest ∧
      game.takeNextPlayer.2 = .ok player) ∨
    (game.extraTurns = [] ∧ game.takeNextPlayer.2 =
      game.getNextPlayer game.turn.activePlayer) := by
  rw [takeNextPlayer]
  cases game.extraTurns with
  | cons player rest => exact .inl ⟨player, rest, rfl, rfl⟩
  | nil => exact .inr ⟨rfl, rfl⟩

/-- The player of the turn that an advance begins or goes on with. -/
theorem advanceStep_activePlayer (hok : game.advanceStep.2 = .ok ()) :
    (game.turn.currentStep ≠ .cleanup ∧
      game.advanceStep.1.turn.activePlayer = game.turn.activePlayer) ∨
    (game.turn.currentStep = .cleanup ∧
      ((∃ player rest, game.extraTurns = player :: rest ∧
        game.advanceStep.1.turn.activePlayer = player) ∨
      (game.extraTurns = [] ∧ game.getNextPlayer game.turn.activePlayer =
        .ok game.advanceStep.1.turn.activePlayer))) := by
  by_cases hcleanup : game.turn.currentStep = .cleanup
  · refine .inr ⟨hcleanup, ?_⟩
    have hresult := takeNextPlayer_result { game with extraCombatPhases := 0 }
    rw [advanceStep_cleanup hcleanup] at hok ⊢
    generalize { game with
      extraCombatPhases := 0 : GameState }.takeNextPlayer = taken
      at hok hresult ⊢
    obtain ⟨taken, e | next⟩ := taken
    · cases hok
    · rcases hresult with ⟨player, rest, hextra, hplayer⟩ | ⟨hextra, hnext⟩
      · cases hplayer
        exact .inl ⟨next, rest, hextra, rfl⟩
      · exact .inr ⟨hextra, hnext.symm⟩
  · refine .inl ⟨hcleanup, ?_⟩
    rcases (advanceStep_cases hok).2 with
      ⟨next, -, hturn⟩ | ⟨-, hturn⟩ | ⟨hstep, -⟩
    · rw [hturn]
    · rw [hturn]
    · exact absurd hstep hcleanup

end GameState

namespace TurnSequence

variable {sequence : TurnSequence}

theorem advance_ids (hok : sequence.game.advanceStep.2 = .ok ()) :
    sequence.advance.game.players.map Player.id =
      sequence.game.players.map Player.id :=
  GameState.ids_of_turnRecords (GameState.advanceStep_cases hok).1

/-- The turn that an advance begins. -/
theorem normalTurns_advance (hok : sequence.game.advanceStep.2 = .ok ()) :
    (¬(sequence.game.turn.currentStep = .cleanup ∧
        sequence.game.extraTurns = []) ∧
      sequence.advance.normalTurns = sequence.normalTurns) ∨
    (sequence.game.turn.currentStep = .cleanup ∧
      sequence.game.extraTurns = [] ∧
      ∃ next, sequence.game.getNextPlayer
          sequence.game.turn.activePlayer = .ok next ∧
        sequence.advance.normalTurns = next :: sequence.normalTurns) := by
  rcases GameState.advanceStep_activePlayer hok with
    ⟨hstep, -⟩ | ⟨hstep, ⟨player, rest, hextra, -⟩ | ⟨hextra, hnext⟩⟩
  · refine .inl ⟨fun hend => hstep hend.1, ?_⟩
    rw [normalTurns, advance, if_neg hstep, normalTurns]
  · refine .inl ⟨fun hend => ?_, ?_⟩
    · rw [hextra] at hend
      cases hend.2
    · rw [normalTurns, advance, if_pos hstep, hextra]
      rfl
  · refine .inr ⟨hstep, hextra, _, hnext, ?_⟩
    rw [normalTurns, advance, if_pos hstep, hextra]
    rfl

theorem Ordered.of_same (hordered : sequence.Ordered)
    {later : TurnSequence}
    (hids : later.game.players.map Player.id =
      sequence.game.players.map Player.id)
    (hnormal : later.normalTurns = sequence.normalTurns) : later.Ordered := by
  refine ⟨⟨?_, ?_⟩, ?_, ?_⟩
  · rw [hnormal, hids]
    exact hordered.players
  · rw [hnormal]
    exact hordered.strictly
  · rw [hids]
    exact hordered.two
  · rw [hnormal]
    exact hordered.begun

/-- A normal turn that follows the latest normal one of the same player. -/
theorem Ordered.advance (hordered : sequence.Ordered)
    (hok : sequence.game.advanceStep.2 = .ok ())
    (horder : sequence.InOrder .advance) : sequence.advance.Ordered := by
  have hids := advance_ids hok
  rcases normalTurns_advance hok with
    ⟨-, hnormal⟩ | ⟨hstep, hextra, next, hnext, hnormal⟩
  · exact hordered.of_same hids hnormal
  · obtain ⟨first, second, hne, htwo⟩ := hordered.two
    obtain ⟨earlier, hlatest⟩ :=
      List.head?_eq_some_iff.mp (horder hstep hextra)
    have hturns := GameState.getNextPlayer_of_two htwo hnext
    have hother : next ≠ sequence.game.turn.activePlayer := by
      rcases hturns with ⟨hcurrent, rfl⟩ | ⟨hcurrent, rfl⟩
      · rw [hcurrent]
        exact hne.symm
      · rw [hcurrent]
        exact hne
    have hmem : next ∈ sequence.game.players.map Player.id := by
      rw [htwo]
      rcases hturns with ⟨-, rfl⟩ | ⟨-, rfl⟩
      · exact List.mem_cons_of_mem _ List.mem_cons_self
      · exact List.mem_cons_self
    refine ⟨⟨?_, ?_⟩, ?_, ?_⟩
    · rw [hnormal, hids]
      exact List.forall_mem_cons.mpr ⟨hmem, hordered.players⟩
    · rw [hnormal]
      have hstrictly := hordered.strictly
      rw [hlatest] at hstrictly ⊢
      exact hstrictly.cons_cons hother
    · rw [hids]
      exact hordered.two
    · rw [hnormal]
      exact List.cons_ne_nil _ _

theorem Ordered.perform (hordered : sequence.Ordered)
    {move : TurnSequenceMove} (henabled : turnSequence.enabled sequence move)
    (horder : sequence.InOrder move) :
    (turnSequence.perform sequence move).Ordered := by
  cases move with
  | advance => exact hordered.advance henabled horder
  | grant player numTurns =>
      have hplayers :=
        (sequence.game.executeAddTurn_spec player numTurns).2.1
      exact hordered.of_same (congrArg (List.map Player.id) hplayers) rfl
  | other effect => exact hordered.of_same henabled.2.2 rfl

/-- The next turn goes to the player of the latest normal one again. -/
theorem Ordered.breaks (hordered : sequence.Ordered)
    {move : TurnSequenceMove} (henabled : turnSequence.enabled sequence move)
    (hlate : ¬ sequence.InOrder move) :
    ¬ (turnSequence.perform sequence move).Alternates := by
  cases move with
  | grant player numTurns => exact absurd trivial hlate
  | other effect => exact absurd trivial hlate
  | advance =>
      intro halternates
      apply hlate
      intro hstep hextra
      rcases normalTurns_advance henabled with
        ⟨hgoes, -⟩ | ⟨-, -, next, hnext, hnormal⟩
      · exact absurd ⟨hstep, hextra⟩ hgoes
      · obtain ⟨latest, earlier, hlatest⟩ :=
          List.exists_cons_of_ne_nil hordered.begun
        have hstrictly : sequence.advance.normalTurns.IsChain (· ≠ ·) :=
          halternates.strictly
        rw [hnormal, hlatest, List.isChain_cons_cons] at hstrictly
        obtain ⟨first, second, -, htwo⟩ := hordered.two
        have hlatestMem : latest ∈ [first, second] := by
          rw [← htwo]
          exact hordered.players latest (hlatest ▸ List.mem_cons_self)
        rw [hlatest, List.head?_cons]
        simp only [List.mem_cons, List.not_mem_nil, or_false] at hlatestMem
        rcases GameState.getNextPlayer_of_two htwo hnext with
          ⟨hactive, hother⟩ | ⟨hactive, hother⟩
        · rcases hlatestMem with rfl | rfl
          · rw [hactive]
          · exact absurd hother hstrictly.1
        · rcases hlatestMem with rfl | rfl
          · exact absurd hother hstrictly.1
          · rw [hactive]

end TurnSequence

/-- In a run of turns from the first one the extra turns are extra exactly if
no normal turn follows an extra turn of the player who is not in turn. -/
theorem turnSequence_alternates_iff {start : TurnSequence}
    (hstarts : start.Starts) {moves : List TurnSequenceMove}
    (hruns : turnSequence.Runs start moves) :
    turnSequence.Always TurnSequence.Alternates start moves ↔
      turnSequence.EachMove TurnSequence.InOrder start moves :=
  Machine.always_iff_eachMove (fun _ => TurnSequence.Ordered.toAlternates)
    (fun _ _ hordered henabled horder => hordered.perform henabled horder)
    (fun _ _ hordered henabled hlate => hordered.breaks henabled hlate)
    hstarts.ordered hruns

/-- The end of the first turn of a game. -/
def firstTurnEnds : TurnSequence where
  game := { lastCards with turn :=
    { activePlayer := ⟨0⟩, currentStep := .cleanup } }
  turns := [⟨⟨0⟩, false⟩]

/-- The first player takes an extra turn, then the opponent's begins. -/
theorem turnSequence_own_extra_turn :
    turnSequence.Always TurnSequence.Alternates firstTurnEnds
      (.grant ⟨0⟩ 1 :: List.replicate 13 .advance) := by
  have hstarts : firstTurnEnds.Starts :=
    ⟨⟨⟨0⟩, ⟨1⟩, by decide, rfl⟩, by decide, rfl⟩
  have hruns : turnSequence.Runs firstTurnEnds
      (.grant ⟨0⟩ 1 :: List.replicate 13 .advance) := by
    refine ⟨trivial, ?_⟩
    repeat refine ⟨rfl, ?_⟩
    trivial
  apply (turnSequence_alternates_iff hstarts hruns).mpr
  refine ⟨trivial, ?_⟩
  repeat refine ⟨by unfold TurnSequence.InOrder; decide, ?_⟩
  trivial

/-- The opponent's extra turn is followed by another turn of the first
player. -/
theorem turnSequence_opponents_extra_turn :
    ¬ turnSequence.Always TurnSequence.Alternates firstTurnEnds
      (.grant ⟨1⟩ 1 :: List.replicate 13 .advance) := by
  intro halways
  have hstrictly := halways.last.strictly
  revert hstrictly
  decide

end DeepScry
