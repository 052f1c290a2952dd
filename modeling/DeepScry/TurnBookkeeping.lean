/-
The draw counters and the protection of Island Sanctuary over whole runs of
turns, beside a record of what was really drawn and taken.
-/
import DeepScry.CardFlow
import DeepScry.MoveRun
import DeepScry.TurnActions
import DeepScry.TurnUndo

namespace DeepScry

/-- A game in a step of a turn, the cards each player has drawn since the turn
began, and the players whose latest draw step gave them protection.  `acted`
holds once the turn-based action of the step is over. -/
structure TurnHistory where
  game : GameState
  acted : Bool := false
  drawn : PlayerId → Nat := fun _ => 0
  sanctuary : List PlayerId := []

/-- What happens in a turn: the turn-based action of the step, a draw, anything
else within the step, and the advance to the next step. -/
inductive TurnMove where
  | act
  | draw (player : PlayerId) (logGamelog : Bool)
  | other (effect : GameState → GameState)
  | advance

/-- What the bookkeeping of a turn is kept in. -/
def Player.turnRecord (player : Player) : PlayerId × UInt8 × Bool :=
  (player.id, player.cardsDrawnThisTurn, player.islandSanctuaryProtected)

namespace GameState

def turnRecords (game : GameState) : List (PlayerId × UInt8 × Bool) :=
  game.players.map Player.turnRecord

/-- The turn-based actions that touch the records. -/
def turnBasedAction (game : GameState) : GameState :=
  match game.turn.currentStep with
  | .untap => game.resetTurnCounters
  | .draw => game.takeSanctuary
  | .cleanup => game.clearPlayers
  | _ => game

/-- Whether there is a card to draw. -/
def canDraw (game : GameState) (player : PlayerId) : Bool :=
  (game.zones.getPlayerZones player).any fun own => !own.library.isEmpty

end GameState

namespace TurnHistory

/-- The record after the turn-based action. -/
def act (history : TurnHistory) : TurnHistory where
  game := history.game.turnBasedAction
  acted := true
  drawn :=
    if history.game.turn.currentStep = .untap then fun _ => 0
    else history.drawn
  sanctuary :=
    let active := history.game.turn.activePlayer
    if history.game.turn.currentStep = .draw then
      if history.game.turn.turnNumber ≠ 1 ∧
          history.game.sanctuaryActive = true then
        active :: history.sanctuary
      else history.sanctuary.filter fun player => player != active
    else history.sanctuary

def draw (history : TurnHistory) (player : PlayerId) (logGamelog : Bool) :
    TurnHistory :=
  { history with
    game := ((history.game.drawCardInner player logGamelog).map
      Prod.fst).getD history.game
    drawn :=
      if history.game.canDraw player then
        Function.update history.drawn player (history.drawn player + 1)
      else history.drawn }

end TurnHistory

/-- A turn: each step acts before the game advances, and only turn-based
actions and draws touch the records. -/
def turnMachine : Machine TurnHistory TurnMove where
  enabled history
    | .act => history.acted = false
    | .draw _ _ => True
    | .other effect =>
        (effect history.game).turn = history.game.turn ∧
          (effect history.game).turnRecords = history.game.turnRecords
    | .advance =>
        history.acted = true ∧ history.game.advanceStep.2 = .ok ()
  perform history
    | .act => history.act
    | .draw player logGamelog => history.draw player logGamelog
    | .other effect => { history with game := effect history.game }
    | .advance =>
        { history with game := history.game.advanceStep.1, acted := false }

namespace TurnHistory

/-- The counters are right, protection holds while the opponents declare
attackers, and is over by the next draw step. -/
structure SpansTurns (history : TurnHistory) : Prop where
  counted : ∀ p ∈ history.game.players,
    p.cardsDrawnThisTurn.toNat = history.drawn p.id
  inForce : history.game.turn.currentStep = .declareAttackers →
    ∀ p ∈ history.game.players, p.id ≠ history.game.turn.activePlayer →
      p.id ∈ history.sanctuary → p.islandSanctuaryProtected = true
  ended : history.game.turn.currentStep = .draw → history.acted = false →
    ∀ p ∈ history.game.players, p.id = history.game.turn.activePlayer →
      p.islandSanctuaryProtected = false

/-- A turn starts with no draws of the others counted, no counter overflows,
and attackers are declared against nobody who took the protection. -/
def OnTime (history : TurnHistory) : TurnMove → Prop
  | .act => history.game.turn.currentStep = .untap →
      ∀ p ∈ history.game.players, p.id ≠ history.game.turn.activePlayer →
        p.cardsDrawnThisTurn = 0
  | .draw player _ => history.game.canDraw player = true →
      ∀ p ∈ history.game.players, p.id = player → p.cardsDrawnThisTurn ≠ 255
  | .other _ => True
  | .advance => history.game.turn.currentStep = .beginCombat →
      ∀ p ∈ history.game.players, p.id ≠ history.game.turn.activePlayer →
        p.id ∉ history.sanctuary

/-- A game that is about to begin. -/
structure Fresh (history : TurnHistory) : Prop where
  ids : (history.game.players.map Player.id).Nodup
  step : history.game.turn.currentStep = .untap
  acted : history.acted = false
  players : ∀ p ∈ history.game.players,
    p.cardsDrawnThisTurn = 0 ∧ p.islandSanctuaryProtected = false
  drawn : history.drawn = fun _ => 0
  sanctuary : history.sanctuary = []

/-- From the draw step of a turn to its cleanup. -/
def protects (acted : Bool) : Step → Bool
  | .untap | .upkeep => false
  | .draw => acted
  | .cleanup => !acted
  | _ => true

/-- As long as every move is on time. -/
structure Timely (history : TurnHistory) : Prop where
  ids : (history.game.players.map Player.id).Nodup
  counted : ∀ p ∈ history.game.players,
    p.cardsDrawnThisTurn.toNat = history.drawn p.id
  ownTurn : ∀ p ∈ history.game.players, p.islandSanctuaryProtected = true →
    p.id = history.game.turn.activePlayer ∧
      protects history.acted history.game.turn.currentStep = true
  unprotected : history.game.turn.currentStep = .declareAttackers →
    ∀ p ∈ history.game.players, p.id ≠ history.game.turn.activePlayer →
      p.id ∉ history.sanctuary

theorem Fresh.timely {history : TurnHistory} (hfresh : history.Fresh) :
    history.Timely where
  ids := hfresh.ids
  counted := by
    intro p hp
    rw [(hfresh.players p hp).1, hfresh.drawn]
    rfl
  ownTurn := by
    intro p hp hprotected
    rw [(hfresh.players p hp).2] at hprotected
    cases hprotected
  unprotected := by
    intro hstep
    rw [hfresh.step] at hstep
    cases hstep

theorem Timely.spansTurns {history : TurnHistory} (htimely : history.Timely) :
    history.SpansTurns where
  counted := htimely.counted
  inForce := by
    intro hstep p hp hother hmem
    exact absurd hmem (htimely.unprotected hstep p hp hother)
  ended := by
    intro hstep hacted p hp _
    apply Bool.eq_false_iff.mpr
    intro hprotected
    have hprotects := (htimely.ownTurn p hp hprotected).2
    rw [hstep, hacted] at hprotects
    cases hprotects

end TurnHistory

namespace GameState

variable {before after : GameState}

/-- A player after a step that keeps the records was there before it. -/
theorem exists_of_turnRecords (heq : after.turnRecords = before.turnRecords)
    {p : Player} (hp : p ∈ after.players) :
    ∃ q ∈ before.players, q.turnRecord = p.turnRecord := by
  have hmem : p.turnRecord ∈ before.turnRecords :=
    heq ▸ List.mem_map_of_mem hp
  exact List.mem_map.mp hmem

theorem ids_of_turnRecords (heq : after.turnRecords = before.turnRecords) :
    after.players.map Player.id = before.players.map Player.id := by
  have hfst := congrArg (List.map Prod.fst) heq
  rw [turnRecords, turnRecords, List.map_map, List.map_map] at hfst
  exact hfst

theorem turnRecords_modifyPlayer (game : GameState) (player : PlayerId)
    {f : Player → Player} (hf : ∀ p, (f p).turnRecord = p.turnRecord) :
    (game.modifyPlayer player f).turnRecords = game.turnRecords :=
  FirstMatch.map_modifyFirst hf _

theorem ids_modifyPlayer (game : GameState) (player : PlayerId)
    {f : Player → Player} (hf : ∀ p, (f p).id = p.id) :
    (game.modifyPlayer player f).players.map Player.id =
      game.players.map Player.id :=
  FirstMatch.map_modifyFirst hf _

theorem maybeReveal_players (game : GameState) (id : CardId)
    (target : RevealTarget) (shown : Card → Bool) (mark : Card → Card)
    (priorLogSize : Nat) :
    (game.maybeReveal id target shown mark priorLogSize).players =
        game.players ∧
      (game.maybeReveal id target shown mark priorLogSize).turn =
        game.turn := by
  rw [maybeReveal]
  split
  · exact ⟨rfl, rfl⟩
  · split
    · split
      · exact ⟨rfl, rfl⟩
      · exact ⟨rfl, rfl⟩
    · exact ⟨rfl, rfl⟩

/-- The draw counts for the player, in a `u8`. -/
theorem recordCardDrawn_players (game : GameState) (player : PlayerId)
    (priorLogSize : Nat) :
    (game.recordCardDrawn player priorLogSize).1.players =
        (game.modifyPlayer player fun p =>
          { p with cardsDrawnThisTurn := p.cardsDrawnThisTurn + 1 }).players ∧
      (game.recordCardDrawn player priorLogSize).1.turn = game.turn := by
  rw [recordCardDrawn]
  cases hplayer : game.getPlayer player with
  | some p => exact ⟨rfl, rfl⟩
  | none =>
      refine ⟨(FirstMatch.modifyFirst_eq_self fun p hp => ?_).symm, rfl⟩
      rw [show game.players.find? _ = none from hplayer] at hp
      cases hp

theorem drawCardInner_of_canDraw {game : GameState} {player : PlayerId}
    (hcan : game.canDraw player = true) (logGamelog : Bool) :
    ∃ after result, game.drawCardInner player logGamelog =
        some (after, .ok result) ∧
      after.players = (game.modifyPlayer player fun p =>
        { p with cardsDrawnThisTurn := p.cardsDrawnThisTurn + 1 }).players ∧
      after.turn = game.turn := by
  rw [canDraw] at hcan
  cases hown : game.zones.getPlayerZones player with
  | none =>
      rw [hown] at hcan
      cases hcan
  | some own =>
      rw [hown, Option.any_some, Bool.not_eq_true',
        List.isEmpty_eq_false_iff] at hcan
      rw [drawCardInner, hown]
      simp only [Option.bind_some, List.getLast?_eq_some_getLast hcan,
        Option.map_some]
      refine ⟨_, _, rfl, ?_⟩
      -- A message more or less does not matter here.
      split <;>
        exact ⟨(recordCardDrawn_players _ player _).1.trans
            (congrArg (FirstMatch.modifyFirst _ _)
              (maybeReveal_players _ _ _ _ _ _).1),
          (recordCardDrawn_players _ player _).2.trans
            (maybeReveal_players _ _ _ _ _ _).2⟩

theorem drawCardInner_of_not_canDraw {game : GameState} {player : PlayerId}
    (hcan : game.canDraw player = false) (logGamelog : Bool) :
    game.drawCardInner player logGamelog = some (game, .ok (none, 0)) := by
  rw [canDraw] at hcan
  rw [drawCardInner]
  cases hown : game.zones.getPlayerZones player with
  | none => rfl
  | some own =>
      rw [hown, Option.any_some, Bool.not_eq_false',
        List.isEmpty_iff] at hcan
      simp only [Option.bind_some, hcan, List.getLast?_nil, Option.map_none]
      rfl

theorem takeNextPlayer_players (game : GameState) :
    game.takeNextPlayer.1.players = game.players := by
  rw [takeNextPlayer]
  split <;> rfl

theorem beginTurn_turnRecords (game : GameState) (nextPlayer : PlayerId) :
    (game.beginTurn nextPlayer).turnRecords = game.turnRecords := by
  rw [beginTurn]
  exact turnRecords_modifyPlayer _ nextPlayer fun _ => rfl

/-- An advance leaves the records alone, and the turn goes on or a new one
starts with its untap step. -/
theorem advanceStep_cases {game : GameState}
    (hok : game.advanceStep.2 = .ok ()) :
    game.advanceStep.1.turnRecords = game.turnRecords ∧
      ((∃ next, game.turn.currentStep.next = some next ∧
          game.advanceStep.1.turn =
            { game.turn with currentStep := next }) ∨
        (game.turn.currentStep = .endCombat ∧
          game.advanceStep.1.turn =
            { game.turn with currentStep := .beginCombat }) ∨
        (game.turn.currentStep = .cleanup ∧
          game.advanceStep.1.turn.currentStep = .untap)) := by
  cases hnext : game.turn.currentStep.next with
  | some next =>
      by_cases hcombat : game.turn.currentStep = .endCombat →
          game.extraCombatPhases = 0
      · rw [advanceStep_of_next hnext hcombat]
        have hplayers : game.cleanedAtEnd.players = game.players := by
          rw [game.cleanedAtEnd_frame]
        exact ⟨congrArg (List.map Player.turnRecord) hplayers,
          .inl ⟨next, rfl, rfl⟩⟩
      · obtain ⟨hstep, hphases⟩ := Classical.not_imp.mp hcombat
        rw [advanceStep_extraCombat hstep (UInt8.pos_iff_ne_zero.mpr hphases)]
        exact ⟨rfl, .inr (.inl ⟨hstep, rfl⟩)⟩
  | none =>
      have hcleanup : game.turn.currentStep = .cleanup := by
        cases hstep : game.turn.currentStep <;> rw [hstep] at hnext <;>
          first
          | rfl
          | cases hnext
      rw [advanceStep_cleanup hcleanup] at hok ⊢
      have hplayers := takeNextPlayer_players
        { game with extraCombatPhases := 0 }
      generalize { game with
        extraCombatPhases := 0 : GameState }.takeNextPlayer = taken
        at hok hplayers ⊢
      obtain ⟨taken, e | nextPlayer⟩ := taken
      · cases hok
      · exact ⟨(beginTurn_turnRecords taken nextPlayer).trans
            (congrArg (List.map Player.turnRecord) hplayers),
          .inr (.inr ⟨hcleanup, rfl⟩)⟩

end GameState

namespace TurnHistory

variable {history : TurnHistory}

/-- A step that keeps the records, and the protection within the turn. -/
theorem Timely.of_records (htimely : history.Timely) {later : TurnHistory}
    (hrecords : later.game.turnRecords = history.game.turnRecords)
    (hdrawn : later.drawn = history.drawn)
    (hown : protects history.acted history.game.turn.currentStep = true →
      later.game.turn.activePlayer = history.game.turn.activePlayer ∧
        protects later.acted later.game.turn.currentStep = true)
    (hunprotected : later.game.turn.currentStep = .declareAttackers →
      ∀ p ∈ history.game.players, p.id ≠ later.game.turn.activePlayer →
        p.id ∉ later.sanctuary) : later.Timely where
  ids := by
    rw [GameState.ids_of_turnRecords hrecords]
    exact htimely.ids
  counted := by
    intro p hp
    obtain ⟨q, hq, hrecord⟩ := GameState.exists_of_turnRecords hrecords hp
    simp only [Player.turnRecord, Prod.mk.injEq] at hrecord
    rw [← hrecord.1, ← hrecord.2.1, hdrawn]
    exact htimely.counted q hq
  ownTurn := by
    intro p hp hprotected
    obtain ⟨q, hq, hrecord⟩ := GameState.exists_of_turnRecords hrecords hp
    simp only [Player.turnRecord, Prod.mk.injEq] at hrecord
    rw [← hrecord.2.2] at hprotected
    obtain ⟨hactive, hprotects⟩ := htimely.ownTurn q hq hprotected
    obtain ⟨hsame, hlater⟩ := hown hprotects
    rw [← hrecord.1, hsame]
    exact ⟨hactive, hlater⟩
  unprotected := by
    intro hstep p hp
    obtain ⟨q, hq, hrecord⟩ := GameState.exists_of_turnRecords hrecords hp
    simp only [Player.turnRecord, Prod.mk.injEq] at hrecord
    rw [← hrecord.1]
    exact hunprotected hstep q hq

/-- Outside the time from the draw step to the cleanup nobody is protected. -/
theorem Timely.not_protected (htimely : history.Timely)
    (hstep : protects history.acted history.game.turn.currentStep = false)
    {p : Player} (hp : p ∈ history.game.players) :
    p.islandSanctuaryProtected = false := by
  apply Bool.eq_false_iff.mpr
  intro hprotected
  have hprotects := (htimely.ownTurn p hp hprotected).2
  rw [hstep] at hprotects
  cases hprotects

/-- The counters after the untap step has begun. -/
theorem resetTurnCounters_mem {game : GameState}
    (hids : (game.players.map Player.id).Nodup) {p : Player}
    (hp : p ∈ game.resetTurnCounters.players) :
    (p.id = game.turn.activePlayer ∧ p.cardsDrawnThisTurn = 0 ∧
      ∃ q ∈ game.players, q.id = p.id ∧
        q.islandSanctuaryProtected = p.islandSanctuaryProtected) ∨
    (p ∈ game.players ∧ p.id ≠ game.turn.activePlayer) := by
  rw [GameState.resetTurnCounters] at hp
  cases hplayer : game.getPlayer game.turn.activePlayer with
  | some player =>
      rw [hplayer] at hp
      rcases FirstMatch.mem_modifyFirst_of_nodup hids hp with
        ⟨q, hq, hactive, rfl⟩ | hother
      · exact .inl ⟨hactive, rfl, q, hq, rfl, rfl⟩
      · exact .inr hother
  | none =>
      rw [hplayer] at hp
      refine .inr ⟨hp, fun hactive => ?_⟩
      exact List.find?_eq_none.mp hplayer p hp (beq_iff_eq.mpr hactive)

theorem Timely.act_untap (htimely : history.Timely)
    (hstep : history.game.turn.currentStep = .untap)
    (hontime : ∀ p ∈ history.game.players,
      p.id ≠ history.game.turn.activePlayer → p.cardsDrawnThisTurn = 0) :
    history.act.Timely := by
  have hgame : history.act.game = history.game.resetTurnCounters := by
    rw [act, GameState.turnBasedAction, hstep]
  have hturn : history.act.game.turn = history.game.turn := by
    rw [hgame, GameState.resetTurnCounters]
    split <;> rfl
  have hdrawn : history.act.drawn = fun _ => 0 := by
    rw [act, if_pos hstep]
  have hprotects :
      protects history.acted history.game.turn.currentStep = false := by
    rw [hstep]
    rfl
  constructor
  · rw [hgame, GameState.resetTurnCounters]
    split
    · have hsame := GameState.ids_modifyPlayer history.game
        history.game.turn.activePlayer (f := fun p =>
          { p with cardsDrawnThisTurn := 0, spellsCastThisTurn := 0 })
        fun _ => rfl
      exact hsame ▸ htimely.ids
    · exact htimely.ids
  · intro p hp
    rw [hgame] at hp
    rw [hdrawn]
    rcases resetTurnCounters_mem htimely.ids hp with
      ⟨-, hzero, -⟩ | ⟨hmem, hother⟩
    · rw [hzero]
      rfl
    · rw [hontime p hmem hother]
      rfl
  · intro p hp hprotected
    rw [hgame] at hp
    rcases resetTurnCounters_mem htimely.ids hp with
      ⟨-, -, q, hq, -, hflag⟩ | ⟨hmem, -⟩
    · rw [← hflag, htimely.not_protected hprotects hq] at hprotected
      cases hprotected
    · rw [htimely.not_protected hprotects hmem] at hprotected
      cases hprotected
  · intro hdeclare
    rw [hturn, hstep] at hdeclare
    cases hdeclare

theorem Timely.act_draw (htimely : history.Timely)
    (hacted : history.acted = false)
    (hstep : history.game.turn.currentStep = .draw) : history.act.Timely := by
  have hgame : history.act.game = history.game.takeSanctuary := by
    rw [act, GameState.turnBasedAction, hstep]
  have hdrawn : history.act.drawn = history.drawn := by
    rw [act, hstep]
    rfl
  have hprotects :
      protects history.acted history.game.turn.currentStep = false := by
    rw [hstep, hacted]
    rfl
  rw [GameState.takeSanctuary] at hgame
  split at hgame
  · have hturn : history.act.game.turn = history.game.turn := by
      rw [hgame]
      rfl
    constructor
    · have hsame := GameState.ids_modifyPlayer history.game
        history.game.turn.activePlayer (f := fun p =>
          { p with islandSanctuaryProtected := true }) fun _ => rfl
      rw [hgame, hsame]
      exact htimely.ids
    · intro p hp
      rw [hgame] at hp
      rw [hdrawn]
      rcases FirstMatch.mem_modifyFirst_of_nodup htimely.ids hp with
        ⟨q, hq, -, rfl⟩ | ⟨hmem, -⟩
      · exact htimely.counted q hq
      · exact htimely.counted p hmem
    · intro p hp hprotected
      rw [hgame] at hp
      rw [hturn, hstep]
      rcases FirstMatch.mem_modifyFirst_of_nodup htimely.ids hp with
        ⟨q, hq, hactive, rfl⟩ | ⟨hmem, -⟩
      · exact ⟨hactive, rfl⟩
      · rw [htimely.not_protected hprotects hmem] at hprotected
        cases hprotected
    · intro hdeclare
      rw [hturn, hstep] at hdeclare
      cases hdeclare
  · apply htimely.of_records
    · rw [hgame]
    · exact hdrawn
    · intro hprotected
      rw [hprotects] at hprotected
      cases hprotected
    · intro hdeclare
      rw [hgame, hstep] at hdeclare
      cases hdeclare

theorem Timely.act_cleanup (htimely : history.Timely)
    (hstep : history.game.turn.currentStep = .cleanup) :
    history.act.Timely := by
  have hgame : history.act.game = history.game.clearPlayers := by
    rw [act, GameState.turnBasedAction, hstep]
  have hdrawn : history.act.drawn = history.drawn := by
    rw [act, hstep]
    rfl
  have hplayers : history.act.game.players =
      history.game.players.map Player.clearAtCleanup := by
    rw [hgame]
    rfl
  constructor
  · rw [hplayers, List.map_map]
    exact htimely.ids
  · intro p hp
    rw [hplayers] at hp
    obtain ⟨q, hq, rfl⟩ := List.mem_map.mp hp
    rw [hdrawn]
    exact htimely.counted q hq
  · intro p hp hprotected
    rw [hplayers] at hp
    obtain ⟨q, hq, rfl⟩ := List.mem_map.mp hp
    cases hprotected
  · intro hdeclare
    rw [hgame] at hdeclare
    rw [GameState.clearPlayers, hstep] at hdeclare
    cases hdeclare

/-- The steps whose action leaves the records alone. -/
theorem Timely.act_other (htimely : history.Timely)
    (huntap : history.game.turn.currentStep ≠ .untap)
    (hdraw : history.game.turn.currentStep ≠ .draw)
    (hcleanup : history.game.turn.currentStep ≠ .cleanup) :
    history.act.Timely := by
  have hgame : history.act.game = history.game := by
    rw [act, GameState.turnBasedAction]
    split <;> first | contradiction | rfl
  have hsanctuary : history.act.sanctuary = history.sanctuary := by
    rw [act]
    exact if_neg hdraw
  apply htimely.of_records
  · rw [hgame]
  · rw [act, if_neg huntap]
  · intro hprotects
    rw [hgame]
    refine ⟨rfl, ?_⟩
    cases hstep : history.game.turn.currentStep <;>
      rw [hstep] at hprotects huntap hdraw hcleanup <;>
        first
        | exact hprotects
        | contradiction
  · rw [hgame, hsanctuary]
    exact htimely.unprotected

theorem Timely.act (htimely : history.Timely) (hacted : history.acted = false)
    (hontime : history.OnTime .act) : history.act.Timely := by
  by_cases huntap : history.game.turn.currentStep = .untap
  · exact htimely.act_untap huntap (hontime huntap)
  by_cases hdraw : history.game.turn.currentStep = .draw
  · exact htimely.act_draw hacted hdraw
  by_cases hcleanup : history.game.turn.currentStep = .cleanup
  · exact htimely.act_cleanup hcleanup
  · exact htimely.act_other huntap hdraw hcleanup

/-- A draw of a card, and the record of it. -/
theorem draw_of_canDraw {player : PlayerId}
    (hcan : history.game.canDraw player = true) (logGamelog : Bool) :
    (history.draw player logGamelog).game.players =
        (history.game.modifyPlayer player fun p =>
          { p with cardsDrawnThisTurn := p.cardsDrawnThisTurn + 1 }).players ∧
      (history.draw player logGamelog).game.turn = history.game.turn ∧
      (history.draw player logGamelog).drawn = Function.update history.drawn
        player (history.drawn player + 1) := by
  obtain ⟨after, result, hdraw, hplayers, hturn⟩ :=
    GameState.drawCardInner_of_canDraw hcan logGamelog
  have hgame : (history.draw player logGamelog).game = after := by
    rw [draw, hdraw]
    rfl
  rw [hgame]
  exact ⟨hplayers, hturn, by rw [draw, if_pos hcan]⟩

theorem draw_of_not_canDraw {player : PlayerId} {logGamelog : Bool}
    (hcan : history.game.canDraw player = false) :
    history.draw player logGamelog = history := by
  rw [draw, GameState.drawCardInner_of_not_canDraw hcan, hcan]
  rfl

theorem toNat_add_one {count : UInt8} (hlimit : count ≠ 255) :
    (count + 1).toNat = count.toNat + 1 := by
  have hne : count.toNat ≠ 255 := fun heq => hlimit (UInt8.toNat_inj.mp heq)
  have hlt := count.toNat_lt
  rw [UInt8.toNat_add]
  exact Nat.mod_eq_of_lt (by change count.toNat + 1 < 256; omega)

theorem Timely.draw (htimely : history.Timely) {player : PlayerId}
    {logGamelog : Bool} (hontime : history.OnTime (.draw player logGamelog)) :
    (history.draw player logGamelog).Timely := by
  cases hcan : history.game.canDraw player with
  | false =>
      rw [draw_of_not_canDraw hcan]
      exact htimely
  | true =>
      obtain ⟨hplayers, hturn, hdrawn⟩ :=
        draw_of_canDraw hcan logGamelog
      constructor
      · rw [hplayers, GameState.ids_modifyPlayer]
        · exact htimely.ids
        · exact fun _ => rfl
      · intro p hp
        rw [hplayers] at hp
        rw [hdrawn]
        rcases FirstMatch.mem_modifyFirst_of_nodup htimely.ids hp with
          ⟨q, hq, rfl, rfl⟩ | ⟨hmem, hother⟩
        · have hcount := htimely.counted q hq
          have hlimit := hontime hcan q hq rfl
          rw [Function.update_self, ← hcount]
          exact toNat_add_one hlimit
        · rw [Function.update_of_ne hother]
          exact htimely.counted p hmem
      · intro p hp hprotected
        rw [hplayers] at hp
        rw [hturn]
        rcases FirstMatch.mem_modifyFirst_of_nodup htimely.ids hp with
          ⟨q, hq, -, rfl⟩ | ⟨hmem, -⟩
        · exact htimely.ownTurn q hq hprotected
        · exact htimely.ownTurn p hmem hprotected
      · intro hdeclare p hp
        rw [hturn] at hdeclare ⊢
        rw [hplayers] at hp
        rcases FirstMatch.mem_modifyFirst_of_nodup htimely.ids hp with
          ⟨q, hq, -, rfl⟩ | ⟨hmem, -⟩
        · exact htimely.unprotected hdeclare q hq
        · exact htimely.unprotected hdeclare p hmem

theorem Timely.advance (htimely : history.Timely)
    (hacted : history.acted = true)
    (hok : history.game.advanceStep.2 = .ok ())
    (hontime : history.OnTime .advance) :
    (turnMachine.perform history .advance).Timely := by
  obtain ⟨hrecords, hturn⟩ := GameState.advanceStep_cases hok
  have hgame : (turnMachine.perform history .advance).game =
      history.game.advanceStep.1 := rfl
  apply htimely.of_records
  · exact hrecords
  · rfl
  · intro hprotects
    rw [hacted] at hprotects
    rw [hgame]
    rcases hturn with ⟨next, hnext, hturn⟩ | ⟨hstep, hturn⟩ | ⟨hstep, -⟩
    · rw [hturn]
      refine ⟨rfl, ?_⟩
      revert hprotects hnext
      cases history.game.turn.currentStep <;> rintro ⟨⟩ ⟨⟩ <;> rfl
    · rw [hturn]
      exact ⟨rfl, rfl⟩
    · rw [hstep] at hprotects
      cases hprotects
  · rw [hgame]
    intro hdeclare
    rcases hturn with ⟨next, hnext, hturn⟩ | ⟨-, hturn⟩ | ⟨-, huntap⟩
    · rw [hturn] at hdeclare ⊢
      have hbegin : history.game.turn.currentStep = .beginCombat := by
        revert hnext
        cases hdeclare
        cases history.game.turn.currentStep <;> rintro ⟨⟩
        rfl
      exact hontime hbegin
    · rw [hturn] at hdeclare
      cases hdeclare
    · rw [huntap] at hdeclare
      cases hdeclare

/-- Every move on time keeps the run timely. -/
theorem Timely.perform (htimely : history.Timely) {move : TurnMove}
    (henabled : turnMachine.enabled history move)
    (hontime : history.OnTime move) :
    (turnMachine.perform history move).Timely := by
  cases move with
  | act => exact htimely.act henabled hontime
  | draw player logGamelog => exact htimely.draw hontime
  | other effect =>
      obtain ⟨hturn, hrecords⟩ := henabled
      apply htimely.of_records
      · exact hrecords
      · rfl
      · intro hprotects
        rw [show (turnMachine.perform history (.other effect)).game.turn =
          history.game.turn from hturn]
        exact ⟨rfl, hprotects⟩
      · rw [show (turnMachine.perform history (.other effect)).game.turn =
          history.game.turn from hturn]
        exact htimely.unprotected
  | advance => exact htimely.advance henabled.1 henabled.2 hontime

/-- A draw of another player is still counted as the turn begins. -/
theorem act_breaks (hlate : ¬ history.OnTime .act) :
    ¬ history.act.SpansTurns := by
  intro hspans
  apply hlate
  intro hstep p hp hother
  have hmem : p ∈ history.act.game.players := by
    rw [TurnHistory.act, GameState.turnBasedAction, hstep]
    dsimp only
    rw [GameState.resetTurnCounters]
    split
    · exact FirstMatch.mem_modifyFirst_of_not hp
        (beq_eq_false_iff_ne.mpr hother)
    · exact hp
  have hcount := hspans.counted p hmem
  rw [TurnHistory.act, if_pos hstep] at hcount
  exact UInt8.toNat_inj.mp hcount

/-- The counter starts over. -/
theorem Timely.draw_breaks (htimely : history.Timely) {player : PlayerId}
    {logGamelog : Bool} (hlate : ¬ history.OnTime (.draw player logGamelog)) :
    ¬ (history.draw player logGamelog).SpansTurns := by
  intro hspans
  apply hlate
  rintro hcan p hp rfl hlimit
  obtain ⟨hplayers, -, hdrawn⟩ :=
    draw_of_canDraw hcan logGamelog
  have hmem : { p with cardsDrawnThisTurn := p.cardsDrawnThisTurn + 1 } ∈
      (history.draw p.id logGamelog).game.players := by
    rw [hplayers]
    exact FirstMatch.apply_mem_modifyFirst_of_nodup htimely.ids
      (f := fun p : Player =>
        { p with cardsDrawnThisTurn := p.cardsDrawnThisTurn + 1 }) hp
  have hcount := hspans.counted _ hmem
  rw [hdrawn, hlimit, Function.update_self] at hcount
  cases hcount

/-- The protection is over when the opponent attacks. -/
theorem Timely.advance_breaks (htimely : history.Timely)
    (hok : history.game.advanceStep.2 = .ok ())
    (hlate : ¬ history.OnTime .advance) :
    ¬ (turnMachine.perform history .advance).SpansTurns := by
  intro hspans
  apply hlate
  intro hstep p hp hother hmem
  obtain ⟨hrecords, hturn⟩ := GameState.advanceStep_cases hok
  have hdeclare : history.game.advanceStep.1.turn =
      { history.game.turn with currentStep := .declareAttackers } := by
    rcases hturn with ⟨next, hnext, hturn⟩ | ⟨hend, -⟩ | ⟨hend, -⟩
    · rw [hstep] at hnext
      cases hnext
      exact hturn
    · rw [hstep] at hend
      cases hend
    · rw [hstep] at hend
      cases hend
  obtain ⟨q, hq, hrecord⟩ := GameState.exists_of_turnRecords hrecords.symm hp
  simp only [Player.turnRecord, Prod.mk.injEq] at hrecord
  have hforce := hspans.inForce
  rw [show (turnMachine.perform history .advance).game.turn =
    history.game.advanceStep.1.turn from rfl, hdeclare] at hforce
  have hprotected := hforce rfl q hq (hrecord.1 ▸ hother)
    (hrecord.1 ▸ hmem)
  rw [hrecord.2.2] at hprotected
  exact hother (htimely.ownTurn p hp hprotected).1

theorem Timely.breaks (htimely : history.Timely) {move : TurnMove}
    (henabled : turnMachine.enabled history move)
    (hlate : ¬ history.OnTime move) :
    ¬ (turnMachine.perform history move).SpansTurns := by
  cases move with
  | act => exact act_breaks hlate
  | draw player logGamelog => exact htimely.draw_breaks hlate
  | other effect => exact absurd trivial hlate
  | advance => exact htimely.advance_breaks henabled.2 hlate

end TurnHistory

/-- In a run of turns from the start of a game the bookkeeping spans the right
turns throughout exactly if every move is on time. -/
theorem turnBookkeeping_spansTurns_iff {start : TurnHistory}
    (hfresh : start.Fresh) {moves : List TurnMove}
    (hruns : turnMachine.Runs start moves) :
    turnMachine.Always TurnHistory.SpansTurns start moves ↔
      turnMachine.EachMove TurnHistory.OnTime start moves :=
  Machine.always_iff_eachMove (fun _ => TurnHistory.Timely.spansTurns)
    (fun _ _ htimely henabled hontime => htimely.perform henabled hontime)
    (fun _ _ htimely henabled hlate => htimely.breaks henabled hlate)
    hfresh.timely hruns

/-- The first turn of a game without opening hands. -/
theorem turnBookkeeping_first_turn :
    turnMachine.Always TurnHistory.SpansTurns { game := lastCards }
      [.act, .draw ⟨0⟩ true, .advance] := by
  have hfresh : TurnHistory.Fresh { game := lastCards } :=
    ⟨by decide, rfl, rfl, by decide, rfl, rfl⟩
  have hruns : turnMachine.Runs { game := lastCards }
      [.act, .draw ⟨0⟩ true, .advance] :=
    ⟨rfl, trivial, ⟨rfl, rfl⟩, trivial⟩
  apply (turnBookkeeping_spansTurns_iff hfresh hruns).mpr
  refine ⟨fun _ => by decide, fun _ => by decide, fun hstep => ?_, trivial⟩
  cases hstep

/-- The second player has drawn an opening hand when the first turn begins. -/
theorem turnBookkeeping_opening_hand :
    ¬ turnMachine.Always TurnHistory.SpansTurns { game := lastCards }
      [.draw ⟨1⟩ false, .act] := by
  rintro ⟨-, -, hspans⟩
  have hcounted := hspans.counted
  revert hcounted
  decide

end DeepScry
