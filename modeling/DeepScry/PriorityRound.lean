/-
The inner loop of a priority round.  An action that fails is counted as a
pass, but choosing it has started the count again.
-/
import DeepScry.CyclingPayment
import DeepScry.FailedActivation

namespace DeepScry

/-- How an action ends: with an error that counts as a pass, with one that is
only reported, with a land and priority kept, done, or out of the round. -/
inductive ArmEnd where
  | failed
  | overlooked
  | kept
  | done
  | returned
deriving DecidableEq

/-- The action was not carried out. -/
def ArmEnd.fails : ArmEnd → Bool
  | failed | overlooked => true
  | kept | done | returned => false

theorem ArmEnd.carried {P : Prop} {fate : ArmEnd} (hfate : fate.fails = false)
    (hfails : fate.fails = true) : P :=
  absurd (hfate.symm.trans hfails) Bool.false_ne_true

/-- A call whose error is handled in the loop. -/
def Outcome.settle {α : Type} (onError onOk : ArmEnd) :
    Outcome α → Outcome ArmEnd
  | none => none
  | some (game, .error _) => .ok game onError
  | some (game, .ok _) => .ok game onOk

/-- A call with choices; `false` where an undo leaves the round. -/
def Outcome.finish (fate : ArmEnd) (outcome : Outcome Bool) :
    Outcome ArmEnd :=
  outcome.andThen fun game finished =>
    .ok game (if finished then fate else .returned)

/-- The calls of the actions in one pass through the loop. -/
structure RoundMethods where
  casting : CastingMethods
  executor : PaymentExecutor
  depth : Nat
  engine : ManaEngine := {}
  canPlayLandEffective : GameState → PlayerId → Bool
  applyEtbCounters : GameState → CardId → Outcome Unit
  checkTriggers : GameState → CardId → Outcome Unit
  chooseAbilityTargets : GameState → PlayerId → CardId → Nat →
    Outcome (Option (List CardId))
  effectResume : Option (Nat × List CardId) := none
  executeEffects : GameState → PlayerId → CardId → Nat → Nat → List CardId →
    Outcome Bool
  searchOrDraw : GameState → PlayerId → Option String → Outcome Bool

namespace RoundMethods

variable (methods : RoundMethods)

/-- The land has entered and is counted. -/
def recordLand (player : PlayerId) (card : CardId) (game : GameState) :
    Outcome Unit :=
  let entered := match game.getCard card with
    | none => game
    | some c =>
        (game.logAction (.setTurnEnteredBattlefield card
          c.turnEnteredBattlefield (some game.turn.turnNumber))
          game.logger.logCount).modifyCard card fun c =>
            { c with turnEnteredBattlefield := some game.turn.turnNumber }
  match entered.getPlayer player with
  | none => .error entered (.entityNotFound player.raw)
  | some p =>
      let counted := (entered.modifyPlayer player fun p =>
        { p with landsPlayedThisTurn := p.landsPlayedThisTurn + 1 }).logAction
          (.setLandsPlayedThisTurn player p.landsPlayedThisTurn
            (p.landsPlayedThisTurn + 1)) entered.logger.logCount
      (methods.applyEtbCounters counted card).andThen fun game _ =>
        methods.checkTriggers game card

/-- A land of the hand, or the top card of the library. -/
def playLandFrom (zone : Zone) (player : PlayerId) (card : CardId)
    (game : GameState) : Outcome Unit :=
  if !methods.canPlayLandEffective game player then
    .error game (.invalidAction "Cannot play more lands this turn")
  else
    match game.getCard card with
    | none => .error game (.entityNotFound card.raw)
    | some c =>
        if !c.isLand then
          .error game (.invalidAction "Card is not a land")
        else
          match game.sourceZoneError player card zone with
          | some e => .error game e
          | none =>
              (methods.casting.moveCard game card zone .battlefield
                player).andThen fun moved _ =>
                  methods.recordLand player card moved

def playLand (player : PlayerId) (card : CardId) (game : GameState) :
    Outcome Unit :=
  methods.playLandFrom .hand player card game

def playLandFromLibrary (player : PlayerId) (card : CardId)
    (game : GameState) : Outcome Unit :=
  methods.playLandFrom .library player card game

/-- The actions that cast in eight steps. -/
def castArm (player : PlayerId) (ability : SpellAbility)
    (request : CardId × Zone × Option ManaCost) (game : GameState) :
    Outcome ArmEnd :=
  (methods.casting.choices player ability game).andThen
    fun chosen targets? =>
      match targets? with
      | none => .ok chosen .returned
      | some targets =>
          match methods.casting.castSpell8StepFrom player request.1
            targets.length request.2.1 request.2.2
            (methods.casting.engineSources chosen player)
            (methods.casting.withEngine chosen player) with
          | none => none
          | some (game, .error _) => .ok game .failed
          | some (game, .ok _) =>
              .ok (game.recordCast player targets ability) .done

/-- Casting from the graveyard fails where the card cannot be moved. -/
def graveyardArm (player : PlayerId) (card : CardId)
    (addFinalityCounter : Bool) (game : GameState) : Outcome ArmEnd :=
  match methods.casting.moveCard game card .graveyard .stack
    (game.ownerByGet card player) with
  | none => none
  | some (game, .error _) => .ok game .failed
  | some (moved, .ok _) =>
      let cost := moved.costByGet card
      let order := (GreedyManaResolver.computeTapOrder cost
        (methods.casting.engineSources moved player)).getD []
      match methods.casting.tapIgnoringErrors player order cost
        (methods.casting.withEngine moved player) with
      | none => none
      | some tapped =>
          .ok (if addFinalityCounter then
            tapped.modifyCard card fun c => c.addCounter .finality 1
          else tapped) .done

/-- An ability: it fails where it is not found or not paid for. -/
def activateArm (player : PlayerId) (card : CardId) (index : Nat)
    (game : GameState) : Outcome ArmEnd :=
  match (game.getCard card).bind fun c => c.activatedAbilities[index]? with
  | none => .ok game .failed
  | some ability =>
      match methods.effectResume with
      | some (start, targets) =>
          (methods.executeEffects game player card index start
            targets).finish .done
      | none =>
          (methods.chooseAbilityTargets game player card index).andThen
            fun chosen targets? =>
              match targets? with
              | none => .ok chosen .returned
              | some targets =>
                  match tapForActivation methods.casting player card
                    ability.cost ⟨chosen, methods.engine, 0, true⟩ with
                  | none => none
                  | some tapped =>
                      match tapped.payAbilityCost methods.executor
                        methods.depth player card ability.cost with
                      | none => none
                      | some (unpaid, .error _) => .ok unpaid .failed
                      | some (paid, .ok _) =>
                          (methods.executeEffects paid player card index 0
                            targets).finish .done

/-- Cycling: a card that cannot be discarded is overlooked. -/
def cycleArm (player : PlayerId) (card : CardId) (cost : ManaCost)
    (searchType : Option String) (game : GameState) : Outcome ArmEnd :=
  match (methods.casting.payCycling player cost methods.engine
    game).outcome with
  | none => none
  | some (unpaid, .error _) => .ok unpaid .failed
  | some (paid, .ok _) =>
      match methods.casting.moveCard paid card .hand .graveyard
        (paid.ownerByGet card player) with
      | none => none
      | some (kept, .error _) =>
          (methods.searchOrDraw kept player searchType).finish .overlooked
      | some (discarded, .ok _) =>
          (methods.searchOrDraw discarded player searchType).finish .done

/-- The casting of an action is its arm with the pass of a failure. -/
theorem castByRequest_eq (player : PlayerId) (ability : SpellAbility)
    (request : CardId × Zone × Option ManaCost) (game : GameState) :
    methods.casting.castByRequest player ability request game =
      (methods.castArm player ability request game).andThen
        fun game fate => .ok (if fate = .failed then
          game.passAfterError player else game) () := by
  rw [CastingMethods.castByRequest, castArm]
  rcases methods.casting.choices player ability game with
    _ | ⟨chosen, _ | _ | targets⟩
  · rfl
  · rfl
  · rfl
  · simp only [Outcome.andThen]
    rcases methods.casting.castSpell8StepFrom player request.1 targets.length
      request.2.1 request.2.2 (methods.casting.engineSources chosen player)
      (methods.casting.withEngine chosen player) with
        _ | ⟨cast, _ | _⟩ <;> rfl

/-- The action that was chosen. -/
def arm (player : PlayerId) (ability : SpellAbility) (game : GameState) :
    Outcome ArmEnd :=
  match ability with
  | .playLand card =>
      (methods.playLand player card game).settle .failed .kept
  | .activateAbility card index => methods.activateArm player card index game
  | .cycle card cost searchType =>
      methods.cycleArm player card cost searchType game
  | .castFromGraveyard card _ addFinalityCounter =>
      methods.graveyardArm player card addFinalityCounter game
  | .playLandFromLibrary card =>
      (methods.playLandFromLibrary player card game).settle .overlooked .done
  | ability =>
      match ability.castRequest? with
      | some request => methods.castArm player ability request game
      | none => .ok game .done

end RoundMethods

/-- What one pass through the loop hears before it acts.  The answer is the
last one: an undo asks again. -/
structure RoundPass extends RoundMethods where
  networked : Bool := false
  prepared : Bool := true
  ready : GameState → GameState := id
  pendingSearch : Option PlayerId := none
  completeSearch : GameState → PlayerId → Outcome Bool
  pendingActivation : Option (PlayerId × CardId × Nat) := none
  available : List SpellAbility
  stopped : Bool := false
  answer : ChoiceResult (Option SpellAbility)

inductive RoundChoice where
  | returns
  | searches
  | passes
  | acts (ability : SpellAbility)
deriving DecidableEq

namespace RoundPass

variable (pass : RoundPass)

/-- The controller is asked where there is anything to choose. -/
def ask : RoundChoice :=
  if pass.available.isEmpty && !pass.networked then .passes
  else if pass.stopped then .returns
  else
    match pass.answer with
    | .ok none => .passes
    | .ok (some ability) => .acts ability
    | _ => .returns

/-- A search or an activation that was interrupted goes first. -/
def choice (player : PlayerId) : RoundChoice :=
  if pass.networked && !pass.prepared then .returns
  else if pass.pendingSearch = some player then .searches
  else
    match pass.pendingActivation with
    | some (owner, card, index) =>
        if owner = player then .acts (.activateAbility card index)
        else pass.ask
    | none => pass.ask

end RoundPass

/-- The loop's own variables. -/
structure RoundState where
  game : GameState
  current : PlayerId
  passes : UInt8

/-- The two players of the round. -/
structure RoundSeats where
  active : PlayerId
  nonActive : PlayerId

def RoundSeats.next (seats : RoundSeats) (player : PlayerId) : PlayerId :=
  if player = seats.active then seats.nonActive else seats.active

namespace RoundState

variable (seats : RoundSeats) (state : RoundState)

def handOver : RoundState :=
  let next := seats.next state.current
  { state with
    current := next
    game :=
      { state.game with
        turn := { state.game.turn with priorityPlayer := some next } } }

def setPasses (passes : UInt8) : RoundState :=
  { state with
    passes := passes
    game :=
      { state.game with
        turn := { state.game.turn with consecutivePasses := passes } } }

def countPass : RoundState := state.setPasses (state.passes + 1)

def onGame (f : GameState → GameState) : RoundState :=
  { state with game := f state.game }

end RoundState

/-- A choice that was made, and whether the action failed. -/
structure RoundTurn where
  choice : RoundChoice
  failed : Bool := false
deriving DecidableEq

/-- How the loop ends: both have passed, the round is left, the limit is
reached, or a call does not come back. -/
inductive RoundEnd where
  | passed (game : GameState)
  | returned (game : GameState)
  | exceeded (game : GameState)
  | stuck

/-- One pass through the loop. -/
inductive PassEnd where
  | leaves (turn : Option RoundTurn) (last : RoundEnd)
  | goes (turn : RoundTurn) (next : RoundState)

namespace RoundPass

variable (pass : RoundPass) (seats : RoundSeats) (state : RoundState)

/-- Where the action is carried out: the count starts again. -/
def acting : RoundState :=
  (state.onGame pass.ready).setPasses 0

/-- The loop after an action. -/
def afterArm (ability : SpellAbility) : Outcome ArmEnd → PassEnd
  | none => .leaves (some ⟨.acts ability, false⟩) .stuck
  | some (game, .error _) =>
      .leaves (some ⟨.acts ability, false⟩) (.returned game)
  | some (game, .ok fate) =>
      let turn : RoundTurn := ⟨.acts ability, fate.fails⟩
      let acted : RoundState := { pass.acting state with game := game }
      match fate with
      | .failed => .goes turn (acted.countPass.handOver seats)
      | .kept => .goes turn acted
      | .overlooked | .done => .goes turn (acted.handOver seats)
      | .returned => .leaves (some turn) (.returned game)

def run : PassEnd :=
  let readied := state.onGame pass.ready
  match pass.choice state.current with
  | .returns => .leaves none (.returned readied.game)
  | .passes => .goes ⟨.passes, false⟩ (readied.countPass.handOver seats)
  | .acts ability =>
      pass.afterArm seats state ability
        (pass.arm state.current ability (pass.acting state).game)
  | .searches =>
      match pass.completeSearch readied.game state.current with
      | none => .leaves (some ⟨.searches, false⟩) .stuck
      | some (game, .ok true) =>
          .goes ⟨.searches, false⟩
            (({ readied with game := game }.setPasses 0).handOver seats)
      | some (game, _) => .leaves (some ⟨.searches, false⟩) (.returned game)

end RoundPass

def maxActionsPerPriority : Nat := 1000

section Loop

variable (seats : RoundSeats) (passes : Nat → RoundPass)

/-- The inner loop where so many actions are still allowed. -/
def innerLoop (remaining : Nat) (state : RoundState) :
    List RoundTurn × RoundEnd :=
  if 2 ≤ state.passes then ([], .passed state.game)
  else
    match remaining with
    | 0 => ([], .exceeded state.game)
    | remaining + 1 =>
        match (passes remaining).run seats state with
        | .leaves turn last => (turn.toList, last)
        | .goes turn next =>
            let rest := innerLoop remaining next
            (turn :: rest.1, rest.2)

end Loop

/-- The loop is left, and not for its limit. -/
def RoundEnd.Leaves : RoundEnd → Prop
  | passed _ | returned _ => True
  | exceeded _ | stuck => False

/-- The loop is left after at most so many more choices. -/
structure LeavesWithin (further : Nat) (result : List RoundTurn × RoundEnd) :
    Prop where
  soon : result.1.length ≤ further
  leaves : result.2.Leaves

/-- Nothing came of it: a pass, or an action that failed. -/
def RoundTurn.Idle (turn : RoundTurn) : Prop :=
  turn.choice = .passes ∨ turn.failed = true

theorem leavesWithin_cons {further : Nat} {turn : RoundTurn}
    {result : List RoundTurn × RoundEnd} :
    LeavesWithin further (turn :: result.1, result.2) ↔
      0 < further ∧ LeavesWithin (further - 1) result := by
  constructor
  · rintro ⟨hsoon, hleaves⟩
    simp only [List.length_cons] at hsoon
    exact ⟨by omega, by omega, hleaves⟩
  · rintro ⟨hpositive, hsoon, hleaves⟩
    refine ⟨?_, hleaves⟩
    simp only [List.length_cons]
    omega

/-- Every action that is chosen fails. -/
def ActionsFail (turns : List RoundTurn) : Prop :=
  ∀ turn ∈ turns, turn.Idle

/-- A failure of this action would not count as a pass: a land from the
library, or a card that is cycled once that is paid for. -/
def RoundPass.Overlooks (pass : RoundPass) (player : PlayerId)
    (game : GameState) : RoundChoice → Prop
  | .acts (.playLandFromLibrary _) => True
  | .acts (.cycle _ cost _) => ∃ paid,
      (pass.casting.payCycling player cost pass.engine game).outcome =
        .ok paid ()
  | _ => False

/-- How an action may end. -/
def Outcome.Ends (P : ArmEnd → Prop) : Outcome ArmEnd → Prop
  | some (_, .ok fate) => P fate
  | _ => True

namespace Outcome.Ends

variable {P : ArmEnd → Prop}

theorem of_ok {game : GameState} {fate : ArmEnd} (hfate : P fate) :
    Outcome.Ends P (.ok game fate) := hfate

theorem of_none : Outcome.Ends P none := trivial

theorem of_andThen {α : Type} {outcome : Outcome α}
    {next : GameState → α → Outcome ArmEnd}
    (hnext : ∀ game value, Outcome.Ends P (next game value)) :
    Outcome.Ends P (outcome.andThen next) := by
  rcases outcome with _ | ⟨game, _ | value⟩
  · exact of_none
  · exact trivial
  · exact hnext game value

theorem of_finish {fate : ArmEnd} {outcome : Outcome Bool} (hfate : P fate)
    (hreturned : P .returned) : Outcome.Ends P (outcome.finish fate) := by
  refine of_andThen fun game finished => of_ok ?_
  cases finished with
  | false => exact hreturned
  | true => exact hfate

theorem of_settle {α : Type} {onError onOk : ArmEnd} {outcome : Outcome α}
    (herror : P onError) (hok : P onOk) :
    Outcome.Ends P (outcome.settle onError onOk) := by
  rcases outcome with _ | ⟨game, _ | value⟩
  · exact of_none
  · exact of_ok herror
  · exact of_ok hok

end Outcome.Ends

namespace RoundMethods

variable (methods : RoundMethods) (player : PlayerId) (game : GameState)

theorem castArm_ends (ability : SpellAbility)
    (request : CardId × Zone × Option ManaCost) :
    Outcome.Ends (· ≠ .overlooked)
      (methods.castArm player ability request game) := by
  refine .of_andThen fun chosen targets => ?_
  cases targets with
  | none => exact .of_ok nofun
  | some targets =>
      dsimp only
      split
      · exact .of_none
      · exact .of_ok nofun
      · exact .of_ok nofun

theorem graveyardArm_ends (card : CardId) (addFinalityCounter : Bool) :
    Outcome.Ends (· ≠ .overlooked)
      (methods.graveyardArm player card addFinalityCounter game) := by
  rw [graveyardArm]
  split
  · exact .of_none
  · exact .of_ok nofun
  · dsimp only
    split
    · exact .of_none
    · exact .of_ok nofun

theorem activateArm_ends (card : CardId) (index : Nat) :
    Outcome.Ends (· ≠ .overlooked)
      (methods.activateArm player card index game) := by
  rw [activateArm]
  split
  · exact .of_ok nofun
  · split
    · exact .of_finish nofun nofun
    · refine .of_andThen fun chosen targets => ?_
      cases targets with
      | none => exact .of_ok nofun
      | some targets =>
          dsimp only
          split
          · exact .of_none
          · split
            · exact .of_none
            · exact .of_ok nofun
            · exact .of_finish nofun nofun

end RoundMethods

theorem Outcome.Ends.mono {P Q : ArmEnd → Prop} {outcome : Outcome ArmEnd}
    (hends : Outcome.Ends P outcome) (himp : ∀ fate, P fate → Q fate) :
    Outcome.Ends Q outcome := by
  rcases outcome with _ | ⟨game, _ | fate⟩
  · exact trivial
  · exact trivial
  · exact himp fate hends

namespace RoundPass

variable (pass : RoundPass) (player : PlayerId) (game : GameState)

theorem cycleArm_ends (card : CardId) (cost : ManaCost)
    (searchType : Option String) :
    Outcome.Ends (fun fate => fate.fails = true →
      (fate = .overlooked ↔
        pass.Overlooks player game (.acts (.cycle card cost searchType))))
      (pass.cycleArm player card cost searchType game) := by
  rw [RoundMethods.cycleArm, Overlooks]
  generalize (pass.casting.payCycling player cost pass.engine game).outcome =
    payment
  have hpaid (paid : GameState) :
      (.overlooked : ArmEnd) = .overlooked ↔
        ∃ after, (some (paid, .ok ()) : Outcome Unit) =
          Outcome.ok after () :=
    iff_of_true rfl ⟨paid, rfl⟩
  rcases payment with _ | ⟨paid, _ | _⟩
  · exact .of_none
  · refine .of_ok fun _ => iff_of_false (by decide) ?_
    rintro ⟨after, hafter⟩
    simp [Outcome.ok] at hafter
  · dsimp only
    split
    · exact .of_none
    · exact .of_finish (fun _ => hpaid paid) (ArmEnd.carried rfl)
    · exact .of_finish (ArmEnd.carried rfl) (ArmEnd.carried rfl)

/-- An action that fails is overlooked just when its failure would be. -/
theorem arm_ends (ability : SpellAbility) :
    Outcome.Ends (fun fate => fate.fails = true →
      (fate = .overlooked ↔ pass.Overlooks player game (.acts ability)))
      (pass.arm player ability game) := by
  have hcounted {fate : ArmEnd} (hfate : fate ≠ .overlooked) :
      fate.fails = true → (fate = .overlooked ↔ False) :=
    fun _ => iff_of_false hfate id
  cases ability with
  | playLand card =>
      exact .of_settle (hcounted (by decide)) (ArmEnd.carried rfl)
  | activateAbility card index =>
      exact (pass.activateArm_ends player game card index).mono
        fun _ => hcounted
  | cycle card cost searchType =>
      exact pass.cycleArm_ends player game card cost searchType
  | castFromGraveyard card _ addFinalityCounter =>
      exact (pass.graveyardArm_ends player game card addFinalityCounter).mono
        fun _ => hcounted
  | playLandFromLibrary card =>
      exact .of_settle (fun _ => iff_of_true rfl trivial) (ArmEnd.carried rfl)
  | castSpell card =>
      exact (pass.castArm_ends player game _ _).mono fun _ => hcounted
  | castAdventure card =>
      exact (pass.castArm_ends player game _ _).mono fun _ => hcounted
  | castFromExile card _ _ =>
      exact (pass.castArm_ends player game _ _).mono fun _ => hcounted
  | castFromCommand card _ =>
      exact (pass.castArm_ends player game _ _).mono fun _ => hcounted
  | castFromHandWithAltCost card _ =>
      exact (pass.castArm_ends player game _ _).mono fun _ => hcounted
  | castFromLibrary card =>
      exact (pass.castArm_ends player game _ _).mono fun _ => hcounted

end RoundPass

/-- One pass in which no action is carried out. -/
structure FailingPass (pass : RoundPass) (seats : RoundSeats) (state : RoundState)
    (turn : RoundTurn) (next : RoundState) : Prop where
  ran : pass.run seats state = .goes turn next
  chosen : pass.choice state.current ≠ .returns
  handed : next.current = seats.next state.current
  passed : pass.choice state.current = .passes →
    next.passes = state.passes + 1
  counted : pass.choice state.current ≠ .passes →
    ¬ pass.Overlooks state.current (pass.acting state).game
      (pass.choice state.current) → next.passes = 1
  overlooked : pass.Overlooks state.current (pass.acting state).game
    (pass.choice state.current) → next.passes = 0

namespace RoundPass

variable (pass : RoundPass) (seats : RoundSeats) (state : RoundState)

/-- The pass leaves the round before a choice, or carries a choice out, or
goes on with the other player. -/
inductive RunCases : PassEnd → Prop where
  | leaves {last : RoundEnd} (hreturns : pass.choice state.current = .returns)
      (hleaves : last.Leaves) : RunCases (.leaves none last)
  | carriesOut {turn : RoundTurn} {last : RoundEnd} (hturn : ¬ turn.Idle) :
      RunCases (.leaves (some turn) last)
  | goes {turn : RoundTurn} {next : RoundState}
      (hnext : turn.Idle → FailingPass pass seats state turn next) :
      RunCases (.goes turn next)

theorem not_idle {choice : RoundChoice} (hchoice : choice ≠ .passes) :
    ¬ (⟨choice, false⟩ : RoundTurn).Idle := by
  rintro (hpasses | hfailed)
  · exact hchoice hpasses
  · exact Bool.false_ne_true hfailed

theorem run_acts {ability : SpellAbility}
    (hchoice : pass.choice state.current = .acts ability) :
    RunCases pass seats state (pass.run seats state) := by
  have hends := pass.arm_ends state.current (pass.acting state).game ability
  have hrun : pass.run seats state = pass.afterArm seats state ability
      (pass.arm state.current ability (pass.acting state).game) := by
    rw [run, hchoice]
  rw [hrun]
  generalize pass.arm state.current ability (pass.acting state).game =
    outcome at hends hrun
  have hquiet : ¬ (⟨.acts ability, false⟩ : RoundTurn).Idle :=
    not_idle nofun
  rcases outcome with _ | ⟨game, _ | fate⟩
  · exact .carriesOut hquiet
  · exact .carriesOut hquiet
  · have hactive : pass.choice state.current ≠ .returns := by
      rw [hchoice]
      nofun
    have hacts : pass.choice state.current ≠ .passes := by
      rw [hchoice]
      nofun
    cases fate with
    | failed =>
        refine .goes fun _ => ⟨hrun, hactive, rfl, fun h => absurd h hacts,
          fun _ _ => rfl, fun hoverlooks => ?_⟩
        rw [hchoice] at hoverlooks
        exact absurd ((hends rfl).mpr hoverlooks) (by decide)
    | overlooked =>
        refine .goes fun _ => ⟨hrun, hactive, rfl, fun h => absurd h hacts,
          fun _ hoverlooks => ?_, fun _ => rfl⟩
        rw [hchoice] at hoverlooks
        exact absurd ((hends rfl).mp rfl) hoverlooks
    | kept => exact .goes fun hidle => absurd hidle hquiet
    | done => exact .goes fun hidle => absurd hidle hquiet
    | returned => exact .carriesOut hquiet

theorem run_searches (hchoice : pass.choice state.current = .searches) :
    RunCases pass seats state (pass.run seats state) := by
  have hquiet : ¬ (⟨.searches, false⟩ : RoundTurn).Idle :=
    not_idle nofun
  rw [run, hchoice]
  dsimp only
  split
  · exact .carriesOut hquiet
  · exact .goes fun hidle => absurd hidle hquiet
  · exact .carriesOut hquiet

theorem run_cases : RunCases pass seats state (pass.run seats state) := by
  cases hchoice : pass.choice state.current with
  | acts ability => exact pass.run_acts seats state hchoice
  | searches => exact pass.run_searches seats state hchoice
  | returns =>
      rw [run, hchoice]
      exact .leaves hchoice trivial
  | passes =>
      have hrun : pass.run seats state = .goes ⟨.passes, false⟩
          ((state.onGame pass.ready).countPass.handOver seats) := by
        rw [run, hchoice]
      rw [hrun]
      refine .goes fun _ => ⟨hrun, ?_, rfl, fun _ => rfl,
        fun hacts => absurd hchoice hacts, fun hoverlooks => ?_⟩
      · rw [hchoice]
        nofun
      · rw [hchoice] at hoverlooks
        exact hoverlooks.elim

end RoundPass

theorem fewPasses {passes : UInt8} (hinside : passes < 2) :
    passes = 0 ∨ passes = 1 := by
  rw [UInt8.lt_iff_toNat_lt] at hinside
  simp only [← UInt8.toNat_inj]
  exact Nat.le_one_iff_eq_zero_or_eq_one.mp (Nat.le_of_lt_succ hinside)

namespace FailingPass

variable {pass : RoundPass} {seats : RoundSeats} {state next : RoundState}
  {turn : RoundTurn}

/-- Both have passed now just when the other had passed before. -/
theorem left_iff (hpass : FailingPass pass seats state turn next)
    (hinside : state.passes < 2) :
    2 ≤ next.passes ↔
      pass.choice state.current = .passes ∧ state.passes = 1 := by
  by_cases hpasses : pass.choice state.current = .passes
  · rw [hpass.passed hpasses]
    rcases fewPasses hinside with h | h <;> simp [hpasses, h]
  · refine iff_of_false (fun hleft => ?_) fun hboth => hpasses hboth.1
    by_cases hoverlooks : pass.Overlooks state.current
        (pass.acting state).game (pass.choice state.current)
    · rw [hpass.overlooked hoverlooks] at hleft
      exact absurd hleft (by decide)
    · rw [hpass.counted hpasses hoverlooks] at hleft
      exact absurd hleft (by decide)

/-- Where the round goes on, a failure is counted unless it is overlooked. -/
theorem counted_iff (hpass : FailingPass pass seats state turn next)
    (hinside : state.passes < 2) (hnext : next.passes < 2) :
    next.passes = 1 ↔ ¬ pass.Overlooks state.current
      (pass.acting state).game (pass.choice state.current) := by
  by_cases hoverlooks : pass.Overlooks state.current
      (pass.acting state).game (pass.choice state.current)
  · rw [hpass.overlooked hoverlooks]
    exact iff_of_false (by decide) (not_not.mpr hoverlooks)
  · refine iff_of_true ?_ hoverlooks
    by_cases hpasses : pass.choice state.current = .passes
    · rw [hpass.passed hpasses] at hnext ⊢
      rcases fewPasses hinside with h | h
      · rw [h]
        rfl
      · rw [h] at hnext
        exact absurd hnext (by decide)
    · exact hpass.counted hpasses hoverlooks

end FailingPass

section Loop

variable (seats : RoundSeats) (passes : Nat → RoundPass)

theorem innerLoop_left {remaining : Nat} {state : RoundState}
    (hleft : 2 ≤ state.passes) :
    innerLoop seats passes remaining state = ([], .passed state.game) := by
  rw [innerLoop.eq_def, if_pos hleft]

/-- One pass of a loop in which every action fails. -/
inductive FailingLoop (remaining : Nat) (state : RoundState) : Prop where
  | leaves (hreturns : (passes remaining).choice state.current = .returns)
      (hwithin : ∀ further, LeavesWithin further
        (innerLoop seats passes (remaining + 1) state))
  | goes (turn : RoundTurn) (next : RoundState)
      (hpass : FailingPass (passes remaining) seats state turn next)
      (hfails : ActionsFail (innerLoop seats passes remaining next).1)
      (hloop : innerLoop seats passes (remaining + 1) state =
        (turn :: (innerLoop seats passes remaining next).1,
          (innerLoop seats passes remaining next).2))

variable {seats passes}

theorem ActionsFail.cases {remaining : Nat} {state : RoundState}
    (hinside : state.passes < 2)
    (hfails : ActionsFail
      (innerLoop seats passes (remaining + 1) state).1) :
    FailingLoop seats passes remaining state := by
  have hloop : innerLoop seats passes (remaining + 1) state =
      match (passes remaining).run seats state with
      | .leaves turn last => (turn.toList, last)
      | .goes turn next =>
          let rest := innerLoop seats passes remaining next
          (turn :: rest.1, rest.2) := by
    rw [innerLoop, if_neg (UInt8.not_le.mpr hinside)]
  have hcases := (passes remaining).run_cases seats state
  generalize (passes remaining).run seats state = ran at hloop hcases
  cases hcases with
  | leaves hreturns hleaves =>
      refine .leaves hreturns fun further => ?_
      rw [hloop]
      exact ⟨Nat.zero_le further, hleaves⟩
  | carriesOut hturn =>
      rw [hloop] at hfails
      exact absurd (hfails _ List.mem_cons_self) hturn
  | goes hnext =>
      rename_i turn next
      rw [hloop] at hfails
      refine .goes turn next (hnext (hfails _ List.mem_cons_self))
        (fun turn hturn => hfails turn (List.mem_cons_of_mem _ hturn)) hloop

theorem leavesWithin_left {remaining further : Nat} {state : RoundState}
    (hleft : 2 ≤ state.passes) :
    LeavesWithin further (innerLoop seats passes remaining state) := by
  rw [innerLoop_left seats passes hleft]
  exact ⟨Nat.zero_le further, trivial⟩

theorem not_leavesWithin_zero {further : Nat} {state : RoundState}
    (hinside : state.passes < 2) :
    ¬ LeavesWithin further (innerLoop seats passes 0 state) := by
  rw [innerLoop, if_neg (UInt8.not_le.mpr hinside)]
  exact fun hwithin => hwithin.leaves

/-- The second choice from here on is not an action: it is a pass that comes
after a pass or a failure that counts.  Or the first is a pass, after one of
the other player, or the round is left from outside. -/
def Settles (seats : RoundSeats) (passes : Nat → RoundPass) (remaining : Nat)
    (state : RoundState) : Prop :=
  let first := passes (remaining - 1)
  let other := seats.next state.current
  let second := (passes (remaining - 2)).choice other
  let third := (passes (remaining - 3)).choice (seats.next other)
  let overlooked := first.Overlooks state.current (first.acting state).game
    (first.choice state.current)
  (0 < remaining ∧ (first.choice state.current = .returns ∨
    first.choice state.current = .passes ∧ state.passes = 1)) ∨
  (1 < remaining ∧ (second = .returns ∨ second = .passes ∧ ¬ overlooked)) ∨
  (2 < remaining ∧ third = .returns)

/-- Without another choice the loop is left just when both have passed, or
from outside. -/
theorem leavesWithin_zero_iff {remaining : Nat} {state : RoundState}
    (hfails : ActionsFail (innerLoop seats passes remaining state).1) :
    LeavesWithin 0 (innerLoop seats passes remaining state) ↔
      2 ≤ state.passes ∨ 0 < remaining ∧
        (passes (remaining - 1)).choice state.current = .returns := by
  by_cases hinside : state.passes < 2
  · rw [or_iff_right (UInt8.not_le.mpr hinside)]
    cases remaining with
    | zero =>
        exact iff_of_false (not_leavesWithin_zero hinside) (by simp)
    | succ remaining =>
        cases hfails.cases hinside with
        | leaves hreturns hwithin =>
            exact iff_of_true (hwithin 0) ⟨Nat.succ_pos _, hreturns⟩
        | goes turn next hpass _ hloop =>
            rw [hloop, leavesWithin_cons]
            exact iff_of_false (fun h => Nat.lt_irrefl 0 h.1)
              fun h => hpass.chosen h.2
  · have hleft := UInt8.not_lt.mp hinside
    exact iff_of_true (leavesWithin_left hleft) (.inl hleft)

/-- With one more choice. -/
theorem leavesWithin_one_iff {remaining : Nat} {state : RoundState}
    (hinside : state.passes < 2)
    (hfails : ActionsFail (innerLoop seats passes remaining state).1) :
    LeavesWithin 1 (innerLoop seats passes remaining state) ↔
      0 < remaining ∧
        ((passes (remaining - 1)).choice state.current = .returns ∨
          (passes (remaining - 1)).choice state.current = .passes ∧
            state.passes = 1) ∨
      1 < remaining ∧ (passes (remaining - 2)).choice
        (seats.next state.current) = .returns := by
  cases remaining with
  | zero => exact iff_of_false (not_leavesWithin_zero hinside) (by simp)
  | succ remaining =>
      cases hfails.cases hinside with
      | leaves hreturns hwithin =>
          exact iff_of_true (hwithin 1)
            (.inl ⟨Nat.succ_pos _, .inl hreturns⟩)
      | goes turn next hpass hrest hloop =>
          rw [hloop, leavesWithin_cons, leavesWithin_zero_iff hrest,
            hpass.left_iff hinside, hpass.handed]
          simp [hpass.chosen]

/-- Failing actions do not hold up the round just when nobody acts twice. -/
theorem leavesWithin_two_iff {remaining : Nat} {state : RoundState}
    (hinside : state.passes < 2)
    (hfails : ActionsFail (innerLoop seats passes remaining state).1) :
    LeavesWithin 2 (innerLoop seats passes remaining state) ↔
      Settles seats passes remaining state := by
  cases remaining with
  | zero =>
      exact iff_of_false (not_leavesWithin_zero hinside) (by simp [Settles])
  | succ remaining =>
      cases hfails.cases hinside with
      | leaves hreturns hwithin =>
          exact iff_of_true (hwithin 2)
            (.inl ⟨Nat.succ_pos _, .inl hreturns⟩)
      | goes turn next hpass hrest hloop =>
          rw [hloop, leavesWithin_cons]
          by_cases hleft : 2 ≤ next.passes
          · have hboth := (hpass.left_iff hinside).mp hleft
            exact iff_of_true ⟨Nat.two_pos, leavesWithin_left hleft⟩
              (.inl ⟨Nat.succ_pos _, .inr hboth⟩)
          · have hnext := UInt8.not_le.mp hleft
            rw [leavesWithin_one_iff hnext hrest,
              hpass.counted_iff hinside hnext, hpass.handed]
            rw [hpass.left_iff hinside] at hleft
            have hmore : 2 < remaining + 1 ↔ 1 < remaining :=
              Nat.succ_lt_succ_iff
            simp [Settles, hpass.chosen, hleft, hmore]

/-- Where all that is ever chosen are actions that fail, the limit is
reached. -/
theorem exceeded_of_acts
    (hacts : ∀ pass player,
      (passes pass).choice player ≠ .returns ∧
        (passes pass).choice player ≠ .passes)
    (remaining : Nat) {state : RoundState} (hinside : state.passes < 2)
    (hfails : ActionsFail (innerLoop seats passes remaining state).1) :
    (innerLoop seats passes remaining state).1.length = remaining ∧
      ∃ game, (innerLoop seats passes remaining state).2 =
        .exceeded game := by
  induction remaining generalizing state with
  | zero =>
      rw [innerLoop, if_neg (UInt8.not_le.mpr hinside)]
      exact ⟨rfl, _, rfl⟩
  | succ remaining ih =>
      cases hfails.cases hinside with
      | leaves hreturns _ => exact absurd hreturns (hacts _ _).1
      | goes turn next hpass hrest hloop =>
          have hnext : next.passes < 2 := by
            rw [← UInt8.not_le, hpass.left_iff hinside]
            exact fun hboth => (hacts _ _).2 hboth.1
          obtain ⟨hlength, hexceeded⟩ := ih hnext hrest
          rw [hloop]
          exact ⟨congrArg Nat.succ hlength, hexceeded⟩

end Loop

/-- A pass in which no land may be played. -/
def landPass (answer : Option SpellAbility) : RoundPass where
  casting := GameState.withMountain ⟨1⟩
  executor := GameState.idlePayments
  depth := 1
  canPlayLandEffective _ _ := false
  applyEtbCounters game _ := .ok game ()
  checkTriggers game _ := .ok game ()
  chooseAbilityTargets game _ _ _ := .ok game (some [])
  executeEffects game _ _ _ _ _ := .ok game true
  searchOrDraw game _ _ := .ok game true
  completeSearch game _ := .ok game true
  available := [.castSpell ⟨0⟩]
  answer := .ok answer

/-- A land is chosen in this pass, for all that. -/
def insistingPass : RoundPass := landPass (some (.playLand ⟨0⟩))

def twoSeats : RoundSeats := ⟨⟨0⟩, ⟨1⟩⟩

/-- The active player has priority, and nobody has passed. -/
def roundStart : RoundState where
  game :=
    { players := [{ id := ⟨0⟩ }, { id := ⟨1⟩ }]
      turn := { activePlayer := ⟨0⟩ } }
  current := ⟨0⟩
  passes := 0

theorem leavesWithin_two_land :
    LeavesWithin 2 (innerLoop twoSeats
      (fun pass => if pass = 999 then insistingPass else landPass none)
      maxActionsPerPriority roundStart) := by
  refine (leavesWithin_two_iff (by decide) ?_).mpr ?_
  · have hturns : (innerLoop twoSeats
        (fun pass => if pass = 999 then insistingPass else landPass none)
        maxActionsPerPriority roundStart).1 =
          [⟨.acts (.playLand ⟨0⟩), true⟩, ⟨.passes, false⟩] := rfl
    rw [hturns]
    simp [ActionsFail, RoundTurn.Idle]
  · exact .inr (.inl ⟨by decide, .inr ⟨rfl, id⟩⟩)

theorem insistingPass_fails (remaining : Nat) (state : RoundState) :
    ActionsFail (innerLoop twoSeats (fun _ => insistingPass) remaining
      state).1 := by
  induction remaining generalizing state with
  | zero =>
      rw [innerLoop]
      split <;> exact List.forall_mem_nil _
  | succ remaining ih =>
      rw [innerLoop]
      split
      · exact List.forall_mem_nil _
      · exact List.forall_mem_cons.mpr ⟨.inr rfl, ih _⟩

/-- Both players choose a land again and again until the limit is reached. -/
theorem not_leavesWithin_two :
    let result := innerLoop twoSeats (fun _ => insistingPass)
      maxActionsPerPriority roundStart
    ActionsFail result.1 ∧ ¬ LeavesWithin 2 result ∧
      ∃ game, result.2 = .exceeded game := by
  have hchoice (player : PlayerId) :
      insistingPass.choice player = .acts (.playLand ⟨0⟩) := rfl
  generalize maxActionsPerPriority = limit
  have hfails := insistingPass_fails limit roundStart
  obtain ⟨-, game, hexceeded⟩ := exceeded_of_acts
    (fun _ player => by simp [hchoice]) limit (by decide) hfails
  refine ⟨hfails, fun hwithin => ?_, game, hexceeded⟩
  have hleaves := hwithin.leaves
  rw [hexceeded] at hleaves
  exact hleaves

end DeepScry
