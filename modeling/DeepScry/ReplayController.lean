/-
The controller that replays the recorded choices of a turn and then hands over
to the controller that it wraps.
-/
import DeepScry.NetworkController
import DeepScry.UndoLog

namespace DeepScry

namespace Replay

/-- Per attacker, the damage dealt to each blocker in order. -/
abbrev DamageAssignmentPlan := List (CardId × List (CardId × Int32))

structure SurveilDecision where
  top : List CardId
  graveyard : List CardId
deriving DecidableEq

/-- A single recorded choice, with what it records. -/
inductive Choice where
  | spellAbility (choice : Option SpellAbility)
  | targets (targets : List CardId)
  | manaSources (sources : List CardId)
  | attackers (attackers : List CardId)
  | blockers (blockers : List (CardId × CardId))
  | damageOrder (order : List CardId)
  | damageAssignment (plan : DamageAssignmentPlan)
  | discard (cards : List CardId)
  | librarySearch (card : Option CardId)
  | sacrifice (permanents : List CardId)
  | modes (modes : List Nat)
  | xValue (x : UInt8)
  | scry (top bottom : List CardId)
  | surveil (top graveyard : List CardId)

/-- `partition_choices_by_player`: a marker or a point without a choice is
passed over. -/
def partitionChoicesByPlayer (ourId : PlayerId) :
    List GameAction → List ReplayChoice × List ReplayChoice
  | [] => ([], [])
  | .choicePoint player _ (some choice) :: actions =>
      let rest := partitionChoicesByPlayer ourId actions
      if player == ourId then (choice :: rest.1, rest.2)
      else (rest.1, choice :: rest.2)
  | _ :: actions => partitionChoicesByPlayer ourId actions

inductive ControllerType where
  | zero | random | tui | heuristic | fixed | fancyFixed | remote | network
deriving DecidableEq

/-- What can be asked of a controller. -/
inductive Request (View : Type) where
  | playerId
  | chooseSpellAbilityToPlay (view : View) (available : List SpellAbility)
  | chooseTargets (view : View) (spell : CardId) (validTargets : List CardId)
      (minTargets maxTargets : Nat)
  | chooseManaSourcesToPay (view : View) (cost : ManaCost)
      (availableSources : List CardId)
  | chooseXValue (view : View) (spell : CardId) (maxX : UInt8)
  | choosePlayer (view : View) (validPlayers : List PlayerId)
  | chooseAttackers (view : View) (availableCreatures : List CardId)
  | chooseBlockers (view : View) (availableBlockers attackers : List CardId)
  | chooseDamageAssignmentOrder (view : View) (attacker : CardId)
      (blockers : List CardId)
  | chooseBlockerForLethalDamage (view : View) (attacker : CardId)
      (killableBlockers : List (CardId × Int32)) (remainingPower : Int32)
  | chooseBlockerForRemainingDamage (view : View) (attacker : CardId)
      (remainingBlockers : List CardId) (remainingDamage : Int32)
  | markChoiceCheckpoint
  | restoreChoiceCheckpoint
  | chooseCardsToDiscard (view : View) (hand : List CardId) (count : Nat)
  | chooseScryOrder (view : View) (revealed : List CardId)
  | chooseSurveil (view : View) (revealed : List CardId)
  | chooseFromLibrary (view : View) (validCards : List CardDefinition)
  | chooseFromLibraryByNames (view : View) (cardNames : List String)
  | takeLibrarySearchResult
  | setPendingLibrarySearchCardIds (cardIds : List CardId)
  | replayLibrarySearch
  | replayDamageAssignment
  | choosePermanentsToSacrifice (view : View) (validPermanents : List CardId)
      (count : Nat) (cardTypeDescription : String)
  | choosePermanentsToNotUntap (view : View)
      (mayNotUntapPermanents : List CardId)
  | chooseModes (view : View) (spell : CardId)
      (modeDescriptions : List String) (modeCount minModes : Nat)
      (canRepeat : Bool)
  | onPriorityPassed (view : View)
  | onGameEnd (view : View) (won : Bool)
  | getSnapshotState
  | hasMoreChoices
  | chooseFromOptions (options : List String)
  | getControllerType
  | prepareForPriorityChoice
  | wantsContext

variable {View : Type}

/-- The type of the answer to a request.  A snapshot is its JSON text. -/
@[reducible]
def Request.Answer : Request View → Type
  | .playerId => PlayerId
  | .chooseSpellAbilityToPlay .. => ChoiceResult (Option SpellAbility)
  | .chooseTargets .. => ChoiceResult (List CardId)
  | .chooseManaSourcesToPay .. => ChoiceResult (List CardId)
  | .chooseXValue .. => ChoiceResult UInt8
  | .choosePlayer .. => ChoiceResult Nat
  | .chooseAttackers .. => ChoiceResult (List CardId)
  | .chooseBlockers .. => ChoiceResult (List (CardId × CardId))
  | .chooseDamageAssignmentOrder .. => ChoiceResult (List CardId)
  | .chooseBlockerForLethalDamage .. => ChoiceResult CardId
  | .chooseBlockerForRemainingDamage .. => ChoiceResult CardId
  | .markChoiceCheckpoint | .restoreChoiceCheckpoint => Unit
  | .chooseCardsToDiscard .. => ChoiceResult (List CardId)
  | .chooseScryOrder .. => ChoiceResult ScryDecision
  | .chooseSurveil .. => ChoiceResult SurveilDecision
  | .chooseFromLibrary .. => ChoiceResult (Option Nat)
  | .chooseFromLibraryByNames .. => ChoiceResult (Option Nat)
  | .takeLibrarySearchResult => Option CardId
  | .setPendingLibrarySearchCardIds .. => Unit
  | .replayLibrarySearch => Option (Option CardId)
  | .replayDamageAssignment => Option DamageAssignmentPlan
  | .choosePermanentsToSacrifice .. => ChoiceResult (List CardId)
  | .choosePermanentsToNotUntap .. => ChoiceResult (List CardId)
  | .chooseModes .. => ChoiceResult (List Nat)
  | .onPriorityPassed .. | .onGameEnd .. => Unit
  | .getSnapshotState => Option String
  | .hasMoreChoices => Bool
  | .chooseFromOptions .. => Nat
  | .getControllerType => ControllerType
  | .prepareForPriorityChoice | .wantsContext => Bool

/-- `choose_player` of the trait. -/
def defaultPlayer (validPlayers : List PlayerId) : ChoiceResult Nat :=
  if validPlayers.isEmpty then
    .error "choose_player called with no valid players"
  else .ok 0

/-- `choose_from_library_by_names` of the trait. -/
def defaultByNames (cardNames : List String) : ChoiceResult (Option Nat) :=
  .ok (if cardNames.isEmpty then none else some 0)

/-- A controller, by what it answers in each of its states. -/
structure PlayerController (View σ : Type) where
  respond : (request : Request View) → σ → request.Answer × σ

/-- A request with its answer. -/
abbrev Exchange (View : Type) := (request : Request View) × request.Answer

/-- Ask the requests one after the other. -/
def PlayerController.run {σ : Type} (controller : PlayerController View σ) :
    List (Request View) → σ → List (Exchange View) × σ
  | [], state => ([], state)
  | request :: rest, state =>
      let first := controller.respond request state
      let later := controller.run rest first.2
      (⟨request, first.1⟩ :: later.1, later.2)

theorem PlayerController.run_cons {σ : Type}
    {controller : PlayerController View σ} {request : Request View}
    {requests : List (Request View)} {answer : request.Answer}
    {answers : List (Exchange View)} {state next last : σ}
    (hfirst : controller.respond request state = (answer, next))
    (hrun : controller.run requests next = (answers, last)) :
    controller.run (request :: requests) state =
      (⟨request, answer⟩ :: answers, last) := by
  simp [run, hfirst, hrun]

/-- `ReplayController`, with the state of the controller that it wraps. -/
structure ReplayController (σ : Type) where
  playerId : PlayerId
  inner : σ
  replayChoices : List Choice
  replayIndex : Nat := 0

namespace ReplayController

variable {σ : Type}

/-- The next recorded choice, while `has_replay_choice`. -/
def nextChoice (state : ReplayController σ) : Option Choice :=
  state.replayChoices[state.replayIndex]?

/-- One choice further. -/
def advance (state : ReplayController σ) : ReplayController σ :=
  { state with replayIndex := state.replayIndex + 1 }

/-- `consume_replay_choice`: a choice of another kind stays where it is. -/
def consumeReplayChoice {α : Type} (state : ReplayController σ)
    (extract : Choice → Option α) : Option α × ReplayController σ :=
  match state.nextChoice with
  | none => (none, state)
  | some choice =>
      match extract choice with
      | some value => (some value, state.advance)
      | none => (none, state)

variable (inner : PlayerController View σ)

/-- Hand the request over. -/
def delegate (state : ReplayController σ) (request : Request View) :
    request.Answer × ReplayController σ :=
  let answer := inner.respond request state.inner
  (answer.1, { state with inner := answer.2 })

/-- Consume a recorded choice first. -/
def replayOr (state : ReplayController σ) (request : Request View)
    (extract : Choice → Option request.Answer) :
    request.Answer × ReplayController σ :=
  match state.consumeReplayChoice extract with
  | (some answer, next) => (answer, next)
  | (none, next) => next.delegate inner request

/-- What a `ReplayController` answers: the methods that it overrides, and the
defaults of the trait for the others.  What is typed at a terminal is given. -/
def respond (typed : List String → Nat) (request : Request View)
    (state : ReplayController σ) : request.Answer × ReplayController σ :=
  match request with
  | .playerId => (state.playerId, state)
  | .chooseSpellAbilityToPlay view available =>
      state.replayOr inner (.chooseSpellAbilityToPlay view available) fun
        | .spellAbility choice => some (.ok choice)
        | _ => none
  | .chooseTargets view spell validTargets minTargets maxTargets =>
      state.replayOr inner
        (.chooseTargets view spell validTargets minTargets maxTargets) fun
        | .targets targets => some (.ok targets)
        | _ => none
  | .chooseManaSourcesToPay view cost availableSources =>
      state.replayOr inner
        (.chooseManaSourcesToPay view cost availableSources) fun
        | .manaSources sources => some (.ok sources)
        | _ => none
  | .chooseAttackers view availableCreatures =>
      state.replayOr inner (.chooseAttackers view availableCreatures) fun
        | .attackers attackers => some (.ok attackers)
        | _ => none
  | .chooseBlockers view availableBlockers attackers =>
      state.replayOr inner
        (.chooseBlockers view availableBlockers attackers) fun
        | .blockers blockers => some (.ok blockers)
        | _ => none
  | .chooseDamageAssignmentOrder view attacker blockers =>
      state.replayOr inner
        (.chooseDamageAssignmentOrder view attacker blockers) fun
        | .damageOrder order => some (.ok order)
        | _ => none
  | .replayDamageAssignment =>
      match state.nextChoice with
      | some (.damageAssignment plan) => (some plan, state.advance)
      | _ => (none, state)
  | .chooseBlockerForLethalDamage view attacker killableBlockers
      remainingPower =>
      state.delegate inner (.chooseBlockerForLethalDamage view attacker
        killableBlockers remainingPower)
  | .chooseBlockerForRemainingDamage view attacker remainingBlockers
      remainingDamage =>
      state.delegate inner (.chooseBlockerForRemainingDamage view attacker
        remainingBlockers remainingDamage)
  | .markChoiceCheckpoint => state.delegate inner .markChoiceCheckpoint
  | .restoreChoiceCheckpoint => state.delegate inner .restoreChoiceCheckpoint
  | .chooseCardsToDiscard view hand count =>
      state.replayOr inner (.chooseCardsToDiscard view hand count) fun
        | .discard cards => some (.ok cards)
        | _ => none
  | .chooseScryOrder view revealed =>
      state.replayOr inner (.chooseScryOrder view revealed) fun
        | .scry top bottom => some (.ok ⟨top, bottom⟩)
        | _ => none
  | .chooseSurveil view revealed =>
      state.replayOr inner (.chooseSurveil view revealed) fun
        | .surveil top graveyard => some (.ok ⟨top, graveyard⟩)
        | _ => none
  | .chooseFromLibrary view validCards =>
      state.delegate inner (.chooseFromLibrary view validCards)
  | .replayLibrarySearch =>
      state.consumeReplayChoice fun
        | .librarySearch card => some card
        | _ => none
  | .choosePermanentsToSacrifice view validPermanents count
      cardTypeDescription =>
      state.replayOr inner (.choosePermanentsToSacrifice view validPermanents
        count cardTypeDescription) fun
        | .sacrifice permanents => some (.ok permanents)
        | _ => none
  | .choosePermanentsToNotUntap view mayNotUntapPermanents =>
      state.delegate inner
        (.choosePermanentsToNotUntap view mayNotUntapPermanents)
  | .chooseModes view spell modeDescriptions modeCount minModes canRepeat =>
      state.replayOr inner (.chooseModes view spell modeDescriptions modeCount
        minModes canRepeat) fun
        | .modes modes => some (.ok modes)
        | _ => none
  | .chooseXValue view spell maxX =>
      state.replayOr inner (.chooseXValue view spell maxX) fun
        | .xValue x => some (.ok x)
        | _ => none
  | .prepareForPriorityChoice => state.delegate inner .prepareForPriorityChoice
  | .onPriorityPassed view => state.delegate inner (.onPriorityPassed view)
  | .onGameEnd view won => state.delegate inner (.onGameEnd view won)
  | .getControllerType => state.delegate inner .getControllerType
  | .wantsContext => state.delegate inner .wantsContext
  | .getSnapshotState => state.delegate inner .getSnapshotState
  -- not overridden
  | .choosePlayer _ validPlayers => (defaultPlayer validPlayers, state)
  | .chooseFromLibraryByNames _ cardNames => (defaultByNames cardNames, state)
  | .takeLibrarySearchResult => (none, state)
  | .setPendingLibrarySearchCardIds _ => ((), state)
  | .hasMoreChoices => (true, state)
  | .chooseFromOptions options => (typed options, state)

/-- A `ReplayController` is a controller in turn. -/
def controller (typed : List String → Nat) :
    PlayerController View (ReplayController σ) where
  respond := respond inner typed

/-- `new`. -/
def start (playerId : PlayerId) (state : σ) (replayChoices : List Choice) :
    ReplayController σ :=
  { playerId, inner := state, replayChoices }

/-- The choices that are still to be replayed. -/
def remaining (state : ReplayController σ) : List Choice :=
  state.replayChoices.drop state.replayIndex

end ReplayController

/-- What a `ReplayController` answers on its own when no choice is left. -/
def Request.ownAnswer (playerId : PlayerId) (typed : List String → Nat) :
    (request : Request View) → Option request.Answer
  | .playerId => some playerId
  | .replayDamageAssignment => some none
  | .replayLibrarySearch => some none
  | .choosePlayer _ validPlayers => some (defaultPlayer validPlayers)
  | .chooseFromLibraryByNames _ cardNames => some (defaultByNames cardNames)
  | .takeLibrarySearchResult => some none
  | .setPendingLibrarySearchCardIds _ => some ()
  | .hasMoreChoices => some true
  | .chooseFromOptions options => some (typed options)
  | _ => none

/-- A recorded choice as the answer to a request of its kind. -/
inductive Answers :
    Choice → (request : Request View) → request.Answer → Prop where
  | spellAbility {view available choice} : Answers (.spellAbility choice)
      (.chooseSpellAbilityToPlay view available) (.ok choice)
  | targets {view spell validTargets minTargets maxTargets targets} :
      Answers (.targets targets)
        (.chooseTargets view spell validTargets minTargets maxTargets)
        (.ok targets)
  | manaSources {view cost availableSources sources} :
      Answers (.manaSources sources)
        (.chooseManaSourcesToPay view cost availableSources) (.ok sources)
  | attackers {view availableCreatures attackers} :
      Answers (.attackers attackers)
        (.chooseAttackers view availableCreatures) (.ok attackers)
  | blockers {view availableBlockers attackers blockers} :
      Answers (.blockers blockers)
        (.chooseBlockers view availableBlockers attackers) (.ok blockers)
  | damageOrder {view attacker blockers order} :
      Answers (.damageOrder order)
        (.chooseDamageAssignmentOrder view attacker blockers) (.ok order)
  | damageAssignment {plan} :
      Answers (.damageAssignment plan) .replayDamageAssignment (some plan)
  | discard {view hand count cards} :
      Answers (.discard cards) (.chooseCardsToDiscard view hand count)
        (.ok cards)
  | librarySearch {card} :
      Answers (.librarySearch card) .replayLibrarySearch (some card)
  | sacrifice {view validPermanents count description permanents} :
      Answers (.sacrifice permanents) (.choosePermanentsToSacrifice view
        validPermanents count description) (.ok permanents)
  | modes {view spell descriptions modeCount minModes canRepeat modes} :
      Answers (.modes modes) (.chooseModes view spell descriptions modeCount
        minModes canRepeat) (.ok modes)
  | xValue {view spell maxX x} :
      Answers (.xValue x) (.chooseXValue view spell maxX) (.ok x)
  | scry {view revealed top bottom} :
      Answers (.scry top bottom) (.chooseScryOrder view revealed)
        (.ok ⟨top, bottom⟩)
  | surveil {view revealed top graveyard} :
      Answers (.surveil top graveyard) (.chooseSurveil view revealed)
        (.ok ⟨top, graveyard⟩)

/-- Requests of the kinds of the recorded choices in order, with the recorded
answers and the choices left over.  A damage assignment may be asked for
before every choice, and is there only when it is next. -/
inductive Replays : List (Request View) → List Choice →
    List (Exchange View) → List Choice → Prop where
  | nil {rest} : Replays [] rest [] rest
  | next {choice request answer requests choices answers rest} :
      Answers choice request answer →
      Replays requests choices answers rest →
      Replays (request :: requests) (choice :: choices)
        (⟨request, answer⟩ :: answers) rest
  | peek {choice requests choices answers rest} :
      (∀ plan, choice ≠ .damageAssignment plan) →
      Replays requests (choice :: choices) answers rest →
      Replays (.replayDamageAssignment :: requests) (choice :: choices)
        (⟨.replayDamageAssignment, none⟩ :: answers) rest

namespace ReplayController

variable {σ : Type} {inner : PlayerController View σ}
  {typed : List String → Nat} {state : ReplayController σ}

theorem nextChoice_of_remaining {choice : Choice} {choices : List Choice}
    (hremaining : state.remaining = choice :: choices) :
    state.nextChoice = some choice ∧ state.advance.remaining = choices := by
  constructor
  · rw [nextChoice, ← List.head?_drop]
    rw [remaining] at hremaining
    simp [hremaining]
  · rw [remaining] at hremaining
    simp [remaining, advance, ← List.drop_drop, hremaining]

theorem nextChoice_eq_none (hremaining : state.remaining = []) :
    state.nextChoice = none := by
  rw [remaining, List.drop_eq_nil_iff] at hremaining
  simpa [nextChoice] using hremaining

section Steps

variable (inner) (typed)

/-- The next recorded choice answers a request of its kind. -/
theorem respond_next {choice : Choice} {request : Request View}
    {answer : request.Answer} (hnext : state.nextChoice = some choice)
    (hanswers : Answers choice request answer) :
    respond inner typed request state = (answer, state.advance) := by
  cases hanswers <;>
    simp [respond, replayOr, consumeReplayChoice, hnext]

/-- A damage assignment that is not next is not waited for. -/
theorem respond_peek {choice : Choice} (hnext : state.nextChoice = some choice)
    (hother : ∀ plan, choice ≠ .damageAssignment plan) :
    respond inner typed .replayDamageAssignment state = (none, state) := by
  cases choice with
  | damageAssignment plan => exact absurd rfl (hother plan)
  | _ => simp [respond, hnext]

/-- With nothing left to replay, some requests are not forwarded. -/
theorem respond_own (hnext : state.nextChoice = none) {request : Request View}
    {answer : request.Answer}
    (hown : request.ownAnswer state.playerId typed = some answer) :
    respond inner typed request state = (answer, state) := by
  cases request <;> cases hown <;>
    simp [respond, consumeReplayChoice, hnext]

/-- All others are. -/
theorem respond_delegate (hnext : state.nextChoice = none)
    {request : Request View}
    (hown : request.ownAnswer state.playerId typed = none) :
    respond inner typed request state = state.delegate inner request := by
  cases request <;> cases hown <;>
    simp [respond, replayOr, consumeReplayChoice, hnext]

/-- Every request gets the answer of the wrapped controller, which is told of
it. -/
def Follows : ReplayController σ → List (Request View) → Prop
  | _, [] => True
  | state, request :: rest =>
      respond inner typed request state = state.delegate inner request ∧
        Follows (respond inner typed request state).2 rest

/-- The wrapped controller would itself give the answers to the requests that
are not forwarded, without a change of its state. -/
def KeepsDefaults (playerId : PlayerId) : σ → List (Request View) → Prop
  | _, [] => True
  | state, request :: rest =>
      (∀ answer, request.ownAnswer playerId typed = some answer →
        inner.respond request state = (answer, state)) ∧
      KeepsDefaults playerId (inner.respond request state).2 rest

theorem respond_eq_delegate_iff (hnext : state.nextChoice = none)
    (request : Request View) :
    respond inner typed request state = state.delegate inner request ↔
      ∀ answer, request.ownAnswer state.playerId typed = some answer →
        inner.respond request state.inner = (answer, state.inner) := by
  cases hown : request.ownAnswer state.playerId typed with
  | none => simp [respond_delegate inner typed hnext hown]
  | some answer =>
      rw [respond_own inner typed hnext hown]
      constructor
      · intro heq other hother
        cases hother
        have hanswer := congrArg Prod.fst heq
        have hstate := congrArg (fun result => result.2.inner) heq
        exact Prod.ext hanswer.symm hstate.symm
      · intro hkeeps
        rw [delegate, hkeeps answer rfl]

/-- Once everything is replayed, the wrapped controller is followed exactly
when it keeps the defaults. -/
theorem follows_iff (hremaining : state.remaining = [])
    (later : List (Request View)) :
    Follows inner typed state later ↔
      KeepsDefaults inner typed state.playerId state.inner later := by
  induction later generalizing state with
  | nil => simp [Follows, KeepsDefaults]
  | cons request rest ih =>
      have hnext := nextChoice_eq_none hremaining
      rw [Follows, KeepsDefaults,
        ← respond_eq_delegate_iff inner typed hnext request]
      have hdelegated : (state.delegate inner request).2.remaining = [] :=
        hremaining
      constructor
      · rintro ⟨hfirst, hrest⟩
        rw [hfirst, ih hdelegated] at hrest
        exact ⟨hfirst, hrest⟩
      · rintro ⟨hfirst, hrest⟩
        rw [hfirst, ih hdelegated]
        exact ⟨rfl, hrest⟩

/-- The recorded choices are replayed in order, whatever is wrapped, and what
is wrapped is not asked. -/
theorem run_replays {requests : List (Request View)}
    {choices rest : List Choice} {answers : List (Exchange View)}
    (hreplays : Replays requests choices answers rest)
    (hremaining : state.remaining = choices) :
    ∃ index, (controller inner typed).run requests state =
        (answers, { state with replayIndex := index }) ∧
      ({ state with replayIndex := index } : ReplayController σ).remaining =
        rest := by
  induction hreplays generalizing state with
  | nil => exact ⟨state.replayIndex, rfl, hremaining⟩
  | next hanswers _ ih =>
      rcases nextChoice_of_remaining hremaining with ⟨hnext, hadvance⟩
      rcases ih hadvance with ⟨index, hrun, hrest⟩
      exact ⟨index, PlayerController.run_cons
        (respond_next inner typed hnext hanswers) hrun, hrest⟩
  | peek hother _ ih =>
      rcases nextChoice_of_remaining hremaining with ⟨hnext, _⟩
      rcases ih hremaining with ⟨index, hrun, hrest⟩
      exact ⟨index, PlayerController.run_cons
        (respond_peek inner typed hnext hother) hrun, hrest⟩

end Steps

end ReplayController

/-- The choices that a list of actions records, with their players. -/
def recorded (actions : List GameAction) : List (PlayerId × ReplayChoice) :=
  actions.filterMap fun
    | .choicePoint player _ (some choice) => some (player, choice)
    | _ => none

/-- Two lists hold the choices of one player and of the others: each choice
stands in one of them, in its order. -/
inductive Splits (ourId : PlayerId) : List (PlayerId × ReplayChoice) →
    List ReplayChoice → List ReplayChoice → Prop where
  | nil : Splits ourId [] [] []
  | ours {choice choices ours theirs} : Splits ourId choices ours theirs →
      Splits ourId ((ourId, choice) :: choices) (choice :: ours) theirs
  | theirs {player choice choices ours theirs} : player ≠ ourId →
      Splits ourId choices ours theirs →
      Splits ourId ((player, choice) :: choices) ours (choice :: theirs)

/-- `partition_choices_by_player` loses, doubles and reorders nothing. -/
theorem partitionChoicesByPlayer_splits (ourId : PlayerId)
    (actions : List GameAction) :
    Splits ourId (recorded actions)
      (partitionChoicesByPlayer ourId actions).1
      (partitionChoicesByPlayer ourId actions).2 := by
  fun_induction partitionChoicesByPlayer ourId actions with
  | case1 => exact .nil
  | case2 player _ choice actions rest hours ih =>
      cases eq_of_beq hours
      exact .ours ih
  | case3 player _ choice actions rest htheirs ih =>
      exact .theirs (by simpa using htheirs) ih
  | case4 action actions hother ih =>
      have hskip : recorded (action :: actions) = recorded actions := by
        cases action with
        | choicePoint player id choice =>
            cases choice with
            | none => rfl
            | some choice => exact absurd rfl (hother player id choice)
        | _ => rfl
      rw [hskip]
      exact ih

/-- The choices of one side, read in full. -/
def sideChoices (full : ReplayChoice → Choice) (ourId : PlayerId)
    (actions : List GameAction) (ours : Bool) : List Choice :=
  let split := partitionChoicesByPlayer ourId actions
  (if ours then split.1 else split.2).map full

open ReplayController

variable {σ : Type}

/-- The choices are split, the choices of one side are replayed without asking
the wrapped controller, and then that one is followed. -/
structure RecordReplay (full : ReplayChoice → Choice)
    (inner : PlayerController View σ) (typed : List String → Nat)
    (ourId playerId : PlayerId) (actions : List GameAction) (ours : Bool)
    (state : σ) (requests later : List (Request View))
    (answers : List (Exchange View)) (rest : List Choice) : Prop where
  splits : Splits ourId (recorded actions)
    (partitionChoicesByPlayer ourId actions).1
    (partitionChoicesByPlayer ourId actions).2
  replays : ∃ after, (controller inner typed).run requests
      (start playerId state (sideChoices full ourId actions ours)) =
        (answers, after) ∧
    after.inner = state ∧ after.remaining = rest ∧
      (rest = [] → Follows inner typed after later)

/-- Record and replay agree exactly when the requests after the last recorded
choice keep the defaults. -/
theorem recordReplay_iff (full : ReplayChoice → Choice)
    (inner : PlayerController View σ) (typed : List String → Nat)
    (ourId playerId : PlayerId) (actions : List GameAction) (ours : Bool)
    (state : σ) {requests : List (Request View)}
    (later : List (Request View)) {answers : List (Exchange View)}
    {rest : List Choice}
    (hreplays : Replays requests (sideChoices full ourId actions ours) answers
      rest) :
    RecordReplay full inner typed ourId playerId actions ours state requests
        later answers rest ↔
      (rest = [] → KeepsDefaults inner typed playerId state later) := by
  have hstart : (start playerId state
      (sideChoices full ourId actions ours)).remaining =
        sideChoices full ourId actions ours := rfl
  rcases run_replays inner typed hreplays hstart with ⟨index, hrun, hrest⟩
  constructor
  · intro hagree hnil
    rcases hagree.replays with ⟨after, hafter, hinner, hremaining, hfollows⟩
    rw [hrun] at hafter
    cases hafter
    exact (follows_iff inner typed (hremaining.trans hnil) later).mp
      (hfollows hnil)
  · intro hkeeps
    refine ⟨partitionChoicesByPlayer_splits ourId actions, _, hrun, rfl,
      hrest, ?_⟩
    intro hnil
    exact (follows_iff inner typed (hrest.trans hnil) later).mpr (hkeeps hnil)

/-- Some answer to every request. -/
def Request.plainAnswer : (request : Request View) → request.Answer
  | .playerId => ⟨0⟩
  | .chooseSpellAbilityToPlay .. => .exitGame
  | .chooseTargets .. => .exitGame
  | .chooseManaSourcesToPay .. => .exitGame
  | .chooseXValue .. => .exitGame
  | .choosePlayer .. => .exitGame
  | .chooseAttackers .. => .exitGame
  | .chooseBlockers .. => .exitGame
  | .chooseDamageAssignmentOrder .. => .exitGame
  | .chooseBlockerForLethalDamage .. => .exitGame
  | .chooseBlockerForRemainingDamage .. => .exitGame
  | .markChoiceCheckpoint | .restoreChoiceCheckpoint => ()
  | .chooseCardsToDiscard .. => .exitGame
  | .chooseScryOrder .. => .exitGame
  | .chooseSurveil .. => .exitGame
  | .chooseFromLibrary .. => .exitGame
  | .chooseFromLibraryByNames .. => .exitGame
  | .takeLibrarySearchResult => none
  | .setPendingLibrarySearchCardIds .. => ()
  | .replayLibrarySearch => none
  | .replayDamageAssignment => none
  | .choosePermanentsToSacrifice .. => .exitGame
  | .choosePermanentsToNotUntap .. => .exitGame
  | .chooseModes .. => .exitGame
  | .onPriorityPassed .. | .onGameEnd .. => ()
  | .getSnapshotState => none
  | .hasMoreChoices => true
  | .chooseFromOptions .. => 0
  | .getControllerType => .remote
  | .prepareForPriorityChoice => true
  | .wantsContext => false

/-- A remote controller that gets the card of a library search with the
answer, and gives it away once. -/
def remoteSearcher (card : CardId) :
    PlayerController Unit (Option CardId) where
  respond
    | .chooseFromLibrary _ _, _ => (.ok (some 0), some card)
    | .takeLibrarySearchResult, result => (result, none)
    | request, result => (request.plainAnswer, result)

/-- One recorded pass of the opponent. -/
def recordedPass : List GameAction := [.choicePoint ⟨1⟩ 1 (some ⟨0⟩)]

/-- The pass is replayed, also where a damage assignment is asked for first,
and the attackers are asked for after it. -/
theorem recordReplay_attackers :
    RecordReplay (fun _ => .spellAbility none) (remoteSearcher ⟨7⟩)
      (fun _ => 0) ⟨0⟩ ⟨1⟩ recordedPass false none
      [.replayDamageAssignment, .chooseSpellAbilityToPlay () []]
      [.chooseAttackers () []]
      [⟨.replayDamageAssignment, none⟩,
        ⟨.chooseSpellAbilityToPlay () [], .ok none⟩] [] := by
  have hreplays : Replays
      [.replayDamageAssignment, .chooseSpellAbilityToPlay () []]
      (sideChoices (fun _ => .spellAbility none) ⟨0⟩ recordedPass false)
      [⟨.replayDamageAssignment, none⟩,
        ⟨.chooseSpellAbilityToPlay () [], .ok none⟩] [] :=
    .peek nofun (.next .spellAbility .nil)
  exact (recordReplay_iff _ _ _ _ _ _ _ _ _ hreplays).mpr
    fun _ => ⟨nofun, trivial⟩

/-- The card that the wrapped controller got for a search after the recorded
pass is not handed on. -/
theorem not_recordReplay_search :
    ¬RecordReplay (fun _ => .spellAbility none) (remoteSearcher ⟨7⟩)
        (fun _ => 0) ⟨0⟩ ⟨1⟩ recordedPass false none
        [.chooseSpellAbilityToPlay () []]
        [.chooseFromLibrary () [], .takeLibrarySearchResult]
        [⟨.chooseSpellAbilityToPlay () [], .ok none⟩] [] := by
  intro hagree
  rcases hagree.replays with ⟨after, hrun, _, _, hfollows⟩
  cases hrun
  have htaken := congrArg Prod.fst (hfollows rfl).2.1
  cases htaken

end Replay

end DeepScry
