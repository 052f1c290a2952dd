/-
Resolving the top spell of the stack.  What happened is reported under the
logging flag, and a planeswalker gets its starting loyalty under it too.
-/
import DeepScry.Counters
import DeepScry.DelayedFiring

namespace DeepScry

inductive VerbosityLevel where
  | silent
  | minimal
  | normal
  | verbose
deriving DecidableEq

def VerbosityLevel.rank : VerbosityLevel → Nat
  | silent => 0
  | minimal => 1
  | normal => 2
  | verbose => 3

/-- The settings of the game loop that logging depends on. -/
structure LoopSettings where
  verbosity : VerbosityLevel
  replaying : Bool
deriving DecidableEq

/-- `should_log`. -/
def LoopSettings.shouldLog (settings : LoopSettings) : Bool :=
  decide (VerbosityLevel.normal.rank ≤ settings.verbosity.rank) &&
    !settings.replaying

/-- The methods of the game that resolve a spell and check state-based
actions, and how many lines are logged for the effects of the spell, from the
states before and after.  None of them is told the settings. -/
structure ResolutionMethods where
  resolveSpell : GameState → CardId → List CardId → Outcome Unit
  effectLines : GameState → GameState → CardId → Nat
  stateBasedActions : List (GameState → Outcome Unit)

namespace GameState

/-- The targets stored for a spell. -/
def targetsOf (game : GameState) (spell : CardId) : List CardId :=
  ((game.spellTargets.find? fun entry => entry.1 == spell).map
    Prod.snd).getD []

def reportEntering (game : GameState) (spell : CardId) : GameState :=
  if game.zones.battlefield.contains spell &&
      (game.card? spell).any Card.isCreature then game.message
  else game

/-- Set starting loyalty counters for planeswalkers. -/
def setStartingLoyalty (game : GameState) (spell : CardId) : GameState :=
  match (game.card? spell).bind fun card => card.definition.loyalty with
  | some loyalty =>
      (game.modifyCard spell fun card =>
        card.addCounter .loyalty loyalty).message
  | none => game

/-- Run checks one after the other; their errors are only printed. -/
def runChecks (game : GameState) (checks : List (GameState → Outcome Unit)) :
    Option GameState :=
  checks.foldlM (fun game check => (check game).map Prod.fst) game

/-- The spell is no longer in the targets tracking. -/
def forgetTargets (game : GameState) (spell : CardId) : GameState :=
  { game with
    spellTargets := game.spellTargets.filter fun entry => entry.1 != spell }

end GameState

namespace ResolutionMethods

variable (methods : ResolutionMethods)

/-- Log the effects and what entered, and set the starting loyalty. -/
def report (shouldLog : Bool) (announced resolved : GameState)
    (spell : CardId) : GameState :=
  if shouldLog then
    ((GameState.message^[methods.effectLines announced resolved spell]
      resolved).reportEntering spell).setStartingLoyalty spell
  else resolved

/-- Resolve the spell and report it, up to the state-based actions. -/
def resolveAndReport (settings : LoopSettings) (game : GameState)
    (spell : CardId) : Outcome Unit :=
  match game.cards.get spell.raw with
  | none => .error game (.entityNotFound spell.raw)
  | some _ =>
      let announced := if settings.shouldLog then game.message else game
      (methods.resolveSpell announced spell (game.targetsOf spell)).andThen
        fun resolved _ =>
          .ok (methods.report settings.shouldLog announced resolved spell) ()

def resolveTopSpellFromStack (settings : LoopSettings) (game : GameState)
    (spell : CardId) : Outcome Unit :=
  (methods.resolveAndReport settings game spell).andThen fun reported _ =>
    (reported.runChecks methods.stateBasedActions).map fun checked =>
      (checked.forgetTargets spell, .ok ())

end ResolutionMethods

/-- A game without its message log: the log itself and the sizes of it that
the undo log notes. -/
def GameState.apartFromLog (game : GameState) :
    GameState × List GameAction × Bool × List Nat :=
  ({ game with logger := {}, undoLog := {} }, game.undoLog.actions,
    game.undoLog.enabled, game.undoLog.choicePoints)

/-- The same of every state a call can leave. -/
def Outcome.apartFromLog (outcome : Outcome Unit) :
    Option ((GameState × List GameAction × Bool × List Nat) ×
      Except MtgError Unit) :=
  outcome.map (Prod.map GameState.apartFromLog id)

/-- A method that neither reads the message log nor tells from it. -/
def LogBlind (method : GameState → Outcome Unit) : Prop :=
  ∀ game other : GameState, game.apartFromLog = other.apartFromLog →
    (method game).apartFromLog = (method other).apartFromLog

namespace Outcome

variable {outcome outcome' : Outcome Unit}

/-- Calls with the same results apart from the log: neither returns, or both
do, with the same result. -/
theorem apartFromLog_cases
    (hsame : outcome.apartFromLog = outcome'.apartFromLog) :
    outcome = none ∧ outcome' = none ∨
      ∃ after after' result, outcome = some (after, result) ∧
        outcome' = some (after', result) ∧
        after.apartFromLog = after'.apartFromLog := by
  cases outcome with
  | none => exact .inl ⟨rfl, Option.map_eq_none_iff.mp hsame.symm⟩
  | some left =>
      obtain ⟨left', rfl, hleft⟩ := Option.map_eq_some_iff.mp hsame.symm
      obtain ⟨hafter, hresult⟩ := Prod.mk.inj hleft
      change left'.2 = left.2 at hresult
      refine .inr ⟨left.1, left'.1, left.2, rfl, ?_, hafter.symm⟩
      rw [← hresult]

theorem andThen_apartFromLog {next next' : GameState → Unit → Outcome Unit}
    (hsame : outcome.apartFromLog = outcome'.apartFromLog)
    (hnext : ∀ after after', outcome = some (after, .ok ()) →
      outcome' = some (after', .ok ()) →
      after.apartFromLog = after'.apartFromLog →
      (next after ()).apartFromLog = (next' after' ()).apartFromLog) :
    (outcome.andThen next).apartFromLog =
      (outcome'.andThen next').apartFromLog := by
  rcases apartFromLog_cases hsame with
    ⟨rfl, rfl⟩ | ⟨after, after', e | _, rfl, rfl, hafter⟩
  · rfl
  · exact congrArg (fun apart => some (apart, Except.error e)) hafter
  · exact hnext after after' rfl rfl hafter

end Outcome

namespace ResolutionMethods

/-- None of the methods depends on the message log. -/
structure Blind (methods : ResolutionMethods) : Prop where
  resolveSpell : ∀ spell targets,
    LogBlind (methods.resolveSpell · spell targets)
  stateBasedActions : ∀ check ∈ methods.stateBasedActions, LogBlind check

/-- The settings change nothing but the log.  The state-based actions find the
same game, where a planeswalker that entered has its starting loyalty, and
they leave the same game. -/
structure Unobserved (methods : ResolutionMethods) (game : GameState)
    (spell : CardId) : Prop where
  found : ∀ settings other : LoopSettings,
    (methods.resolveAndReport settings game spell).apartFromLog =
      (methods.resolveAndReport other game spell).apartFromLog
  left : ∀ settings other : LoopSettings,
    (methods.resolveTopSpellFromStack settings game spell).apartFromLog =
      (methods.resolveTopSpellFromStack other game spell).apartFromLog
  loyal : ∀ settings resolved, methods.resolveAndReport settings game spell =
      some (resolved, .ok ()) →
    spell ∈ resolved.zones.battlefield →
    ∀ card, resolved.card? spell = some card → card.isPlaneswalker = true →
    ∀ loyalty, card.definition.loyalty = some loyalty →
      loyalty ≤ card.getCounter .loyalty

end ResolutionMethods

/-- A card without a starting loyalty to set: none is printed, or it would not
change the counters. -/
def Card.NoneToSet (card : Card) : Prop :=
  ∀ loyalty, card.definition.loyalty = some loyalty →
    loyalty = 0 ∨ card.getCounter .loyalty = 255 ∧
      (card.getCounter .p1p1 = 0 ∨ card.getCounter .m1m1 = 0)

/-- The spell resolves to a card without one, if it resolves. -/
def ResolutionMethods.NoLoyaltyToSet (methods : ResolutionMethods)
    (game : GameState) (spell : CardId) : Prop :=
  game.cards.get spell.raw ≠ none → ∀ resolved,
    methods.resolveSpell game spell (game.targetsOf spell) =
      some (resolved, .ok ()) →
    ∀ card, resolved.card? spell = some card → card.NoneToSet

namespace GameState

variable {game other : GameState}

theorem apartFromLog_message (game : GameState) :
    game.message.apartFromLog = game.apartFromLog := rfl

theorem apartFromLog_messages (game : GameState) (n : Nat) :
    (GameState.message^[n] game).apartFromLog = game.apartFromLog := by
  induction n generalizing game with
  | zero => rfl
  | succ n ih => exact (ih game.message).trans (apartFromLog_message game)

theorem apartFromLog_reportEntering (game : GameState) (spell : CardId) :
    (game.reportEntering spell).apartFromLog = game.apartFromLog := by
  rw [reportEntering]
  split
  · exact apartFromLog_message game
  · rfl

theorem card?_apartFromLog (hsame : game.apartFromLog = other.apartFromLog)
    (id : CardId) : game.card? id = other.card? id :=
  congrArg (fun apart => apart.1.card? id) hsame

theorem setStartingLoyalty_apartFromLog
    (hsame : game.apartFromLog = other.apartFromLog) (spell : CardId) :
    (game.setStartingLoyalty spell).apartFromLog =
      (other.setStartingLoyalty spell).apartFromLog := by
  rw [setStartingLoyalty, setStartingLoyalty, card?_apartFromLog hsame]
  split
  · next loyalty _ =>
    exact congrArg (fun apart => (apart.1.modifyCard spell fun card =>
      card.addCounter .loyalty loyalty, apart.2)) hsame
  · exact hsame

/-- Setting the starting loyalty leaves no trace exactly when there is none
to set. -/
theorem setStartingLoyalty_apartFromLog_iff (game : GameState)
    (spell : CardId) :
    (game.setStartingLoyalty spell).apartFromLog = game.apartFromLog ↔
      ∀ card, game.card? spell = some card → card.NoneToSet := by
  rw [setStartingLoyalty]
  cases hcard : game.card? spell with
  | none => exact iff_of_true rfl fun card hnone => nomatch hnone
  | some card =>
      dsimp only [Option.bind]
      cases hprinted : card.definition.loyalty with
      | none =>
          apply iff_of_true rfl
          rintro _ ⟨⟩ loyalty hloyalty
          rw [hprinted] at hloyalty
          cases hloyalty
      | some loyalty =>
          have hadd : card.addCounter .loyalty loyalty = card ↔ _ :=
            Card.addCounter_eq_self_iff (by decide) (by decide)
          constructor
          · rintro hsame _ ⟨⟩ other hother
            rw [hprinted] at hother
            cases hother
            have hadded := card?_apartFromLog hsame spell
            change (game.cards.modify spell.raw _).tryGet spell.raw =
              game.card? spell at hadded
            rw [EntityStore.tryGet_modify_self] at hadded
            change (game.card? spell).map _ = _ at hadded
            rw [hcard] at hadded
            exact hadd.mp (Option.some.inj hadded)
          · intro hnone
            have hsame := hadd.mpr (hnone card rfl loyalty hprinted)
            rw [apartFromLog_message, modifyCard,
              EntityStore.modify_eq_self_of_tryGet hcard hsame]

/-- Blind checks leave the same game of states that differ in their log. -/
theorem runChecks_apartFromLog {checks : List (GameState → Outcome Unit)}
    (hblind : ∀ check ∈ checks, LogBlind check)
    (hsame : game.apartFromLog = other.apartFromLog) :
    (game.runChecks checks).map apartFromLog =
      (other.runChecks checks).map apartFromLog := by
  induction checks generalizing game other with
  | nil => exact congrArg some hsame
  | cons check rest ih =>
      obtain ⟨hcheck, hrest⟩ := List.forall_mem_cons.mp hblind
      rw [runChecks, runChecks, List.foldlM_cons, List.foldlM_cons]
      rcases Outcome.apartFromLog_cases (hcheck game other hsame) with
        ⟨hgame, hother⟩ | ⟨after, after', result, hgame, hother, hafter⟩
      · rw [hgame, hother]
      · rw [hgame, hother]
        exact ih hrest hafter

theorem forgetTargets_apartFromLog
    (hsame : game.apartFromLog = other.apartFromLog) (spell : CardId) :
    (game.forgetTargets spell).apartFromLog =
      (other.forgetTargets spell).apartFromLog :=
  congrArg (fun apart => (apart.1.forgetTargets spell, apart.2)) hsame

end GameState

namespace ResolutionMethods

variable {methods : ResolutionMethods} {game : GameState} {spell : CardId}

theorem report_apartFromLog_iff (announced resolved : GameState) :
    (methods.report true announced resolved spell).apartFromLog =
        resolved.apartFromLog ↔
      ∀ card, resolved.card? spell = some card → card.NoneToSet := by
  have hlogged : ((GameState.message^[methods.effectLines announced resolved
      spell] resolved).reportEntering spell).apartFromLog =
        resolved.apartFromLog :=
    (GameState.apartFromLog_reportEntering _ spell).trans
      (GameState.apartFromLog_messages resolved _)
  rw [report, if_pos rfl,
    GameState.setStartingLoyalty_apartFromLog hlogged spell,
    GameState.setStartingLoyalty_apartFromLog_iff]

/-- Where no starting loyalty is to be set, no settings are seen in what the
checks find. -/
theorem Blind.resolveAndReport_eq (hblind : methods.Blind)
    (hnone : methods.NoLoyaltyToSet game spell)
    (settings : LoopSettings) :
    (methods.resolveAndReport settings game spell).apartFromLog =
      (methods.resolveAndReport ⟨.silent, false⟩ game spell).apartFromLog := by
  rw [resolveAndReport, resolveAndReport]
  cases hget : game.cards.get spell.raw with
  | none => rfl
  | some present =>
      dsimp only
      apply Outcome.andThen_apartFromLog
      · apply hblind.resolveSpell
        split
        · exact GameState.apartFromLog_message game
        · rfl
      · intro resolved silent _ hsilent hsame
        have hreported (shouldLog : Bool) (announced : GameState) :
            (methods.report shouldLog announced resolved spell).apartFromLog =
              silent.apartFromLog := by
          cases shouldLog with
          | false => exact hsame
          | true =>
              rw [← hsame, report_apartFromLog_iff]
              intro card hcard
              rw [GameState.card?_apartFromLog hsame] at hcard
              apply hnone _ silent hsilent card hcard
              rw [hget]
              exact Option.some_ne_none present
        exact congrArg (fun apart => some (apart, Except.ok ()))
          (hreported settings.shouldLog _)

/-- A card that nothing is to be set on has its loyalty already. -/
theorem loyalty_le_of_noneToSet {card : Card} (hnone : card.NoneToSet)
    {loyalty : UInt8} (hprinted : card.definition.loyalty = some loyalty) :
    loyalty ≤ card.getCounter .loyalty := by
  rw [UInt8.le_iff_toNat_le]
  rcases hnone loyalty hprinted with rfl | ⟨hfull, -⟩
  · exact Nat.zero_le _
  · rw [hfull]
    exact Nat.le_of_lt_succ loyalty.toNat_lt

theorem resolveAndReport_eq_ok (settings : LoopSettings)
    {reported : GameState} :
    methods.resolveAndReport settings game spell =
        some (reported, .ok ()) ↔
      game.cards.get spell.raw ≠ none ∧ ∃ resolved,
        methods.resolveSpell
          (if settings.shouldLog then game.message else game) spell
          (game.targetsOf spell) = some (resolved, .ok ()) ∧
        methods.report settings.shouldLog
          (if settings.shouldLog then game.message else game) resolved spell =
          reported := by
  rw [resolveAndReport]
  cases game.cards.get spell.raw with
  | none =>
      apply iff_of_false
      · rintro ⟨⟩
      · exact fun hpresent => hpresent.1 rfl
  | some present =>
      dsimp only
      rw [Outcome.andThen_eq_ok]
      constructor
      · rintro ⟨resolved, _, hresolved, ⟨⟩⟩
        exact ⟨Option.some_ne_none present, resolved, hresolved, rfl⟩
      · rintro ⟨-, resolved, hresolved, rfl⟩
        exact ⟨resolved, (), hresolved, rfl⟩

theorem Blind.unobserved_of (hblind : methods.Blind)
    (hnone : methods.NoLoyaltyToSet game spell) :
    methods.Unobserved game spell := by
  have hsilent := hblind.resolveAndReport_eq hnone
  have hfound (settings other : LoopSettings) :=
    (hsilent settings).trans (hsilent other).symm
  refine ⟨hfound, ?_, ?_⟩
  · intro settings other
    apply Outcome.andThen_apartFromLog (hfound settings other)
    intro reported reported' _ _ hsame
    have hchecked := GameState.runChecks_apartFromLog
      hblind.stateBasedActions hsame
    generalize reported.runChecks methods.stateBasedActions = checked
      at hchecked ⊢
    cases checked with
    | none => rw [Option.map_eq_none_iff.mp hchecked.symm]
    | some checked =>
        obtain ⟨checked', heq, hforget⟩ :=
          Option.map_eq_some_iff.mp hchecked.symm
        rw [heq]
        exact congrArg (fun apart => some (apart, Except.ok ()))
          (GameState.forgetTargets_apartFromLog hforget.symm spell)
  · intro settings reported hreported _ card hcard _ loyalty hprinted
    have hsame := hsilent settings
    rw [hreported] at hsame
    rcases Outcome.apartFromLog_cases hsame with
      ⟨⟨⟩, -⟩ | ⟨_, silent, _, ⟨⟩, hrun, hcards⟩
    obtain ⟨hpresent, resolved, hresolved, rfl⟩ :=
      (resolveAndReport_eq_ok _).mp hrun
    rw [GameState.card?_apartFromLog hcards] at hcard
    exact loyalty_le_of_noneToSet
      (hnone hpresent resolved hresolved card hcard) hprinted

/-- The settings change nothing but the log exactly where no starting loyalty
is to be set. -/
theorem unobserved_iff (hblind : methods.Blind) (game : GameState)
    (spell : CardId) :
    methods.Unobserved game spell ↔ methods.NoLoyaltyToSet game spell := by
  constructor
  · intro hunobserved hpresent resolved hresolved card hcard
    have hfound := hunobserved.found ⟨.normal, false⟩ ⟨.silent, false⟩
    rw [(resolveAndReport_eq_ok ⟨.silent, false⟩).mpr
      ⟨hpresent, resolved, hresolved, rfl⟩] at hfound
    rcases Outcome.apartFromLog_cases hfound with
      ⟨-, ⟨⟩⟩ | ⟨reported, _, _, hnormal, ⟨⟩, hsame⟩
    obtain ⟨-, logged, hlogged, rfl⟩ := (resolveAndReport_eq_ok _).mp hnormal
    have hresolution := hblind.resolveSpell spell (game.targetsOf spell)
      game.message game (GameState.apartFromLog_message game)
    dsimp only at hresolution
    change methods.resolveSpell game.message spell _ = _ at hlogged
    rw [hlogged, hresolved] at hresolution
    rcases Outcome.apartFromLog_cases hresolution with
      ⟨⟨⟩, -⟩ | ⟨_, _, _, ⟨⟩, ⟨⟩, hlog⟩
    have hreported := (report_apartFromLog_iff game.message logged).mp
      (hsame.trans hlog.symm)
    exact hreported card ((GameState.card?_apartFromLog hlog spell).trans
      hcard)
  · exact hblind.unobserved_of

end ResolutionMethods

namespace GameState

theorem apartFromLog_logAction (game : GameState) (action : GameAction)
    (size : Nat) :
    (game.logAction action size).apartFromLog =
      (game.apartFromLog.1,
        if game.apartFromLog.2.2.1 then game.apartFromLog.2.1 ++ [action]
        else game.apartFromLog.2.1, game.apartFromLog.2.2) := by
  rw [logAction, UndoLog.log]
  by_cases henabled : game.undoLog.enabled = true
  · have hsame : game.apartFromLog.2.2.1 = true := henabled
    rw [if_pos henabled, if_pos hsame]
    rfl
  · have hsame : ¬game.apartFromLog.2.2.1 = true := henabled
    rw [if_neg henabled, if_neg hsame]

/-- An instant without effects on the stack. -/
def instantOnStack : GameState where
  cards := ⟨[some
    { id := ⟨0⟩
      owner := ⟨0⟩
      controller := ⟨0⟩
      types := [.instant] }]⟩
  players := [{ id := ⟨0⟩ }, { id := ⟨1⟩ }]
  zones := { stack := [⟨0⟩], playerZones := [(⟨0⟩, {}), (⟨1⟩, {})] }
  turn := { activePlayer := ⟨0⟩ }

/-- Resolving it: from the stack to the graveyard. -/
def resolveInstant (game : GameState) (spell : CardId) (_ : List CardId) :
    Outcome Unit :=
  .ok ((game.changeZone spell .stack .graveyard ⟨0⟩).logAction
    (.moveCard spell .stack .graveyard ⟨0⟩ (some 0))
    game.logger.logCount) ()

example : moveCard idleExecutor 1 instantOnStack ⟨0⟩ .stack .graveyard ⟨0⟩ =
    resolveInstant instantOnStack ⟨0⟩ [] := rfl

theorem instant_unobserved :
    ResolutionMethods.Unobserved ⟨resolveInstant, fun _ _ _ => 0,
      List.replicate 7 (.ok · ())⟩ instantOnStack ⟨0⟩ := by
  apply (ResolutionMethods.unobserved_iff _ instantOnStack ⟨0⟩).mpr
  · rintro - resolved ⟨⟩ card ⟨⟩ loyalty ⟨⟩
  · constructor
    · intro spell targets game other hsame
      have hmoved : (game.changeZone spell .stack .graveyard
          ⟨0⟩).apartFromLog = (other.changeZone spell .stack .graveyard
          ⟨0⟩).apartFromLog :=
        congrArg (fun apart => (apart.1.changeZone spell .stack .graveyard
          ⟨0⟩, apart.2)) hsame
      exact congrArg (fun apart => some (apart, Except.ok ()))
        (by rw [apartFromLog_logAction, apartFromLog_logAction, hmoved])
    · intro check hcheck game other hsame
      rw [List.eq_of_mem_replicate hcheck]
      exact congrArg (fun apart => some (apart, Except.ok ())) hsame

/-- A permanent spell without effects resolves: it enters the battlefield, in
this turn. -/
def resolvePermanent (game : GameState) (spell : CardId) (_ : List CardId) :
    Outcome Unit :=
  match game.card? spell with
  | some card =>
      (moveCard idleExecutor 1 game spell .stack .battlefield
        card.owner).andThen fun moved _ =>
          let turn := some moved.turn.turnNumber
          .ok ((moved.modifyCard spell fun card =>
            { card with turnEnteredBattlefield := turn }).logAction
              (.setTurnEnteredBattlefield spell card.turnEnteredBattlefield
                turn) moved.logger.logCount) ()
  | none => .error game (.entityNotFound spell.raw)

/-- Put planeswalkers with no loyalty in the graveyard: this part of
`check_lethal_damage`. -/
def buryPlaneswalkers (game : GameState) : Outcome Unit :=
  (game.zones.battlefield.filterMap fun id =>
    (game.card? id).bind fun card =>
      if card.isPlaneswalker && card.getCounter .loyalty == 0 then
        some (id, card.owner)
      else none).foldl
    (fun outcome entry => outcome.andThen fun game _ =>
      (moveCard idleExecutor 1 game entry.1 .battlefield
        (game.deathDestinationForCard entry.1) entry.2).andThen
          fun moved _ => .ok moved.message ())
    (.ok game ())

/-- A planeswalker with three starting loyalty on the stack. -/
def planeswalkerOnStack : GameState where
  cards := ⟨[some
    { id := ⟨0⟩
      owner := ⟨0⟩
      controller := ⟨0⟩
      types := [.planeswalker]
      definition := { types := [.planeswalker], loyalty := some 3 } }]⟩
  players := [{ id := ⟨0⟩ }, { id := ⟨1⟩ }]
  zones := { stack := [⟨0⟩], playerZones := [(⟨0⟩, {}), (⟨1⟩, {})] }
  turn := { activePlayer := ⟨0⟩ }

/-- In a silent run the planeswalker dies as it enters. -/
theorem silent_planeswalker_dies :
    ∃ normal silent,
      ResolutionMethods.resolveTopSpellFromStack ⟨resolvePermanent,
        fun _ _ _ => 0, [buryPlaneswalkers]⟩ ⟨.normal, false⟩
        planeswalkerOnStack ⟨0⟩ = some (normal, .ok ()) ∧
      ResolutionMethods.resolveTopSpellFromStack ⟨resolvePermanent,
        fun _ _ _ => 0, [buryPlaneswalkers]⟩ ⟨.silent, false⟩
        planeswalkerOnStack ⟨0⟩ = some (silent, .ok ()) ∧
      normal.zones.battlefield = [⟨0⟩] ∧
      (normal.card? ⟨0⟩).map (·.getCounter .loyalty) = some 3 ∧
      silent.zones.battlefield = [] ∧
      normal.apartFromLog ≠ silent.apartFromLog := by
  refine ⟨_, _, rfl, rfl, rfl, rfl, rfl, ?_⟩
  intro hsame
  have hzones := congrArg (fun apart => apart.1.zones.battlefield) hsame
  revert hzones
  decide

end GameState

end DeepScry
