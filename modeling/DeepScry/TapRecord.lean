/-
The tapped flags that the undo log alone gives, and how each operation of the
engine writes the flags and the log.
-/
import DeepScry.AbilityCost
import DeepScry.KeyedLog
import DeepScry.MoveFrame
import DeepScry.MoveUndo

namespace DeepScry

/-- The flag that a logged tap or untap leaves. -/
def GameAction.tapEntry? : GameAction → Option (CardId × Bool)
  | tapCard card tapped => some (card, tapped)
  | _ => none

/-- The last logged flag of each card; no entry means never tapped. -/
def UndoLog.reconstructTappedStates (undoLog : UndoLog) :
    CardId → Option Bool :=
  undoLog.actions.foldl
    (fun states action =>
      match action with
      | .tapCard card tapped => Function.update states card (some tapped)
      | _ => states)
    fun _ => none

theorem UndoLog.reconstructTappedStates_eq (undoLog : UndoLog) :
    undoLog.reconstructTappedStates =
      KeyedLog.newest (undoLog.actions.filterMap GameAction.tapEntry?) := by
  have hfold (actions : List GameAction) (states : CardId → Option Bool) :
      actions.foldl (fun states action =>
          match action with
          | .tapCard card tapped => Function.update states card (some tapped)
          | _ => states) states =
        (actions.filterMap GameAction.tapEntry?).foldl
          (fun (current : CardId → Option Bool) entry =>
            Function.update current entry.1 (some entry.2)) states := by
    induction actions generalizing states with
    | nil => rfl
    | cons action rest ih =>
        rw [List.foldl_cons, ih]
        cases action <;> rfl
  exact hfold undoLog.actions _

/-- What a game and its log say about the tapped flags. -/
structure TapView where
  enabled : Bool
  entries : List (CardId × Bool)
  state : CardId → Option Bool

namespace TapView

/-- A write of the flag of a card. -/
def write (view : TapView) (id : CardId) (tapped : Bool) : TapView :=
  { view with state := KeyedLog.overwrite view.state id tapped }

/-- The same with an action for it. -/
def writeLogged (view : TapView) (id : CardId) (tapped : Bool) : TapView :=
  { view.write id tapped with
    entries := if view.enabled then view.entries ++ [(id, tapped)]
      else view.entries }

/-- The log tells the flag of every card. -/
def Told (view : TapView) : Prop :=
  KeyedLog.Tells false view.entries view.state

theorem write_write (view : TapView) (id : CardId) (first second : Bool) :
    (view.write id first).write id second = view.write id second := by
  rw [write, write, write, KeyedLog.overwrite_overwrite]

end TapView

namespace GameState

def tapView (game : GameState) : TapView where
  enabled := game.undoLog.enabled
  entries := game.undoLog.actions.filterMap GameAction.tapEntry?
  state id := (game.card? id).map fun card => card.tapped

/-- The flag read from the log is the flag of the card, for every card. -/
def TapsTold (game : GameState) : Prop :=
  ∀ id card, game.card? id = some card →
    (game.undoLog.reconstructTappedStates id).getD false = card.tapped

theorem tapsTold_iff (game : GameState) :
    game.TapsTold ↔ game.tapView.Told := by
  rw [TapsTold, TapView.Told, KeyedLog.Tells,
    UndoLog.reconstructTappedStates_eq]
  constructor
  · intro htold id tapped hstate
    obtain ⟨card, hcard, rfl⟩ := Option.map_eq_some_iff.mp hstate
    exact htold id card hcard
  · intro htold id card hcard
    apply htold id
    change (game.card? id).map _ = _
    rw [hcard]
    rfl

section Writes

variable (game : GameState) (id : CardId)

theorem tapView_logAction {action : GameAction}
    (hnone : action.tapEntry? = none) (priorLogSize : Nat) :
    (game.logAction action priorLogSize).tapView = game.tapView := by
  rw [tapView, tapView, logAction, UndoLog.log]
  split
  · next henabled =>
    simp [hnone, card?]
  · rfl

theorem tapView_logTap (tapped : Bool) (priorLogSize : Nat) :
    (game.logAction (.tapCard id tapped) priorLogSize).tapView =
      { game.tapView with
        entries := if game.undoLog.enabled then
          game.tapView.entries ++ [(id, tapped)] else game.tapView.entries } := by
  rw [tapView, tapView, logAction, UndoLog.log]
  dsimp only
  split
  · simp [GameAction.tapEntry?, card?]
  · rfl

theorem tapView_modifyCard {f : Card → Card} {tapped : Bool}
    (hf : ∀ c, (f c).tapped = tapped) :
    (game.modifyCard id f).tapView = game.tapView.write id tapped := by
  have hstate : (game.modifyCard id f).tapView.state =
      KeyedLog.overwrite game.tapView.state id tapped := by
    funext other
    rw [KeyedLog.overwrite]
    change ((game.cards.modify id.raw f).tryGet other.raw).map _ = _
    rw [EntityStore.tryGet_modify]
    by_cases hother : other = id
    · subst hother
      rw [if_pos rfl, Function.update_self, tapView, Option.map_map,
        Option.map_map]
      exact Option.map_congr fun c _ => hf c
    · rw [if_neg fun heq => hother (CardId.ext heq.symm),
        Function.update_of_ne hother]
      rfl
  rw [TapView.write, ← hstate]
  rfl

/-- A card write next to the flag. -/
theorem tapView_modifyCard_of_same {f : Card → Card}
    (hf : ∀ c, (f c).tapped = c.tapped) :
    (game.modifyCard id f).tapView = game.tapView := by
  have hstate : (game.modifyCard id f).tapView.state = game.tapView.state :=
    funext fun other => sameView_modify hf game.cards id.raw other.raw
  rw [tapView, tapView] at hstate ⊢
  simp only [TapView.mk.injEq] at hstate ⊢
  exact ⟨rfl, rfl, hstate⟩

end Writes

/-- The steps that neither write a flag nor log a tap. -/
theorem tap_frame : MoveFrame (fun action => action.tapEntry?.isNone)
    (fun card => card.tapped) fun before after =>
      after.tapView = before.tapView where
  refl _ := rfl
  trans hfirst hsecond := hsecond.trans hfirst
  logAction game _ hnone priorLogSize :=
    game.tapView_logAction (Option.isNone_iff_eq_none.mp hnone) priorLogSize
  modifyCard game id _ hf := game.tapView_modifyCard_of_same id hf
  aside haside := by
    rw [tapView, tapView, haside.undoLog]
    simp only [card?, haside.cards]
  steady _ := rfl
  minor action hminor := by cases action <;> first | rfl | cases hminor

/-- Moves keep what is steady about the cards until the zone changes. -/
theorem steady_frame : MoveFrame (fun _ => true) Card.steady
    fun before after =>
      SameView Card.steady after.cards before.cards ∧
        after.zones = before.zones where
  refl _ := ⟨.refl _, rfl⟩
  trans hfirst hsecond :=
    ⟨hsecond.1.trans hfirst.1, hsecond.2.trans hfirst.2⟩
  logAction _ _ _ _ := ⟨.refl _, rfl⟩
  modifyCard _ _ _ hf := ⟨sameView_modify hf _ _, rfl⟩
  aside haside := ⟨haside.cards ▸ .refl _, haside.zones⟩
  steady _ := rfl
  minor _ _ := rfl

/-- Whether the card comes in tapped by its own replacement. -/
def tapsItself (game : GameState) (id : CardId) : Bool :=
  (game.card? id).any fun card => card.definition.cache.entersTapped

section Moving

variable {game : GameState} {id : CardId}

theorem tapsItself_congr {other : GameState}
    (hcards : SameView Card.steady game.cards other.cards) :
    game.tapsItself id = other.tapsItself id := by
  apply any_of_map_eq (hcards id.raw)
  intro c
  rfl

theorem tapView_entersTapped (game : GameState) (id : CardId) :
    (game.entersTapped id).tapView =
      if game.tapsItself id then game.tapView.writeLogged id true
      else game.tapView := by
  rw [entersTapped, replaceAsEnters, tapsItself]
  cases hcard : game.card? id with
  | none => rfl
  | some card =>
      simp only [Option.any_some, ↓reduceIte]
      split
      · rw [tapView_logTap]
        have hwritten : (game.modifyCard id Card.tap).message.tapView =
            game.tapView.write id true :=
          tapView_modifyCard game id fun c => rfl
        rw [hwritten]
        rfl
      · rfl

theorem entersTappedByOther_entersTapped (game : GameState) (id : CardId) :
    (game.entersTapped id).entersTappedByOther id =
      (!game.tapsItself id && game.entersTappedByOther id) := by
  rw [entersTapped, replaceAsEnters, tapsItself]
  cases hcard : game.card? id with
  | none => rfl
  | some card =>
      simp only [Option.any_some, ↓reduceIte]
      split
      · next htaps =>
        have htapped : (game.cards.modify id.raw Card.tap).tryGet id.raw =
            some card.tap := by
          rw [EntityStore.tryGet_modify_self]
          exact congrArg (Option.map Card.tap) hcard
        rw [entersTappedByOther, htaps]
        change (Option.any _ ((game.cards.modify id.raw
          Card.tap).tryGet id.raw)) = _
        rw [htapped]
        rfl
      · next htaps =>
        rw [Bool.not_eq_true] at htaps
        rw [htaps]
        rfl

/-- The flags after the replacements of a card that may be entering. -/
def enteredTaps (game : GameState) (id : CardId) (toZone : Zone) : TapView :=
  if toZone = .battlefield then
    if game.tapsItself id then game.tapView.writeLogged id true
    else if game.entersTappedByOther id then game.tapView.write id true
    else game.tapView
  else game.tapView

theorem tapView_entersBattlefield (game : GameState) (id : CardId)
    (owner : PlayerId) :
    (game.entersBattlefield id owner).tapView =
      game.enteredTaps id .battlefield := by
  have hlater (game : GameState) :
      ((game.chooseAsEnters id owner).payLifeAsEnters id).tapView =
        game.tapView :=
    tap_frame.trans (tap_frame.chooseAsEnters game id owner)
      (tap_frame.payLifeAsEnters _ id)
  have hother (game : GameState) : (game.tapForGlobal id).tapView =
      if game.entersTappedByOther id then game.tapView.write id true
      else game.tapView := by
    rw [tapForGlobal]
    split
    · exact tapView_modifyCard game id fun c => rfl
    · rfl
  change ((((game.entersTapped id).tapForGlobal id).chooseAsEnters id
    owner).payLifeAsEnters id).tapView = _
  rw [hlater, hother, entersTappedByOther_entersTapped, tapView_entersTapped,
    enteredTaps, if_pos rfl]
  cases game.tapsItself id <;> rfl

theorem tapView_resetIfLeft (game : GameState) (id : CardId)
    (fromZone : Zone) :
    (game.resetIfLeft id fromZone).tapView =
      if fromZone = .battlefield then game.tapView.write id false
      else game.tapView := by
  rw [resetIfLeft]
  split
  · cases hcard : game.card? id with
    | none =>
        have hstate : game.tapView.state id = none := by
          change (game.card? id).map _ = none
          rw [hcard]
          rfl
        rw [TapView.write, KeyedLog.overwrite, hstate, Option.map_none,
          ← hstate, Function.update_eq_self]
    | some card =>
        dsimp only
        rw [tapView_modifyCard (game.logAction _ _) id
          (f := fun c => c.resetTransientState (game.originalDefinition card))
          fun c => rfl, tapView_logAction _ rfl]
  · rfl

theorem tapView_relocate (game : GameState) (id : CardId)
    (fromZone toZone : Zone) (owner : PlayerId)
    (hother : (game.changeZone id fromZone toZone owner).enteredTaps id
      toZone = game.enteredTaps id toZone) :
    (game.relocate id fromZone toZone owner).tapView =
      if fromZone = .battlefield then
        (game.enteredTaps id toZone).write id false
      else game.enteredTaps id toZone := by
  have hentered : (if toZone = .battlefield then
      (game.changeZone id fromZone toZone owner).entersBattlefield id owner
      else game.changeZone id fromZone toZone owner).tapView =
      game.enteredTaps id toZone := by
    rw [← hother]
    split
    · next henters => rw [tapView_entersBattlefield, henters]
    · next helsewhere =>
      rw [enteredTaps, if_neg helsewhere]
  rw [relocate, tap_frame.cleanupPersistentEffects, tapView_resetIfLeft,
    tap_frame.reportAndUpdate, tapView_logAction _ rfl, hentered]

theorem enteredTaps_congr {other : GameState} {toZone : Zone}
    (hview : game.tapView = other.tapView)
    (hcards : SameView Card.steady game.cards other.cards)
    (hbattlefield : toZone = .battlefield →
      game.zones.battlefield.filter (· != id) =
        other.zones.battlefield.filter (· != id)) :
    game.enteredTaps id toZone = other.enteredTaps id toZone := by
  rw [enteredTaps, enteredTaps, hview]
  split
  · next henters =>
    rw [tapsItself_congr hcards,
      entersTappedByOther_congr hcards (hbattlefield henters)]
  · rfl

/-- What a move writes, up to the delayed triggers. -/
theorem tapView_moveUntilTriggers (game : GameState) (id : CardId)
    (fromZone toZone : Zone) (owner : PlayerId) :
    (game.moveUntilTriggers id fromZone toZone owner).1.tapView =
      if game.zones.holds fromZone owner id then
        if fromZone = .battlefield then
          (game.enteredTaps id (game.moveDestination id toZone)).write id false
        else game.enteredTaps id (game.moveDestination id toZone)
      else game.tapView := by
  rw [moveUntilTriggers]
  generalize game.moveDestination id toZone = toZone'
  generalize hreported : (if game.commanderReplaces id toZone then
    game.message else game) = reported
  have hview : reported.tapView = game.tapView := by
    rw [← hreported]
    split <;> rfl
  have hcards : reported.cards = game.cards := by
    rw [← hreported]
    split <;> rfl
  have hzones : reported.zones = game.zones := by
    rw [← hreported]
    split <;> rfl
  have hprepared := tap_frame.prepareMove reported id fromZone toZone' owner
  have hsteady := steady_frame.prepareMove reported id fromZone toZone' owner
  generalize reported.prepareMove id fromZone toZone' owner = prepared at *
  rw [hcards, hzones] at hsteady
  rw [hview] at hprepared
  rw [finishMove, hsteady.2]
  split
  · have hentered : prepared.enteredTaps id toZone' =
        game.enteredTaps id toZone' :=
      enteredTaps_congr hprepared hsteady.1 fun _ => by rw [hsteady.2]
    rw [tapView_relocate prepared id fromZone toZone' owner, hentered]
    apply enteredTaps_congr
    · rfl
    · exact .refl _
    · rintro rfl
      exact battlefield_afterMove prepared.zones id fromZone owner
  · exact hprepared

/-- The move leaves the flag as it was, but for a flag that it logs; `toZone`
is the final destination. -/
def MoveTapsLogged (game : GameState) (id : CardId)
    (fromZone toZone : Zone) (owner : PlayerId) : Prop :=
  game.zones.holds fromZone owner id = true →
    ∀ card, game.card? id = some card →
      if fromZone = .battlefield then
        card.tapped = false ∧
          (toZone = .battlefield → game.tapsItself id = false)
      else
        toZone = .battlefield → game.tapsItself id = false →
          game.entersTappedByOther id = false

theorem state_eq_some_iff (tapped : Bool) :
    game.tapView.state id = some tapped ↔
      ∃ card, game.card? id = some card ∧ card.tapped = tapped := by
  change (game.card? id).map _ = some tapped ↔ _
  rw [Option.map_eq_some_iff]

theorem told_write_iff (htold : game.tapView.Told) (tapped : Bool) :
    (game.tapView.write id tapped).Told ↔
      ∀ card, game.card? id = some card → card.tapped = tapped := by
  rw [TapView.Told, TapView.write, KeyedLog.tells_overwrite_iff htold]
  constructor
  · intro hheld card hcard
    exact hheld card.tapped ((state_eq_some_iff _).mpr ⟨card, hcard, rfl⟩)
  · intro hcard held hheld
    obtain ⟨card, hfound, rfl⟩ := (state_eq_some_iff _).mp hheld
    exact hcard card hfound

theorem told_writeLogged_write_iff (htold : game.tapView.Told)
    (henabled : game.undoLog.enabled = true) (logged tapped : Bool) :
    ((game.tapView.writeLogged id logged).write id tapped).Told ↔
      (game.card? id = none ∨ logged = tapped) := by
  have hview : (game.tapView.writeLogged id logged).write id tapped =
      { game.tapView with
        entries := game.tapView.entries ++ [(id, logged)]
        state := KeyedLog.overwrite game.tapView.state id tapped } := by
    rw [TapView.writeLogged, TapView.write, TapView.write,
      if_pos (show game.tapView.enabled = true from henabled),
      KeyedLog.overwrite_overwrite]
  have hnone : game.tapView.state id = none ↔ game.card? id = none := by
    change (game.card? id).map _ = none ↔ _
    rw [Option.map_eq_none_iff]
  rw [hview, TapView.Told, KeyedLog.tells_append_overwrite_iff htold, hnone]

theorem told_writeLogged (htold : game.tapView.Told)
    (henabled : game.undoLog.enabled = true) (tapped : Bool) :
    (game.tapView.writeLogged id tapped).Told := by
  have hsame : (game.tapView.writeLogged id tapped).write id tapped =
      game.tapView.writeLogged id tapped := by
    rw [TapView.writeLogged, TapView.write, TapView.write,
      KeyedLog.overwrite_overwrite]
  rw [← hsame, told_writeLogged_write_iff htold henabled]
  exact Or.inr rfl

theorem exists_card_of_tapsItself (hitself : game.tapsItself id = true) :
    ∃ card, game.card? id = some card := by
  obtain ⟨card, hcard, -⟩ := (Option.any_eq_true _ _).mp hitself
  exact ⟨card, hcard⟩

/-- A card that leaves the battlefield is untapped without an action. -/
theorem told_reset_iff (htold : game.tapView.Told)
    (henabled : game.undoLog.enabled = true) (toZone : Zone) :
    ((game.enteredTaps id toZone).write id false).Told ↔
      ∀ card, game.card? id = some card →
        card.tapped = false ∧
          (toZone = .battlefield → game.tapsItself id = false) := by
  by_cases hlogs : toZone = .battlefield ∧ game.tapsItself id = true
  · obtain ⟨rfl, hitself⟩ := hlogs
    obtain ⟨card, hcard⟩ := exists_card_of_tapsItself hitself
    rw [enteredTaps, if_pos rfl, if_pos hitself,
      told_writeLogged_write_iff htold henabled]
    simp [hcard, hitself]
  · have hsame : (game.enteredTaps id toZone).write id false =
        game.tapView.write id false := by
      rw [enteredTaps]
      split
      · next henters =>
        rw [if_neg fun hitself => hlogs ⟨henters, hitself⟩]
        split
        · exact TapView.write_write _ _ _ _
        · rfl
      · rfl
    rw [hsame, told_write_iff htold]
    constructor
    · intro htapped card hcard
      refine ⟨htapped card hcard, fun henters => ?_⟩
      rw [← Bool.not_eq_true]
      exact fun hitself => hlogs ⟨henters, hitself⟩
    · exact fun hboth card hcard => (hboth card hcard).1

/-- A card that another permanent taps as it enters has no action for it. -/
theorem told_entered_iff (htold : game.tapView.Told)
    (henabled : game.undoLog.enabled = true) (toZone : Zone) :
    (game.enteredTaps id toZone).Told ↔
      (toZone = .battlefield → game.tapsItself id = false →
        game.entersTappedByOther id = false) := by
  rw [enteredTaps]
  by_cases henters : toZone = .battlefield
  · simp only [henters, ↓reduceIte, forall_const]
    cases hitself : game.tapsItself id with
    | true => simpa using told_writeLogged htold henabled true
    | false =>
        cases hother : game.entersTappedByOther id with
        | false => simpa using htold
        | true =>
            simp only [Bool.false_eq_true, ↓reduceIte, forall_const,
              Bool.true_eq_false, iff_false]
            rw [told_write_iff htold]
            intro htapped
            obtain ⟨card, hcard, hboth⟩ := (Option.any_eq_true _ _).mp hother
            rw [Bool.and_eq_true, htapped card hcard] at hboth
            exact absurd hboth.1 (by decide)
  · simpa [henters] using htold

/-- After a move the log tells the flags exactly if the move logs them. -/
theorem told_moveUntilTriggers_iff (htold : game.tapView.Told)
    (henabled : game.undoLog.enabled = true) (fromZone toZone : Zone)
    (owner : PlayerId) :
    (game.moveUntilTriggers id fromZone toZone owner).1.tapView.Told ↔
      game.MoveTapsLogged id fromZone (game.moveDestination id toZone)
        owner := by
  rw [tapView_moveUntilTriggers, MoveTapsLogged]
  generalize game.moveDestination id toZone = toZone'
  cases game.zones.holds fromZone owner id with
  | false => simpa using htold
  | true =>
      simp only [↓reduceIte, forall_const]
      by_cases hfrom : fromZone = .battlefield
      · simp only [hfrom, ↓reduceIte]
        exact told_reset_iff htold henabled toZone'
      · simp only [hfrom, ↓reduceIte]
        rw [told_entered_iff htold henabled]
        constructor
        · exact fun hother _ _ => hother
        · intro hcard henters hitself
          -- Without an instance no permanent taps it.
          cases hfound : game.card? id with
          | none => rw [entersTappedByOther, hfound, Option.any_none]
          | some card => exact hcard card hfound henters hitself

end Moving

end GameState

end DeepScry
