/-
Runs of the engine as steps that write tapped flags: in every run the log
tells the flags of all cards throughout exactly if each step logs what it
changes.
-/
import DeepScry.TapRecord
import Mathlib.Logic.Relation

namespace DeepScry

/-- What a step may do to the tapped flags.  `aside` is a step that neither
writes a flag nor logs a tap. -/
inductive TapEvent where
  | tap (id : CardId)
  | untap (id : CardId)
  | move (id : CardId) (fromZone toZone : Zone) (owner : PlayerId)
  | returnTapped (id : CardId)
  | payUntap (id : CardId)
  | copySpell (original : CardId) (newController : PlayerId)
  | aside

namespace GameState

/-- The spell on the stack that a copy would be made of. -/
def copiedSpell? (game : GameState) (original : CardId) : Option Card :=
  if !game.zones.stack.contains original then none
  else if maxSpellCopiesOnStack ≤ (game.zones.stack.filter fun id =>
      (game.card? id).any Card.isToken).length then none
  else game.cards.get original.raw

end GameState

open GameState

/-- The condition on the state before a step: the flags it writes without an
action are as they were. -/
def TapEvent.Logged (game : GameState) : TapEvent → Prop
  | tap _ | untap _ | aside => True
  | move id fromZone toZone owner =>
      game.MoveTapsLogged id fromZone (game.moveDestination id toZone) owner
  | returnTapped id => ∀ card, game.card? id = some card → card.tapped = true
  | payUntap id => ∀ card, game.card? id = some card → card.tapped = false
  | copySpell original _ =>
      ∀ spell, game.copiedSpell? original = some spell →
        (game.undoLog.reconstructTappedStates
          ⟨game.nextEntityId.toNat⟩).getD false = spell.tapped

/-- One step of the engine, also one that ends in an error. -/
inductive TapStep : TapEvent → GameState → GameState → Prop where
  | tap {game after : GameState} {result : Except MtgError Unit} (id : CardId)
      (htap : game.tapPermanent id = some (after, result)) :
      TapStep (.tap id) game after
  | untap {game after : GameState} {result : Except MtgError Unit}
      (id : CardId) (huntap : game.untapPermanent id = some (after, result)) :
      TapStep (.untap id) game after
  | move {game : GameState} (id : CardId) (fromZone toZone : Zone)
      (owner : PlayerId) :
      TapStep (.move id fromZone toZone owner) game
        (game.moveUntilTriggers id fromZone toZone owner).1
  | returnTapped {game : GameState} (id : CardId) :
      TapStep (.returnTapped id) game
        (game.modifyCard id fun c => { c with tapped := true })
  | payUntap {game after : GameState} {result : Except MtgError Unit}
      (id : CardId) (hpay : game.payUntap id = some (after, result)) :
      TapStep (.payUntap id) game after
  | copySpell {game after : GameState}
      {result : Except MtgError (Option CardId)} (original : CardId)
      (newController : PlayerId)
      (hcopy : game.copySpellOntoStack original newController =
        some (after, result)) :
      TapStep (.copySpell original newController) game after
  | aside {game after : GameState} (hview : after.tapView = game.tapView) :
      TapStep .aside game after

/-- A run with its trace: each state a step was taken in, with the step. -/
inductive TapRun (start : GameState) :
    List (GameState × TapEvent) → GameState → Prop where
  | refl : TapRun start [] start
  | step {trace : List (GameState × TapEvent)} {game after : GameState}
      {event : TapEvent} (hrun : TapRun start trace game)
      (hstep : TapStep event game after) :
      TapRun start (trace ++ [(game, event)]) after

section Steps

variable {game after : GameState}

theorem setTapped_tapView {id : CardId} {tapped : Bool}
    {write : Card → Card} (hwrite : ∀ c, (write c).tapped = tapped)
    {notify : CardId → Card → ManaSourceCache → ManaSourceCache}
    {result : Except MtgError Unit}
    (hset : game.setTapped id tapped write notify = some (after, result)) :
    after.tapView = game.tapView ∨
      after.tapView = game.tapView.writeLogged id tapped := by
  rw [setTapped] at hset
  split at hset
  · cases hset
    exact Or.inl rfl
  · split at hset
    · cases hset
      exact Or.inl rfl
    · cases hset
      right
      change ((game.modifyCard id write).logAction (.tapCard id tapped)
        game.logger.logCount).tapView = _
      rw [tapView_logTap, tapView_modifyCard game id hwrite]
      rfl

theorem tapPermanent_tapView {id : CardId} {result : Except MtgError Unit}
    (htap : game.tapPermanent id = some (after, result)) :
    after.tapView = game.tapView ∨
      after.tapView = game.tapView.writeLogged id true :=
  setTapped_tapView (show ∀ c : Card, c.tap.tapped = true from fun _ => rfl)
    htap

theorem untapPermanent_tapView {id : CardId} {result : Except MtgError Unit}
    (huntap : game.untapPermanent id = some (after, result)) :
    after.tapView = game.tapView ∨
      after.tapView = game.tapView.writeLogged id false :=
  setTapped_tapView (show ∀ c : Card, c.untap.tapped = false from fun _ => rfl)
    huntap

theorem payUntap_tapView {id : CardId} {result : Except MtgError Unit}
    (hpay : game.payUntap id = some (after, result)) :
    after.tapView = game.tapView.write id false ∨
      (after.tapView = game.tapView ∧
        ∀ card, game.card? id = some card → card.tapped = false) := by
  rw [payUntap] at hpay
  cases hcard : game.card? id with
  | none =>
      rw [hcard] at hpay
      cases hpay
      exact Or.inr ⟨rfl, fun card hfound => by cases hfound⟩
  | some card =>
      rw [hcard] at hpay
      dsimp only at hpay
      split at hpay
      · cases hpay
        exact Or.inl (tapView_modifyCard game id fun _ => rfl)
      · next huntapped =>
        cases hpay
        refine Or.inr ⟨rfl, ?_⟩
        rintro found ⟨⟩
        exact Bool.not_eq_true _ ▸ huntapped

/-- A copy comes with the flag of the spell it copies. -/
theorem copySpell_tapView {original : CardId} {newController : PlayerId}
    {result : Except MtgError (Option CardId)}
    (hcopy : game.copySpellOntoStack original newController =
      some (after, result)) :
    after.tapView =
      match game.copiedSpell? original with
      | some spell =>
          { game.tapView with
            state := Function.update game.tapView.state
              ⟨game.nextEntityId.toNat⟩ (some spell.tapped) }
      | none => game.tapView := by
  rw [copySpellOntoStack] at hcopy
  rw [copiedSpell?]
  split at hcopy
  · next hstack =>
    cases hcopy
    rw [if_pos hstack]
  · next hstack =>
    rw [if_neg hstack]
    split at hcopy
    · next hfull =>
      cases hcopy
      rw [if_pos hfull]
    · next hroom =>
      rw [if_neg hroom]
      split at hcopy
      · next hget =>
        cases hcopy
        rw [hget]
      · next spell hget =>
        rw [hget]
        dsimp only at hcopy
        split at hcopy
        · cases hcopy
        · next cards hinsert =>
          have hstate : (fun id : CardId => (cards.tryGet id.raw).map
              fun card => card.tapped) =
              Function.update game.tapView.state ⟨game.nextEntityId.toNat⟩
                (some spell.tapped) := by
            funext id
            rw [EntityStore.tryGet_insert hinsert]
            by_cases hid : id = ⟨game.nextEntityId.toNat⟩
            · subst hid
              rw [if_pos rfl, Function.update_self]
              rfl
            · rw [Function.update_of_ne hid, if_neg]
              · rfl
              · exact fun heq => hid (CardId.ext heq)
          dsimp only
          rw [← hstate]
          split at hcopy <;> cases hcopy <;> rfl

/-- No step turns the log on or off. -/
theorem TapStep.enabled {event : TapEvent} (hstep : TapStep event game after) :
    after.undoLog.enabled = game.undoLog.enabled := by
  change after.tapView.enabled = game.tapView.enabled
  cases hstep with
  | tap id htap =>
      rcases tapPermanent_tapView htap with hview | hview
      · rw [hview]
      · rw [hview]
        rfl
  | untap id huntap =>
      rcases untapPermanent_tapView huntap with hview | hview
      · rw [hview]
      · rw [hview]
        rfl
  | move id fromZone toZone owner =>
      rw [tapView_moveUntilTriggers, enteredTaps]
      split_ifs <;> rfl
  | returnTapped id => rfl
  | payUntap id hpay =>
      rcases payUntap_tapView hpay with hview | ⟨hview, -⟩
      · rw [hview]
        rfl
      · rw [hview]
  | copySpell original newController hcopy =>
      rw [copySpell_tapView hcopy]
      split <;> rfl
  | aside hview => rw [hview]

/-- A step keeps the log telling the flags exactly if it meets its
condition. -/
theorem TapStep.tapsTold_iff {event : TapEvent}
    (hstep : TapStep event game after)
    (henabled : game.undoLog.enabled = true) (htold : game.TapsTold) :
    after.TapsTold ↔ event.Logged game := by
  rw [GameState.tapsTold_iff] at htold ⊢
  cases hstep with
  | tap id htap =>
      rw [TapEvent.Logged, iff_true]
      rcases tapPermanent_tapView htap with hview | hview
      · rwa [hview]
      · rw [hview]
        exact told_writeLogged htold henabled true
  | untap id huntap =>
      rw [TapEvent.Logged, iff_true]
      rcases untapPermanent_tapView huntap with hview | hview
      · rwa [hview]
      · rw [hview]
        exact told_writeLogged htold henabled false
  | move id fromZone toZone owner =>
      exact told_moveUntilTriggers_iff htold henabled fromZone toZone owner
  | returnTapped id =>
      rw [tapView_modifyCard game id (f := fun c => { c with tapped := true })
        fun _ => rfl]
      exact told_write_iff htold true
  | payUntap id hpay =>
      rcases payUntap_tapView hpay with hview | ⟨hview, huntapped⟩
      · rw [hview]
        exact told_write_iff htold false
      · rw [hview]
        exact iff_of_true htold huntapped
  | copySpell original newController hcopy =>
      rw [copySpell_tapView hcopy, TapEvent.Logged,
        UndoLog.reconstructTappedStates_eq]
      cases game.copiedSpell? original with
      | none => simpa using htold
      | some spell =>
          refine (KeyedLog.tells_insert_iff htold _ _).trans ?_
          simp only [Option.some.injEq, forall_eq']
          rfl
  | aside hview =>
      rw [hview]
      exact iff_of_true htold trivial

end Steps

namespace TapRun

variable {start game : GameState} {trace : List (GameState × TapEvent)}

theorem enabled (hrun : TapRun start trace game) :
    game.undoLog.enabled = start.undoLog.enabled := by
  induction hrun with
  | refl => rfl
  | step _ hstep ih => exact hstep.enabled.trans ih

theorem trans (hrun : TapRun start trace game)
    {later : List (GameState × TapEvent)} {after : GameState}
    (hlater : TapRun game later after) :
    TapRun start (trace ++ later) after := by
  induction hlater with
  | refl => rwa [List.append_nil]
  | step _ hstep ih =>
      rw [← List.append_assoc]
      exact ih.step hstep

/-- The flags are told throughout a run exactly if each step meets its
condition. -/
theorem tapsTold_iff (hrun : TapRun start trace game)
    (henabled : start.undoLog.enabled = true) (htold : start.TapsTold) :
    ((∀ entry ∈ trace, entry.1.TapsTold) ∧ game.TapsTold) ↔
      ∀ entry ∈ trace, entry.2.Logged entry.1 := by
  induction hrun with
  | refl => simpa using htold
  | @step trace game after event hrun hstep ih =>
      have hgame : game.undoLog.enabled = true := hrun.enabled.trans henabled
      constructor
      · rintro ⟨hall, hafter⟩ entry hentry
        have hbefore : ∀ entry ∈ trace, entry.1.TapsTold := fun entry hmem =>
          hall entry (List.mem_append_left _ hmem)
        have hlast : game.TapsTold :=
          hall (game, event) (List.mem_append_right _ List.mem_cons_self)
        rcases List.mem_append.mp hentry with hold | hnew
        · exact ih.mp ⟨hbefore, hlast⟩ entry hold
        · rw [List.mem_singleton.mp hnew]
          exact (hstep.tapsTold_iff hgame hlast).mp hafter
      · intro hlogged
        obtain ⟨hbefore, hlast⟩ := ih.mpr fun entry hmem =>
          hlogged entry (List.mem_append_left _ hmem)
        have hevent : event.Logged game :=
          hlogged (game, event) (List.mem_append_right _ List.mem_cons_self)
        refine ⟨?_, (hstep.tapsTold_iff hgame hlast).mpr hevent⟩
        intro entry hentry
        rcases List.mem_append.mp hentry with hold | hnew
        · exact hbefore entry hold
        · rw [List.mem_singleton.mp hnew]
          exact hlast

end TapRun

end DeepScry
