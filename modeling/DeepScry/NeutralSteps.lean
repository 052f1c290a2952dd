/-
Steps that move no card: they keep the zones, the owners of the cards and the
delayed triggers, and log only actions whose undo does the same.
-/
import DeepScry.MoveFrame
import DeepScry.ZoneTrail

namespace DeepScry

/-- The undo of the action touches neither a zone nor a delayed trigger. -/
def GameAction.isQuiet : GameAction → Bool
  | moveCard _ _ _ _ _ => false
  | shuffleLibrary _ _ _ => false
  | registerDelayedTrigger _ => false
  | fireDelayedTrigger _ => false
  | createEntity _ => false
  | reorderLibrary _ _ _ => false
  | _ => true

theorem GameAction.undoZones_of_isQuiet {action : GameAction}
    (hquiet : action.isQuiet = true) (zones : Zones) :
    action.undoZones zones = zones := by
  cases action <;> first | rfl | cases hquiet

/-- A log with quiet actions on top; a disabled one stays. -/
structure QuietlyLogged (before after : UndoLog) : Prop where
  enabled : after.enabled = before.enabled
  actions : ∃ actions, after.actions = before.actions ++ actions ∧
    (∀ action ∈ actions, action.isQuiet = true) ∧
    (before.enabled = false → actions = [])

namespace QuietlyLogged

theorem refl (undoLog : UndoLog) : QuietlyLogged undoLog undoLog :=
  ⟨rfl, [], (List.append_nil _).symm, by simp, fun _ => rfl⟩

theorem trans {first second third : UndoLog}
    (hfirst : QuietlyLogged first second)
    (hsecond : QuietlyLogged second third) : QuietlyLogged first third := by
  obtain ⟨henabled, older, holder, hquietOlder, hidleOlder⟩ := hfirst
  obtain ⟨henabled', newer, hnewer, hquietNewer, hidleNewer⟩ := hsecond
  refine ⟨henabled'.trans henabled, older ++ newer, ?_, ?_, ?_⟩
  · rw [hnewer, holder, List.append_assoc]
  · intro action haction
    exact (List.mem_append.mp haction).elim (hquietOlder action)
      (hquietNewer action)
  · intro hdisabled
    rw [hidleOlder hdisabled, hidleNewer (henabled.trans hdisabled)]
    rfl

theorem log {action : GameAction} (hquiet : action.isQuiet = true)
    (undoLog : UndoLog) (priorLogSize : Nat) :
    QuietlyLogged undoLog (undoLog.log action priorLogSize) := by
  rw [UndoLog.log]
  split
  · next henabled =>
    refine ⟨rfl, [action], rfl, by simpa using hquiet, ?_⟩
    intro hdisabled
    rw [henabled] at hdisabled
    cases hdisabled
  · exact refl undoLog

end QuietlyLogged

namespace GameState

def ownerView (card : Card) : PlayerId := card.owner

/-- No card moved, changed its owner or left a trace on the triggers. -/
structure Neutral (before after : GameState) : Prop where
  zones : after.zones = before.zones
  owners : SameView ownerView after.cards before.cards
  triggers : after.delayedTriggers = before.delayedTriggers
  logged : QuietlyLogged before.undoLog after.undoLog

namespace Neutral

theorem refl (game : GameState) : Neutral game game :=
  ⟨rfl, .refl _, rfl, .refl _⟩

theorem trans {first second third : GameState}
    (hfirst : Neutral first second) (hsecond : Neutral second third) :
    Neutral first third :=
  ⟨hsecond.zones.trans hfirst.zones, hsecond.owners.trans hfirst.owners,
    hsecond.triggers.trans hfirst.triggers,
    hfirst.logged.trans hsecond.logged⟩

variable {before after : GameState} (hneutral : Neutral before after)
include hneutral

theorem logAction {action : GameAction} (hquiet : action.isQuiet = true)
    (priorLogSize : Nat) :
    Neutral before (after.logAction action priorLogSize) :=
  hneutral.trans ⟨rfl, .refl _, rfl, .log hquiet _ _⟩

theorem message : Neutral before after.message :=
  hneutral.trans ⟨rfl, .refl _, rfl, .refl _⟩

theorem modifyCard {f : Card → Card}
    (hf : ∀ c, ownerView (f c) = ownerView c) (id : CardId) :
    Neutral before (after.modifyCard id f) :=
  hneutral.trans ⟨rfl, sameView_modify hf _ _, rfl, .refl _⟩

theorem modifyPlayer (player : PlayerId) (f : Player → Player) :
    Neutral before (after.modifyPlayer player f) :=
  hneutral.trans ⟨rfl, .refl _, rfl, .refl _⟩

theorem mapCaches (f : ManaSourceCache → ManaSourceCache) :
    Neutral before (after.mapCaches f) :=
  hneutral.trans ⟨rfl, .refl _, rfl, .refl _⟩

theorem incrementManaVersion : Neutral before after.incrementManaVersion :=
  hneutral.trans ⟨rfl, .refl _, rfl, .refl _⟩

end Neutral

/-- The moves follow this frame. -/
theorem neutral_frame : MoveFrame GameAction.isQuiet ownerView Neutral where
  refl := Neutral.refl
  trans := Neutral.trans
  logAction game _ hquiet priorLogSize :=
    (Neutral.refl game).logAction hquiet priorLogSize
  modifyCard game id _ hf := (Neutral.refl game).modifyCard hf id
  aside haside :=
    ⟨haside.zones, haside.cards ▸ .refl _, haside.delayedTriggers,
      haside.undoLog ▸ .refl _⟩
  steady _ := rfl
  minor action hminor := by cases action <;> first | rfl | cases hminor

section Stages

variable (game : GameState) (id : CardId)

theorem maybeReveal_neutral (target : RevealTarget) (shown : Card → Bool)
    {mark : Card → Card} (hmark : ∀ c : Card, (mark c).steady = c.steady)
    (priorLogSize : Nat) :
    Neutral game (game.maybeReveal id target shown mark priorLogSize) :=
  MoveFrame.maybeReveal neutral_frame game id target shown hmark priorLogSize

theorem entersBattlefield_neutral (owner : PlayerId) :
    Neutral game (game.entersBattlefield id owner) :=
  MoveFrame.entersBattlefield neutral_frame game id (fun _ => rfl) rfl owner

theorem reportMove_neutral (fromZone toZone : Zone) :
    Neutral game (game.reportMove id fromZone toZone) :=
  MoveFrame.reportMove neutral_frame game id fromZone toZone

theorem updateManaCaches_neutral (fromZone toZone : Zone) :
    Neutral game (game.updateManaCaches id fromZone toZone) :=
  MoveFrame.updateManaCaches neutral_frame game id fromZone toZone

theorem resetIfLeft_neutral (fromZone : Zone) :
    Neutral game (game.resetIfLeft id fromZone) :=
  MoveFrame.resetIfLeft neutral_frame game id (fun _ _ => rfl) (fun _ => rfl) fromZone

theorem cleanupPersistentEffects_neutral (fromZone : Zone) :
    Neutral game (game.cleanupPersistentEffects id fromZone) :=
  MoveFrame.cleanupPersistentEffects neutral_frame game id fromZone

theorem prepareMove_neutral (fromZone toZone : Zone) (owner : PlayerId) :
    Neutral game (game.prepareMove id fromZone toZone owner) :=
  MoveFrame.prepareMove neutral_frame game id fromZone toZone owner

end Stages

section Permanents

variable (game : GameState) (id : CardId)

theorem tapPermanent_neutral :
    (game.tapPermanent id).Ensures (Neutral game) := by
  apply MoveFrame.setTapped neutral_frame
  · intro c
    rfl
  · rfl

theorem applyRegenerationShield_neutral :
    (game.applyRegenerationShield id).Ensures (Neutral game) := by
  rw [applyRegenerationShield]
  split
  · next card hcard =>
    apply Outcome.Ensures.andThen
    · have hshielded : Neutral game (game.modifyCard id fun c =>
          { c with
            regenerationShields := Saturating.sub8 c.regenerationShields 1
            damage := 0 }) := by
        apply (Neutral.refl game).modifyCard
        intro c
        rfl
      exact (tapPermanent_neutral _ id).mono fun _ htapped =>
        hshielded.trans htapped
    · intro tapped _ htapped
      apply Outcome.Ensures.ok
      apply Neutral.message
      apply Neutral.logAction _ rfl
      exact htapped.trans ⟨rfl, .refl _, rfl, .refl _⟩
  · exact .error (.refl game) _

theorem addCounters_neutral (counterType : CounterType) (amount : UInt8) :
    (game.addCounters id counterType amount).Ensures (Neutral game) := by
  rw [addCounters]
  split
  · apply Outcome.Ensures.ok
    apply Neutral.logAction _ rfl
    apply (Neutral.refl game).modifyCard
    intro c
    rw [Card.addCounter]
    split <;> rfl
  · exact .error (.refl game) _

theorem setTempBaseStatsLogged_neutral (power toughness : Int8) :
    Neutral game (game.setTempBaseStatsLogged id power toughness) := by
  rw [setTempBaseStatsLogged]
  split
  · apply Neutral.logAction _ rfl
    apply (Neutral.refl game).modifyCard
    intro c
    rfl
  · exact .refl game

theorem earthbendAnimate_neutral :
    Neutral game (game.earthbendAnimateCreatureHasteLogged id) := by
  rw [earthbendAnimateCreatureHasteLogged]
  split
  · dsimp only
    split
    · exact .refl game
    · apply Neutral.logAction _ rfl
      apply (Neutral.refl game).modifyCard
      intro c
      split <;> rfl
  · exact .refl game

theorem addManaDelayed_neutral (player : PlayerId) (mana : ManaCost)
    (amountVar : Option String) (rememberedAmount : Option UInt32) :
    (game.addManaDelayed player mana amountVar rememberedAmount).Ensures
      (Neutral game) := by
  rw [addManaDelayed]
  generalize (if amountVar.isSome then rememberedAmount.getD 0
    else mana.colorless.toUInt32) = count
  dsimp only
  split
  · exact Outcome.Ensures.ok (Neutral.refl game) _
  · split
    · apply Outcome.Ensures.ok
      apply Neutral.message
      apply Neutral.logAction _ rfl
      exact (Neutral.refl game).modifyPlayer _ _
    · exact .error (.refl game) _

end Permanents

end GameState

end DeepScry
