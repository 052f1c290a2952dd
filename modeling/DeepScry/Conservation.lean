/-
No card is lost or doubled in any run of moves, draws, mills, scries,
surveils, counters, shuffles and undos.
-/
import DeepScry.Conserved
import Mathlib.Logic.Relation

namespace DeepScry

namespace DelayedEffect

/-- The effect puts a copy with an id of its own onto the stack. -/
def copies : DelayedEffect → Bool
  | copySpellAbility _ => true
  | _ => false

/-- The effect runs the scan for death triggers or the executor of card
effects. -/
def handsOver : DelayedEffect → Bool
  | destroyTracked _ => true
  | executeEffect (.destroyPermanent _ _) => true
  | executeEffect (.searchLibrary _) => true
  | executeEffect (.delegated _) => true
  | _ => false

end DelayedEffect

open GameState

/-- What is handed over conserves the cards itself.  It may leave triggers
that neither copy nor hand over. -/
def EffectExecutor.Conserves (executor : EffectExecutor)
    (owners : List PlayerId) : Prop :=
  ∀ deal : Deal, deal.owners = owners →
    (∀ trigger : DelayedTrigger, trigger.controller ∈ owners →
      trigger.effect.copies = false → trigger.effect.handsOver = false →
        deal.fine trigger) →
    ∀ game, Conserved deal game →
      (∀ player effect, (executor.executeEffect game player effect).Ensures
        (Conserved deal)) ∧
      ∀ id, (executor.checkDeathTriggers game id).Ensures (Conserved deal)

/-- A trigger of a player with zones whose effect makes no card. -/
structure DelayedTrigger.Contained (executor : EffectExecutor)
    (owners : List PlayerId) (trigger : DelayedTrigger) : Prop where
  controller : trigger.controller ∈ owners
  copies : trigger.effect.copies = false
  handsOver : trigger.effect.handsOver = true → executor.Conserves owners

/-- The cards that the zones of a game hold, and its log as it is. -/
def GameState.deal (executor : EffectExecutor) (game : GameState) : Deal where
  ids := game.zones.allCards
  owners := game.zones.owners
  base := game.undoLog.actions
  fine := DelayedTrigger.Contained executor game.zones.owners

/-- A deal in which just the contained triggers may be around. -/
def Deal.For (deal : Deal) (executor : EffectExecutor) : Prop :=
  deal.fine = DelayedTrigger.Contained executor deal.owners

namespace GameState

section Firing

variable {executor : EffectExecutor}
  {moveCard : GameState → CardId → Zone → Zone → PlayerId → Outcome Unit}
  {deal : Deal} {game : GameState} (hfor : deal.For executor)
  (hmove : ∀ game, Conserved deal game → ∀ id fromZone toZone owner,
    owner ∈ deal.owners →
      (moveCard game id fromZone toZone owner).Ensures (Conserved deal))
  (hconserved : Conserved deal game)
include hfor hmove hconserved

theorem returnTracked_conserved {trigger : DelayedTrigger}
    (hfine : deal.fine trigger) (tapped toOwner : Bool) :
    (game.returnTracked moveCard trigger tapped toOwner).Ensures
      (Conserved deal) := by
  rw [hfor] at hfine
  rw [returnTracked]
  cases hcard : game.card? trigger.trackedCard with
  | none => exact .ok hconserved _
  | some card =>
      apply Outcome.Ensures.andThen
      · apply hmove game hconserved
        split
        · exact hconserved.mem_owners hcard
        · exact hfine.controller
      · intro moved _ hmoved
        apply Outcome.Ensures.ok
        apply hmoved.neutral
        apply Neutral.message
        split
        · apply (Neutral.refl moved).modifyCard
          intro c
          rfl
        · exact .refl moved

omit hfor in
theorem sacrificeDelayed_conserved (id : CardId) {controller : PlayerId}
    (hcontroller : controller ∈ deal.owners) (reports : Bool) :
    (game.sacrificeDelayed moveCard id controller reports).Ensures
      (Conserved deal) := by
  rw [sacrificeDelayed]
  split
  · apply Outcome.Ensures.andThen
    · exact hmove game hconserved _ _ _ _
        (hconserved.ownerOr_mem id hcontroller)
    · intro moved _ hmoved
      apply Outcome.Ensures.ok
      apply hmoved.neutral
      split
      · exact (Neutral.refl moved).message
      · exact .refl moved
  · exact .ok hconserved _

theorem destroyDelayed_conserved (hexecutor : executor.Conserves deal.owners)
    (id : CardId) (lookup : Option Card) (noRegenerate reports : Bool) :
    (game.destroyDelayed executor moveCard id lookup noRegenerate
      reports).Ensures (Conserved deal) := by
  have hscan : (executor.checkDeathTriggers game id).Ensures
      (Conserved deal) := by
    apply (hexecutor deal rfl _ game hconserved).2
    intro trigger hcontroller hcopies hhands
    rw [hfor]
    exact ⟨hcontroller, hcopies, fun hover => by simp [hhands] at hover⟩
  rw [destroyDelayed.eq_def]
  cases lookup with
  | none => exact .error hconserved _
  | some card =>
      dsimp only
      split
      · exact .ok hconserved _
      · split
        · exact (applyRegenerationShield_neutral game id).mono
            fun _ hneutral => hconserved.neutral hneutral
        · cases hget : game.cards.get id.raw with
          | none => exact .error hconserved _
          | some card =>
              dsimp only
              have howner : card.owner ∈ deal.owners := by
                apply hconserved.cardOwners id.raw card
                rw [EntityStore.get] at hget
                split at hget
                · cases hget
                · exact hget
              cases hscanned : executor.checkDeathTriggers game id with
              | none =>
                  rintro after result ⟨⟩
              | some scanned =>
                  apply Outcome.Ensures.andThen
                  · apply hmove _ (hscan _ _ hscanned)
                    exact howner
                  · intro moved _ hmoved
                    apply Outcome.Ensures.ok
                    apply hmoved.neutral
                    split
                    · exact (Neutral.refl moved).message
                    · exact .refl moved

omit hmove in
theorem earthbendDelayed_conserved {controller : PlayerId}
    (hcontroller : controller ∈ deal.owners) (numCounters : UInt8) :
    (game.earthbendDelayed controller numCounters).Ensures
      (Conserved deal) := by
  rw [earthbendDelayed]
  split
  · next land hland =>
    apply Outcome.Ensures.andThen (P := Conserved deal)
    · have hanimated := (earthbendAnimate_neutral game land).trans
        (setTempBaseStatsLogged_neutral _ land 0 0)
      exact (addCounters_neutral _ land _ _).mono fun _ hadded =>
        hconserved.neutral (hanimated.trans hadded)
    · intro added _ hadded
      apply Outcome.Ensures.ok
      apply Conserved.neutral _ (Neutral.refl _).message
      apply hadded.addTrigger
      intro id
      rw [hfor]
      exact ⟨hcontroller, rfl, fun hover => by cases hover⟩
  · exact .ok (hconserved.neutral (Neutral.refl game).message) _

omit hfor hmove in
theorem scryDelayed_conserved (player : PlayerId) (count : UInt8) :
    Conserved deal (game.scryDelayed player count) := by
  have hreported := hconserved.neutral (Neutral.refl game).message
  apply hreported.scryApplyDecision
  rw [ScryDecision.keepAllOnTop, List.append_nil]
  exact List.reverse_perm _

theorem executeDelayed_conserved {trigger : DelayedTrigger}
    (hfine : deal.fine trigger) {effect : Effect}
    (heffect : trigger.effect = .executeEffect effect) :
    (game.executeDelayed executor moveCard trigger effect).Ensures
      (Conserved deal) := by
  rw [hfor] at hfine
  have hsimple : ∀ trigger : DelayedTrigger,
      trigger.controller ∈ deal.owners → trigger.effect.copies = false →
        trigger.effect.handsOver = false → deal.fine trigger := by
    intro trigger hcontroller hcopies hhands
    rw [hfor]
    exact ⟨hcontroller, hcopies, fun hover => by simp [hhands] at hover⟩
  have hmessage := hconserved.neutral (Neutral.refl game).message
  have hhands := hfine.handsOver
  rw [heffect] at hhands
  rw [executeDelayed.eq_def]
  cases effect with
  | earthbend numCounters =>
      exact earthbendDelayed_conserved hfor hconserved hfine.controller _
  | addMana player mana x amountVar =>
      exact (addManaDelayed_neutral game _ mana amountVar _).mono
        fun _ hneutral => hconserved.neutral hneutral
  | scry player count =>
      exact .ok (scryDelayed_conserved hconserved player count) _
  | destroyPermanent target noRegenerate =>
      dsimp only
      split
      · exact .ok hconserved _
      · split
        · exact .ok hconserved _
        · split
          · exact destroyDelayed_conserved hfor hmove hconserved (hhands rfl)
              _ _ _ _
          · exact .ok hconserved _
  | searchLibrary tag =>
      exact (hhands rfl deal rfl hsimple _ hmessage).1 _ _
  | delegated tag => exact (hhands rfl deal rfl hsimple _ hconserved).1 _ _
  | attachEquipment equipment target => exact .ok hconserved _
  | unsupported tag => exact .ok hconserved _

theorem fireEffect_conserved {trigger : DelayedTrigger}
    (hfine : deal.fine trigger) :
    (game.fireEffect executor moveCard trigger).Ensures (Conserved deal) := by
  have hcontained := hfine
  rw [hfor] at hcontained
  have hcopies := hcontained.copies
  have hhands := hcontained.handsOver
  rw [fireEffect]
  cases heffect : trigger.effect with
  | returnToBattlefield tapped toOwner =>
      exact returnTracked_conserved hfor hmove hconserved hfine tapped toOwner
  | sacrifice =>
      exact sacrificeDelayed_conserved hmove hconserved _
        hcontained.controller _
  | sacrificeOther card =>
      exact sacrificeDelayed_conserved hmove hconserved _
        hcontained.controller _
  | exileCard =>
      dsimp only
      split
      · exact hmove game hconserved _ _ _ _
          (hconserved.ownerOr_mem _ hcontained.controller)
      · exact .ok hconserved _
  | destroyTracked requireAttackedThisTurn =>
      rw [heffect] at hhands
      dsimp only
      split
      · exact destroyDelayed_conserved hfor hmove hconserved (hhands rfl)
          _ _ _ _
      · exact .ok hconserved _
  | castWithoutPaying => exact .ok hconserved _
  | copySpellAbility mayChooseTargets =>
      rw [heffect] at hcopies
      cases hcopies
  | executeEffect effect =>
      exact executeDelayed_conserved hfor hmove hconserved hfine heffect

theorem fireDelayedTrigger_conserved {trigger : DelayedTrigger}
    (hfine : deal.fine trigger) :
    (game.fireDelayedTrigger executor moveCard trigger).Ensures
      (Conserved deal) := by
  rw [fireDelayedTrigger]
  apply Outcome.Ensures.andThen
  · exact fireEffect_conserved hfor hmove hconserved hfine
  · intro fired _ hfired
    split
    · apply Outcome.Ensures.ok
      apply hfired.addTrigger
      intro id
      rw [hfor] at hfine ⊢
      exact ⟨hfine.controller, hfine.copies, hfine.handsOver⟩
    · exact .ok hfired _

/-- Every trigger that fires was in the store, and may be around. -/
theorem fireAll_conserved (ids : List DelayedTriggerId) :
    (game.fireAll executor moveCard ids).Ensures (Conserved deal) := by
  induction ids generalizing game with
  | nil => exact .ok hconserved _
  | cons id rest ih =>
      rw [fireAll]
      split
      · next trigger store hremove =>
        obtain ⟨hfine, htaken⟩ := hconserved.takeTrigger
          (show (game.delayedTriggers.remove id).1 = some trigger by rw [hremove])
          game.logger.logCount
        rw [hremove] at htaken
        apply Outcome.Ensures.andThen
        · exact fireDelayedTrigger_conserved hfor hmove htaken hfine
        · intro fired _ hfired
          exact ih hfired
      · exact ih hconserved

end Firing

/-- By induction on how deep the moves nest. -/
theorem moveCard_conserved {executor : EffectExecutor} {deal : Deal}
    (hfor : deal.For executor) (depth : Nat) :
    ∀ game, Conserved deal game → ∀ id fromZone toZone owner,
      owner ∈ deal.owners →
        (moveCard executor depth game id fromZone toZone owner).Ensures
          (Conserved deal) := by
  induction depth with
  | zero =>
      rintro game - id fromZone toZone owner - after result ⟨⟩
  | succ depth ih =>
      intro game hconserved id fromZone toZone owner howner
      have hmoved := hconserved.moveUntilTriggers howner id fromZone toZone
      rw [moveCard]
      split
      · next moved heq =>
        rw [heq] at hmoved
        exact fireAll_conserved hfor ih hmoved _
      · next unmoved heq =>
        rw [heq] at hmoved
        exact .ok hmoved _

section Flow

variable {executor : EffectExecutor} {deal : Deal} {game : GameState}
  (hfor : deal.For executor) (depth : Nat)
  (hconserved : Conserved deal game)

theorem recordCardDrawn_neutral (game : GameState) (player : PlayerId)
    (priorLogSize : Nat) :
    Neutral game (game.recordCardDrawn player priorLogSize).1 := by
  rw [recordCardDrawn]
  split
  · exact ((Neutral.refl game).modifyPlayer player _).logAction rfl _
  · exact .refl game

include hconserved in
theorem drawCardInner_conserved (player : PlayerId) (logGamelog : Bool) :
    (game.drawCardInner player logGamelog).Ensures (Conserved deal) := by
  rw [drawCardInner]
  split
  · next own id htop =>
    obtain ⟨found, hown, hlast⟩ := Option.bind_eq_some_iff.mp htop
    obtain ⟨top, hlast, heq⟩ := Option.map_eq_some_iff.mp hlast
    cases heq
    have hlibrary : own.library = own.library.dropLast ++ [id] :=
      (List.dropLast_append_getLast? id hlast).symm
    have hid : id ∈ own.library := List.mem_of_getLast? hlast
    have hheld : game.zones.holds .library player id = true := by
      simp [Zones.holds, Zones.cardsIn, hown, PlayerZones.getZone, hid]
    have howner : player ∈ deal.owners := by
      rw [← hconserved.owners, Zones.mem_owners_iff, hown]
      rfl
    have hchanged : (game.zones.modifyPlayerZones player fun own =>
        { own with
          library := own.library.dropLast
          hand := own.hand ++ [id] }).Alike
            (game.zones.afterMove id .library .hand player) := by
      simp only [Zones.afterMove, Zones.modify,
        Zones.modifyPlayerZones_modifyPlayerZones]
      apply Zones.modifyPlayerZones_alike
      intro other hother
      cases hown.symm.trans hother
      refine ⟨?_, .refl _, .refl _, .refl _, .refl _⟩
      have herase := List.perm_cons_erase hid
      have hdrop := List.perm_append_singleton id own.library.dropLast
      rw [← hlibrary] at hdrop
      exact (hdrop.symm.trans herase).cons_inv
    have hrevealed := maybeReveal_neutral
      { game with zones := game.zones.modifyPlayerZones player fun own =>
        { own with
          library := own.library.dropLast
          hand := own.hand ++ [id] } } id (.player player)
      (fun card => card.isRevealedTo player)
      (show ∀ card : Card,
        (card.markRevealedTo player).steady = card.steady from fun _ => rfl)
      game.logger.logCount
    have hpassed := hconserved.passCard hheld howner hchanged
      (Zones.owners_modifyPlayerZones _ _ _) hrevealed
      (some (UInt32.ofNat own.library.dropLast.length)) game.logger.logCount
    have hcounted := hpassed.neutral
      (recordCardDrawn_neutral _ player game.logger.logCount)
    apply Outcome.Ensures.ok
    split
    · exact hcounted.neutral (Neutral.refl _).message
    · exact hcounted
  · exact .ok hconserved _

include hconserved in
theorem counterSpell_conserved (spell : CardId) :
    (game.counterSpell spell).Ensures (Conserved deal) := by
  rw [counterSpell]
  split
  · exact .error hconserved _
  · next hstack =>
    split
    · exact .error hconserved _
    · next card hget =>
      have hheld : game.zones.holds .stack card.owner spell = true := by
        simpa [Zones.holds, Zones.cardsIn] using hstack
      have howner : card.owner ∈ deal.owners := by
        apply hconserved.cardOwners spell.raw card
        rw [EntityStore.get] at hget
        split at hget
        · cases hget
        · exact hget
      apply Outcome.Ensures.ok
      apply hconserved.passCard hheld howner (Zones.Alike.refl _)
      · rw [Zones.afterMove, Zones.owners_modify, Zones.owners_modify]
      · exact .refl _

include hfor hconserved

theorem millLoop_conserved {player : PlayerId} (count : Nat)
    (milled : List CardId) :
    (millLoop executor depth player count game milled).Ensures
      (Conserved deal) := by
  induction count generalizing game milled with
  | zero => exact .ok hconserved _
  | succ count ih =>
      rw [millLoop]
      split
      · next id htop =>
        obtain ⟨own, hown, -⟩ := Option.bind_eq_some_iff.mp htop
        have howner : player ∈ deal.owners := by
          rw [← hconserved.owners, Zones.mem_owners_iff, hown]
          rfl
        apply Outcome.Ensures.andThen
        · exact moveCard_conserved hfor depth game hconserved _ _ _ _ howner
        · intro moved _ hmoved
          exact ih hmoved _
      · exact .ok hconserved _

theorem millCards_conserved (player : PlayerId) (count : UInt8) :
    (game.millCards executor depth player count).Ensures (Conserved deal) :=
  millLoop_conserved hfor depth hconserved _ _

theorem tryDredgeInsteadOfDraw_conserved (player : PlayerId) :
    (game.tryDredgeInsteadOfDraw executor depth player).Ensures
      (Conserved deal) := by
  rw [tryDredgeInsteadOfDraw]
  split
  · exact .ok hconserved _
  · next own hown =>
    have howner : player ∈ deal.owners := by
      rw [← hconserved.owners, Zones.mem_owners_iff, hown]
      rfl
    split
    · exact .ok hconserved _
    · apply Outcome.Ensures.andThen
      · exact millCards_conserved hfor depth hconserved player _
      · intro milled _ hmilled
        apply Outcome.Ensures.andThen
        · exact moveCard_conserved hfor depth milled hmilled _ _ _ _ howner
        · intro returned _ hreturned
          exact .ok (hreturned.neutral (Neutral.refl returned).message) _

theorem drawCard_conserved (player : PlayerId) :
    (game.drawCard executor depth player).Ensures (Conserved deal) := by
  rw [drawCard]
  apply Outcome.Ensures.andThen
  · exact tryDredgeInsteadOfDraw_conserved hfor depth hconserved player
  · intro game dredged hdredged
    rcases dredged with - | result
    · exact drawCardInner_conserved hdredged player true
    · exact .ok hdredged _

end Flow

section Undo

variable {deal : Deal} {game : GameState}

theorem undo_triggers (action : GameAction) (game : GameState) :
    ∀ trigger ∈ (action.undo game).1.delayedTriggers.triggers,
      trigger ∈ game.delayedTriggers.triggers ∨
        action = .fireDelayedTrigger trigger := by
  intro trigger htrigger
  cases action with
  | registerDelayedTrigger id =>
      left
      have hstore : (game.delayedTriggers.undoAdd id).2.triggers =
          (game.delayedTriggers.remove id).2.triggers := by
        rw [DelayedTriggerStore.undoAdd]
        dsimp only
        split_ifs <;> rfl
      change trigger ∈ (game.delayedTriggers.undoAdd id).2.triggers at htrigger
      rw [hstore] at htrigger
      exact List.mem_of_mem_eraseP htrigger
  | fireDelayedTrigger fired =>
      rcases List.mem_append.mp htrigger with hold | hnew
      · exact Or.inl hold
      · exact Or.inr (by rw [List.mem_singleton.mp hnew])
  | _ =>
      left
      revert htrigger
      simp only [GameAction.undo, undoCard, undoPlayer, undoRng, undoMove,
        undoReveal]
      repeat' (first | exact id | split)

theorem undo_ownersWithin {owners : List PlayerId} (action : GameAction)
    (hwithin : OwnersWithin owners game.cards) :
    OwnersWithin owners (action.undo game).1.cards := by
  cases action with
  | addCounter card counterType amount =>
      simp only [GameAction.undo, undoCard]
      split
      · apply hwithin.modify
        intro c
        rw [Card.removeCounter]
        split_ifs <;> rfl
      · exact hwithin
  | removeCounter card counterType amount =>
      simp only [GameAction.undo, undoCard]
      split
      · apply hwithin.modify
        intro c
        rw [Card.addCounter]
        split <;> rfl
      · exact hwithin
  | revealCard card name revealedTo oldMask =>
      simp only [GameAction.undo, undoReveal]
      split <;> split <;>
        first
        | exact hwithin
        | exact hwithin.clear _
        | apply hwithin.modify
          intro c
          rfl
  | createEntity card => exact hwithin.clearAndTruncate _
  | _ =>
      simp only [GameAction.undo, undoCard, undoPlayer, undoMove, undoRng]
      repeat' (first
        | exact hwithin
        | apply hwithin.modify
          intro c
          rfl
        | split)

/-- One undo of an action that was logged since the start. -/
theorem undo_conserved (hconserved : Conserved deal game)
    (hlogged : deal.base.length < game.undoLog.actions.length) :
    Conserved deal game.undo.2 := by
  obtain ⟨actions, hactions, hidle, hfine, htrail⟩ := hconserved.logged
  induction actions using List.reverseRecOn with
  | nil =>
      rw [hactions, List.append_nil] at hlogged
      exact absurd hlogged (Nat.lt_irrefl _)
  | append_singleton older action _ =>
      cases hpop : game.undoLog.pop with
      | none =>
          have hnil := UndoLog.pop_eq_none hpop
          rw [hnil] at hlogged
          cases hlogged
      | some popped =>
          obtain ⟨⟨top, logSize⟩, rest⟩ := popped
          obtain ⟨hrest, -, henabled, -⟩ := UndoLog.pop_eq_some hpop
          rw [hactions, ← List.append_assoc,
            List.append_singleton_inj] at hrest
          obtain ⟨hrest, rfl⟩ := hrest
          obtain ⟨manaCaches, spellTargets, hundo⟩ := undo_of_pop hpop
          rw [hundo]
          have hzones := GameAction.zones_undo action
            { game with undoLog := rest }
          have hlog := action.undo_undoLog { game with undoLog := rest }
          have hundone : Conserved deal
              (action.undo { game with undoLog := rest }).1 := by
            refine ⟨?_, undo_ownersWithin action hconserved.cardOwners, ?_,
              older, ?_, ?_, ?_, ?_⟩
            · rw [hzones, GameAction.owners_undoZones]
              exact hconserved.owners
            · intro trigger htrigger
              rcases undo_triggers action _ trigger htrigger with hold | rfl
              · exact hconserved.triggers trigger hold
              · exact hfine trigger (by simp)
            · rw [hlog, ← hrest]
            · rw [hlog]
              intro hdisabled
              have hnone := hidle (henabled ▸ hdisabled)
              simp at hnone
            · intro trigger hmem
              exact hfine trigger (List.mem_append_left _ hmem)
            · rw [hzones]
              exact htrail.undo
          exact hundone.neutral ⟨rfl, .refl _, rfl, .refl _⟩

end Undo

end GameState

/-- One of the operations on a game whose log had the given length at the
start.  A move is of a player with zones, as the owner of every card is. -/
inductive CardStep (executor : EffectExecutor)
    (shuffle : Rng → List CardId → List CardId × Rng) (height : Nat) :
    GameState → GameState → Prop where
  | moveCard {game after : GameState} {result : Except MtgError Unit}
      (depth : Nat) (id : CardId) (fromZone toZone : Zone) {owner : PlayerId}
      (howner : owner ∈ game.zones.owners)
      (hmove : GameState.moveCard executor depth game id fromZone toZone owner =
        some (after, result)) : CardStep executor shuffle height game after
  | drawCard {game after : GameState}
      {result : Except MtgError (Option CardId × UInt8)} (depth : Nat)
      (player : PlayerId)
      (hdraw : game.drawCard executor depth player = some (after, result)) :
      CardStep executor shuffle height game after
  | millCards {game after : GameState}
      {result : Except MtgError (List CardId)} (depth : Nat)
      (player : PlayerId) (count : UInt8)
      (hmill : game.millCards executor depth player count =
        some (after, result)) : CardStep executor shuffle height game after
  | scry {game : GameState} (player : PlayerId) (count : UInt8)
      {decision : ScryDecision}
      (hparts : (decision.top ++ decision.bottom).Perm
        (game.scrySnapshotTopN player count)) :
      CardStep executor shuffle height game
        (game.scryApplyDecision player (game.scrySnapshotTopN player count)
          decision)
  | surveil {game : GameState} (player : PlayerId) (count : UInt8)
      {decision : SurveilDecision}
      (hparts : (decision.top ++ decision.graveyard).Perm
        (game.surveilSnapshotTopN player count)) :
      CardStep executor shuffle height game
        (game.surveilApplyDecision player
          (game.surveilSnapshotTopN player count) decision)
  | counterSpell {game after : GameState} {result : Except MtgError Unit}
      (spell : CardId)
      (hcounter : game.counterSpell spell = some (after, result)) :
      CardStep executor shuffle height game after
  | shuffleLibrary {game : GameState} (player : PlayerId) :
      CardStep executor shuffle height game
        (game.shuffleLibrary shuffle player)
  | undo {game : GameState}
      (hlogged : height < game.undoLog.actions.length) :
      CardStep executor shuffle height game game.undo.2

/-- A game in which every card has an owner with zones and no delayed trigger
makes a card. -/
structure GameState.WellDealt (executor : EffectExecutor)
    (game : GameState) : Prop where
  cardOwners : OwnersWithin game.zones.owners game.cards
  triggers : ∀ trigger ∈ game.delayedTriggers.triggers,
    trigger.Contained executor game.zones.owners

namespace GameState

section Run

variable {executor : EffectExecutor}
  {shuffle : Rng → List CardId → List CardId × Rng}

theorem WellDealt.conserved {game : GameState}
    (hdealt : game.WellDealt executor) :
    Conserved (game.deal executor) game := by
  refine ⟨rfl, hdealt.cardOwners, hdealt.triggers, [], ?_, fun _ => rfl, ?_,
    .nil (.refl _)⟩
  · exact (List.append_nil _).symm
  · intro trigger hmem
    cases hmem

theorem shuffleLibrary_conserved {deal : Deal} {game : GameState}
    (hshuffle : ∀ rng cards, (shuffle rng cards).1.Perm cards)
    (hconserved : Conserved deal game) (player : PlayerId) :
    Conserved deal (game.shuffleLibrary shuffle player) := by
  rw [GameState.shuffleLibrary]
  split
  · next own hown =>
    have hperm := hshuffle game.rng own.library
    generalize shuffle game.rng own.library = result at hperm ⊢
    obtain ⟨shuffled, rng⟩ := result
    have hrng : Conserved deal { game with rng := rng } :=
      hconserved.neutral ⟨rfl, .refl _, rfl, .refl _⟩
    have hcards : ({ own with library := shuffled }).allCards.Perm
        own.allCards :=
      (((hperm.append_right _).append_right _).append_right _).append_right _
    have hback : (GameAction.shuffleLibrary player own.library
        (some ⟨some game.rng⟩)).undoZones
          (game.zones.modifyPlayerZones player fun own =>
            { own with library := shuffled }) = game.zones := by
      rw [GameAction.undoZones, Zones.modifyPlayerZones_modifyPlayerZones]
      apply Zones.modifyPlayerZones_eq_self
      intro other hother
      cases hown.symm.trans hother
      rfl
    apply Conserved.queueLibraryReorder
    exact hrng.reorder hown hcards hback (by simp) game.logger.logCount
  · exact hconserved

/-- Each operation keeps the invariant. -/
theorem step_conserved {deal : Deal} (hfor : deal.For executor)
    (hshuffle : ∀ rng cards, (shuffle rng cards).1.Perm cards)
    {game after : GameState}
    (hstep : CardStep executor shuffle deal.base.length game after)
    (hconserved : Conserved deal game) : Conserved deal after := by
  cases hstep with
  | moveCard depth id fromZone toZone howner hmove =>
      rw [hconserved.owners] at howner
      exact moveCard_conserved hfor depth game hconserved id fromZone toZone
        _ howner _ _ hmove
  | drawCard depth player hdraw =>
      exact drawCard_conserved hfor depth hconserved player _ _ hdraw
  | millCards depth player count hmill =>
      exact millCards_conserved hfor depth hconserved player count _ _ hmill
  | scry player count hparts =>
      exact hconserved.scryApplyDecision player count hparts
  | surveil player count hparts =>
      exact hconserved.surveilApplyDecision player count hparts
  | counterSpell spell hcounter =>
      exact counterSpell_conserved hconserved spell _ _ hcounter
  | shuffleLibrary player =>
      exact shuffleLibrary_conserved hshuffle hconserved player
  | undo hlogged => exact undo_conserved hconserved hlogged

theorem run_conserved {deal : Deal} (hfor : deal.For executor)
    (hshuffle : ∀ rng cards, (shuffle rng cards).1.Perm cards)
    {start game : GameState}
    (hrun : Relation.ReflTransGen
      (CardStep executor shuffle deal.base.length) start game)
    (hconserved : Conserved deal start) : Conserved deal game := by
  induction hrun with
  | refl => exact hconserved
  | tail _ hstep ih => exact step_conserved hfor hshuffle hstep ih

end Run

/-- A creature that returns when it dies, and two cards in the library. -/
def returningCreature : GameState where
  cards := ⟨[some { id := ⟨0⟩, owner := ⟨0⟩, controller := ⟨0⟩ }]⟩
  players := [{ id := ⟨0⟩ }]
  zones :=
    { battlefield := [⟨0⟩]
      playerZones := [(⟨0⟩, { library := [⟨1⟩, ⟨2⟩] })] }
  turn := { activePlayer := ⟨0⟩ }
  delayedTriggers :=
    ⟨[{ id := ⟨1⟩, trackedCard := ⟨0⟩, sourceCard := ⟨0⟩, controller := ⟨0⟩
        triggerCondition := .zoneChange [.battlefield] [.graveyard]
        effect := .returnToBattlefield true true }], 2⟩

/-- A card whose trigger copies it when it goes from the hand to the stack. -/
def copiedSpell : GameState where
  cards := ⟨[some { id := ⟨0⟩, owner := ⟨0⟩, controller := ⟨0⟩ }]⟩
  players := [{ id := ⟨0⟩ }]
  zones := { playerZones := [(⟨0⟩, { hand := [⟨0⟩] })] }
  turn := { activePlayer := ⟨0⟩ }
  nextEntityId := 1
  delayedTriggers :=
    ⟨[{ id := ⟨1⟩, trackedCard := ⟨0⟩, sourceCard := ⟨0⟩, controller := ⟨0⟩
        triggerCondition := .zoneChange [.hand] [.stack]
        effect := .copySpellAbility false }], 2⟩

end GameState

end DeepScry
