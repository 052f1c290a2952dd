/-
The operations of the engine as runs of tap steps: a move with the delayed
triggers it fires, and every payment of an ability cost.
-/
import DeepScry.TapRun

namespace DeepScry

open GameState

/-- Some run leads from one state to the other. -/
def TapReaches (start after : GameState) : Prop :=
  ∃ trace, TapRun start trace after

namespace TapReaches

variable {start game after : GameState}

theorem refl (start : GameState) : TapReaches start start := ⟨[], .refl⟩

theorem trans (hfirst : TapReaches start game)
    (hsecond : TapReaches game after) : TapReaches start after := by
  obtain ⟨trace, hrun⟩ := hfirst
  obtain ⟨later, hlater⟩ := hsecond
  exact ⟨trace ++ later, hrun.trans hlater⟩

theorem step (hreaches : TapReaches start game) {event : TapEvent}
    (hstep : TapStep event game after) : TapReaches start after := by
  obtain ⟨trace, hrun⟩ := hreaches
  exact ⟨_, hrun.step hstep⟩

/-- A step next to the flags. -/
theorem aside (hreaches : TapReaches start game)
    (hview : after.tapView = game.tapView) : TapReaches start after :=
  hreaches.step (.aside hview)

theorem message (hreaches : TapReaches start game) :
    TapReaches start game.message :=
  hreaches.aside rfl

theorem ensures {α : Type} {outcome : Outcome α}
    (hreaches : TapReaches start game)
    (hensures : outcome.Ensures (TapReaches game)) :
    outcome.Ensures (TapReaches start) :=
  hensures.mono fun _ hafter => hreaches.trans hafter

/-- The rest of a call that only keeps the view. -/
theorem ensuresAside {α : Type} {outcome : Outcome α}
    (hreaches : TapReaches start game)
    (hensures : outcome.Ensures fun after =>
      after.tapView = game.tapView) :
    outcome.Ensures (TapReaches start) :=
  hensures.mono fun _ hview => hreaches.aside hview

end TapReaches

/-- What the effects and trigger scans do to the flags are tap steps too. -/
structure EffectExecutor.ActsByTapSteps (executor : EffectExecutor) :
    Prop where
  executeEffect : ∀ game player effect,
    (executor.executeEffect game player effect).Ensures (TapReaches game)
  checkDeathTriggers : ∀ game id,
    (executor.checkDeathTriggers game id).Ensures (TapReaches game)

namespace GameState

section Permanents

variable (game : GameState) (id : CardId)

theorem tapPermanent_reaches :
    (game.tapPermanent id).Ensures (TapReaches game) :=
  fun _ _ htap => (TapReaches.refl game).step (.tap id htap)

theorem addCounter_tapped (c : Card) (counterType : CounterType)
    (amount : UInt8) : (c.addCounter counterType amount).tapped = c.tapped := by
  rw [Card.addCounter]
  split <;> rfl

theorem removeCounter_tapped (c : Card) (counterType : CounterType)
    (amount : UInt8) :
    (c.removeCounter counterType amount).tapped = c.tapped := by
  rw [Card.removeCounter]
  split_ifs <;> rfl

theorem applyRegenerationShield_reaches :
    (game.applyRegenerationShield id).Ensures (TapReaches game) := by
  rw [applyRegenerationShield]
  split
  · next card hcard =>
    apply Outcome.Ensures.andThen
    · apply TapReaches.ensures _ (tapPermanent_reaches _ id)
      exact (TapReaches.refl game).aside
        (tapView_modifyCard_of_same game id fun _ => rfl)
    · intro tapped _ htapped
      apply Outcome.Ensures.ok
      apply TapReaches.message
      have hremoved : TapReaches game { tapped with
          combat := tapped.combat.removeFromCombat id } := htapped.aside rfl
      exact hremoved.aside (tapView_logAction _ rfl _)
  · exact .error (.refl game) _

theorem earthbendDelayed_reaches (controller : PlayerId)
    (numCounters : UInt8) :
    (game.earthbendDelayed controller numCounters).Ensures
      (TapReaches game) := by
  rw [earthbendDelayed]
  split
  · next land hland =>
    have hanimated : (game.earthbendAnimateCreatureHasteLogged
        land).tapView = game.tapView := by
      rw [earthbendAnimateCreatureHasteLogged]
      split
      · dsimp only
        split
        · rfl
        · rw [tapView_logAction _ rfl]
          apply tapView_modifyCard_of_same
          intro c
          split <;> rfl
      · rfl
    have hstats (game : GameState) :
        (game.setTempBaseStatsLogged land 0 0).tapView = game.tapView := by
      rw [setTempBaseStatsLogged]
      split
      · rw [tapView_logAction _ rfl]
        exact tapView_modifyCard_of_same game land fun _ => rfl
      · rfl
    apply Outcome.Ensures.andThen
    · apply TapReaches.ensuresAside
        ((TapReaches.refl game).aside ((hstats _).trans hanimated))
      apply tap_frame.addCounters
      · exact fun c => addCounter_tapped c _ _
      · exact fun _ => rfl
    · intro added _ hadded
      apply Outcome.Ensures.ok
      exact TapReaches.message (hadded.aside rfl)
  · exact .ok (TapReaches.refl game).message _

theorem addManaDelayed_reaches (player : PlayerId) (mana : ManaCost)
    (amountVar : Option String) (rememberedAmount : Option UInt32) :
    (game.addManaDelayed player mana amountVar rememberedAmount).Ensures
      (TapReaches game) := by
  rw [addManaDelayed]
  generalize (if amountVar.isSome then rememberedAmount.getD 0
    else mana.colorless.toUInt32) = count
  dsimp only
  split
  · exact .ok (.refl game) _
  · split
    · apply Outcome.Ensures.ok
      apply TapReaches.message
      exact (TapReaches.refl game).aside (tapView_logAction _ rfl _)
    · exact .error (.refl game) _

theorem logLibraryReorder_tapView (player : PlayerId)
    (includeGraveyard : Bool) :
    (game.logLibraryReorder player includeGraveyard).tapView =
      game.tapView := by
  rw [logLibraryReorder]
  split
  · exact tapView_logAction _ rfl _
  · rfl

theorem scryDelayed_reaches (player : PlayerId) (count : UInt8) :
    TapReaches game (game.scryDelayed player count) := by
  apply TapReaches.aside (TapReaches.refl game).message
  rw [scryDelayed, scryApplyDecision]
  split
  · rfl
  · dsimp only
    rw [(queueLibraryReorder_eq _ player _).choose_spec]
    exact logLibraryReorder_tapView game.message.message player false

end Permanents

section Firing

variable {executor : EffectExecutor} (hexecutor : executor.ActsByTapSteps)
  {moveCard : GameState → CardId → Zone → Zone → PlayerId → Outcome Unit}
  (hmove : ∀ game id fromZone toZone owner,
    (moveCard game id fromZone toZone owner).Ensures (TapReaches game))
  (game : GameState)
include hmove

theorem returnTracked_reaches (trigger : DelayedTrigger)
    (tapped toOwner : Bool) :
    (game.returnTracked moveCard trigger tapped toOwner).Ensures
      (TapReaches game) := by
  rw [returnTracked]
  split
  · exact .ok (.refl game) _
  · apply Outcome.Ensures.andThen (hmove game _ _ _ _)
    intro moved _ hmoved
    apply Outcome.Ensures.ok
    apply TapReaches.message
    split
    · exact hmoved.step (.returnTapped trigger.trackedCard)
    · exact hmoved

theorem sacrificeDelayed_reaches (id : CardId) (controller : PlayerId)
    (reports : Bool) :
    (game.sacrificeDelayed moveCard id controller reports).Ensures
      (TapReaches game) := by
  rw [sacrificeDelayed]
  split
  · apply Outcome.Ensures.andThen (hmove game _ _ _ _)
    intro moved _ hmoved
    apply Outcome.Ensures.ok
    split
    · exact hmoved.message
    · exact hmoved
  · exact .ok (.refl game) _

include hexecutor

theorem destroyDelayed_reaches (id : CardId) (lookup : Option Card)
    (noRegenerate reports : Bool) :
    (game.destroyDelayed executor moveCard id lookup noRegenerate
      reports).Ensures (TapReaches game) := by
  rw [destroyDelayed.eq_def]
  cases lookup with
  | none => exact .error (.refl game) _
  | some card =>
      dsimp only
      split
      · exact .ok (.refl game) _
      · split
        · exact applyRegenerationShield_reaches game id
        · cases game.cards.get id.raw with
          | none => exact .error (.refl game) _
          | some card =>
              have hscan := hexecutor.checkDeathTriggers game id
              cases hscanned : executor.checkDeathTriggers game id with
              | none =>
                  rintro after result ⟨⟩
              | some scanned =>
                  apply Outcome.Ensures.andThen
                  · apply TapReaches.ensures (hscan _ _ hscanned)
                    exact hmove _ _ _ _ _
                  · intro moved _ hmoved
                    apply Outcome.Ensures.ok
                    split
                    · exact hmoved.message
                    · exact hmoved

theorem executeDelayed_reaches (trigger : DelayedTrigger) (effect : Effect) :
    (game.executeDelayed executor moveCard trigger effect).Ensures
      (TapReaches game) := by
  rw [executeDelayed.eq_def]
  cases effect with
  | earthbend numCounters => exact earthbendDelayed_reaches game _ _
  | addMana player mana x amountVar => exact addManaDelayed_reaches game _ _ _ _
  | scry player count => exact .ok (scryDelayed_reaches game player count) _
  | destroyPermanent target noRegenerate =>
      dsimp only
      split
      · exact .ok (.refl game) _
      · split
        · exact .ok (.refl game) _
        · split
          · exact destroyDelayed_reaches hexecutor hmove game _ _ _ _
          · exact .ok (.refl game) _
  | searchLibrary tag =>
      exact TapReaches.ensures (TapReaches.refl game).message
        (hexecutor.executeEffect _ _ _)
  | delegated tag => exact hexecutor.executeEffect game _ _
  | attachEquipment equipment target => exact .ok (.refl game) _
  | unsupported tag => exact .ok (.refl game) _

theorem fireEffect_reaches (trigger : DelayedTrigger) :
    (game.fireEffect executor moveCard trigger).Ensures (TapReaches game) := by
  rw [fireEffect]
  cases trigger.effect with
  | returnToBattlefield tapped toOwner =>
      exact returnTracked_reaches hmove game trigger tapped toOwner
  | sacrifice => exact sacrificeDelayed_reaches hmove game _ _ _
  | sacrificeOther card => exact sacrificeDelayed_reaches hmove game _ _ _
  | exileCard =>
      dsimp only
      split
      · exact hmove game _ _ _ _
      · exact .ok (.refl game) _
  | destroyTracked requireAttackedThisTurn =>
      dsimp only
      split
      · exact destroyDelayed_reaches hexecutor hmove game _ _ _ _
      · exact .ok (.refl game) _
  | castWithoutPaying => exact .ok (.refl game) _
  | copySpellAbility mayChooseTargets =>
      apply Outcome.Ensures.andThen
      · exact fun _ _ hcopy =>
          (TapReaches.refl game).step (.copySpell _ _ hcopy)
      · exact fun copied _ hcopied => .ok hcopied _
  | executeEffect effect =>
      exact executeDelayed_reaches hexecutor hmove game trigger effect

theorem fireAll_reaches (ids : List DelayedTriggerId) (game : GameState) :
    (game.fireAll executor moveCard ids).Ensures (TapReaches game) := by
  induction ids generalizing game with
  | nil => exact .ok (.refl game) _
  | cons id rest ih =>
      rw [fireAll]
      split
      · next trigger store hremove =>
        have htaken : TapReaches game ({ game with delayedTriggers := store
            : GameState }.logAction (.fireDelayedTrigger trigger)
              game.logger.logCount) :=
          (TapReaches.refl game).aside (tapView_logAction _ rfl _)
        apply Outcome.Ensures.andThen
        · apply htaken.ensures
          rw [fireDelayedTrigger]
          apply Outcome.Ensures.andThen
            (fireEffect_reaches hexecutor hmove _ trigger)
          intro fired _ hfired
          split
          · apply Outcome.Ensures.ok
            exact hfired.aside rfl
          · exact .ok hfired _
        · exact fun fired _ hfired => hfired.ensures (ih fired)
      · exact ih game

end Firing

/-- A move is a run, by induction on how deep the moves nest. -/
theorem moveCard_reaches {executor : EffectExecutor}
    (hexecutor : executor.ActsByTapSteps) (depth : Nat) :
    ∀ game id fromZone toZone owner,
      (GameState.moveCard executor depth game id fromZone toZone
        owner).Ensures (TapReaches game) := by
  induction depth with
  | zero =>
      rintro game id fromZone toZone owner after result ⟨⟩
  | succ depth ih =>
      intro game id fromZone toZone owner
      have hmoved := (TapReaches.refl game).step
        (.move id fromZone toZone owner)
      rw [moveCard]
      split
      · next moved heq =>
        rw [heq] at hmoved
        exact hmoved.ensures (fireAll_reaches hexecutor ih _ _)
      · next unmoved heq =>
        rw [heq] at hmoved
        exact .ok hmoved _

end GameState

/-- The same for the parts of the engine that a payment hands over to. -/
structure PaymentExecutor.ActsByTapSteps (executor : PaymentExecutor) : Prop
    extends executor.toEffectExecutor.ActsByTapSteps where
  fireTriggers : ∀ game event id,
    (executor.fireTriggers game event id).Ensures (TapReaches game)

namespace GameState

section Paying

variable {executor : PaymentExecutor} (hexecutor : executor.ActsByTapSteps)
  (depth : Nat)

theorem logManaPool_tapView (game : GameState) (player : PlayerId) :
    (game.logManaPool player).tapView = game.tapView := by
  rw [logManaPool]
  split
  · exact tapView_logAction _ rfl _
  · rfl

theorem spendMana_tapView (game : GameState) (player : PlayerId)
    (cost : ManaCost) :
    (game.spendMana player cost).Ensures fun after =>
      after.tapView = game.tapView := by
  rw [spendMana]
  split
  · split
    · apply Outcome.Ensures.ok
      rfl
    · apply Outcome.Ensures.error
      rfl
  · apply Outcome.Ensures.error
    rfl

theorem payMana_reaches (game : GameState) (player : PlayerId)
    (cost : ManaCost) :
    (game.payMana player cost).Ensures (TapReaches game) := by
  have hlogged := (TapReaches.refl game).aside
    (logManaPool_tapView game player)
  rw [payMana]
  split
  · exact .error hlogged _
  · exact hlogged.ensuresAside (spendMana_tapView _ player cost)

theorem payLifeCost_reaches (game : GameState) (player : PlayerId)
    (amount : Int32) :
    (game.payLifeCost player amount).Ensures (TapReaches game) := by
  rw [payLifeCost]
  split
  · split
    · exact .error (.refl game) _
    · apply Outcome.Ensures.ok
      exact (TapReaches.refl game).aside rfl
  · exact .error (.refl game) _

theorem tapToPay_reaches (ids : List CardId) (remaining : UInt8)
    (game : GameState) :
    (game.tapToPay ids remaining).Ensures (TapReaches game) := by
  induction ids generalizing remaining game with
  | nil => exact .ok (.refl game) _
  | cons id rest ih =>
      rw [tapToPay]
      split
      · exact .ok (.refl game) _
      · split
        · apply Outcome.Ensures.andThen (tapPermanent_reaches game id)
          exact fun tapped _ htapped => htapped.ensures (ih _ tapped)
        · exact ih _ game

theorem payWaterbend_reaches (game : GameState) (player : PlayerId)
    (id : CardId) (amount : UInt8) :
    (game.payWaterbend player id amount).Ensures (TapReaches game) := by
  have hlogged := (TapReaches.refl game).aside
    (logManaPool_tapView game player)
  rw [payWaterbend]
  split
  · exact .error (.refl game) _
  · dsimp only
    split
    · exact .error (.refl game) _
    · apply Outcome.Ensures.andThen
      · split
        · exact hlogged.ensuresAside (spendMana_tapView _ player _)
        · exact .ok (.refl game) _
      · intro spent _ hspent
        apply Outcome.Ensures.andThen
        · exact hspent.ensures (tapToPay_reaches _ _ spent)
        · intro tapped remaining htapped
          apply Outcome.Ensures.andThen
          · exact htapped.ensures (tapToPay_reaches _ _ tapped)
          · exact fun paid _ hpaid => .ok hpaid _

theorem payAddLoyalty_reaches (game : GameState) (id : CardId)
    (amount : UInt8) :
    (game.payAddLoyalty id amount).Ensures (TapReaches game) := by
  rw [payAddLoyalty]
  split
  · apply Outcome.Ensures.ok
    apply TapReaches.message
    apply (TapReaches.refl game).aside
    rw [tapView_logAction _ rfl]
    exact tapView_modifyCard_of_same game id fun c => addCounter_tapped c _ _
  · exact .error (.refl game) _

theorem loyaltySpent_reaches (game : GameState) (id : CardId) (card : Card)
    (amount : UInt8) : TapReaches game (game.loyaltySpent id card amount) := by
  apply TapReaches.message
  apply (TapReaches.refl game).aside
  rw [tapView_logAction _ rfl]
  exact tapView_modifyCard_of_same game id fun c => removeCounter_tapped c _ _

theorem paySubCounter_reaches (game : GameState) (id : CardId)
    (amount : UInt8) (counterType : CounterType) :
    (game.paySubCounter executor id amount counterType).Ensures
      (TapReaches game) := by
  rw [paySubCounter]
  split
  · exact .error (.refl game) _
  · dsimp only
    split
    · exact .error (.refl game) _
    · apply Outcome.Ensures.andThen
      · rw [removeCounters]
        split
        · apply Outcome.Ensures.ok
          apply (TapReaches.refl game).aside
          rw [tapView_logAction _ rfl]
          exact tapView_modifyCard_of_same game id
            fun c => removeCounter_tapped c _ _
        · exact .error (.refl game) _
      · intro removed _ hremoved
        split
        · exact .error hremoved _
        · exact .ok hremoved.message _

include hexecutor

theorem checkTriggers_reaches (game : GameState) (event : TriggerEvent)
    (id : CardId) :
    (game.checkTriggers executor event id).Ensures (TapReaches game) := by
  rw [checkTriggers]
  split
  · exact hexecutor.fireTriggers game event id
  · exact .ok (.refl game) _

theorem payTap_reaches (game : GameState) (id : CardId) :
    (game.payTap executor id).Ensures (TapReaches game) := by
  apply Outcome.Ensures.andThen (tapPermanent_reaches game id)
  exact fun tapped _ htapped =>
    htapped.ensures (checkTriggers_reaches hexecutor tapped _ _)

theorem payTapAndMana_reaches (game : GameState) (player : PlayerId)
    (id : CardId) (cost : ManaCost) :
    (game.payTapAndMana executor player id cost).Ensures
      (TapReaches game) := by
  rw [payTapAndMana]
  split
  · exact .error (.refl game) _
  · split
    · exact .error (.refl game) _
    · apply Outcome.Ensures.andThen (payTap_reaches hexecutor game id)
      exact fun tapped _ htapped =>
        htapped.ensures (payMana_reaches tapped player cost)

theorem sacrifice_reaches (game : GameState) (id : CardId) :
    (game.sacrifice executor depth id).Ensures (TapReaches game) := by
  rw [sacrifice]
  split
  · exact .error (.refl game) _
  · apply Outcome.Ensures.andThen
      (moveCard_reaches hexecutor.toActsByTapSteps depth game _ _ _ _)
    exact fun moved _ hmoved =>
      hmoved.ensures (checkTriggers_reaches hexecutor moved _ _)

theorem sacrificeAll_reaches (ids : List CardId) (game : GameState) :
    (game.sacrificeAll executor depth ids).Ensures (TapReaches game) := by
  induction ids generalizing game with
  | nil => exact .ok (.refl game) _
  | cons id rest ih =>
      have hrecorded : TapReaches game (game.recordToughness id) := by
        apply (TapReaches.refl game).aside
        rw [recordToughness]
        split
        · split <;> rfl
        · rfl
      rw [sacrificeAll]
      apply Outcome.Ensures.andThen
      · exact hrecorded.ensures (sacrifice_reaches hexecutor depth _ id)
      · exact fun sacrificed _ hsacrificed =>
          hsacrificed.ensures (ih sacrificed)

theorem paySacrificePattern_reaches (game : GameState) (player : PlayerId)
    (id : CardId) (count : UInt8) (cardType : String) :
    (game.paySacrificePattern executor depth player id count
      cardType).Ensures (TapReaches game) := by
  rw [paySacrificePattern]
  split
  · exact .error (.refl game) _
  · dsimp only
    split
    · exact .error (.refl game) _
    · apply TapReaches.ensures _ (sacrificeAll_reaches hexecutor depth _ _)
      apply (TapReaches.refl game).aside
      split <;> rfl

theorem discardAll_reaches (player : PlayerId) (ids : List CardId)
    (game : GameState) :
    (game.discardAll executor depth player ids).Ensures
      (TapReaches game) := by
  induction ids generalizing game with
  | nil => exact .ok (.refl game) _
  | cons id rest ih =>
      rw [discardAll]
      apply Outcome.Ensures.andThen
        (moveCard_reaches hexecutor.toActsByTapSteps depth game _ _ _ _)
      exact fun discarded _ hdiscarded => hdiscarded.ensures (ih discarded)

theorem payDiscardHand_reaches (game : GameState) (player : PlayerId) :
    (game.payDiscardHand executor depth player).Ensures
      (TapReaches game) := by
  rw [payDiscardHand]
  split
  · exact .ok (.refl game) _
  · apply Outcome.Ensures.andThen
      (discardAll_reaches hexecutor depth player _ game)
    intro discarded _ hdiscarded
    split
    · exact .ok hdiscarded.message _
    · exact .error hdiscarded _

theorem paySubLoyalty_reaches (game : GameState) (id : CardId)
    (amount : UInt8) :
    (game.paySubLoyalty executor depth id amount).Ensures
      (TapReaches game) := by
  rw [paySubLoyalty]
  split
  · exact .error (.refl game) _
  · next card hget =>
    have hspent := loyaltySpent_reaches game id card amount
    dsimp only
    split
    · exact .error (.refl game) _
    · split
      · split
        · exact .error hspent.message _
        · exact hspent.message.ensures
            (moveCard_reaches hexecutor.toActsByTapSteps depth _ _ _ _ _)
      · exact .ok hspent _

end Paying

mutual

/-- Every payment is a run, by recursion on the cost. -/
theorem payAbilityCost_reaches {executor : PaymentExecutor}
    (hexecutor : executor.ActsByTapSteps) (depth : Nat) (player : PlayerId)
    (id : CardId) : ∀ (cost : Cost) (game : GameState),
      (game.payAbilityCost executor depth player id cost).Ensures
        (TapReaches game)
  | .tap, game => payTap_reaches hexecutor game id
  | .untap, game => fun _ _ hpay =>
      (TapReaches.refl game).step (.payUntap id hpay)
  | .mana cost, game => payMana_reaches game player cost
  | .tapAndMana cost, game =>
      payTapAndMana_reaches hexecutor game player id cost
  | .sacrifice card, game => sacrifice_reaches hexecutor depth game card
  | .sacrificePattern count cardType, game =>
      paySacrificePattern_reaches hexecutor depth game player id count cardType
  | .payLife amount, game => payLifeCost_reaches game player amount
  | .discard _, game => .error (.refl game) _
  | .discardHand, game => payDiscardHand_reaches hexecutor depth game player
  | .composite parts, game => payAll_reaches hexecutor depth player id parts game
  | .waterbend amount, game => payWaterbend_reaches game player id amount
  | .addLoyalty amount, game => payAddLoyalty_reaches game id amount
  | .subLoyalty amount, game =>
      paySubLoyalty_reaches hexecutor depth game id amount
  | .subCounter amount counterType, game =>
      paySubCounter_reaches game id amount counterType

theorem payAll_reaches {executor : PaymentExecutor}
    (hexecutor : executor.ActsByTapSteps) (depth : Nat) (player : PlayerId)
    (id : CardId) : ∀ (parts : List Cost) (game : GameState),
      (payAbilityCost.payAll executor depth player id parts game).Ensures
        (TapReaches game)
  | [], game => .ok (.refl game) _
  | part :: rest, game =>
      Outcome.Ensures.andThen
        (payAbilityCost_reaches hexecutor depth player id part game)
        fun paid _ hpaid => hpaid.ensures
          (payAll_reaches hexecutor depth player id rest paid)

end

end GameState

/-- The operations of the engine that write tapped flags. -/
inductive EngineStep (executor : PaymentExecutor) :
    GameState → GameState → Prop where
  | tapPermanent {game after : GameState} {result : Except MtgError Unit}
      (id : CardId) (htap : game.tapPermanent id = some (after, result)) :
      EngineStep executor game after
  | untapPermanent {game after : GameState} {result : Except MtgError Unit}
      (id : CardId) (huntap : game.untapPermanent id = some (after, result)) :
      EngineStep executor game after
  | moveCard {game after : GameState} {result : Except MtgError Unit}
      (depth : Nat) (id : CardId) (fromZone toZone : Zone) (owner : PlayerId)
      (hmove : game.moveCard executor.toEffectExecutor depth id fromZone toZone
        owner = some (after, result)) : EngineStep executor game after
  | payAbilityCost {game after : GameState} {result : Except MtgError Unit}
      (depth : Nat) (player : PlayerId) (id : CardId) (cost : Cost)
      (hpay : game.payAbilityCost executor depth player id cost =
        some (after, result)) : EngineStep executor game after

theorem EngineStep.reaches {executor : PaymentExecutor}
    (hexecutor : executor.ActsByTapSteps) {game after : GameState}
    (hstep : EngineStep executor game after) : TapReaches game after := by
  cases hstep with
  | tapPermanent id htap => exact (TapReaches.refl game).step (.tap id htap)
  | untapPermanent id huntap =>
      exact (TapReaches.refl game).step (.untap id huntap)
  | moveCard depth id fromZone toZone owner hmove =>
      exact moveCard_reaches hexecutor.toActsByTapSteps depth game id fromZone
        toZone owner _ _ hmove
  | payAbilityCost depth player id cost hpay =>
      exact payAbilityCost_reaches hexecutor depth player id cost game _ _ hpay

namespace GameState

theorem idlePayments_acts : idlePayments.ActsByTapSteps where
  executeEffect game _ _ := .ok (.refl game) _
  checkDeathTriggers game _ := .ok (.refl game) _
  fireTriggers game _ _ := .ok (.refl game) _

/-- An untapped creature on the battlefield. -/
def untappedBear : GameState where
  cards := ⟨[some { id := ⟨0⟩, owner := ⟨0⟩, controller := ⟨0⟩ }]⟩
  players := [{ id := ⟨0⟩ }]
  zones := { battlefield := [⟨0⟩], playerZones := [(⟨0⟩, {})] }
  turn := { activePlayer := ⟨0⟩ }

theorem untappedBear_told : untappedBear.TapsTold := by
  rintro ⟨i⟩ card hcard
  rcases i with - | i
  · cases hcard
    rfl
  · cases hcard

end GameState

end DeepScry
