/-
Activating an ability in the priority loop: sources are tapped before the cost
is paid, and a payment that fails takes nothing back.
-/
import DeepScry.CastArm
import DeepScry.PoolPayment
import DeepScry.EngineTaps

namespace DeepScry

namespace Cost

/-- The first mana cost among the parts. -/
def getManaCost : Cost → Option ManaCost
  | .mana cost => some cost
  | .tapAndMana cost => some cost
  | .composite parts => first parts
  | .tap | .untap | .sacrifice _ | .sacrificePattern _ _ | .payLife _ => none
  | .discard _ | .discardHand | .waterbend _ | .addLoyalty _ => none
  | .subLoyalty _ | .subCounter _ _ => none
where
  first : List Cost → Option ManaCost
    | [] => none
    | part :: rest => part.getManaCost.or (first rest)

def includesTap : Cost → Bool
  | .tap => true
  | .tapAndMana _ => true
  | .composite parts => anyTap parts
  | .untap | .mana _ | .sacrifice _ | .sacrificePattern _ _ => false
  | .payLife _ | .discard _ | .discardHand | .waterbend _ => false
  | .addLoyalty _ | .subLoyalty _ | .subCounter _ _ => false
where
  anyTap : List Cost → Bool
    | [] => false
    | part :: rest => part.includesTap || anyTap rest

end Cost

/-- Nothing in the pool is more than in the other. -/
def ManaPool.Within (pool other : ManaPool) : Prop :=
  ∀ color, (pool.amountOf color).toNat ≤ (other.amountOf color).toNat

/-- No source is newly tapped, and the player has no more mana. -/
structure Ungained (player : PlayerId) (before after : GameState) :
    Prop where
  taps : ∀ id, after.tapView.state id = some true →
    before.tapView.state id = some true
  mana : ∀ left, after.getPlayer player = some left →
    ∃ p, before.getPlayer player = some p ∧
      left.manaPool.Within p.manaPool

section Activation

variable (casting : CastingMethods) (executor : PaymentExecutor)
  (depth : Nat) (player : PlayerId) (card : CardId) (cost : Cost)

/-- The sources for the mana, without one that the cost taps itself. -/
def activationSources (engine : ManaEngine) : List ManaSource :=
  if cost.includesTap then
    engine.manaSources.filter fun source => source.cardId != card
  else engine.manaSources

/-- The sources that are tapped for an ability, none where they do not
suffice. -/
def activationOrder (mana : ManaCost) (state : ArmState) : List CardId :=
  (GreedyManaResolver.computeTapOrder mana
    (activationSources card cost state.engine)).getD []

/-- Tap the sources for the mana of the cost; errors are passed over. -/
def tapForActivation (state : ArmState) : Option GameState :=
  match cost.getManaCost with
  | none => some state.game
  | some mana =>
      let updated := state.updateEngine player
      casting.tapIgnoringErrors player
        (activationOrder card cost mana updated) mana updated.game

/-- The payment of the ability fails, which counts as a pass. -/
structure FailedActivation (start : ArmState) (after : GameState) :
    Prop where
  run : ∃ tapped failed e,
    tapForActivation casting player card cost start = some tapped ∧
      tapped.payAbilityCost executor depth player card cost =
        .error failed e ∧
      after = failed.passAfterError player

/-- The sources of the order are tapped already, or missing. -/
def TapsNothing (state : ArmState) : Prop :=
  ∀ mana, cost.getManaCost = some mana →
    ∀ source ∈ activationOrder card cost mana (state.updateEngine player),
      state.game.tapView.state source ≠ some false

/-- The state with the caches that the tapping starts from. -/
def readied (state : ArmState) : GameState :=
  if cost.getManaCost.isSome then (state.updateEngine player).game
  else state.game

/-- The payment gets to a part that taps or moves a card. -/
def Disturbs : Cost → GameState → Prop
  | .tap, game => (game.card? card).isSome = true
  | .tapAndMana _, game =>
      ((game.cards.get card.raw).any fun c => !c.tapped) = true
  | .sacrifice id, game => (game.cards.get id.raw).isSome = true
  | .sacrificePattern count cardType, game =>
      ∃ chosen, game.permanentsToSacrifice player card count cardType =
        .ok chosen ∧ count.toNat ≤ chosen.length
  | .discardHand, game =>
      ∃ own, game.zones.getPlayerZones player = some own ∧ own.hand ≠ []
  | .waterbend amount, game =>
      ∃ p, game.getPlayer player = some p ∧ p.manaPool.total < amount ∧
        amount ≤ p.manaPool.total +
          (game.waterbendLands player card).length.toUInt8 +
          (game.waterbendHelpers player card).length.toUInt8
  | .subLoyalty amount, game =>
      ∃ c, game.cards.get card.raw = some c ∧
        amount ≤ c.getCounter .loyalty ∧
        (c.removeCounter .loyalty amount).getCounter .loyalty = 0
  | .composite parts, game => reaches parts game
  | .untap, _ | .mana _, _ | .payLife _, _ | .discard _, _ => False
  | .addLoyalty _, _ | .subCounter _ _, _ => False
where
  reaches : List Cost → GameState → Prop
    | [], _ => False
    | part :: rest, game =>
        Disturbs part game ∨
          ∃ paid, game.payAbilityCost executor depth player card part =
            .ok paid () ∧ reaches rest paid

/-- A source that is tapped or missing is refused without a change. -/
def CastingMethods.RefusesTapped : Prop :=
  ∀ game source hint, game.tapView.state source ≠ some false →
    ∃ e, casting.tapForManaAndUpdateHint game player source hint =
      .error game e

end Activation

namespace Ungained

variable {player : PlayerId} {first second third before after : GameState}

theorem refl (game : GameState) : Ungained player game game :=
  ⟨fun _ htapped => htapped, fun left hleft =>
    ⟨left, hleft, fun _ => Nat.le_refl _⟩⟩

theorem trans (hfirst : Ungained player first second)
    (hsecond : Ungained player second third) :
    Ungained player first third where
  taps id htapped := hfirst.taps id (hsecond.taps id htapped)
  mana left hleft := by
    obtain ⟨middle, hmiddle, hwithin⟩ := hsecond.mana left hleft
    obtain ⟨p, hp, hbefore⟩ := hfirst.mana middle hmiddle
    exact ⟨p, hp, fun color => (hwithin color).trans (hbefore color)⟩

/-- Neither the flags nor the players change. -/
theorem of_same (hstate : after.tapView.state = before.tapView.state)
    (hplayers : after.players = before.players) :
    Ungained player before after where
  taps id htapped := by rwa [hstate] at htapped
  mana left hleft := by
    rw [GameState.getPlayer, hplayers] at hleft
    exact ⟨left, hleft, fun _ => Nat.le_refl _⟩

theorem modifyPlayer (game : GameState) {f : Player → Player}
    (hid : ∀ p, (f p).id = p.id)
    (hpool : ∀ p, game.getPlayer player = some p →
      (f p).manaPool.Within p.manaPool) :
    Ungained player game (game.modifyPlayer player f) where
  taps id htapped := htapped
  mana left hleft := by
    rw [GameState.getPlayer_modifyPlayer game player hid] at hleft
    obtain ⟨p, hp, rfl⟩ := Option.map_eq_some_iff.mp hleft
    exact ⟨p, hp, hpool p hp⟩

theorem ensures {α : Type} {outcome : Outcome α}
    (hfirst : Ungained player before after)
    (hensures : outcome.Ensures (Ungained player after)) :
    outcome.Ensures (Ungained player before) :=
  hensures.mono fun _ hlast => hfirst.trans hlast

end Ungained

theorem ManaPool.payCost_within {pool paid : ManaPool} {cost : ManaCost}
    (hpaid : pool.payCost cost = .ok paid) : paid.Within pool := by
  have hcan : pool.canPay cost = true := by
    rw [payCost] at hpaid
    split at hpaid
    · assumption
    · cases hpaid
  exact fun color => (Nat.le_add_right _ _).trans
    (payCost_color_le ((pool.canPay_iff cost).mp hcan).1 hpaid color)

namespace GameState

section Parts

variable (game : GameState) (player : PlayerId) (card : CardId)

theorem logManaPool_ungained : Ungained player game (game.logManaPool player) := by
  apply Ungained.of_same
  · rw [logManaPool_tapView]
  · rw [logManaPool]
    split <;> rfl

theorem spendMana_ungained (cost : ManaCost) :
    (game.spendMana player cost).Ensures (Ungained player game) := by
  rw [spendMana]
  split
  · next p hp =>
    split
    · next pool hpaid =>
      apply Outcome.Ensures.ok
      apply Ungained.modifyPlayer
      · exact fun _ => rfl
      · rintro p' hp'
        cases hp.symm.trans hp'
        exact ManaPool.payCost_within hpaid
    · exact .error (.refl game) _
  · exact .error (.refl game) _

theorem payMana_ungained (cost : ManaCost) :
    (game.payMana player cost).Ensures (Ungained player game) := by
  have hlogged := game.logManaPool_ungained player
  rw [payMana]
  split
  · exact .error hlogged _
  · exact hlogged.ensures (spendMana_ungained _ player cost)

theorem payLifeCost_ungained (amount : Int32) :
    (game.payLifeCost player amount).Ensures (Ungained player game) := by
  rw [payLifeCost]
  split
  · split
    · exact .error (.refl game) _
    · apply Outcome.Ensures.ok
      exact .modifyPlayer game (fun _ => rfl)
        fun _ _ _ => Nat.le_refl _
  · exact .error (.refl game) _

theorem payUntap_ungained :
    (game.payUntap card).Ensures (Ungained player game) := by
  intro after result hpay
  have hplayers : after.players = game.players := by
    rw [payUntap] at hpay
    split at hpay
    · split at hpay <;> cases hpay <;> rfl
    · cases hpay
      rfl
  rcases payUntap_tapView hpay with hwritten | ⟨hsame, -⟩
  · have hstate : after.tapView.state =
        KeyedLog.overwrite game.tapView.state card false :=
      congrArg TapView.state hwritten
    constructor
    · intro id htapped
      rw [hstate, KeyedLog.overwrite] at htapped
      by_cases hid : id = card
      · subst hid
        rw [Function.update_self] at htapped
        obtain ⟨_, -, hfalse⟩ := Option.map_eq_some_iff.mp htapped
        cases hfalse
      · rwa [Function.update_of_ne hid] at htapped
    · intro left hleft
      rw [getPlayer, hplayers] at hleft
      exact ⟨left, hleft, fun _ => Nat.le_refl _⟩
  · exact .of_same (congrArg TapView.state hsame) hplayers

/-- A tap that the card is missing for. -/
theorem payTap_ungained {executor : PaymentExecutor}
    (hmissing : ¬ (game.card? card).isSome = true) :
    (game.payTap executor card).Ensures (Ungained player game) := by
  rw [payTap, tapPermanent, setTapped, Option.not_isSome_iff_eq_none.mp
    hmissing]
  exact .error (.refl game) _

theorem payTapAndMana_ungained {executor : PaymentExecutor} {cost : ManaCost}
    (hcalm : ¬ ((game.cards.get card.raw).any fun c => !c.tapped) = true) :
    (game.payTapAndMana executor player card cost).Ensures
      (Ungained player game) := by
  rw [payTapAndMana]
  split
  · exact .error (.refl game) _
  · next c hc =>
    rw [hc, Option.any_some, Bool.not_eq_true', Bool.not_eq_false] at hcalm
    rw [if_pos hcalm]
    exact .error (.refl game) _

/-- Counters and marks on the card do not tap it. -/
theorem modifyCard_ungained {f : Card → Card} {after : GameState}
    (hcards : after.cards = game.cards.modify card.raw f)
    (hplayers : after.players = game.players)
    (hf : ∀ c, (f c).tapped = c.tapped) : Ungained player game after := by
  apply Ungained.of_same _ hplayers
  have hmodified := tapView_modifyCard_of_same game card hf
  funext id
  change (after.cards.tryGet id.raw).map _ = _
  rw [hcards]
  exact congrFun (congrArg TapView.state hmodified) id

theorem payAddLoyalty_ungained (amount : UInt8) :
    (game.payAddLoyalty card amount).Ensures (Ungained player game) := by
  rw [payAddLoyalty]
  split
  · apply Outcome.Ensures.ok
    exact game.modifyCard_ungained player card rfl rfl
      fun c => addCounter_tapped c _ _
  · exact .error (.refl game) _

theorem loyaltySpent_ungained (c : Card) (amount : UInt8) :
    Ungained player game (game.loyaltySpent card c amount) :=
  game.modifyCard_ungained player card rfl rfl
    fun c => removeCounter_tapped c _ _

/-- A planeswalker that keeps some loyalty stays. -/
theorem paySubLoyalty_ungained (executor : PaymentExecutor) (depth : Nat)
    {amount : UInt8}
    (hcalm : ¬ ∃ c, game.cards.get card.raw = some c ∧
      amount ≤ c.getCounter .loyalty ∧
      (c.removeCounter .loyalty amount).getCounter .loyalty = 0) :
    (game.paySubLoyalty executor depth card amount).Ensures
      (Ungained player game) := by
  rw [paySubLoyalty]
  split
  · exact .error (.refl game) _
  · next c hc =>
    dsimp only
    split
    · exact .error (.refl game) _
    · next henough =>
      rw [if_neg fun hzero =>
        hcalm ⟨c, hc, UInt8.not_lt.mp henough, hzero⟩]
      exact .ok (game.loyaltySpent_ungained player card c amount) _

theorem paySubCounter_ungained (executor : PaymentExecutor)
    (amount : UInt8) (counterType : CounterType) :
    (game.paySubCounter executor card amount counterType).Ensures
      (Ungained player game) := by
  have hremoved : (game.removeCounters card counterType amount).Ensures
      (Ungained player game) := by
    rw [removeCounters]
    split
    · apply Outcome.Ensures.ok
      exact game.modifyCard_ungained player card rfl rfl
        fun c => removeCounter_tapped c _ _
    · exact .error (.refl game) _
  rw [paySubCounter]
  split
  · exact .error (.refl game) _
  · dsimp only
    split
    · exact .error (.refl game) _
    · apply Outcome.Ensures.andThen hremoved
      intro removed _ hafter
      split
      · exact .error hafter _
      · have hreported : Ungained player removed removed.message :=
          .of_same rfl rfl
        exact .ok (hafter.trans hreported) _

/-- Without permanents to tap, waterbend takes mana from the pool. -/
theorem payWaterbend_ungained {amount : UInt8}
    (hcalm : ¬ ∃ p, game.getPlayer player = some p ∧
      p.manaPool.total < amount ∧
      amount ≤ p.manaPool.total +
        (game.waterbendLands player card).length.toUInt8 +
        (game.waterbendHelpers player card).length.toUInt8) :
    (game.payWaterbend player card amount).Ensures
      (Ungained player game) := by
  rw [payWaterbend]
  split
  · exact .error (.refl game) _
  · next p hp =>
    dsimp only
    split
    · exact .error (.refl game) _
    · next henough =>
      have hpool : amount ≤ p.manaPool.total := by
        rw [← UInt8.not_lt]
        intro hless
        exact hcalm ⟨p, hp, hless, UInt8.not_lt.mp henough⟩
      have hnothing (ids : List CardId) (game : GameState) :
          game.tapToPay ids 0 = .ok game 0 := by
        cases ids <;> rfl
      have hspent : amount - min amount p.manaPool.total = 0 := by
        have hmin : min amount p.manaPool.total = amount := by
          rw [← UInt8.toNat_inj, Saturating.min8_toNat]
          exact Nat.min_eq_left (UInt8.le_iff_toNat_le.mp hpool)
        rw [hmin, UInt8.sub_self]
      rw [hspent]
      have hpaid : (if 0 < min amount p.manaPool.total then
          (game.logManaPool player).spendMana player
            { generic := min amount p.manaPool.total }
          else .ok game ()).Ensures (Ungained player game) := by
        split
        · exact (game.logManaPool_ungained player).ensures
            (spendMana_ungained _ player _)
        · exact .ok (.refl game) _
      apply Outcome.Ensures.andThen hpaid
      intro spent _ hafter
      rw [hnothing]
      dsimp only [Outcome.andThen, Outcome.ok]
      rw [hnothing]
      exact .ok hafter _

theorem sacrifice_ungained (executor : PaymentExecutor) (depth : Nat)
    (hmissing : ¬ (game.cards.get card.raw).isSome = true) :
    (game.sacrifice executor depth card).Ensures (Ungained player game) := by
  rw [sacrifice, Option.not_isSome_iff_eq_none.mp hmissing]
  exact .error (.refl game) _

theorem paySacrificePattern_ungained (executor : PaymentExecutor)
    (depth : Nat) {count : UInt8} {cardType : String}
    (hcalm : ¬ ∃ chosen, game.permanentsToSacrifice player card count
      cardType = .ok chosen ∧ count.toNat ≤ chosen.length) :
    (game.paySacrificePattern executor depth player card count
      cardType).Ensures (Ungained player game) := by
  rw [paySacrificePattern]
  split
  · exact .error (.refl game) _
  · next chosen hchosen =>
    rw [if_pos]
    · exact .error (.refl game) _
    · exact Nat.not_le.mp fun henough => hcalm ⟨chosen, hchosen, henough⟩

theorem payDiscardHand_ungained (executor : PaymentExecutor) (depth : Nat)
    (hcalm : ¬ ∃ own, game.zones.getPlayerZones player = some own ∧
      own.hand ≠ []) :
    (game.payDiscardHand executor depth player).Ensures
      (Ungained player game) := by
  rw [payDiscardHand]
  split
  · exact .ok (.refl game) _
  · next own hown =>
    have hempty : own.hand = [] :=
      Classical.not_not.mp fun hhand => hcalm ⟨own, hown, hhand⟩
    rw [hempty, discardAll]
    dsimp only [Outcome.andThen, Outcome.ok]
    split
    · have hreported : Ungained player game game.message := .of_same rfl rfl
      exact .ok hreported _
    · exact .error (.refl game) _

end Parts

mutual

/-- A payment that taps and moves nothing leaves no source tapped and makes no
mana, by recursion on the cost. -/
theorem payAbilityCost_ungained (executor : PaymentExecutor) (depth : Nat)
    (player : PlayerId) (card : CardId) : ∀ (cost : Cost) (game : GameState),
      ¬ Disturbs executor depth player card cost game →
        (game.payAbilityCost executor depth player card cost).Ensures
          (Ungained player game)
  | .tap, game, hcalm => game.payTap_ungained player card hcalm
  | .untap, game, _ => game.payUntap_ungained player card
  | .mana cost, game, _ => game.payMana_ungained player cost
  | .tapAndMana _, game, hcalm =>
      game.payTapAndMana_ungained player card hcalm
  | .sacrifice id, game, hcalm =>
      game.sacrifice_ungained player id executor depth hcalm
  | .sacrificePattern _ _, game, hcalm =>
      game.paySacrificePattern_ungained player card executor depth hcalm
  | .payLife amount, game, _ => game.payLifeCost_ungained player amount
  | .discard _, game, _ => .error (.refl game) _
  | .discardHand, game, hcalm =>
      game.payDiscardHand_ungained player executor depth hcalm
  | .composite parts, game, hcalm =>
      payAll_ungained executor depth player card parts game hcalm
  | .waterbend _, game, hcalm => game.payWaterbend_ungained player card hcalm
  | .addLoyalty amount, game, _ =>
      game.payAddLoyalty_ungained player card amount
  | .subLoyalty _, game, hcalm =>
      game.paySubLoyalty_ungained player card executor depth hcalm
  | .subCounter amount counterType, game, _ =>
      game.paySubCounter_ungained player card executor amount counterType

theorem payAll_ungained (executor : PaymentExecutor) (depth : Nat)
    (player : PlayerId) (card : CardId) :
    ∀ (parts : List Cost) (game : GameState),
      ¬ Disturbs.reaches executor depth player card parts game →
        (payAbilityCost.payAll executor depth player card parts
          game).Ensures (Ungained player game)
  | [], game, _ => .ok (.refl game) _
  | part :: rest, game, hcalm => by
      have hpart := payAbilityCost_ungained executor depth player card part
        game fun hdisturbs => hcalm (.inl hdisturbs)
      rw [payAbilityCost.payAll]
      rcases hpay : game.payAbilityCost executor depth player card part with
        - | ⟨paid, e | _⟩
      · rintro after result ⟨⟩
      · exact .error (hpart _ _ hpay) e
      · exact (hpart _ _ hpay).ensures (payAll_ungained executor depth player
          card rest paid fun hrest => hcalm (.inr ⟨paid, hpay, hrest⟩))

end

end GameState

section Failing

variable {casting : CastingMethods} {executor : PaymentExecutor}
  {depth : Nat} {player : PlayerId} {card : CardId} {cost : Cost}
  {start : ArmState} {after : GameState}

/-- Sources that are all tapped are passed over. -/
theorem CastingMethods.RefusesTapped.tapIgnoringErrors
    (hrefuses : casting.RefusesTapped player) {game : GameState}
    {sources : List CardId} (hint : ManaCost)
    (htapped : ∀ source ∈ sources, game.tapView.state source ≠ some false) :
    casting.tapIgnoringErrors player sources hint game = some game := by
  induction sources with
  | nil => rfl
  | cons source rest ih =>
      obtain ⟨e, he⟩ := hrefuses game source hint
        (htapped source List.mem_cons_self)
      rw [CastingMethods.tapIgnoringErrors, he]
      exact ih fun other hother => htapped other (List.mem_cons_of_mem _ hother)

/-- A failed activation that neither tapped a source nor got to a part that
taps or moves a card. -/
theorem ungained_of_calm (hrefuses : casting.RefusesTapped player)
    (hnothing : TapsNothing player card cost start)
    (hcalm : ¬ Disturbs executor depth player card cost
      (readied player cost start))
    (hfails : FailedActivation casting executor depth player card cost start
      after) : Ungained player start.game after := by
  obtain ⟨tapped, failed, e, htap, hpay, rfl⟩ := hfails.run
  have hready : tapped = readied player cost start ∧
      Ungained player start.game tapped := by
    rw [readied]
    rw [tapForActivation] at htap
    cases hmana : cost.getManaCost with
    | none =>
        rw [hmana] at htap
        cases htap
        exact ⟨rfl, .refl start.game⟩
    | some mana =>
        rw [hmana] at htap
        have hstate : (start.updateEngine player).game.tapView.state =
            start.game.tapView.state :=
          funext fun id => congrArg (Option.map fun c : Card => c.tapped)
            (start.card?_updateEngine player id)
        have hplayers : (start.updateEngine player).game.players =
            start.game.players := by
          obtain ⟨_, hgame⟩ := start.engine.updateMut_game start.game player
          exact (congrArg GameState.players hgame :)
        dsimp only at htap
        rw [hrefuses.tapIgnoringErrors mana fun source hsource => by
          rw [hstate]
          exact hnothing mana hmana source hsource] at htap
        cases htap
        exact ⟨rfl, .of_same hstate hplayers⟩
  obtain ⟨rfl, hstart⟩ := hready
  have hpaid := GameState.payAbilityCost_ungained executor depth player card
    cost _ hcalm _ _ hpay
  have hpassed : Ungained player failed (failed.passAfterError player) :=
    .of_same rfl rfl
  exact (hstart.trans hpaid).trans hpassed

end Failing

/-- What a failed casting announced is withdrawn exactly when it was nothing
new; and a failed activation leaves no source tapped and no mana when no source
was tapped for it and no part of its cost that taps or moves a card was
reached. -/
theorem withdrawn_and_ungained (methods : CastArmMethods)
    (executor : PaymentExecutor) (depth : Nat) {player : PlayerId}
    {card : CardId} (hkeeps : methods.casting.KeepsFace player card)
    (hrefuses : methods.casting.RefusesTapped player) :
    (∀ {adventure : Bool} {start : ArmState} {spell : Card}
        {sacrificed : Option CardId} {after : GameState},
      start.game.getCard card = some spell →
        FailedCasting methods player card adventure start sacrificed after →
          (Withdrawn card start.game after sacrificed ↔
            AnnouncesNothing methods player card adventure start spell)) ∧
      ∀ {source : CardId} {cost : Cost} {start : ArmState}
          {after : GameState},
        TapsNothing player source cost start →
          ¬ Disturbs executor depth player source cost
              (readied player cost start) →
            FailedActivation methods.casting executor depth player source
                cost start after →
              Ungained player start.game after :=
  ⟨CastArmMethods.withdrawn_iff hkeeps, ungained_of_calm hrefuses⟩

namespace CastArmMethods

/-- Castings from the hand with Mountains, without targets and answers. -/
def withMountains : CastArmMethods where
  toAnnouncementMethods := AnnouncementMethods.withAnswer 0
  casting :=
    { GameState.withMountains with
      calculateEffectiveCost := fun game card player =>
        (AnnouncementMethods.withAnswer 0).calculateEffectiveCost game player
          card }
  db :=
    { getCard := fun _ => .ok none
      getToken := fun _ => .ok none
      extractTokenScripts := fun _ => []
      isIslandSanctuaryCard := fun _ => false
      levelAbilities := fun _ _ => [] }
  getValidTargetsForSpell _ _ := some []
  chooseTargets _ _ _ _ _ _ := .ok []
  replayTargets _ := ⟨0⟩

theorem withMountains_keepsFace (player : PlayerId) (card : CardId) :
    withMountains.casting.KeepsFace player card where
  delayedTriggers game _ _ _ := by
    rintro after result ⟨⟩
    rfl
  sacrificeCosts game := by
    rintro after result ⟨⟩
    rfl
  spellcastTriggers game := by
    rintro after result ⟨⟩
    rfl
  taps game source hint := by
    change (game.tapMountainOnce player source hint).Ensures _
    rw [GameState.tapMountainOnce]
    split
    · rintro after result ⟨⟩
      rfl
    · rw [GameState.tapMountain, GameState.tapPermanent, GameState.setTapped]
      split
      · rintro after result ⟨⟩
        rfl
      · split
        · rintro after result ⟨⟩
          rfl
        · rintro after result ⟨⟩
          exact game.faceOf_modifyCard source fun _ => rfl

theorem withMountains_refusesTapped (player : PlayerId) :
    withMountains.casting.RefusesTapped player := by
  intro game source hint htapped
  change ∃ e, game.tapMountainOnce player source hint = .error game e
  rw [GameState.tapMountainOnce, GameState.tapMountain,
    GameState.tapPermanent, GameState.setTapped]
  change (game.card? source).map (fun card => card.tapped) ≠ _ at htapped
  cases hcard : game.card? source with
  | none => exact ⟨_, rfl⟩
  | some card =>
      rw [hcard, Option.map_some] at htapped
      rw [Option.any_some]
      cases hflag : card.tapped with
      | false =>
          rw [hflag] at htapped
          exact absurd rfl htapped
      | true => exact ⟨_, rfl⟩

/-- A red spell that cannot be paid for has nothing to announce, and a life
payment that fails does no harm. -/
theorem withdrawn_and_ungained_mountain :
    (∃ after, FailedCasting withMountains ⟨0⟩ ⟨0⟩ false
        { game := .spellAndTappedMountain [] {} } none after ∧
      Withdrawn ⟨0⟩ (.spellAndTappedMountain [] {}) after none) ∧
    ∃ after, FailedActivation withMountains.casting GameState.idlePayments 1
        ⟨0⟩ ⟨1⟩ (.payLife 30) { game := .spellAndTappedMountain [] {} }
        after ∧
      Ungained ⟨0⟩ (.spellAndTappedMountain [] {}) after := by
  have hboth := withdrawn_and_ungained withMountains GameState.idlePayments 1
    (withMountains_keepsFace ⟨0⟩ ⟨0⟩) (withMountains_refusesTapped ⟨0⟩)
  obtain ⟨after, hfails⟩ : ∃ after, FailedCasting withMountains ⟨0⟩ ⟨0⟩ false
      { game := .spellAndTappedMountain [] {} } none after :=
    ⟨_, ⟨_, _, _, _, _, _, rfl, rfl, rfl, rfl, rfl⟩⟩
  obtain ⟨left, hactivation⟩ : ∃ after, FailedActivation
      withMountains.casting GameState.idlePayments 1 ⟨0⟩ ⟨1⟩ (.payLife 30)
      { game := .spellAndTappedMountain [] {} } after :=
    ⟨_, ⟨_, _, _, rfl, rfl, rfl⟩⟩
  have hnothing : TapsNothing ⟨0⟩ ⟨1⟩ (.payLife 30)
      { game := .spellAndTappedMountain [] {} } := by
    rintro mana ⟨⟩
  refine ⟨⟨after, hfails, (hboth.1 rfl hfails).mpr ?_⟩, left, hactivation,
    hboth.2 hnothing id hactivation⟩
  exact ⟨(fun heq => nomatch heq), rfl, rfl, rfl, rfl, rfl,
    (fun heq => nomatch heq)⟩

/-- A kicker that the Mountains cannot pay for stays on the card; and a
Mountain stays tapped for an ability whose life cannot be paid. -/
theorem not_withdrawn :
    (∃ after, FailedCasting withMountains ⟨0⟩ ⟨0⟩ false
        (AnnouncementMethods.fiveMountains 0 { generic := 1, blue := 1 })
        none after ∧
      ¬ Withdrawn ⟨0⟩ (AnnouncementMethods.fiveMountains 0
        { generic := 1, blue := 1 }).game after none) ∧
    ∃ after, FailedActivation withMountains.casting GameState.idlePayments 1
        ⟨0⟩ ⟨1⟩ (.composite [.mana { red := 1 }, .payLife 30])
        (AnnouncementMethods.fiveMountains 0 {}) after ∧
      ¬ Ungained ⟨0⟩ (AnnouncementMethods.fiveMountains 0 {}).game after := by
  refine ⟨⟨_, ⟨_, _, _, _, _, _, rfl, rfl, rfl, rfl, rfl⟩, fun hsame => ?_⟩,
    _, ⟨_, _, _, rfl, rfl, rfl⟩, fun hungained => ?_⟩
  · have hkicker := congrArg (Option.map SpellFace.kickerPaid) hsame.face
    revert hkicker
    decide
  · have htapped := hungained.taps ⟨1⟩
    revert htapped
    decide

end CastArmMethods

end DeepScry
