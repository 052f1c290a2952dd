/-
What a casting takes out of the pools of the caster: the eight-step routine
takes exactly the total cost, the one for the graveyard takes nothing.
-/
import DeepScry.SpellCasting
import DeepScry.TapRecord

namespace DeepScry

namespace GameState

/-- The two pools of a player. -/
def pools (game : GameState) (player : PlayerId) :
    Option (ManaPool × Option ManaPool) :=
  (game.getPlayer player).map fun p => (p.manaPool, p.combatManaPool)

/-- The mana in them. -/
def manaOf (game : GameState) (player : PlayerId) : Nat :=
  ((game.getPlayer player).map Player.mana).getD 0

variable {player : PlayerId} {before after : GameState}

theorem manaOf_of_pools (hpools : after.pools player = before.pools player) :
    after.manaOf player = before.manaOf player := by
  have hmana (game : GameState) : game.manaOf player =
      ((game.pools player).map fun pools => pools.1.amount +
        (pools.2.map ManaPool.amount).getD 0).getD 0 := by
    rw [pools, Option.map_map]
    rfl
  rw [hmana, hmana, hpools]

theorem getPlayer_isSome_of_pools
    (hpools : after.pools player = before.pools player) :
    (after.getPlayer player).isSome = (before.getPlayer player).isSome := by
  have hsome := congrArg Option.isSome hpools
  rwa [pools, pools, Option.isSome_map, Option.isSome_map] at hsome

end GameState

/-- The stack and the pools of the player are left alone. -/
structure Undisturbed (player : PlayerId) (before after : GameState) :
    Prop where
  stack : after.zones.stack = before.zones.stack
  pools : after.pools player = before.pools player

/-- Nothing interferes with the casting: no trigger fires on it, only tapped
sources make mana, and nothing but moving puts cards on the stack. -/
structure CastingMethods.Quiet (methods : CastingMethods) (player : PlayerId)
    (spell : CardId) : Prop where
  choose : ∀ game ability,
    (methods.choose game player ability).Ensures (Undisturbed player game)
  triggers : ∀ game fromZone toZone, ∃ after,
    methods.checkDelayedTriggers game spell fromZone toZone =
      some (after, .ok ()) ∧ Undisturbed player game after ∧
      after.costByGet spell = game.costByGet spell
  costs : ∀ game, (methods.paySacrificeCosts game spell player).Ensures
    (Undisturbed player game)
  taps : ∀ game source hint, ∃ after result,
    methods.tapForManaAndUpdateHint game player source hint =
      some (after, result) ∧ after.zones.stack = game.zones.stack ∧
      (after.getPlayer player).isSome = (game.getPlayer player).isSome
  spellcast : ∀ game,
    methods.checkSpellcastTriggers game spell player = .ok game ()

namespace Undisturbed

variable {player : PlayerId} {first second third : GameState}

theorem refl (game : GameState) : Undisturbed player game game := ⟨rfl, rfl⟩

theorem trans (hfirst : Undisturbed player first second)
    (hsecond : Undisturbed player second third) :
    Undisturbed player first third where
  stack := hsecond.stack.trans hfirst.stack
  pools := hsecond.pools.trans hfirst.pools

end Undisturbed

/-- Only the cards, the zones, the logs and the persistent effects differ. -/
def OnlyMoved (before after : GameState) : Prop :=
  ∃ cards zones undoLog logger persistentEffects,
    after = { before with cards, zones, undoLog, logger, persistentEffects }

namespace OnlyMoved

variable {first second third game : GameState} {id : CardId}

theorem refl (game : GameState) : OnlyMoved game game :=
  ⟨_, _, _, _, _, rfl⟩

theorem trans (hfirst : OnlyMoved first second)
    (hsecond : OnlyMoved second third) : OnlyMoved first third := by
  obtain ⟨_, _, _, _, _, rfl⟩ := hfirst
  obtain ⟨_, _, _, _, _, rfl⟩ := hsecond
  exact ⟨_, _, _, _, _, rfl⟩

theorem maybeReveal (game : GameState) (id : CardId) (target : RevealTarget)
    (shown : Card → Bool) (mark : Card → Card) (priorLogSize : Nat) :
    OnlyMoved game (game.maybeReveal id target shown mark priorLogSize) := by
  rw [GameState.maybeReveal]
  split
  · exact .refl game
  · split
    · split
      · exact .refl game
      · exact ⟨_, _, _, _, _, rfl⟩
    · exact ⟨_, _, _, _, _, rfl⟩

theorem maybeConcealInLibrary (game : GameState) (id : CardId)
    (priorLogSize : Nat) :
    OnlyMoved game (game.maybeConcealInLibrary id priorLogSize) := by
  rw [GameState.maybeConcealInLibrary]
  split
  · exact .refl game
  · split
    · split
      · exact ⟨_, _, _, _, _, rfl⟩
      · exact .refl game
    · split
      · exact ⟨_, _, _, _, _, rfl⟩
      · exact .refl game

theorem revealForMove (game : GameState) (id : CardId)
    (fromZone toZone : Zone) (owner : PlayerId) :
    OnlyMoved game (game.revealForMove id fromZone toZone owner) := by
  cases fromZone <;> cases toZone <;>
    first
    | exact .refl game
    | exact maybeReveal game id _ _ _ _
    | exact maybeConcealInLibrary game id _

end OnlyMoved

namespace GameState

variable {game : GameState} {id : CardId} {fromZone toZone : Zone}

theorem moveDestination_ne (hto : toZone ≠ .battlefield) :
    game.moveDestination id toZone ≠ .battlefield := by
  rw [moveDestination]
  split
  · intro heq
    cases heq
  · exact hto

theorem moveDestination_ne_stack (hto : toZone ≠ .stack) :
    game.moveDestination id toZone ≠ .stack := by
  rw [moveDestination]
  split
  · intro heq
    cases heq
  · exact hto

theorem reportMove_eq (game : GameState) (id : CardId)
    (fromZone toZone : Zone) :
    game.reportMove id fromZone toZone = game ∨
      game.reportMove id fromZone toZone = game.message := by
  rw [reportMove.eq_def]
  split <;>
    first
    | exact .inl rfl
    | exact .inr rfl
    | split
      · exact .inr rfl
      · exact .inl rfl

theorem updateManaCaches_off_battlefield (hfrom : fromZone ≠ .battlefield)
    (hto : toZone ≠ .battlefield) :
    game.updateManaCaches id fromZone toZone = game := by
  rw [updateManaCaches, if_neg]
  · cases game.card? id with
    | none => rfl
    | some card =>
        dsimp only
        rw [if_neg hto, if_neg hfrom]
  · rw [Bool.or_eq_true, decide_eq_true_eq, decide_eq_true_eq]
    exact not_or.mpr ⟨hfrom, hto⟩

/-- A move that does not touch the battlefield, after the card was found. -/
theorem relocate_off_battlefield (id : CardId)
    (hfrom : fromZone ≠ .battlefield) (hto : toZone ≠ .battlefield)
    (owner : PlayerId) :
    OnlyMoved game (game.relocate id fromZone toZone owner) ∧
      (game.relocate id fromZone toZone owner).cards = game.cards ∧
      (game.relocate id fromZone toZone owner).zones =
        game.zones.afterMove id fromZone toZone owner := by
  rw [relocate, if_neg hto, updateManaCaches_off_battlefield hfrom hto,
    resetIfLeft, if_neg hfrom]
  rcases reportMove_eq ((game.changeZone id fromZone toZone owner).logAction
    _ _) id fromZone toZone with heq | heq
  · rw [heq]
    exact ⟨⟨_, _, _, _, _, rfl⟩, rfl, rfl⟩
  · rw [heq]
    exact ⟨⟨_, _, _, _, _, rfl⟩, rfl, rfl⟩

/-- What a move off the battlefield leaves alone, and where the card goes if
it is found. -/
theorem moveUntilTriggers_off_battlefield (id : CardId)
    (hfrom : fromZone ≠ .battlefield) (hto : toZone ≠ .battlefield)
    (owner : PlayerId) :
    OnlyMoved game (game.moveUntilTriggers id fromZone toZone owner).1 ∧
      SameView Card.steady
        (game.moveUntilTriggers id fromZone toZone owner).1.cards
        game.cards ∧
      (game.moveUntilTriggers id fromZone toZone owner).1.zones =
        if game.zones.holds fromZone owner id then
          game.zones.afterMove id fromZone (game.moveDestination id toZone)
            owner
        else game.zones := by
  have hdest : game.moveDestination id toZone ≠ .battlefield :=
    game.moveDestination_ne hto
  have hannounced : OnlyMoved game (if game.commanderReplaces id toZone then
        game.message else game) ∧
      (if game.commanderReplaces id toZone then game.message
        else game).cards = game.cards ∧
      (if game.commanderReplaces id toZone then game.message
        else game).zones = game.zones := by
    split <;> exact ⟨⟨_, _, _, _, _, rfl⟩, rfl, rfl⟩
  rw [moveUntilTriggers]
  generalize (if game.commanderReplaces id toZone then game.message
    else game) = announced at hannounced ⊢
  generalize game.moveDestination id toZone = dest at hdest ⊢
  obtain ⟨honly, hcards, hzones⟩ := hannounced
  obtain ⟨hview, hsame⟩ := steady_frame.prepareMove announced id fromZone
    dest owner
  have hprepared : OnlyMoved announced
      (announced.prepareMove id fromZone dest owner) := by
    rw [prepareMove, detachEquipment, if_neg]
    · exact .revealForMove announced id fromZone dest owner
    · rw [Bool.and_eq_true, decide_eq_true_eq]
      exact fun hleaves => hfrom hleaves.1
  generalize announced.prepareMove id fromZone dest owner = prepared
    at hview hsame hprepared ⊢
  rw [hcards] at hview
  rw [hzones] at hsame
  rw [finishMove, hsame]
  split
  · next hheld =>
    obtain ⟨hmoved, hkept, hplaced⟩ :=
      prepared.relocate_off_battlefield id hfrom hdest owner
    exact ⟨(honly.trans hprepared).trans hmoved, hkept ▸ hview,
      hsame ▸ hplaced⟩
  · exact ⟨honly.trans hprepared, hview, hsame⟩

theorem stack_modify (zones : Zones) {zone : Zone} (hzone : zone ≠ .stack)
    (owner : PlayerId) (f : List CardId → List CardId) :
    (zones.modify zone owner f).stack = zones.stack := by
  cases zone <;> first | rfl | exact absurd rfl hzone

theorem costByGet_of_steady {other : GameState}
    (hcards : SameView Card.steady game.cards other.cards) :
    game.costByGet id = other.costByGet id := by
  have hcost (card : Option Card) :
      card.map (fun card => card.manaCost) =
        (card.map Card.steady).map fun card => card.manaCost := by
    rw [Option.map_map]
    rfl
  rw [costByGet, costByGet, EntityStore.get, EntityStore.get]
  split
  · rfl
  · rw [hcost, hcost (other.cards.tryGet id.raw), hcards id.raw]

end GameState

section Castings

variable {methods : CastingMethods} {player : PlayerId} {spell : CardId}
  (hquiet : methods.Quiet player spell)
include hquiet

/-- A move of the spell off the battlefield, with its stack afterwards. -/
theorem CastingMethods.Quiet.moveCard (game : GameState)
    {fromZone toZone : Zone} (hfrom : fromZone ≠ .battlefield)
    (hto : toZone ≠ .battlefield) (owner : PlayerId) :
    ∃ after, methods.moveCard game spell fromZone toZone owner =
        some (after, .ok ()) ∧
      after.pools player = game.pools player ∧
      after.costByGet spell = game.costByGet spell ∧
      after.zones.stack = if game.zones.holds fromZone owner spell then
          (game.zones.afterMove spell fromZone
            (game.moveDestination spell toZone) owner).stack
        else game.zones.stack := by
  obtain ⟨honly, hcards, hzones⟩ :=
    game.moveUntilTriggers_off_battlefield spell hfrom hto owner
  rw [CastingMethods.moveCard]
  generalize game.moveUntilTriggers spell fromZone toZone owner = moved
    at honly hcards hzones ⊢
  obtain ⟨moved, found⟩ := moved
  have hpools : moved.pools player = game.pools player := by
    obtain ⟨_, _, _, _, _, rfl⟩ := honly
    rfl
  have hstack := congrArg Zones.stack hzones
  rw [apply_ite Zones.stack] at hstack
  have hcost : moved.costByGet spell = game.costByGet spell :=
    GameState.costByGet_of_steady hcards
  cases found with
  | true =>
      obtain ⟨after, hfired, hsame, hkept⟩ := hquiet.triggers moved fromZone
        (game.moveDestination spell toZone)
      exact ⟨after, hfired, hsame.pools.trans hpools, hkept.trans hcost,
        hsame.stack.trans hstack⟩
  | false => exact ⟨moved, rfl, hpools, hcost, hstack⟩

theorem CastingMethods.Quiet.moveToStack (game : GameState) {zone : Zone}
    (hbattlefield : zone ≠ .battlefield) (hstack : zone ≠ .stack)
    (owner : PlayerId) :
    ∃ after, methods.moveCard game spell zone .stack owner =
        some (after, .ok ()) ∧
      after.pools player = game.pools player ∧
      after.costByGet spell = game.costByGet spell ∧
      after.zones.stack = if game.zones.holds zone owner spell then
        game.zones.stack ++ [spell] else game.zones.stack := by
  have hto : Zone.stack ≠ .battlefield := by decide
  obtain ⟨after, hmoved, hpools, hcost, hafter⟩ :=
    hquiet.moveCard game hbattlefield hto owner
  refine ⟨after, hmoved, hpools, hcost, hafter.trans ?_⟩
  have hdest : game.moveDestination spell .stack = .stack := by
    rw [GameState.moveDestination, GameState.commanderReplaces, if_neg]
    simp
  rw [hdest, Zones.afterMove]
  split
  · change (game.zones.modify zone owner _).stack ++ [spell] = _
    rw [GameState.stack_modify _ hstack]
  · rfl

theorem CastingMethods.Quiet.moveFromStack (game : GameState) {zone : Zone}
    (hbattlefield : zone ≠ .battlefield) (hstack : zone ≠ .stack)
    (owner : PlayerId) :
    ∃ after, methods.moveCard game spell .stack zone owner =
        some (after, .ok ()) ∧
      after.pools player = game.pools player ∧
      after.zones.stack = game.zones.stack.erase spell := by
  have hfrom : Zone.stack ≠ .battlefield := by decide
  obtain ⟨after, hmoved, hpools, -, hafter⟩ :=
    hquiet.moveCard game hfrom hbattlefield owner
  refine ⟨after, hmoved, hpools, hafter.trans ?_⟩
  rw [Zones.afterMove,
    GameState.stack_modify _ (GameState.moveDestination_ne_stack hstack)]
  split
  · rfl
  · next habsent =>
    rw [List.erase_of_not_mem]
    intro hmem
    exact habsent (List.contains_iff_mem.mpr hmem)

/-- After an error the spell is not on the stack. -/
theorem CastingMethods.Quiet.putBack {game after : GameState} {zone : Zone}
    (hbattlefield : zone ≠ .battlefield) (hstack : zone ≠ .stack)
    (honce : game.zones.stack.count spell ≤ 1) {owner : PlayerId}
    {e : MtgError} {α : Type} {result : Except MtgError α}
    (hrun : methods.putBack game spell zone owner e = some (after, result)) :
    result = .error e ∧ spell ∉ after.zones.stack := by
  obtain ⟨moved, hmoved, -, hafter⟩ :=
    hquiet.moveFromStack game hbattlefield hstack owner
  rw [CastingMethods.putBack, hmoved] at hrun
  cases hrun
  refine ⟨rfl, ?_⟩
  rw [hafter, ← List.count_eq_zero, List.count_erase_self]
  omega

/-- What proposing a spell leaves: the pools as they were, the spell at most
once on the stack. -/
structure Proposed (player : PlayerId) (spell : CardId) (zone : Zone)
    (before after : GameState) (plan : CastPlan) : Prop where
  card : plan.card = spell
  sourceZone : plan.sourceZone = zone
  battlefield : zone ≠ .battlefield
  stack : zone ≠ .stack
  pools : after.pools player = before.pools player
  once : after.zones.stack.count spell ≤ 1

omit hquiet in
theorem GameState.zone_of_sourceZoneError {game : GameState} {zone : Zone}
    (hfine : game.sourceZoneError player spell zone = none) :
    zone ≠ .battlefield ∧ zone ≠ .stack := by
  constructor
  · rintro rfl
    cases hfine
  · rintro rfl
    cases hfine

theorem CastingMethods.Quiet.propose {game after : GameState}
    (habsent : spell ∉ game.zones.stack)
    (hplayer : (game.getPlayer player).isSome = true) {numTargets : Nat}
    {zone : Zone} {overrideCost : Option ManaCost}
    {sources : List ManaSource} {result : Except MtgError CastPlan}
    (hrun : methods.propose player spell numTargets zone overrideCost sources
      game = some (after, result)) :
    match result with
    | .error _ => spell ∉ after.zones.stack
    | .ok plan => Proposed player spell zone game after plan := by
  rw [CastingMethods.propose] at hrun
  cases hzone : game.sourceZoneError player spell zone with
  | some e =>
      rw [hzone] at hrun
      cases hrun
      exact habsent
  | none =>
      rw [hzone] at hrun
      obtain ⟨hbattlefield, hstack⟩ := GameState.zone_of_sourceZoneError hzone
      obtain ⟨moved, hmoved, hpools, -, hmovedStack⟩ :=
        hquiet.moveToStack game hbattlefield hstack
          (game.ownerByGet spell player)
      have honce : moved.zones.stack.count spell ≤ 1 := by
        have hnone := List.count_eq_zero.mpr habsent
        rw [hmovedStack]
        split
        · rw [List.count_append, hnone, List.count_singleton_self]
        · rw [hnone]
          exact Nat.zero_le 1
      dsimp only at hrun
      rw [hmoved] at hrun
      dsimp only [Outcome.andThen] at hrun
      rcases hpaid : methods.paySacrificeCosts moved spell player with
        - | ⟨sacrificed, e | _⟩
      · rw [hpaid] at hrun
        cases hrun
      · have hsame := hquiet.costs moved sacrificed _ hpaid
        rw [hpaid] at hrun
        obtain ⟨rfl, hback⟩ := hquiet.putBack hbattlefield hstack
          (hsame.stack ▸ honce) hrun
        exact hback
      · have hsame := hquiet.costs moved sacrificed _ hpaid
        have hsacrificed : sacrificed.pools player = game.pools player :=
          hsame.pools.trans hpools
        have hthere : (sacrificed.getPlayer player).isSome = true :=
          (GameState.getPlayer_isSome_of_pools hsacrificed).trans hplayer
        obtain ⟨p, hp⟩ := Option.isSome_iff_exists.mp hthere
        rw [hpaid] at hrun
        dsimp only at hrun
        rw [hp] at hrun
        dsimp only at hrun
        have hplanned (plan : CastPlan) (hcard : plan.card = spell)
            (hsource : plan.sourceZone = zone) :
            Proposed player spell zone game sacrificed plan :=
          ⟨hcard, hsource, hbattlefield, hstack, hsacrificed,
            hsame.stack ▸ honce⟩
        split at hrun
        · cases hrun
          exact hplanned _ rfl rfl
        · split at hrun
          · cases hrun
            exact hplanned _ rfl rfl
          · obtain ⟨rfl, hback⟩ := hquiet.putBack hbattlefield hstack
              (hsame.stack ▸ honce) hrun
            exact hback

theorem CastingMethods.Quiet.tapSources {game after : GameState}
    {sources tapped : List CardId} {hint : ManaCost} {e? : Option MtgError}
    (hrun : methods.tapSources player sources hint game =
      some (after, tapped, e?)) :
    after.zones.stack = game.zones.stack ∧
      (after.getPlayer player).isSome = (game.getPlayer player).isSome := by
  induction sources generalizing game hint tapped with
  | nil =>
      cases hrun
      exact ⟨rfl, rfl⟩
  | cons source rest ih =>
      obtain ⟨middle, e | hint', htap, hstack, hplayer⟩ :=
        hquiet.taps game source hint
      · rw [CastingMethods.tapSources, htap] at hrun
        cases hrun
        exact ⟨hstack, hplayer⟩
      · rw [CastingMethods.tapSources, htap] at hrun
        obtain ⟨⟨_, tapped', _⟩, hrest, ⟨⟩⟩ := Option.map_eq_some_iff.mp hrun
        obtain ⟨hstack', hplayer'⟩ := ih hrest
        exact ⟨hstack'.trans hstack, hplayer'.trans hplayer⟩

theorem CastingMethods.Quiet.tapIgnoringErrors (sources : List CardId)
    (hint : ManaCost) (game : GameState) :
    ∃ after, methods.tapIgnoringErrors player sources hint game =
        some after ∧ after.zones.stack = game.zones.stack ∧
      (after.getPlayer player).isSome = (game.getPlayer player).isSome := by
  induction sources generalizing game hint with
  | nil => exact ⟨game, rfl, rfl, rfl⟩
  | cons source rest ih =>
      obtain ⟨middle, e | hint', htap, hstack, hplayer⟩ :=
        hquiet.taps game source hint
      · obtain ⟨after, hrest, hafter, hthere⟩ := ih hint middle
        rw [CastingMethods.tapIgnoringErrors, htap]
        exact ⟨after, hrest, hafter.trans hstack, hthere.trans hplayer⟩
      · obtain ⟨after, hrest, hafter, hthere⟩ := ih hint' middle
        rw [CastingMethods.tapIgnoringErrors, htap]
        exact ⟨after, hrest, hafter.trans hstack, hthere.trans hplayer⟩

omit hquiet in
theorem GameState.zones_untapQuietly (game : GameState) (id : CardId) :
    (game.untapQuietly id).zones = game.zones := by
  rw [GameState.untapQuietly, GameState.untapPermanent, GameState.setTapped]
  split
  · rfl
  · split <;> rfl

omit hquiet in
theorem GameState.zones_foldl_untapQuietly (tapped : List CardId)
    (game : GameState) :
    (tapped.foldl GameState.untapQuietly game).zones = game.zones := by
  induction tapped generalizing game with
  | nil => rfl
  | cons id rest ih => exact (ih _).trans (game.zones_untapQuietly id)

/-- Unwinding takes the spell off the stack. -/
theorem CastingMethods.Quiet.unwind {before game after : GameState}
    {zone : Zone} {plan : CastPlan}
    (hplan : Proposed player spell zone before game plan)
    {current : GameState} (hstack : current.zones.stack = game.zones.stack)
    {tapped : List CardId} {e : MtgError} {result : Except MtgError Unit}
    (hrun : methods.unwind player plan tapped e current =
      some (after, result)) :
    (∃ e', result = .error e') ∧ spell ∉ after.zones.stack := by
  have hzone := hplan.sourceZone
  obtain ⟨moved, hmoved, -, hback⟩ :=
    hquiet.moveFromStack current hplan.battlefield hplan.stack plan.owner
  rw [CastingMethods.unwind, hplan.card, hzone, hmoved] at hrun
  have hgone : spell ∉ (tapped.foldl GameState.untapQuietly
      moved).zones.stack := by
    rw [GameState.zones_foldl_untapQuietly, hback, hstack,
      ← List.count_eq_zero, List.count_erase_self]
    have honce := hplan.once
    omega
  dsimp only [Outcome.andThen] at hrun
  split at hrun
  · cases hrun
    exact ⟨⟨_, rfl⟩, hgone⟩
  · cases hrun
    exact ⟨⟨_, rfl⟩, hgone⟩

omit hquiet in
theorem GameState.logPools_same (game : GameState) (player : PlayerId) :
    (game.logPools player).zones = game.zones ∧
      (game.logPools player).players = game.players := by
  rw [GameState.logPools]
  split
  · exact ⟨rfl, rfl⟩
  · split <;> exact ⟨rfl, rfl⟩

/-- The total cost is there, and it is what the pools have less afterwards. -/
def PaidFrom (player : PlayerId) (cost : ManaCost)
    (tapped after : GameState) : Prop :=
  ∃ p, tapped.getPlayer player = some p ∧
    p.totalAvailableMana.canPay cost = true ∧
    (p.mana < 256 → cost.total < 256 →
      after.manaOf player + cost.total = tapped.manaOf player)

theorem CastingMethods.Quiet.pay {before game after : GameState}
    {zone : Zone} {plan : CastPlan}
    (hplan : Proposed player spell zone before game plan)
    {current : GameState} (hstack : current.zones.stack = game.zones.stack)
    (hplayer : (current.getPlayer player).isSome = true)
    {tapped : List CardId} {result : Except MtgError Unit}
    (hrun : methods.pay player plan tapped current = some (after, result)) :
    match result with
    | .error _ => spell ∉ after.zones.stack
    | .ok _ => PaidFrom player plan.cost current after := by
  obtain ⟨p, hp⟩ := Option.isSome_iff_exists.mp hplayer
  obtain ⟨hzones, hplayers⟩ := current.logPools_same player
  have hlogged : (current.logPools player).getPlayer player = some p := by
    rw [GameState.getPlayer, hplayers]
    exact hp
  rw [CastingMethods.pay, hlogged] at hrun
  dsimp only at hrun
  cases hpaid : p.payFromTotalMana plan.cost with
  | error message =>
      rw [hpaid] at hrun
      obtain ⟨⟨e, rfl⟩, hgone⟩ := hquiet.unwind hplan
        ((congrArg Zones.stack hzones).trans hstack) hrun
      exact hgone
  | ok paid =>
      rw [hpaid, hplan.card] at hrun
      dsimp only at hrun
      rw [hquiet.spellcast] at hrun
      cases hrun
      have hfind : current.players.find? (fun q => q.id == player) =
          some p := hp
      have hid := List.find?_some hfind
      have hfound : ((current.logPools player).modifyPlayer player
          fun _ => paid).getPlayer player = some paid := by
        rw [GameState.getPlayer, GameState.modifyPlayer,
          FirstMatch.find?_modifyFirst_of_pos]
        · change ((current.logPools player).getPlayer player).map _ = _
          rw [hlogged]
          rfl
        · intro _ _
          rw [Player.payFromTotalMana_id hpaid]
          exact hid
      have hcan : p.totalAvailableMana.canPay plan.cost = true := by
        rw [Player.payFromTotalMana] at hpaid
        split at hpaid
        · assumption
        · cases hpaid
      refine ⟨p, hp, hcan, ?_⟩
      intro hmana hcost
      rw [GameState.manaOf, GameState.manaOf, hfound, hp]
      exact Player.payFromTotalMana_exact hmana hcost hpaid

theorem CastingMethods.Quiet.payFor {before game after : GameState}
    {zone : Zone} {plan : CastPlan}
    (hplan : Proposed player spell zone before game plan)
    (hplayer : (game.getPlayer player).isSome = true)
    {result : Except MtgError Unit}
    (hrun : methods.payFor player plan game = some (after, result)) :
    match result with
    | .error _ => spell ∉ after.zones.stack
    | .ok _ => ∃ tapped taps,
        methods.tapSources player plan.sources plan.hint game =
          some (tapped, taps, none) ∧
        PaidFrom player plan.cost tapped after := by
  rw [CastingMethods.payFor] at hrun
  rcases htaps : methods.tapSources player plan.sources plan.hint game with
    - | ⟨tapped, taps, - | e⟩
  · rw [htaps] at hrun
    cases hrun
  · obtain ⟨hstack, hsome⟩ := hquiet.tapSources htaps
    rw [htaps] at hrun
    have hpaid := hquiet.pay hplan hstack (hsome.trans hplayer) hrun
    cases result with
    | error e => exact hpaid
    | ok _ => exact ⟨tapped, taps, rfl, hpaid⟩
  · obtain ⟨hstack, -⟩ := hquiet.tapSources htaps
    rw [htaps] at hrun
    obtain ⟨⟨e, rfl⟩, hgone⟩ := hquiet.unwind hplan hstack hrun
    exact hgone

end Castings

/-- The states between which an action taps its sources, and its total
cost. -/
def TapWindow (methods : CastingMethods) (player : PlayerId)
    (ability : SpellAbility) (game untapped tapped : GameState)
    (cost : ManaCost) : Prop :=
  match ability with
  | .castFromGraveyard card _ _ => ∃ moved,
      methods.moveCard game card .graveyard .stack
        (game.ownerByGet card player) = some (moved, .ok ()) ∧
      cost = moved.costByGet card ∧
      untapped = methods.withEngine moved player ∧
      methods.tapIgnoringErrors player
        ((GreedyManaResolver.computeTapOrder cost
          (methods.engineSources moved player)).getD []) cost untapped =
        some tapped
  | ability => ∃ request chosen targets plan taps,
      ability.castRequest? = some request ∧
      methods.choices player ability game = some (chosen, .ok (some targets)) ∧
      methods.propose player request.1 targets.length request.2.1 request.2.2
        (methods.engineSources chosen player)
        (methods.withEngine chosen player) = some (untapped, .ok plan) ∧
      methods.tapSources player plan.sources plan.hint untapped =
        some (tapped, taps, none) ∧
      cost = plan.cost

/-- The total cost could be paid, and it is what the pools and the mana of the
tapped sources have less. -/
def Charged (methods : CastingMethods) (player : PlayerId)
    (ability : SpellAbility) (game after : GameState) : Prop :=
  ∃ untapped tapped cost,
    TapWindow methods player ability game.resetPasses untapped tapped cost ∧
    (tapped.getPlayer player).any (fun p =>
      p.totalAvailableMana.canPay cost) = true ∧
    after.manaOf player + cost.total + untapped.manaOf player =
      game.manaOf player + tapped.manaOf player

/-- A spell that is on the stack because of the action was paid for. -/
def NotFree (methods : CastingMethods) (player : PlayerId)
    (ability : SpellAbility) (game : GameState) : Prop :=
  ∀ spell after result, ability.spell? = some spell →
    methods.execute player ability game = some (after, result) →
    spell ∉ game.zones.stack → spell ∈ after.zones.stack →
    Charged methods player ability game after

/-- The sums of the pools and of the cost fit their bytes. -/
def WithinBytes (methods : CastingMethods) (player : PlayerId)
    (ability : SpellAbility) (game : GameState) : Prop :=
  ∀ untapped tapped cost,
    TapWindow methods player ability game.resetPasses untapped tapped cost →
    tapped.manaOf player < 256 ∧ cost.total < 256

/-- A card of its owner's graveyard that is cast for nothing. -/
def FreeFromGraveyard (player : PlayerId) (game : GameState) :
    SpellAbility → Prop
  | .castFromGraveyard card _ _ =>
      card ∉ game.zones.stack ∧
      game.zones.holds .graveyard (game.ownerByGet card player) card = true ∧
      (game.costByGet card).total ≠ 0
  | _ => False

section Charges

variable {methods : CastingMethods} {player : PlayerId} {spell : CardId}
  {ability : SpellAbility} {game after : GameState}

theorem TapWindow.of_request {request : CardId × Zone × Option ManaCost}
    (hrequest : ability.castRequest? = some request)
    {chosen untapped tapped : GameState} {targets taps : List CardId}
    {plan : CastPlan}
    (hchoices : methods.choices player ability game =
      some (chosen, .ok (some targets)))
    (hpropose : methods.propose player request.1 targets.length request.2.1
      request.2.2 (methods.engineSources chosen player)
      (methods.withEngine chosen player) = some (untapped, .ok plan))
    (htaps : methods.tapSources player plan.sources plan.hint untapped =
      some (tapped, taps, none)) :
    TapWindow methods player ability game untapped tapped plan.cost := by
  cases ability <;>
    first
    | exact ⟨request, chosen, targets, plan, taps, hrequest, hchoices,
        hpropose, htaps, rfl⟩
    | cases hrequest

theorem GameState.manaOf_recordCast (game : GameState) (player : PlayerId)
    (targets : List CardId) (ability : SpellAbility) :
    (game.recordCast player targets ability).manaOf player =
      game.manaOf player := by
  cases ability with
  | castFromCommand card totalCost =>
      rw [recordCast]
      split
      · next p hp =>
        have hcounted (players : List Player) :
            (((FirstMatch.modifyFirst (fun q => q.id == player)
              (fun q => { q with
                commanderCastCount := q.commanderCastCount + 1 })
              players).find? fun q => q.id == player).map
                Player.mana).getD 0 =
              ((players.find? fun q => q.id == player).map
                Player.mana).getD 0 := by
          rw [FirstMatch.find?_modifyFirst, Option.map_map]
          · rfl
          · intro q
            rfl
        exact hcounted game.players
      · rfl
  | _ => rfl

theorem SpellAbility.spell?_cases (ability : SpellAbility)
    (hspell : ability.spell? = some spell) :
    (∃ effect addFinalityCounter,
      ability = .castFromGraveyard spell effect addFinalityCounter) ∨
    ∃ request, ability.castRequest? = some request ∧ request.1 = spell := by
  cases ability with
  | castFromGraveyard card effect addFinalityCounter =>
      cases hspell
      exact .inl ⟨effect, addFinalityCounter, rfl⟩
  | _ => exact .inr (Option.map_eq_some_iff.mp hspell)

variable (hquiet : methods.Quiet player spell)
include hquiet

theorem CastingMethods.Quiet.choices :
    (methods.choices player ability game).Ensures
      (Undisturbed player game) := by
  rw [CastingMethods.choices.eq_def]
  split
  · exact .ok (.refl game) _
  · exact .ok (.refl game) _
  · exact hquiet.choose game ability

theorem CastingMethods.Quiet.castByRequest
    {zone : Zone} {overrideCost : Option ManaCost}
    (hrequest : ability.castRequest? = some (spell, zone, overrideCost))
    (habsent : spell ∉ game.zones.stack)
    (hplayer : (game.getPlayer player).isSome = true)
    (hfits : WithinBytes methods player ability game)
    {result : Except MtgError Unit}
    (hrun : methods.castByRequest player ability (spell, zone, overrideCost)
      game.resetPasses = some (after, result)) (hcast : spell ∈ after.zones.stack) :
    Charged methods player ability game after := by
  rw [CastingMethods.castByRequest] at hrun
  rcases hchosen : methods.choices player ability game.resetPasses with
    - | ⟨chosen, e | targets?⟩
  · rw [hchosen] at hrun
    cases hrun
  · have hsame := hquiet.choices chosen _ hchosen
    rw [hchosen] at hrun
    cases hrun
    rw [hsame.stack] at hcast
    exact absurd hcast habsent
  · have hsame := hquiet.choices chosen _ hchosen
    have habsent' :
        spell ∉ (methods.withEngine chosen player).zones.stack := by
      change spell ∉ chosen.zones.stack
      rw [hsame.stack]
      exact habsent
    rw [hchosen] at hrun
    dsimp only [Outcome.andThen] at hrun
    cases targets? with
    | none =>
        cases hrun
        exact absurd hcast habsent'
    | some targets =>
        dsimp only [CastingMethods.castSpell8StepFrom] at hrun
        have hthere :
            ((methods.withEngine chosen player).getPlayer player).isSome =
              true :=
          (GameState.getPlayer_isSome_of_pools hsame.pools).trans hplayer
        rcases hproposed : methods.propose player spell targets.length zone
          overrideCost (methods.engineSources chosen player)
          (methods.withEngine chosen player) with
          - | ⟨proposed, e | plan⟩
        · rw [hproposed] at hrun
          cases hrun
        · have hgone := hquiet.propose habsent' hthere hproposed
          rw [hproposed] at hrun
          cases hrun
          exact absurd hcast hgone
        · have hplan := hquiet.propose habsent' hthere hproposed
          rw [hproposed] at hrun
          dsimp only [Outcome.andThen] at hrun
          have hready : (proposed.getPlayer player).isSome = true :=
            (GameState.getPlayer_isSome_of_pools hplan.pools).trans hthere
          rcases hpaid : methods.payFor player plan proposed with
            - | ⟨paid, e | _⟩
          · rw [hpaid] at hrun
            cases hrun
          · have hgone := hquiet.payFor hplan hready hpaid
            rw [hpaid] at hrun
            cases hrun
            exact absurd hcast hgone
          · obtain ⟨tapped, taps, htaps, p, hp, hcan, hexact⟩ :=
              hquiet.payFor hplan hready hpaid
            have hwindow := TapWindow.of_request hrequest hchosen hproposed
              htaps
            obtain ⟨hmana, hcost⟩ := hfits _ _ _ hwindow
            have huntapped : proposed.manaOf player = game.manaOf player :=
              GameState.manaOf_of_pools (hplan.pools.trans hsame.pools)
            have htapped : tapped.manaOf player = p.mana := by
              rw [GameState.manaOf, hp]
              rfl
            have hcharge := hexact (htapped ▸ hmana) hcost
            rw [hpaid] at hrun
            cases hrun
            refine ⟨proposed, tapped, plan.cost, hwindow, ?_, ?_⟩
            · rw [hp]
              exact hcan
            · rw [GameState.manaOf_recordCast, hcharge, huntapped]
              exact Nat.add_comm _ _

/-- What a casting from the graveyard does: the pools of the caster change
only by the tapped sources. -/
theorem CastingMethods.Quiet.castFromGraveyard (game : GameState)
    (addFinalityCounter : Bool) :
    ∃ moved tapped after,
      methods.moveCard game spell .graveyard .stack
        (game.ownerByGet spell player) = some (moved, .ok ()) ∧
      methods.tapIgnoringErrors player
        ((GreedyManaResolver.computeTapOrder (moved.costByGet spell)
          (methods.engineSources moved player)).getD [])
        (moved.costByGet spell) (methods.withEngine moved player) =
          some tapped ∧
      methods.castFromGraveyard player spell addFinalityCounter game =
        some (after, .ok ()) ∧
      moved.pools player = game.pools player ∧
      moved.costByGet spell = game.costByGet spell ∧
      (tapped.getPlayer player).isSome = (game.getPlayer player).isSome ∧
      after.manaOf player = tapped.manaOf player ∧
      after.zones.stack =
        if game.zones.holds .graveyard (game.ownerByGet spell player) spell
        then game.zones.stack ++ [spell] else game.zones.stack := by
  have hbattlefield : Zone.graveyard ≠ .battlefield := by decide
  have hstack : Zone.graveyard ≠ .stack := by decide
  obtain ⟨moved, hmoved, hpools, hcost, hafter⟩ :=
    hquiet.moveToStack game hbattlefield hstack (game.ownerByGet spell player)
  obtain ⟨tapped, htapped, hkept, hthere⟩ := hquiet.tapIgnoringErrors
    ((GreedyManaResolver.computeTapOrder (moved.costByGet spell)
      (methods.engineSources moved player)).getD [])
    (moved.costByGet spell) (methods.withEngine moved player)
  have hplayer := hthere.trans (GameState.getPlayer_isSome_of_pools hpools)
  have hplaced := hkept.trans hafter
  refine ⟨moved, tapped, if addFinalityCounter then
      tapped.modifyCard spell fun card => card.addCounter .finality 1
    else tapped, hmoved, htapped, ?_, hpools, hcost, hplayer, ?_, ?_⟩
  · rw [CastingMethods.castFromGraveyard, hmoved]
    dsimp only
    rw [htapped]
    rfl
  · cases addFinalityCounter <;> rfl
  · cases addFinalityCounter <;> exact hplaced

/-- Casting from the graveyard charges nothing but a cost of nothing. -/
theorem CastingMethods.Quiet.graveyard_charged_iff
    (effect : PersistentEffectId) {addFinalityCounter : Bool}
    (hplayer : (game.getPlayer player).isSome = true)
    (hfits : WithinBytes methods player
      (.castFromGraveyard spell effect addFinalityCounter) game)
    (hrun : methods.castFromGraveyard player spell addFinalityCounter
      game.resetPasses = some (after, .ok ())) :
    Charged methods player
        (.castFromGraveyard spell effect addFinalityCounter) game after ↔
      (game.costByGet spell).total = 0 := by
  obtain ⟨moved, tapped, after', hmoved, htapped, hcast, hpools, hcost,
    hthere, hafter, -⟩ :=
    hquiet.castFromGraveyard game.resetPasses addFinalityCounter
  rw [hcast] at hrun
  cases hrun
  have huntapped : (methods.withEngine moved player).manaOf player =
      game.manaOf player := GameState.manaOf_of_pools hpools
  have hprinted : moved.costByGet spell = game.costByGet spell := hcost
  constructor
  · rintro ⟨untapped, tapped', cost, ⟨moved', hmoved', rfl, rfl, htapped'⟩,
      -, hcharge⟩
    rw [hmoved] at hmoved'
    cases hmoved'
    rw [htapped] at htapped'
    cases htapped'
    rw [hafter, huntapped, hprinted] at hcharge
    omega
  · intro hzero
    have hwindow : TapWindow methods player
        (.castFromGraveyard spell effect addFinalityCounter)
        game.resetPasses (methods.withEngine moved player) tapped
        (moved.costByGet spell) := ⟨moved, hmoved, rfl, rfl, htapped⟩
    obtain ⟨hmana, -⟩ := hfits _ _ _ hwindow
    rw [← hprinted] at hzero
    refine ⟨_, tapped, _, hwindow, ?_, ?_⟩
    · obtain ⟨p, hp⟩ := Option.isSome_iff_exists.mp (hthere.trans hplayer)
      have hpool : p.totalAvailableMana.amount < 256 := by
        have hsame : tapped.manaOf player = p.mana := by
          rw [GameState.manaOf, hp]
          rfl
        rw [hsame] at hmana
        rwa [Player.totalAvailableMana_amount hmana]
      have hcanPay : p.totalAvailableMana.canPay (moved.costByGet spell) =
          true := by
        apply (ManaPool.canPay_spec hpool (by rw [hzero]; decide)).mpr
        constructor
        · intro color
          have hfree := (moved.costByGet spell).amountOf_le color
          rw [hzero, Nat.le_zero] at hfree
          rw [hfree]
          exact Nat.zero_le _
        · rw [hzero]
          exact Nat.zero_le _
      rw [hp]
      exact hcanPay
    · rw [hafter, huntapped, hzero]
      exact Nat.add_comm _ _

/-- A graveyard casting is free exactly of a card that is there and costs
something. -/
theorem CastingMethods.Quiet.notFree_graveyard_iff
    {effect : PersistentEffectId} {addFinalityCounter : Bool}
    (hplayer : (game.getPlayer player).isSome = true)
    (hfits : WithinBytes methods player
      (.castFromGraveyard spell effect addFinalityCounter) game) :
    NotFree methods player
        (.castFromGraveyard spell effect addFinalityCounter) game ↔
      ¬FreeFromGraveyard player game
        (.castFromGraveyard spell effect addFinalityCounter) := by
  obtain ⟨_, _, after, -, -, hcast, -, -, -, -, hafter⟩ :=
    hquiet.castFromGraveyard game.resetPasses addFinalityCounter
  have hstack : after.zones.stack =
      if game.zones.holds .graveyard (game.ownerByGet spell player) spell
      then game.zones.stack ++ [spell] else game.zones.stack := hafter
  have hcharged :=
    hquiet.graveyard_charged_iff effect hplayer hfits hcast
  constructor
  · rintro hpaid ⟨habsent, hthere, hcosts⟩
    have hmem : spell ∈ after.zones.stack := by
      rw [hstack, if_pos hthere]
      exact List.mem_append_right _ (List.mem_singleton_self spell)
    exact hcosts (hcharged.mp (hpaid spell after _ rfl hcast habsent hmem))
  · intro hpaid spell' after' result hspell hrun habsent hmem
    cases hspell
    change methods.castFromGraveyard player spell addFinalityCounter
      game.resetPasses = _ at hrun
    rw [hcast] at hrun
    cases hrun
    apply hcharged.mpr
    by_contra hcosts
    rw [hstack] at hmem
    split at hmem
    · next hthere => exact hpaid ⟨habsent, hthere, hcosts⟩
    · exact habsent hmem

theorem CastingMethods.Quiet.notFree_of_request
    {request : CardId × Zone × Option ManaCost}
    (hrequest : ability.castRequest? = some request)
    (hspell : request.1 = spell)
    (hplayer : (game.getPlayer player).isSome = true)
    (hfits : WithinBytes methods player ability game) :
    NotFree methods player ability game := by
  obtain ⟨_, zone, overrideCost⟩ := request
  subst hspell
  intro spell' after result hcast hrun habsent hmem
  cases ability <;>
    first
    | cases hrequest
      cases hcast
      exact hquiet.castByRequest rfl habsent hplayer hfits hrun hmem
    | cases hrequest

end Charges

/-- When nothing interferes, the casting of a spell is paid for unless it is
free from the graveyard. -/
theorem notFree_iff {methods : CastingMethods} {player : PlayerId}
    {ability : SpellAbility} {spell : CardId} {game : GameState}
    (hspell : ability.spell? = some spell)
    (hquiet : methods.Quiet player spell)
    (hplayer : (game.getPlayer player).isSome = true)
    (hfits : WithinBytes methods player ability game) :
    NotFree methods player ability game ↔
      ¬FreeFromGraveyard player game ability := by
  rcases ability.spell?_cases hspell with
    ⟨effect, addFinalityCounter, rfl⟩ | ⟨request, hrequest, hcard⟩
  · exact hquiet.notFree_graveyard_iff hplayer hfits
  · have hpaid := hquiet.notFree_of_request hrequest hcard hplayer hfits
    refine iff_of_true hpaid ?_
    cases ability <;>
      first
      | exact id
      | cases hrequest

namespace GameState

/-- Tap a Mountain for red mana, where the cost asks for no other colour. -/
def tapMountain (game : GameState) (player : PlayerId) (source : CardId)
    (hint : ManaCost) : Outcome ManaCost :=
  (game.tapPermanent source).andThen fun tapped _ =>
    .ok (tapped.modifyPlayer player fun p =>
        { p with manaPool := p.manaPool.addColor .red })
      { hint with red := hint.red - min hint.red 1 }

theorem tapMountain_spec (game : GameState) (player : PlayerId)
    (source : CardId) (hint : ManaCost) :
    ∃ after result, game.tapMountain player source hint =
        some (after, result) ∧ after.zones.stack = game.zones.stack ∧
      (after.getPlayer player).isSome = (game.getPlayer player).isSome := by
  have hadded (players : List Player) :
      ((FirstMatch.modifyFirst (fun p => p.id == player) (fun p : Player =>
        { p with manaPool := p.manaPool.addColor .red }) players).find?
          fun p => p.id == player).isSome =
        (players.find? fun p => p.id == player).isSome := by
    rw [FirstMatch.find?_modifyFirst, Option.isSome_map]
    intro p
    rfl
  rw [tapMountain, tapPermanent, setTapped]
  split
  · exact ⟨game, _, rfl, rfl, rfl⟩
  · split
    · exact ⟨_, _, rfl, rfl, hadded game.players⟩
    · exact ⟨_, _, rfl, rfl, hadded game.players⟩

/-- The castings of a game with a Mountain and nothing else. -/
def withMountain (mountain : CardId) : CastingMethods where
  choose game _ _ := .ok game (some [])
  checkDelayedTriggers game _ _ _ := .ok game ()
  calculateEffectiveCost game card _ := game.costByGet card
  relativeTargetCost _ _ := false
  paySacrificeCosts game _ _ := .ok game ()
  updateMut game _ := (game.manaCaches,
    [{ cardId := mountain, production := { kind := .fixed .red } }])
  tapForManaAndUpdateHint := tapMountain
  checkSpellcastTriggers game _ _ := .ok game ()

theorem withMountain_quiet (mountain : CardId) (player : PlayerId)
    (spell : CardId) : (withMountain mountain).Quiet player spell where
  choose game _ := .ok (.refl game) _
  triggers game _ _ := ⟨game, rfl, .refl game, rfl⟩
  costs game := .ok (.refl game) _
  taps game source hint := game.tapMountain_spec player source hint
  spellcast _ := rfl

/-- A Mountain on the battlefield and a red instant. -/
def boltAndMountain (own : PlayerZones) : GameState where
  cards := ⟨[
    some
      { id := ⟨0⟩
        owner := ⟨0⟩
        controller := ⟨0⟩
        types := [.instant]
        manaCost := { red := 1 } },
    some
      { id := ⟨1⟩
        owner := ⟨0⟩
        controller := ⟨0⟩
        types := [.land] }]⟩
  players := [{ id := ⟨0⟩ }, { id := ⟨1⟩ }]
  zones :=
    { battlefield := [⟨1⟩]
      playerZones := [(⟨0⟩, own), (⟨1⟩, {})] }
  turn := { activePlayer := ⟨0⟩ }

theorem bolt_notFree : NotFree (withMountain ⟨1⟩) ⟨0⟩ (.castSpell ⟨0⟩)
    (boltAndMountain { hand := [⟨0⟩] }) := by
  apply (notFree_iff rfl (withMountain_quiet ⟨1⟩ ⟨0⟩ ⟨0⟩) rfl ?_).mpr
  · exact id
  · rintro untapped tapped cost
      ⟨_, _, _, _, _, ⟨⟩, ⟨⟩, ⟨⟩, ⟨⟩, rfl⟩
    decide

/-- From the graveyard the bolt is on the stack, and the red mana is left. -/
theorem bolt_free_from_graveyard :
    ∃ after, (withMountain ⟨1⟩).execute ⟨0⟩ (.castFromGraveyard ⟨0⟩ ⟨0⟩ false)
        (boltAndMountain { graveyard := [⟨0⟩] }) = some (after, .ok ()) ∧
      after.zones.stack = [⟨0⟩] ∧
      (after.getPlayer ⟨0⟩).map (fun p => p.manaPool.red) = some 1 ∧
      ¬NotFree (withMountain ⟨1⟩) ⟨0⟩ (.castFromGraveyard ⟨0⟩ ⟨0⟩ false)
        (boltAndMountain { graveyard := [⟨0⟩] }) := by
  refine ⟨_, rfl, rfl, rfl, ?_⟩
  intro hpaid
  obtain ⟨_, _, _, ⟨_, ⟨⟩, rfl, rfl, ⟨⟩⟩, -, hcharge⟩ :=
    hpaid ⟨0⟩ _ _ rfl rfl (by decide) (by decide)
  revert hcharge
  decide

end GameState

end DeepScry
