/-
What a failed casting leaves behind: the spell goes back and the sources are
untapped, sacrifices and floating mana are lost.
-/
import DeepScry.AbilityCost
import DeepScry.CastingCharge
import DeepScry.ZoneTrail

namespace DeepScry

def CountModifier.apply (count : Nat) : CountModifier → Nat
  | all => count
  | half => count / 2
  | halfUp => (count + 1) / 2

namespace GameState

variable (game : GameState) (player : PlayerId)

/-- The permanents of the player that match the filter. -/
def permanentsOfType (typeFilter : String) : List CardId :=
  game.zones.battlefield.filter fun id =>
    (game.card? id).any fun card =>
      card.controller == player && card.matchesTypeFilter typeFilter

def sacrificeAmount : RaisedCostAmount → Nat
  | .fixed amount => amount.toNat
  | .variable typeFilter modifier =>
      modifier.apply (game.permanentsOfType player typeFilter).length

/-- The permanents chosen for a cost, maybe too few. -/
def chosenSacrifices (amount : RaisedCostAmount) (validType : String) :
    List CardId :=
  (game.permanentsOfType player validType).take
    (game.sacrificeAmount player amount)

/-- What an ability of a spell asks for: how many permanents, and those chosen
for it. -/
def sacrificeOf : StaticAbility → Option (Nat × List CardId)
  | .raiseCost _ (.sacrifice amount validType) =>
      if game.sacrificeAmount player amount = 0 then none
      else some (game.sacrificeAmount player amount,
        game.chosenSacrifices player amount validType)
  | _ => none

/-- The static abilities of a card, none for a card that does not exist. -/
def abilitiesOf (card : CardId) : List StaticAbility :=
  ((game.card? card).map fun c => c.staticAbilities).getD []

/-- The first sacrifice that the spell asks for. -/
def firstSacrifice (card : CardId) : Option (Nat × List CardId) :=
  (game.abilitiesOf card).findSome? (game.sacrificeOf player)

end GameState

namespace CastingMethods

variable (methods : CastingMethods)

/-- Sacrifice permanents one after the other. -/
def sacrificeAll (player : PlayerId) : List CardId → GameState → Outcome Unit
  | [], game => .ok game ()
  | id :: rest, game =>
      let reported := if (game.card? id).isSome then game.message else game
      (methods.moveCard reported id .battlefield
        (reported.deathDestinationForCard id) player).andThen fun game _ =>
          sacrificeAll player rest game

/-- The sacrifices that the abilities ask for, up to one for which there are
too few permanents. -/
def payRaisedCosts (player : PlayerId) :
    List StaticAbility → GameState → Outcome Unit
  | [], game => .ok game ()
  | .raiseCost _ (.sacrifice amount validType) :: rest, game =>
      let required := game.sacrificeAmount player amount
      if required = 0 then payRaisedCosts player rest game
      else
        let chosen := game.chosenSacrifices player amount validType
        if chosen.length < required then
          .error game (.invalidAction ("Cannot pay sacrifice cost: need " ++
            toString required ++ " " ++ validType ++ " but only have " ++
            toString chosen.length))
        else
          (methods.sacrificeAll player chosen game).andThen fun game _ =>
            payRaisedCosts player rest game
  | _ :: rest, game => payRaisedCosts player rest game

/-- The castings with the sacrifices as `pay_sacrifice_costs` pays them. -/
def withSacrifices : CastingMethods :=
  { methods with
    paySacrificeCosts := fun game card player =>
      methods.payRaisedCosts player (game.abilitiesOf card) game }

end CastingMethods

/-- The zones hold the same cards, every card has its former tapped flag, and
the two pools of the player are the same. -/
structure Unchanged (player : PlayerId) (before after : GameState) :
    Prop where
  zones : after.zones.Alike before.zones
  tapped : after.tapView.state = before.tapView.state
  pools : after.pools player = before.pools player

/-- The zones, the combat pool of the player and who is a commander are left
alone. -/
structure Aloof (player : PlayerId) (before after : GameState) : Prop where
  zones : after.zones = before.zones
  combatPool : (after.getPlayer player).map (fun p => p.combatManaPool) =
    (before.getPlayer player).map fun p => p.combatManaPool
  commander : ∀ id zone, after.commanderReplaces id zone =
    before.commanderReplaces id zone

/-- No trigger fires, and sources are tapped for mana in the regular pool
without another cost. -/
structure CastingMethods.Plain (methods : CastingMethods)
    (player : PlayerId) : Prop where
  delayedTriggers : ∀ game id fromZone toZone,
    methods.checkDelayedTriggers game id fromZone toZone = .ok game ()
  spellcastTriggers : ∀ game card,
    methods.checkSpellcastTriggers game card player = .ok game ()
  aloof : ∀ game source hint,
    (methods.tapForManaAndUpdateHint game player source hint).Ensures
      (Aloof player game)
  taps : ∀ {game source hint after left},
    methods.tapForManaAndUpdateHint game player source hint =
        .ok after left →
      game.tapView.state source = some false ∧
      after.tapView.state =
        KeyedLog.overwrite game.tapView.state source true
  refuses : ∀ {game source hint after e},
    methods.tapForManaAndUpdateHint game player source hint =
        .error after e →
      after.tapView.state = game.tapView.state

namespace Aloof

variable {player : PlayerId} {first second third : GameState}

theorem refl (game : GameState) : Aloof player game game :=
  ⟨rfl, rfl, fun _ _ => rfl⟩

theorem trans (hfirst : Aloof player first second)
    (hsecond : Aloof player second third) : Aloof player first third where
  zones := hsecond.zones.trans hfirst.zones
  combatPool := hsecond.combatPool.trans hfirst.combatPool
  commander id zone :=
    (hsecond.commander id zone).trans (hfirst.commander id zone)

end Aloof

namespace GameState

/-- The spell is found where it is cast from and can go back there. -/
def returnsHome (game : GameState) (card : CardId) (zone : Zone)
    (owner : PlayerId) : Prop :=
  if game.zones.holds zone owner card then
    game.commanderReplaces card zone = false
  else card ∉ game.zones.stack

variable {game moved other : GameState} {player owner : PlayerId}
  {card : CardId} {zone : Zone}

theorem tapState_of_steady
    (hcards : SameView Card.steady moved.cards game.cards) :
    moved.tapView.state = game.tapView.state := by
  have htapped (c : Option Card) : c.map (fun card => card.tapped) =
      (c.map Card.steady).map fun card => card.tapped := by
    rw [Option.map_map]
    rfl
  funext id
  exact (htapped _).trans ((congrArg _ (hcards id.raw)).trans
    (htapped _).symm)

theorem commanderReplaces_of_steady (honly : OnlyMoved game moved)
    (hcards : SameView Card.steady moved.cards game.cards) (id : CardId)
    (zone : Zone) :
    moved.commanderReplaces id zone = game.commanderReplaces id zone := by
  have hcommander := any_of_map_eq (p := fun card => card.isCommander)
    (hcards id.raw) fun _ => rfl
  have hgame : moved.isCommanderGame = game.isCommanderGame := by
    obtain ⟨_, _, _, _, _, rfl⟩ := honly
    rfl
  rw [commanderReplaces, commanderReplaces, hgame]
  exact congrArg (_ && ·) hcommander

/-- A spell that is moved to the stack. -/
theorem moved_spec (game : GameState) (card : CardId)
    (hzone : zone ≠ .battlefield) (owner : PlayerId) :
    OnlyMoved game (game.moveUntilTriggers card zone .stack owner).1 ∧
      SameView Card.steady
        (game.moveUntilTriggers card zone .stack owner).1.cards
        game.cards ∧
      (game.moveUntilTriggers card zone .stack owner).1.zones =
        if game.zones.holds zone owner card then
          game.zones.afterMove card zone .stack owner
        else game.zones := by
  have hspec := game.moveUntilTriggers_off_battlefield card hzone
    (by decide : Zone.stack ≠ .battlefield) owner
  have hdest : game.moveDestination card .stack = .stack := by
    rw [moveDestination, commanderReplaces, if_neg]
    simp
  rwa [hdest] at hspec

/-- There and back again, as far as the zones are concerned. -/
theorem returned_alike_iff (hbattlefield : zone ≠ .battlefield)
    (hstack : zone ≠ .stack)
    (haloof : Aloof player (game.moveUntilTriggers card zone .stack owner).1
      other) :
    (other.moveUntilTriggers card .stack zone owner).1.zones.Alike
      game.zones ↔ game.returnsHome card zone owner := by
  obtain ⟨honly, hcards, hzones⟩ := game.moved_spec card hbattlefield owner
  have hcommander : other.commanderReplaces card zone =
      game.commanderReplaces card zone :=
    (haloof.commander card zone).trans
      (commanderReplaces_of_steady honly hcards card zone)
  have hback := (other.moveUntilTriggers_off_battlefield card
    (by decide : Zone.stack ≠ .battlefield) hbattlefield
      owner).2.2
  have hdest : other.moveDestination card zone ≠ .stack :=
    moveDestination_ne_stack hstack
  rw [haloof.zones, hzones] at hback
  rw [hback, returnsHome]
  cases hheld : game.zones.holds zone owner card with
  | true =>
      have hthere : (game.zones.afterMove card zone .stack owner).holds .stack
          owner card = true := by
        rw [Zones.afterMove, Zones.holds, Zones.cardsIn_modify]
        change List.contains (_ ++ [card]) card = true
        simp
      rw [if_pos rfl, if_pos hthere, if_pos rfl]
      have halike := Zones.afterMove_afterMove_alike game.zones card zone
        .stack (other.moveDestination card zone) owner
      rw [moveDestination, hcommander] at halike ⊢
      cases hreplaces : game.commanderReplaces card zone with
      | false =>
          rw [hreplaces] at halike
          exact iff_of_true
            (halike.trans (Zones.afterMove_self_alike hheld)) rfl
      | true =>
          rw [hreplaces] at halike
          refine iff_of_false (fun hsame => ?_) Bool.noConfusion
          rw [if_pos rfl] at halike hsame
          refine Zones.not_afterMove_alike hheld ?_
            (halike.symm.trans hsame)
          rintro rfl
          simp [commanderReplaces] at hreplaces
  | false =>
      rw [if_neg Bool.false_ne_true, if_neg Bool.false_ne_true]
      by_cases hmem : card ∈ game.zones.stack
      · have hthere : game.zones.holds .stack owner card = true :=
          List.contains_iff_mem.mpr hmem
        rw [if_pos hthere]
        exact iff_of_false (Zones.not_afterMove_alike hthere hdest.symm)
          (not_not_intro hmem)
      · have habsent : ¬ game.zones.holds .stack owner card = true :=
          fun hthere => hmem (List.contains_iff_mem.mp hthere)
        rw [if_neg habsent]
        exact iff_of_true (.refl _) hmem

/-- The spell went to the stack and back, and nothing else happened. -/
theorem returned_unchanged_iff (hbattlefield : zone ≠ .battlefield)
    (hstack : zone ≠ .stack)
    (haloof : Aloof player (game.moveUntilTriggers card zone .stack owner).1
      other) (hpools : other.pools player = game.pools player)
    (htapped : other.tapView.state = game.tapView.state) :
    Unchanged player game
        (other.moveUntilTriggers card .stack zone owner).1 ↔
      game.returnsHome card zone owner := by
  rw [← returned_alike_iff hbattlefield hstack haloof]
  obtain ⟨honly, hcards, -⟩ := other.moveUntilTriggers_off_battlefield card
    (by decide : Zone.stack ≠ .battlefield) hbattlefield owner
  constructor
  · exact fun hsame => hsame.zones
  · intro halike
    refine ⟨halike, (tapState_of_steady hcards).trans htapped, ?_⟩
    rw [← hpools]
    obtain ⟨_, _, _, _, _, heq⟩ := honly
    rw [heq]
    rfl

theorem commanderReplaces_modifyCard (game : GameState) (id : CardId)
    {write : Card → Card}
    (hwrite : ∀ c, (write c).isCommander = c.isCommander) (other : CardId)
    (zone : Zone) : (game.modifyCard id write).commanderReplaces other zone =
      game.commanderReplaces other zone := by
  have hflag (store : EntityStore Card) :
      (store.tryGet other.raw).any (fun card => card.isCommander) =
        ((store.tryGet other.raw).map fun card => card.isCommander).any
          fun flag => flag := by
    rw [Option.any_map]
  have hcommander : ((game.modifyCard id write).card? other).any
      (fun card => card.isCommander) =
        (game.card? other).any fun card => card.isCommander :=
    (hflag _).trans ((congrArg (Option.any fun flag => flag)
      (sameView_modify hwrite game.cards id.raw other.raw)).trans
        (hflag _).symm)
  rw [commanderReplaces, commanderReplaces, hcommander]
  rfl

theorem aloof_untapQuietly (game : GameState) (id : CardId) :
    Aloof player game (game.untapQuietly id) := by
  rw [untapQuietly, untapPermanent, setTapped]
  split
  · exact .refl game
  · split
    · exact .refl game
    · exact ⟨rfl, rfl, game.commanderReplaces_modifyCard id fun _ => rfl⟩

/-- Moves touch no zone but the two of the card. -/
theorem zones_frame : MoveFrame (fun _ => true) (fun _ : Card => ())
    fun before after => after.zones = before.zones where
  refl _ := rfl
  trans hfirst hsecond := hsecond.trans hfirst
  logAction _ _ _ _ := rfl
  modifyCard _ _ _ _ := rfl
  aside haside := haside.zones
  steady _ := rfl
  minor _ _ := rfl

theorem zones_relocate (game : GameState) (id : CardId)
    (fromZone toZone : Zone) (owner : PlayerId) :
    (game.relocate id fromZone toZone owner).zones =
      game.zones.afterMove id fromZone toZone owner := by
  have hentered : (if toZone = .battlefield then
      (game.changeZone id fromZone toZone owner).entersBattlefield id owner
      else game.changeZone id fromZone toZone owner).zones =
        game.zones.afterMove id fromZone toZone owner := by
    split
    · exact zones_frame.entersBattlefield
        (game.changeZone id fromZone toZone owner) id (fun _ => rfl) rfl owner
    · rfl
  have hupdated (logged : GameState) : (((logged.reportMove id fromZone
      toZone).updateManaCaches id fromZone toZone).resetIfLeft id
        fromZone).zones = logged.zones :=
    zones_frame.trans (zones_frame.reportAndUpdate logged id fromZone toZone)
      (zones_frame.resetIfLeft _ id (fun _ _ => rfl) (fun _ => rfl) fromZone)
  exact (hupdated _).trans hentered

theorem zones_moveUntilTriggers (game : GameState) (id : CardId)
    (fromZone toZone : Zone) (owner : PlayerId) :
    (game.moveUntilTriggers id fromZone toZone owner).1.zones =
      if game.zones.holds fromZone owner id then
        game.zones.afterMove id fromZone (game.moveDestination id toZone)
          owner
      else game.zones := by
  have hreported : (if game.commanderReplaces id toZone then game.message
      else game).zones = game.zones := by
    split <;> rfl
  rw [moveUntilTriggers]
  generalize (if game.commanderReplaces id toZone then game.message
    else game) = reported at hreported ⊢
  have hprepared := (zones_frame.prepareMove reported id fromZone
    (game.moveDestination id toZone) owner).trans hreported
  generalize reported.prepareMove id fromZone
    (game.moveDestination id toZone) owner = prepared at hprepared ⊢
  rw [finishMove, hprepared]
  split
  · exact (prepared.zones_relocate id _ _ owner).trans (hprepared ▸ rfl)
  · exact hprepared

theorem battlefield_modify (zones : Zones) {zone : Zone}
    (hzone : zone ≠ .battlefield) (owner : PlayerId)
    (f : List CardId → List CardId) :
    (zones.modify zone owner f).battlefield = zones.battlefield := by
  cases zone <;> first | rfl | exact absurd rfl hzone

theorem battlefield_moveToStack (hzone : zone ≠ .battlefield)
    (game : GameState) (card : CardId) (owner : PlayerId) :
    (game.moveUntilTriggers card zone .stack owner).1.zones.battlefield =
      game.zones.battlefield := by
  rw [(game.moved_spec card hzone owner).2.2]
  split
  · exact (battlefield_modify _ (by decide : Zone.stack ≠ .battlefield) _ _).trans (battlefield_modify _ hzone _ _)
  · rfl

theorem battlefield_moveFromStack (hzone : zone ≠ .battlefield)
    (game : GameState) (card : CardId) (owner : PlayerId) :
    (game.moveUntilTriggers card .stack zone owner).1.zones.battlefield =
      game.zones.battlefield := by
  rw [zones_moveUntilTriggers]
  split
  · exact battlefield_modify _ (moveDestination_ne hzone) _ _
  · rfl

/-- A permanent that dies leaves the battlefield. -/
theorem battlefield_of_death (game : GameState) (id : CardId)
    (owner : PlayerId) :
    (game.moveUntilTriggers id .battlefield (game.deathDestinationForCard id)
      owner).1.zones.battlefield = game.zones.battlefield.erase id := by
  have hdeath : game.deathDestinationForCard id ≠ .battlefield := by
    rw [deathDestinationForCard]
    split
    · split <;> exact fun heq => nomatch heq
    · exact fun heq => nomatch heq
  rw [zones_moveUntilTriggers]
  split
  · exact battlefield_modify _ (moveDestination_ne hdeath) _ _
  · next habsent =>
    rw [List.erase_of_not_mem]
    exact fun hmem => habsent (List.contains_iff_mem.mpr hmem)

/-- The chosen permanents are on the battlefield, and there is one. -/
theorem length_diff_chosen (game : GameState) {player : PlayerId}
    {amount : RaisedCostAmount} {validType : String}
    (hamount : game.sacrificeAmount player amount ≠ 0)
    (henough : ¬ (game.chosenSacrifices player amount validType).length <
      game.sacrificeAmount player amount) :
    (game.zones.battlefield.diff
        (game.chosenSacrifices player amount validType)).length <
      game.zones.battlefield.length := by
  have hsubset : ∀ id ∈ game.chosenSacrifices player amount validType,
      id ∈ game.zones.battlefield :=
    fun id hmem => List.mem_of_mem_filter (List.mem_of_mem_take hmem)
  have hlength : (game.chosenSacrifices player amount validType).length ≠ 0 :=
    fun hnone => henough (hnone ▸ Nat.pos_of_ne_zero hamount)
  generalize game.chosenSacrifices player amount validType = chosen
    at hsubset hlength ⊢
  cases chosen with
  | nil => exact absurd rfl hlength
  | cons id rest =>
      have hmem := hsubset id List.mem_cons_self
      have hpos := List.length_pos_of_mem hmem
      rw [List.diff_cons]
      refine (List.diff_sublist _ _).length_le.trans_lt ?_
      rw [List.length_erase_of_mem hmem]
      exact Nat.sub_lt hpos Nat.one_pos

/-- A card that is not there or not tapped stays as it is. -/
theorem tapState_untapQuietly (game : GameState) (id : CardId) :
    (game.untapQuietly id).tapView.state =
      KeyedLog.overwrite game.tapView.state id false := by
  have hself (hstays : game.tapView.state id = none ∨
      game.tapView.state id = some false) :
      game.tapView.state =
        KeyedLog.overwrite game.tapView.state id false := by
    rw [KeyedLog.overwrite, eq_comm, Function.update_eq_self_iff]
    rcases hstays with hnone | hfalse
    · rw [hnone]
      rfl
    · rw [hfalse]
      rfl
  rw [untapQuietly, untapPermanent, setTapped]
  cases hcard : game.card? id with
  | none =>
      apply hself
      left
      change (game.card? id).map (fun card => card.tapped) = none
      rw [hcard]
      rfl
  | some card =>
      dsimp only
      split
      · next huntapped =>
        apply hself
        right
        change (game.card? id).map (fun card => card.tapped) = some false
        rw [hcard]
        exact congrArg some huntapped
      · have hwritten : (game.modifyCard id Card.untap).tapView =
            game.tapView.write id false :=
          game.tapView_modifyCard id fun _ => rfl
        exact congrArg TapView.state hwritten

theorem getPlayer_modifyPlayer (game : GameState) (player : PlayerId)
    {f : Player → Player} (hid : ∀ p, (f p).id = p.id) :
    (game.modifyPlayer player f).getPlayer player =
      (game.getPlayer player).map f := by
  apply FirstMatch.find?_modifyFirst
  intro p
  rw [hid]

theorem aloof_logPools (game : GameState) (player : PlayerId) :
    Aloof player game (game.logPools player) := by
  rw [logPools]
  split
  · exact .refl game
  · split <;> exact ⟨rfl, rfl, fun _ _ => rfl⟩

theorem tapState_logPools (game : GameState) (player : PlayerId) :
    (game.logPools player).tapView.state = game.tapView.state := by
  rw [logPools]
  split
  · rfl
  · split <;> rfl

theorem aloof_foldl_untapQuietly (tapped : List CardId) (game : GameState) :
    Aloof player game (tapped.foldl untapQuietly game) := by
  induction tapped generalizing game with
  | nil => exact .refl game
  | cons id rest ih => exact (game.aloof_untapQuietly id).trans (ih _)

theorem tapState_foldl_untapQuietly (tapped : List CardId)
    (game : GameState) :
    (tapped.foldl untapQuietly game).tapView.state =
      tapped.foldl (fun state id => KeyedLog.overwrite state id false)
        game.tapView.state := by
  induction tapped generalizing game with
  | nil => rfl
  | cons id rest ih =>
      rw [List.foldl_cons, ih, game.tapState_untapQuietly]
      rfl

end GameState

namespace CastingMethods.Plain

variable {methods : CastingMethods} {player : PlayerId}
  (hplain : methods.Plain player)
include hplain

theorem moveCard (game : GameState) (id : CardId) (fromZone toZone : Zone)
    (owner : PlayerId) :
    methods.moveCard game id fromZone toZone owner =
      .ok (game.moveUntilTriggers id fromZone toZone owner).1 () := by
  rw [CastingMethods.moveCard]
  rcases game.moveUntilTriggers id fromZone toZone owner with
    ⟨moved, hmoved | hmoved⟩
  · rfl
  · exact hplain.delayedTriggers _ _ _ _

theorem putBack {α : Type} (game : GameState) (card : CardId) (zone : Zone)
    (owner : PlayerId) (e : MtgError) :
    (methods.putBack game card zone owner e : Outcome α) =
      .error (game.moveUntilTriggers card .stack zone owner).1 e := by
  rw [CastingMethods.putBack, hplain.moveCard]
  rfl

/-- The sources that were tapped are those that untapping turns back. -/
theorem tapSources {sources tapped : List CardId} {hint : ManaCost}
    {game after : GameState} {e : Option MtgError}
    (htaps : methods.tapSources player sources hint game =
      some (after, tapped, e)) :
    Aloof player game after ∧
      tapped.foldl (fun state id => KeyedLog.overwrite state id false)
        after.tapView.state = game.tapView.state := by
  induction sources generalizing game hint tapped with
  | nil =>
      cases htaps
      exact ⟨.refl _, rfl⟩
  | cons source rest ih =>
      rw [CastingMethods.tapSources] at htaps
      rcases htap : methods.tapForManaAndUpdateHint game player source hint
        with - | ⟨middle, e' | left⟩
      · rw [htap] at htaps
        cases htaps
      · rw [htap] at htaps
        cases htaps
        exact ⟨hplain.aloof game source hint _ _ htap, hplain.refuses htap⟩
      · rw [htap] at htaps
        obtain ⟨⟨final, taps, e'⟩, hrest, heq⟩ :=
          Option.map_eq_some_iff.mp htaps
        cases heq
        obtain ⟨hfirst, hwritten⟩ := hplain.taps htap
        obtain ⟨haloof, hback⟩ := ih hrest
        refine ⟨(hplain.aloof game source hint _ _ htap).trans haloof, ?_⟩
        rw [List.foldl_cons, KeyedLog.foldl_overwrite_comm, hback, hwritten,
          KeyedLog.overwrite_overwrite, KeyedLog.overwrite,
          Function.update_eq_self_iff, hfirst]
        rfl

/-- After an error on the way, the regular pool is emptied. -/
theorem unwind_unchanged_iff {plan : CastPlan} {game other after : GameState}
    {tapped : List CardId} {e : MtgError} {result : Except MtgError Unit}
    (hbattlefield : plan.sourceZone ≠ .battlefield)
    (hstack : plan.sourceZone ≠ .stack)
    (haloof : Aloof player (game.moveUntilTriggers plan.card plan.sourceZone
      .stack plan.owner).1 other)
    (htapped : tapped.foldl (fun state id =>
      KeyedLog.overwrite state id false) other.tapView.state =
        game.tapView.state)
    (hplayer : (game.getPlayer player).isSome = true)
    (hrun : methods.unwind player plan tapped e other =
      some (after, result)) :
    Unchanged player game after ↔
      game.returnsHome plan.card plan.sourceZone plan.owner ∧
        (game.pools player).map Prod.fst = some {} := by
  rw [← GameState.returned_alike_iff hbattlefield hstack haloof]
  have hcombat := haloof.combatPool
  obtain ⟨honly, -, -⟩ := game.moved_spec plan.card hbattlefield plan.owner
  obtain ⟨hback, hcards, -⟩ := other.moveUntilTriggers_off_battlefield
    plan.card (by decide : Zone.stack ≠ .battlefield)
    hbattlefield plan.owner
  rw [CastingMethods.unwind, hplain.moveCard] at hrun
  dsimp only [Outcome.andThen, Outcome.ok] at hrun
  generalize (other.moveUntilTriggers plan.card .stack plan.sourceZone
    plan.owner).1 = back at hback hcards hrun ⊢
  have huntap : Aloof player back (tapped.foldl GameState.untapQuietly back) :=
    GameState.aloof_foldl_untapQuietly tapped back
  have hstate := GameState.tapState_foldl_untapQuietly tapped back
  rw [GameState.tapState_of_steady hcards, htapped] at hstate
  generalize tapped.foldl GameState.untapQuietly back = untapped
    at huntap hstate hrun
  have hpool : (untapped.getPlayer player).map (fun p => p.combatManaPool) =
      (game.getPlayer player).map fun p => p.combatManaPool := by
    rw [huntap.combatPool]
    obtain ⟨_, _, _, _, _, heq⟩ := hback
    rw [heq]
    refine hcombat.trans ?_
    obtain ⟨_, _, _, _, _, heq⟩ := honly
    rw [heq]
    rfl
  obtain ⟨p, hp⟩ := Option.isSome_iff_exists.mp hplayer
  rw [hp] at hpool
  obtain ⟨q, hq, hcombatPool⟩ := Option.map_eq_some_iff.mp hpool
  rw [hq] at hrun
  cases hrun
  have hafter : ((untapped.modifyPlayer player fun p =>
      { p with manaPool := {} }).pools player) =
        some ({}, p.combatManaPool) := by
    rw [GameState.pools, GameState.getPlayer_modifyPlayer, hq]
    · exact congrArg (fun pool => some (({} : ManaPool), pool)) hcombatPool
    · exact fun _ => rfl
  have hbefore : game.pools player = some (p.manaPool, p.combatManaPool) := by
    rw [GameState.pools, hp]
    rfl
  rw [hbefore]
  constructor
  · intro hsame
    refine ⟨huntap.zones ▸ hsame.zones, ?_⟩
    have hpools := hsame.pools
    rw [hafter, hbefore] at hpools
    exact (congrArg (Option.map Prod.fst) hpools).symm
  · rintro ⟨halike, hempty⟩
    refine ⟨huntap.zones.symm ▸ halike, hstate, ?_⟩
    have hregular : p.manaPool = {} := Option.some.inj hempty
    rw [hafter, hbefore, hregular]

/-- Cards that are sacrificed leave the battlefield. -/
theorem sacrificeAll (chosen : List CardId) (game : GameState) :
    ∃ after, methods.sacrificeAll player chosen game = .ok after () ∧
      after.zones.battlefield = game.zones.battlefield.diff chosen := by
  induction chosen generalizing game with
  | nil => exact ⟨game, rfl, (List.diff_nil _).symm⟩
  | cons id rest ih =>
      rw [CastingMethods.sacrificeAll]
      have hreported : (if (game.card? id).isSome then game.message
          else game).zones = game.zones := by
        split <;> rfl
      generalize (if (game.card? id).isSome then game.message else game) =
        reported at hreported ⊢
      rw [hplain.moveCard]
      obtain ⟨after, hafter, hbattlefield⟩ := ih
        (reported.moveUntilTriggers id .battlefield
          (reported.deathDestinationForCard id) player).1
      refine ⟨after, hafter, ?_⟩
      rw [hbattlefield, reported.battlefield_of_death, hreported,
        List.diff_cons]

/-- Sacrifices only take permanents off the battlefield. -/
theorem payRaisedCosts_length (abilities : List StaticAbility)
    {game : GameState} {n : Nat} (hle : game.zones.battlefield.length ≤ n) :
    (methods.payRaisedCosts player abilities game).Ensures fun after =>
      after.zones.battlefield.length ≤ n := by
  induction abilities generalizing game with
  | nil =>
      rintro after result ⟨⟩
      exact hle
  | cons ability rest ih =>
      cases ability with
      | raiseCost validCard raisedCost =>
          cases raisedCost with
          | mana extra => exact ih hle
          | sacrifice amount validType =>
              rw [CastingMethods.payRaisedCosts]
              split
              · exact ih hle
              · dsimp only
                split
                · rintro after result ⟨⟩
                  exact hle
                · obtain ⟨paid, hpaid, hbattlefield⟩ := hplain.sacrificeAll
                    (game.chosenSacrifices player amount validType) game
                  rw [hpaid]
                  apply ih
                  rw [hbattlefield]
                  exact (List.diff_sublist _ _).length_le.trans hle
      | _ => exact ih hle

/-- Costs that cannot be paid or ask for nothing sacrifice nothing; any other
takes permanents off the battlefield. -/
theorem payRaisedCosts_spec (abilities : List StaticAbility)
    (game : GameState) :
    match abilities.findSome? (game.sacrificeOf player) with
    | none => methods.payRaisedCosts player abilities game = .ok game ()
    | some (required, chosen) =>
        if chosen.length < required then
          ∃ e, methods.payRaisedCosts player abilities game = .error game e
        else
          (methods.payRaisedCosts player abilities game).Ensures fun after =>
            after.zones.battlefield.length <
              game.zones.battlefield.length := by
  induction abilities with
  | nil => rfl
  | cons ability rest ih =>
      cases ability with
      | raiseCost validCard raisedCost =>
          cases raisedCost with
          | mana extra => exact ih
          | sacrifice amount validType =>
              rw [List.findSome?_cons, GameState.sacrificeOf,
                CastingMethods.payRaisedCosts]
              by_cases hzero : game.sacrificeAmount player amount = 0
              · rw [if_pos hzero, if_pos hzero]
                exact ih
              · rw [if_neg hzero, if_neg hzero]
                dsimp only
                split
                · exact ⟨_, rfl⟩
                · next henough =>
                  obtain ⟨paid, hpaid, hbattlefield⟩ := hplain.sacrificeAll
                    (game.chosenSacrifices player amount validType) game
                  rw [hpaid]
                  refine (hplain.payRaisedCosts_length rest
                    (Nat.le_refl _)).mono fun after hafter => ?_
                  rw [hbattlefield] at hafter
                  exact hafter.trans_lt (game.length_diff_chosen hzero
                    henough)
      | _ => exact ih

theorem withSacrifices : methods.withSacrifices.Plain player :=
  ⟨hplain.delayedTriggers, hplain.spellcastTriggers, hplain.aloof,
    hplain.taps, hplain.refuses⟩

section Battlefield

variable {plan : CastPlan} (hzone : plan.sourceZone ≠ .battlefield)
include hzone

theorem unwind_battlefield (tapped : List CardId) (e : MtgError)
    (game : GameState) :
    (methods.unwind player plan tapped e game).Ensures fun after =>
      after.zones.battlefield = game.zones.battlefield := by
  rw [CastingMethods.unwind, hplain.moveCard]
  have hback := GameState.battlefield_moveFromStack hzone game plan.card
    plan.owner
  generalize (game.moveUntilTriggers plan.card .stack plan.sourceZone
    plan.owner).1 = back at hback ⊢
  have huntap := GameState.zones_foldl_untapQuietly tapped back
  dsimp only [Outcome.andThen, Outcome.ok]
  generalize tapped.foldl GameState.untapQuietly back = untapped
    at huntap ⊢
  have hsame : untapped.zones.battlefield = game.zones.battlefield :=
    (congrArg Zones.battlefield huntap).trans hback
  split
  · rintro after result ⟨⟩
    exact hsame
  · rintro after result ⟨⟩
    exact hsame

/-- What follows the sacrifices leaves the battlefield alone. -/
theorem payFor_battlefield (game : GameState) :
    (methods.payFor player plan game).Ensures fun after =>
      after.zones.battlefield = game.zones.battlefield := by
  rw [CastingMethods.payFor]
  rcases htaps : methods.tapSources player plan.sources plan.hint game with
    - | ⟨current, tapped, - | e⟩
  · rintro after result ⟨⟩
  · have hzones := (hplain.tapSources htaps).1.zones
    have hlogged := (current.logPools_same player).1
    dsimp only
    rw [CastingMethods.pay, ← hzones, ← hlogged]
    generalize current.logPools player = logged
    split
    · rintro after result ⟨⟩
      rfl
    · split
      · rw [hplain.spellcastTriggers]
        rintro after result ⟨⟩
        rfl
      · exact hplain.unwind_battlefield hzone tapped _ logged
  · have hzones := (hplain.tapSources htaps).1.zones
    rw [← hzones]
    exact hplain.unwind_battlefield hzone tapped _ current

end Battlefield

end CastingMethods.Plain

/-- Sources are needed for the spell, and those there are do not suffice. -/
def CastingMethods.LacksMana (methods : CastingMethods) (player : PlayerId)
    (card : CardId) (numTargets : Nat) (overrideCost : Option ManaCost)
    (sources : List ManaSource) (game : GameState) : Prop :=
  ∃ p, game.getPlayer player = some p ∧
    let hint := (methods.totalCost game player card numTargets
      overrideCost).afterPool p.totalAvailableMana
    hint.cmc ≠ 0 ∧ GreedyManaResolver.computeTapOrder hint sources = none

/-- The casting fails in the wrong zone, or the spell can go back, nothing was
sacrificed for it, and no mana floated unless no source was tapped. -/
def CleanFailure (methods : CastingMethods) (player : PlayerId)
    (card : CardId) (numTargets : Nat) (zone : Zone)
    (overrideCost : Option ManaCost) (sources : List ManaSource)
    (game : GameState) : Prop :=
  let owner := game.ownerByGet card player
  let moved := (game.moveUntilTriggers card zone .stack owner).1
  (game.sourceZoneError player card zone).isSome = true ∨
    game.returnsHome card zone owner ∧
      match moved.firstSacrifice player card with
      | some (required, chosen) => chosen.length < required
      | none =>
          methods.LacksMana player card numTargets overrideCost sources
            moved ∨
          (game.pools player).map Prod.fst = some {}

section Failing

variable {methods : CastingMethods} {player : PlayerId} {card : CardId}
  {numTargets : Nat} {zone : Zone} {overrideCost : Option ManaCost}
  {sources : List ManaSource} {game after : GameState} {e : MtgError}

/-- The part of the casting after the sacrifices. -/
def CastingMethods.afterSacrifices (methods : CastingMethods)
    (player : PlayerId) (card : CardId) (zone : Zone) (owner : PlayerId)
    (cost : ManaCost) (sources : List ManaSource) (paid : GameState) :
    Outcome Unit :=
  match paid.getPlayer player with
  | none => .error paid (.entityNotFound player.raw)
  | some p =>
      let hint := cost.afterPool p.totalAvailableMana
      if hint.cmc = 0 then
        methods.payFor player ⟨card, owner, zone, cost, [], hint⟩ paid
      else
        match GreedyManaResolver.computeTapOrder hint sources with
        | some order =>
            methods.payFor player ⟨card, owner, zone, cost, order, hint⟩ paid
        | none =>
            methods.putBack paid card zone owner
              (.invalidAction ("Failed to pay mana cost " ++ cost.debug ++
                ": Insufficient mana"))

/-- The part of the casting after the move to the stack. -/
def CastingMethods.afterProposal (methods : CastingMethods)
    (player : PlayerId) (card : CardId) (zone : Zone) (owner : PlayerId)
    (cost : ManaCost) (sources : List ManaSource) (moved : GameState) :
    Outcome Unit :=
  match methods.payRaisedCosts player (moved.abilitiesOf card) moved with
  | none => none
  | some (paid, .error e) =>
      methods.withSacrifices.putBack paid card zone owner e
  | some (paid, .ok _) =>
      methods.withSacrifices.afterSacrifices player card zone owner cost
        sources paid

/-- Casting in three steps: the move, the sacrifices and the mana. -/
theorem castSpell8StepFrom_eq (hplain : methods.Plain player)
    (hzone : game.sourceZoneError player card zone = none) :
    methods.withSacrifices.castSpell8StepFrom player card numTargets zone
        overrideCost sources game =
      let owner := game.ownerByGet card player
      let moved := (game.moveUntilTriggers card zone .stack owner).1
      methods.afterProposal player card zone owner
        (methods.totalCost moved player card numTargets overrideCost) sources
        moved := by
  rw [CastingMethods.castSpell8StepFrom, CastingMethods.propose, hzone]
  dsimp only
  rw [hplain.withSacrifices.moveCard]
  dsimp only [Outcome.andThen, Outcome.ok]
  generalize (game.moveUntilTriggers card zone .stack
    (game.ownerByGet card player)).1 = moved
  rw [CastingMethods.afterProposal]
  have hpay : methods.withSacrifices.paySacrificeCosts moved card player =
      methods.payRaisedCosts player (moved.abilitiesOf card) moved := rfl
  rw [hpay]
  rcases methods.payRaisedCosts player (moved.abilitiesOf card) moved with
    - | ⟨paid, e | _⟩
  · rfl
  · dsimp only
    rw [hplain.withSacrifices.putBack, hplain.withSacrifices.putBack]
    rfl
  · have hcost : methods.withSacrifices.totalCost moved player card numTargets
        overrideCost =
      methods.totalCost moved player card numTargets overrideCost := rfl
    dsimp only
    rw [CastingMethods.afterSacrifices, hcost]
    cases paid.getPlayer player with
    | none => rfl
    | some p =>
        dsimp only
        by_cases hfree : ((methods.totalCost moved player card numTargets
          overrideCost).afterPool p.totalAvailableMana).cmc = 0
        · rw [if_pos hfree, if_pos hfree]
        · rw [if_neg hfree, if_neg hfree]
          cases GreedyManaResolver.computeTapOrder
            ((methods.totalCost moved player card numTargets
              overrideCost).afterPool p.totalAvailableMana) sources with
          | some order => rfl
          | none =>
              dsimp only
              rw [hplain.withSacrifices.putBack, hplain.withSacrifices.putBack]
              rfl

variable (hplain : methods.Plain player)
  (hplayer : (game.getPlayer player).isSome = true)
include hplain

include hplayer in
/-- Paying fails after the spell was moved to the stack. -/
theorem payFor_unchanged_iff {plan : CastPlan}
    (hbattlefield : plan.sourceZone ≠ .battlefield)
    (hstack : plan.sourceZone ≠ .stack)
    (hfails : methods.payFor player plan (game.moveUntilTriggers plan.card
      plan.sourceZone .stack plan.owner).1 = .error after e) :
    Unchanged player game after ↔
      game.returnsHome plan.card plan.sourceZone plan.owner ∧
        (game.pools player).map Prod.fst = some {} := by
  obtain ⟨honly, hsteady, -⟩ :=
    game.moved_spec plan.card hbattlefield plan.owner
  have htapState := GameState.tapState_of_steady hsteady
  rw [CastingMethods.payFor] at hfails
  rcases htaps : methods.tapSources player plan.sources plan.hint
    (game.moveUntilTriggers plan.card plan.sourceZone .stack plan.owner).1
      with - | ⟨current, tapped, - | e'⟩
  · rw [htaps] at hfails
    cases hfails
  · rw [htaps] at hfails
    dsimp only at hfails
    obtain ⟨haloof, htapped⟩ := hplain.tapSources htaps
    have hlogged := haloof.trans (current.aloof_logPools player)
    rw [htapState, ← current.tapState_logPools player] at htapped
    rw [CastingMethods.pay] at hfails
    generalize current.logPools player = logged at hlogged htapped hfails
    rcases hp : logged.getPlayer player with - | p
    · have hnone := hlogged.combatPool
      obtain ⟨p, hgame⟩ := Option.isSome_iff_exists.mp hplayer
      obtain ⟨_, _, _, _, _, heq⟩ := honly
      have hmoved : (game.moveUntilTriggers plan.card plan.sourceZone .stack
          plan.owner).1.getPlayer player = some p := by
        rw [heq]
        exact hgame
      rw [hp, hmoved] at hnone
      cases hnone
    · rw [hp] at hfails
      dsimp only at hfails
      rcases hpaid : p.payFromTotalMana plan.cost with message | paid
      · rw [hpaid] at hfails
        exact hplain.unwind_unchanged_iff hbattlefield hstack hlogged htapped
          hplayer hfails
      · rw [hpaid] at hfails
        dsimp only at hfails
        rw [hplain.spellcastTriggers] at hfails
        cases hfails
  · rw [htaps] at hfails
    obtain ⟨haloof, htapped⟩ := hplain.tapSources htaps
    exact hplain.unwind_unchanged_iff hbattlefield hstack haloof
      (htapped.trans htapState) hplayer hfails

/-- The mana payment does not bring back what was sacrificed. -/
theorem afterSacrifices_battlefield (hzone : zone ≠ .battlefield)
    (owner : PlayerId) (cost : ManaCost) (paid : GameState) :
    (methods.afterSacrifices player card zone owner cost sources
      paid).Ensures fun after =>
        after.zones.battlefield = paid.zones.battlefield := by
  rw [CastingMethods.afterSacrifices]
  rcases paid.getPlayer player with - | p
  · rintro after result ⟨⟩
    rfl
  · dsimp only
    split
    · exact hplain.payFor_battlefield hzone paid
    · split
      · exact hplain.payFor_battlefield hzone paid
      · rw [hplain.putBack]
        rintro after result ⟨⟩
        exact GameState.battlefield_moveFromStack hzone paid card owner

/-- Neither does putting the spell back. -/
theorem afterProposal_battlefield {n : Nat} (hzone : zone ≠ .battlefield)
    {owner : PlayerId} {cost : ManaCost} {moved : GameState}
    (hsacrificed : (methods.payRaisedCosts player (moved.abilitiesOf card)
      moved).Ensures fun paid => paid.zones.battlefield.length < n) :
    (methods.afterProposal player card zone owner cost sources
      moved).Ensures fun after => after.zones.battlefield.length < n := by
  rw [CastingMethods.afterProposal]
  rcases hpay : methods.payRaisedCosts player (moved.abilitiesOf card) moved
    with - | ⟨paid, e' | _⟩
  · rintro after result ⟨⟩
  · have hless := hsacrificed _ _ hpay
    dsimp only
    rw [hplain.withSacrifices.putBack]
    rintro after result ⟨⟩
    rwa [GameState.battlefield_moveFromStack hzone]
  · have hless := hsacrificed _ _ hpay
    refine (afterSacrifices_battlefield hplain.withSacrifices hzone owner cost
      paid).mono fun after hsame => ?_
    rwa [hsame]

variable {owner : PlayerId} {cost : ManaCost}
  (hbattlefield : zone ≠ .battlefield) (hstack : zone ≠ .stack)

include hplayer hbattlefield hstack in
/-- The casting fails after costs other than mana asked for nothing. -/
theorem afterSacrifices_unchanged_iff
    (hfails : methods.afterSacrifices player card zone owner
      (methods.totalCost (game.moveUntilTriggers card zone .stack owner).1
        player card numTargets overrideCost) sources
      (game.moveUntilTriggers card zone .stack owner).1 = .error after e) :
    Unchanged player game after ↔
      game.returnsHome card zone owner ∧
        (methods.LacksMana player card numTargets overrideCost sources
            (game.moveUntilTriggers card zone .stack owner).1 ∨
          (game.pools player).map Prod.fst = some {}) := by
  obtain ⟨⟨_, _, _, _, _, heq⟩, hsteady, -⟩ :=
    game.moved_spec card hbattlefield owner
  have hpools : (game.moveUntilTriggers card zone .stack owner).1.pools
      player = game.pools player := by
    rw [heq]
    rfl
  obtain ⟨p, hp⟩ := Option.isSome_iff_exists.mp hplayer
  have hmoved : (game.moveUntilTriggers card zone .stack owner).1.getPlayer
      player = some p := by
    rw [heq]
    exact hp
  rw [CastingMethods.afterSacrifices, hmoved] at hfails
  rw [CastingMethods.LacksMana, hmoved]
  dsimp only at hfails
  split at hfails
  · next hfree =>
    rw [payFor_unchanged_iff hplain hplayer hbattlefield hstack hfails,
      or_iff_right]
    rintro ⟨p', ⟨⟩, hcost, -⟩
    exact hcost hfree
  · next hcost =>
    split at hfails
    · next order horder =>
      rw [payFor_unchanged_iff hplain hplayer hbattlefield hstack hfails,
        or_iff_right]
      rintro ⟨p', ⟨⟩, -, hnone⟩
      rw [horder] at hnone
      cases hnone
    · next hnone =>
      rw [hplain.putBack] at hfails
      cases hfails
      rw [GameState.returned_unchanged_iff hbattlefield hstack (.refl _)
        hpools (GameState.tapState_of_steady hsteady), iff_self_and]
      exact fun _ => .inl ⟨p, rfl, hcost, hnone⟩

end Failing

namespace GameState

/-- A Mountain is tapped for mana unless it is tapped already. -/
def tapMountainOnce (game : GameState) (player : PlayerId) (source : CardId)
    (hint : ManaCost) : Outcome ManaCost :=
  if (game.card? source).any fun card => card.tapped then
    .error game (.invalidAction "Permanent is already tapped")
  else game.tapMountain player source hint

/-- The castings of a game with Mountains and nothing else. -/
def withMountains : CastingMethods :=
  { withMountain ⟨1⟩ with tapForManaAndUpdateHint := tapMountainOnce }

theorem combatPool_addRed (game : GameState) (player : PlayerId) :
    ((game.modifyPlayer player fun p =>
        { p with manaPool := p.manaPool.addColor .red }).getPlayer
      player).map (fun p => p.combatManaPool) =
        (game.getPlayer player).map fun p => p.combatManaPool := by
  rw [getPlayer_modifyPlayer, Option.map_map]
  · rfl
  · exact fun _ => rfl

theorem withMountains_plain (player : PlayerId) :
    withMountains.Plain player where
  delayedTriggers _ _ _ _ := rfl
  spellcastTriggers _ _ := rfl
  aloof game source hint := by
    change (game.tapMountainOnce player source hint).Ensures _
    rw [tapMountainOnce]
    split
    · exact .error (.refl game) _
    · rw [tapMountain, tapPermanent, setTapped]
      split
      · exact .error (.refl game) _
      · split
        · exact .ok ⟨rfl, game.combatPool_addRed player, fun _ _ => rfl⟩ _
        · exact .ok ⟨rfl, game.combatPool_addRed player,
            game.commanderReplaces_modifyCard source fun _ => rfl⟩ _
  taps {game source hint after left} htap := by
    change game.tapMountainOnce player source hint = _ at htap
    rw [tapMountainOnce, tapMountain, tapPermanent, setTapped] at htap
    change (game.card? source).map (fun card => card.tapped) = _ ∧ _
    rcases hcard : game.card? source with - | card
    · rw [hcard] at htap
      cases htap
    · rw [hcard, Option.any_some] at htap
      by_cases hflag : card.tapped = true
      · rw [if_pos hflag] at htap
        cases htap
      · rw [if_neg hflag] at htap
        dsimp only at htap
        rw [if_neg hflag] at htap
        cases htap
        refine ⟨congrArg some (Bool.eq_false_of_not_eq_true hflag), ?_⟩
        have hwritten : (game.modifyCard source Card.tap).tapView =
            game.tapView.write source true :=
          game.tapView_modifyCard source fun _ => rfl
        exact congrArg TapView.state hwritten
  refuses {game source hint after e} htap := by
    change game.tapMountainOnce player source hint = _ at htap
    rw [tapMountainOnce, tapMountain, tapPermanent, setTapped] at htap
    rcases hcard : game.card? source with - | card
    · rw [hcard] at htap
      cases htap
      rfl
    · rw [hcard, Option.any_some] at htap
      by_cases hflag : card.tapped = true
      · rw [if_pos hflag] at htap
        cases htap
        rfl
      · rw [if_neg hflag] at htap
        dsimp only at htap
        rw [if_neg hflag] at htap
        cases htap

/-- A red spell and a tapped Mountain. -/
def spellAndTappedMountain (staticAbilities : List StaticAbility)
    (manaPool : ManaPool) : GameState where
  cards := ⟨[
    some
      { id := ⟨0⟩
        owner := ⟨0⟩
        controller := ⟨0⟩
        types := [.instant]
        manaCost := { red := 1 }
        staticAbilities },
    some
      { id := ⟨1⟩
        owner := ⟨0⟩
        controller := ⟨0⟩
        types := [.land]
        definition := { cache := { isLand := true } }
        tapped := true }]⟩
  players := [{ id := ⟨0⟩, manaPool }, { id := ⟨1⟩ }]
  zones :=
    { battlefield := [⟨1⟩]
      playerZones := [(⟨0⟩, { hand := [⟨0⟩] }), (⟨1⟩, {})] }
  turn := { activePlayer := ⟨0⟩ }

end GameState

end DeepScry
