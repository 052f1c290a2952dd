/-
When a spell fizzles: the test on its targets, and what becomes of a spell
whose targets are gone.
-/
import DeepScry.CastingCharge
import DeepScry.SpellPhases

namespace DeepScry

/-- Something sends the spell to exile instead of the graveyard. -/
def Card.exiledInstead (c : Card) : Bool :=
  c.isToken || c.exileIfWouldGoToGraveyardThisTurn || c.castAsAdventure ||
    c.hasKeyword .epic

/-- A spell that is put onto the battlefield. -/
def Card.isPermanentSpell (c : Card) : Bool :=
  !c.castAsAdventure && !c.hasKeyword .epic &&
    SpellMethods.defaultDestination c == .battlefield

/-- No delayed trigger waits for a move. -/
def SpellMethods.NoDelayedTriggers (methods : SpellMethods) : Prop :=
  ∀ game card fromZone toZone,
    methods.checkDelayedTriggers game card fromZone toZone = .ok game ()

/-- A spell with targets fizzles only when all of them are gone; it has no
effect then and is buried. -/
structure FizzleRule (game : GameState) (card : CardId) (c : Card)
    (chosenTargets : List CardId) : Prop where
  executes : (∃ target ∈ chosenTargets, game.isGone target = false) →
    c.effects ≠ [] → ∀ methods : SpellMethods,
      methods.resolveSpellExecuteEffects game card chosenTargets =
        methods.executeAll { game with currentSpellController := some c.owner }
          card c chosenTargets
  nothing : (∀ target ∈ chosenTargets, game.isGone target = true) →
    ∀ methods : SpellMethods,
      methods.resolveSpellExecuteEffects game card chosenTargets =
        .ok { game with currentSpellController := none } ()
  noEntry : (∀ target ∈ chosenTargets, game.isGone target = true) →
    ∀ (methods : SpellMethods) entersTriggers,
      { methods with checkEntersTriggers := entersTriggers }.resolveSpell
          game card chosenTargets =
        methods.resolveSpell game card chosenTargets
  buried : (∀ target ∈ chosenTargets, game.isGone target = true) →
    ∀ methods : SpellMethods, methods.NoDelayedTriggers →
      ∃ after zone,
        methods.resolveSpell game card chosenTargets = .ok after () ∧
          zone = (if c.exiledInstead then .exile else .graveyard) ∧
          after.zones.holds (game.moveDestination card zone) c.owner card =
            true
  agree : ∀ methods : SpellMethods,
    (methods.resolveSpellCollectEffects game card chosenTargets = .ok none ∧
      methods.resolveSpellExecuteEffects game card chosenTargets =
        .ok { game with currentSpellController := none } ()) ∨
    ∃ effects, methods.resolveSpellCollectEffects game card chosenTargets =
        .ok (some effects) ∧
      methods.resolveSpellExecuteEffects game card chosenTargets =
        methods.executeAll { game with currentSpellController := some c.owner }
          card c chosenTargets

namespace GameState

variable {game : GameState} {chosenTargets : List CardId}

/-- One missing target is enough for the test. -/
theorem allTargetsIllegal_iff (game : GameState)
    (chosenTargets : List CardId) :
    game.allTargetsIllegal chosenTargets = true ↔
      ∃ target ∈ chosenTargets, game.isGone target = true := by
  rw [allTargetsIllegal, Bool.and_eq_true, List.any_eq_true]
  constructor
  · exact fun hillegal => hillegal.2
  · rintro ⟨target, hmem, hgone⟩
    refine ⟨?_, target, hmem, hgone⟩
    cases chosenTargets with
    | nil => cases hmem
    | cons head rest => rfl

end GameState

namespace SpellMethods

variable {methods : SpellMethods} {game : GameState} {card : CardId}
  {c : Card} {chosenTargets : List CardId}

theorem resolveSpellExecuteEffects_of_illegal
    (hcard : game.cards.get card.raw = some c)
    (hillegal : game.allTargetsIllegal chosenTargets = true) :
    methods.resolveSpellExecuteEffects game card chosenTargets =
      .ok { game with currentSpellController := none } () := by
  rw [resolveSpellExecuteEffects, hcard]
  exact if_pos hillegal

theorem resolveSpellExecuteEffects_of_legal
    (hcard : game.cards.get card.raw = some c)
    (hlegal : game.allTargetsIllegal chosenTargets = false) :
    methods.resolveSpellExecuteEffects game card chosenTargets =
      methods.executeAll { game with currentSpellController := some c.owner }
        card c chosenTargets := by
  rw [resolveSpellExecuteEffects, hcard]
  exact if_neg (Bool.eq_false_iff.mp hlegal)

theorem resolveSpellCollectEffects_eq
    (hcard : game.cards.get card.raw = some c) :
    methods.resolveSpellCollectEffects game card chosenTargets =
      if game.allTargetsIllegal chosenTargets then .ok none
      else .ok (some (methods.collectFrom game card
        (game.spellContext card c.owner chosenTargets)
        (methods.snapshotTargetAmounts game chosenTargets) c.effects {})) := by
  rw [resolveSpellCollectEffects, hcard]

theorem card?_of_get {game : GameState} (hcard :
    game.cards.get card.raw = some c) : game.card? card = some c := by
  rw [EntityStore.get] at hcard
  split at hcard
  · cases hcard
  · exact hcard

/-- A move without delayed triggers. -/
theorem moveCard_of_noDelayedTriggers (hquiet : methods.NoDelayedTriggers)
    (game : GameState) (id : CardId) (fromZone toZone : Zone)
    (owner : PlayerId) :
    methods.moveCard game id fromZone toZone owner =
      .ok (game.moveUntilTriggers id fromZone toZone owner).1 () := by
  rw [moveCard]
  rcases game.moveUntilTriggers id fromZone toZone owner with
    ⟨moved, hmoved | hmoved⟩
  · rfl
  · exact hquiet _ _ _ _

/-- A card on the stack arrives where it is sent. -/
theorem moveUntilTriggers_stack_holds (game : GameState)
    (hstack : game.zones.stack.contains card = true)
    {owner : PlayerId}
    (howner : (game.zones.getPlayerZones owner).isSome = true)
    {toZone : Zone} (hto : toZone ≠ .battlefield) :
    (game.moveUntilTriggers card .stack toZone owner).1.zones.holds
      (game.moveDestination card toZone) owner card = true := by
  have hholds : game.zones.holds .stack owner card = true := hstack
  have hzones := (game.moveUntilTriggers_off_battlefield card
    (by decide : Zone.stack ≠ .battlefield) hto owner).2.2
  rw [hzones, if_pos hholds]
  exact Zones.holds_afterMove howner card _ _

/-- The destination depends on the commander flag alone. -/
theorem moveDestination_of_card {other : GameState} {c c' : Card}
    (hgame : other.isCommanderGame = game.isCommanderGame)
    (hcard : game.card? card = some c) (hother : other.card? card = some c')
    (hflag : c'.isCommander = c.isCommander) (toZone : Zone) :
    other.moveDestination card toZone = game.moveDestination card toZone := by
  rw [GameState.moveDestination, GameState.moveDestination,
    GameState.commanderReplaces, GameState.commanderReplaces, hgame, hcard,
    hother, Option.any_some, Option.any_some, hflag]

/-- What is left of the card without the battlefield. -/
theorem resolveSpellFinalize_of_not_permanent
    (hcard : game.cards.get card.raw = some c)
    (hstack : game.zones.stack.contains card = true)
    (hpermanent : c.isPermanentSpell = false) :
    methods.resolveSpellFinalize game card chosenTargets =
      if c.castAsAdventure then methods.finalizeAdventureSpell game card
      else if c.hasKeyword .epic then methods.finalizeEpicSpell game card c
      else if c.isToken then
        methods.moveCard (game.forgetTargets card) card .stack .exile c.owner
      else
        methods.moveCard game card .stack
          (if c.exileIfWouldGoToGraveyardThisTurn then .exile
          else .graveyard) c.owner := by
  rw [resolveSpellFinalize, hcard]
  simp only [hstack, Bool.and_true, Bool.not_true, Bool.false_eq_true,
    ↓reduceIte]
  by_cases hadventure : c.castAsAdventure = true
  · rw [if_pos hadventure, if_pos hadventure]
  · rw [if_neg hadventure, if_neg hadventure]
    by_cases hepic : c.hasKeyword .epic = true
    · rw [if_pos hepic, if_pos hepic]
    · have hgraveyard : defaultDestination c = .graveyard := by
        rw [Card.isPermanentSpell, Bool.eq_false_iff.mpr hadventure,
          Bool.eq_false_iff.mpr hepic, defaultDestination] at hpermanent
        rw [defaultDestination]
        split at hpermanent
        · rename_i htypes
          rw [if_pos htypes]
        · cases hpermanent
      rw [if_neg hepic, if_neg hepic, if_pos hgraveyard]

theorem finalizeEpicSpell_holds (hquiet : methods.NoDelayedTriggers)
    (hcard : game.card? card = some c)
    (hstack : game.zones.stack.contains card = true)
    (howner : (game.zones.getPlayerZones c.owner).isSome = true) :
    ∃ after, methods.finalizeEpicSpell game card c = .ok after () ∧
      after.zones.holds (game.moveDestination card .exile) c.owner card =
        true := by
  rw [finalizeEpicSpell]
  generalize hbarred : (game.modifyPlayer c.owner fun p =>
    { p with cantCastSpells := true }).logAction _ _ = barred
  have hregistered : ∀ registered : GameState,
      registered.zones = game.zones → registered.cards = game.cards →
      registered.isCommanderGame = game.isCommanderGame →
      ∃ after, (if registered.zones.stack.contains card then
          methods.moveCard registered card .stack .exile c.owner
        else .ok registered ()) = .ok after () ∧
        after.zones.holds (game.moveDestination card .exile) c.owner card =
          true := by
    intro registered hzones hcards hgame
    rw [hzones, if_pos hstack, moveCard_of_noDelayedTriggers hquiet]
    refine ⟨_, rfl, ?_⟩
    rw [← moveDestination_of_card hgame hcard
      (by rw [GameState.card?, hcards]; exact hcard) rfl]
    apply moveUntilTriggers_stack_holds registered
    · rw [hzones]
      exact hstack
    · rw [hzones]
      exact howner
    · decide
  subst hbarred
  cases c.effects with
  | nil => exact hregistered _ rfl rfl rfl
  | cons effect rest => exact hregistered _ rfl rfl rfl

theorem finalizeAdventureSpell_holds (hquiet : methods.NoDelayedTriggers)
    (hcard : game.cards.get card.raw = some c)
    (hstack : game.zones.stack.contains card = true)
    (howner : (game.zones.getPlayerZones c.owner).isSome = true) :
    ∃ after, methods.finalizeAdventureSpell game card = .ok after () ∧
      after.zones.holds (game.moveDestination card .exile) c.owner card =
        true := by
  rw [finalizeAdventureSpell, hcard]
  dsimp only
  rw [moveCard_of_noDelayedTriggers hquiet]
  refine ⟨_, rfl, ?_⟩
  have hrestored : ((game.modifyCard card (creatureFace game)).forgetTargets
      card).card? card = some (creatureFace game c) := by
    rw [GameState.forgetTargets, GameState.card?, GameState.modifyCard]
    dsimp only
    rw [EntityStore.tryGet_modify, if_pos rfl]
    exact congrArg (Option.map _) (card?_of_get hcard)
  have hgame : ((game.modifyCard card (creatureFace game)).forgetTargets
      card).isCommanderGame = game.isCommanderGame := rfl
  rw [← moveDestination_of_card hgame (card?_of_get hcard) hrestored rfl]
  have hholds := moveUntilTriggers_stack_holds
    ((game.modifyCard card (creatureFace game)).forgetTargets card) hstack
    howner (by decide : Zone.exile ≠ .battlefield)
  exact hholds

/-- A spell that is no permanent is buried: exiled if something exiles it. -/
theorem resolveSpellFinalize_holds (game : GameState)
    (chosenTargets : List CardId) (hquiet : methods.NoDelayedTriggers)
    (hcard : game.cards.get card.raw = some c)
    (hstack : game.zones.stack.contains card = true)
    (howner : (game.zones.getPlayerZones c.owner).isSome = true)
    (hpermanent : c.isPermanentSpell = false) :
    ∃ after, methods.resolveSpellFinalize game card chosenTargets =
        .ok after () ∧
      after.zones.holds (game.moveDestination card
        (if c.exiledInstead then .exile else .graveyard)) c.owner card =
          true := by
  rw [resolveSpellFinalize_of_not_permanent hcard hstack hpermanent,
    Card.exiledInstead]
  cases hadventure : c.castAsAdventure with
  | true =>
      rw [if_pos rfl, Bool.or_true, Bool.true_or, if_pos rfl]
      exact finalizeAdventureSpell_holds hquiet hcard hstack howner
  | false =>
      rw [if_neg Bool.false_ne_true, Bool.or_false]
      cases hepic : c.hasKeyword .epic with
      | true =>
          rw [if_pos rfl, Bool.or_true, if_pos rfl]
          exact finalizeEpicSpell_holds hquiet (card?_of_get hcard) hstack
            howner
      | false =>
          rw [if_neg Bool.false_ne_true, Bool.or_false]
          cases htoken : c.isToken with
          | true =>
              rw [if_pos rfl, Bool.true_or, if_pos rfl,
                moveCard_of_noDelayedTriggers hquiet]
              refine ⟨_, rfl, ?_⟩
              exact moveUntilTriggers_stack_holds (game.forgetTargets card)
                hstack howner (by decide : Zone.exile ≠ .battlefield)
          | false =>
              rw [if_neg Bool.false_ne_true, Bool.false_or,
                moveCard_of_noDelayedTriggers hquiet]
              refine ⟨_, rfl, ?_⟩
              apply moveUntilTriggers_stack_holds game hstack howner
              split
              · decide
              · decide

/-- All the same whatever the triggers for entering would do. -/
theorem resolveSpellFinalize_entersTriggers (game : GameState)
    (hcard : game.cards.get card.raw = some c)
    (hstack : game.zones.stack.contains card = true)
    (hpermanent : c.isPermanentSpell = false)
    (entersTriggers : GameState → CardId → Outcome Unit) :
    { methods with checkEntersTriggers := entersTriggers
      }.resolveSpellFinalize game card chosenTargets =
      methods.resolveSpellFinalize game card chosenTargets := by
  rw [resolveSpellFinalize_of_not_permanent hcard hstack hpermanent,
    resolveSpellFinalize_of_not_permanent hcard hstack hpermanent]
  rfl

/-- The engine with nothing to do: no effect does anything and no trigger
waits. -/
def idle : SpellMethods where
  evaluateCountWithSource _ _ _ _ := none
  isLegalTarget _ _ _ := false
  getEffectivePower _ _ := none
  getEffectiveToughness _ _ := none
  executeEffect game _ := .ok game ()
  checkTriggersWithDamage game _ _ := .ok game ()
  checkDelayedTriggers game _ _ _ := .ok game ()
  delayedEffect _ := .unsupported 0
  attachAura game _ _ := .ok game ()
  reanimateAuraTarget game _ _ _ := .ok game ()
  applyEtbCounters game _ := .ok game ()
  advanceSagaLoreCounter game _ := .ok game ()
  checkEntersTriggers game _ := .ok game ()
  createOffspringTokenIfPaid game _ := .ok game ()

theorem idle_settleAura (game : GameState) (card : CardId) (owner : PlayerId)
    (chosenTargets : List CardId) :
    ∃ after, idle.settleAura game card owner chosenTargets =
      .ok after () := by
  rw [settleAura.eq_def]
  cases chosenTargets with
  | nil => exact ⟨game, rfl⟩
  | cons target rest =>
      dsimp only
      split
      · split
        · exact ⟨game, rfl⟩
        · split
          · exact ⟨game, rfl⟩
          · exact ⟨_, moveCard_of_noDelayedTriggers (fun _ _ _ _ => rfl)
              _ _ _ _ _⟩
      · exact ⟨game, rfl⟩

/-- A permanent spell gets to the triggers for entering. -/
theorem idle_resolveSpellFinalize_of_permanent (game : GameState)
    (chosenTargets : List CardId)
    (hcard : game.cards.get card.raw = some c)
    (hstack : game.zones.stack.contains card = true)
    (hpermanent : c.isPermanentSpell = true)
    (entersTriggers : GameState → CardId → Outcome Unit) :
    ∃ entered, { idle with checkEntersTriggers := entersTriggers
      }.resolveSpellFinalize game card chosenTargets =
        (entersTriggers entered card).andThen fun game _ => .ok game () := by
  rw [Card.isPermanentSpell, Bool.and_eq_true, Bool.and_eq_true,
    Bool.not_eq_true', Bool.not_eq_true', beq_iff_eq] at hpermanent
  obtain ⟨⟨hadventure, hepic⟩, hbattlefield⟩ := hpermanent
  rw [resolveSpellFinalize, hcard]
  simp only [hadventure, hepic, hstack, hbattlefield, Bool.false_and,
    Bool.not_true, Bool.false_eq_true, ↓reduceIte, reduceCtorEq]
  rw [moveCard_of_noDelayedTriggers (fun _ _ _ _ => rfl)]
  obtain ⟨settled, hsettled⟩ := idle_settleAura (recordEntry
    (game.moveUntilTriggers card .stack .battlefield c.owner).1 card) card
    c.owner chosenTargets
  refine ⟨settled, ?_⟩
  change ((idle.settleAura _ card c.owner chosenTargets).andThen _) = _
  rw [hsettled]
  rfl

theorem resolveSpellExecuteEffects_of_gone
    (hcard : game.cards.get card.raw = some c) (htargets : chosenTargets ≠ [])
    (hgone : ∀ target ∈ chosenTargets, game.isGone target = true) :
    methods.resolveSpellExecuteEffects game card chosenTargets =
      .ok { game with currentSpellController := none } () := by
  obtain ⟨target, rest, rfl⟩ := List.exists_cons_of_ne_nil htargets
  apply resolveSpellExecuteEffects_of_illegal hcard
  exact (game.allTargetsIllegal_iff _).mpr
    ⟨target, List.mem_cons_self, hgone target List.mem_cons_self⟩

/-- A spell whose targets are all gone is only finalized. -/
theorem resolveSpell_of_gone
    (hcard : game.cards.get card.raw = some c) (htargets : chosenTargets ≠ [])
    (hgone : ∀ target ∈ chosenTargets, game.isGone target = true) :
    methods.resolveSpell game card chosenTargets =
      methods.resolveSpellFinalize
        { game with currentSpellController := none } card chosenTargets := by
  rw [resolveSpell, resolveSpellExecuteEffects_of_gone hcard htargets hgone]
  rfl

/-- An engine that cannot execute any effect. -/
def failing : SpellMethods :=
  { idle with executeEffect := fun game _ => .error game .needInput }

/-- Every effect is executed for somebody. -/
theorem expandAllPlayers_ne_nil {players : List PlayerId}
    (hplayers : players ≠ []) (effect : SpellEffect) :
    effect.expandAllPlayers players ≠ [] := by
  rw [SpellEffect.expandAllPlayers.eq_def]
  split
  · split
    · exact fun hnil => hplayers (List.map_eq_nil_iff.mp hnil)
    · exact List.cons_ne_nil _ _
  · exact List.cons_ne_nil _ _

/-- Where effects are executed, a failing one shows. -/
theorem failing_executeAll (started : GameState)
    (chosenTargets : List CardId)
    (hcard : started.cards.get card.raw = some c)
    (heffects : c.effects ≠ []) (hplayers : started.playerIds ≠ []) :
    ∃ after e, failing.executeAll started card c chosenTargets =
      .error after e := by
  obtain ⟨effect, rest, hlist⟩ := List.exists_cons_of_ne_nil heffects
  rw [executeAll, hlist, List.length_cons, executeFrom]
  simp only [hcard, hlist, List.getElem?_cons_zero]
  have hresolved := expandAllPlayers_ne_nil hplayers
    ((failing.resolveEffectTarget { started with
      damageDealtBySource := some 0 } (started.spellContext card c.owner
        chosenTargets) (effect.resolveXPaid c.xPaid) {}).1.complete card
          (failing.snapshotTargetAmounts started chosenTargets))
  obtain ⟨first, others, hfirst⟩ := List.exists_cons_of_ne_nil hresolved
  rw [resolveOne]
  change ∃ after e, (((failing.runAsSource card
    (SpellEffect.expandAllPlayers started.playerIds _) _).andThen _).andThen
      _) = _
  rw [hfirst]
  exact ⟨_, _, rfl⟩

end SpellMethods

variable {game : GameState} {card : CardId} {c : Card}
  {chosenTargets : List CardId}

/-- A spell of a player, in a game where the player has zones. -/
structure SpellOnStack (game : GameState) (card : CardId) (c : Card) : Prop
    where
  isCard : game.cards.get card.raw = some c
  onStack : game.zones.stack.contains card = true
  isPlayer : c.owner ∈ game.playerIds
  hasZones : (game.zones.getPlayerZones c.owner).isSome = true

/-- The test asks for one missing target where it means all of them, and a
permanent whose targets are gone still enters the battlefield. -/
theorem fizzleRule_iff (hspell : SpellOnStack game card c)
    (htargets : chosenTargets ≠ []) :
    FizzleRule game card c chosenTargets ↔
      ((∃ target ∈ chosenTargets, game.isGone target = false) →
        c.effects ≠ [] →
          ∀ target ∈ chosenTargets, game.isGone target = false) ∧
      ((∀ target ∈ chosenTargets, game.isGone target = true) →
        c.isPermanentSpell = false) := by
  obtain ⟨hcard, hstack, hplayer, hzones⟩ := hspell
  have hplayers : game.playerIds ≠ [] := List.ne_nil_of_mem hplayer
  constructor
  · rintro ⟨hexecutes, -, hnoEntry, -, -⟩
    refine ⟨fun hsome heffects target hmem => ?_, fun hgone => ?_⟩
    · rw [Bool.eq_false_iff]
      intro htarget
      have hillegal := (game.allTargetsIllegal_iff chosenTargets).mpr
        ⟨target, hmem, htarget⟩
      have hall := hexecutes hsome heffects SpellMethods.failing
      obtain ⟨after, e, hfails⟩ := SpellMethods.failing_executeAll
        { game with currentSpellController := some c.owner } chosenTargets
        hcard heffects hplayers
      rw [SpellMethods.resolveSpellExecuteEffects_of_illegal hcard hillegal,
        hfails] at hall
      cases hall
    · rw [Bool.eq_false_iff]
      intro hpermanent
      have hsame := hnoEntry hgone SpellMethods.idle
        fun game _ => .error game .needInput
      rw [SpellMethods.resolveSpell_of_gone hcard htargets hgone,
        SpellMethods.resolveSpell_of_gone hcard htargets hgone] at hsame
      obtain ⟨entered, hentered⟩ :=
        SpellMethods.idle_resolveSpellFinalize_of_permanent
          { game with currentSpellController := none } chosenTargets hcard
          hstack hpermanent fun game _ => .error game .needInput
      obtain ⟨quiet, hquiet⟩ :=
        SpellMethods.idle_resolveSpellFinalize_of_permanent
          { game with currentSpellController := none } chosenTargets hcard
          hstack hpermanent SpellMethods.idle.checkEntersTriggers
      rw [hentered] at hsame
      have hok := hsame.trans hquiet
      cases hok
  · rintro ⟨htest, hburied⟩
    refine ⟨fun hsome heffects methods => ?_, fun hgone methods => ?_,
      fun hgone methods entersTriggers => ?_, fun hgone methods hquiet => ?_,
      fun methods => ?_⟩
    · apply SpellMethods.resolveSpellExecuteEffects_of_legal hcard
      rw [Bool.eq_false_iff]
      intro hillegal
      obtain ⟨target, hmem, htarget⟩ :=
        (game.allTargetsIllegal_iff chosenTargets).mp hillegal
      rw [htest hsome heffects target hmem] at htarget
      cases htarget
    · exact SpellMethods.resolveSpellExecuteEffects_of_gone hcard htargets
        hgone
    · rw [SpellMethods.resolveSpell_of_gone hcard htargets hgone,
        SpellMethods.resolveSpell_of_gone hcard htargets hgone]
      exact SpellMethods.resolveSpellFinalize_entersTriggers
        { game with currentSpellController := none } hcard hstack
          (hburied hgone) entersTriggers
    · rw [SpellMethods.resolveSpell_of_gone hcard htargets hgone]
      obtain ⟨after, hafter, hholds⟩ :=
        SpellMethods.resolveSpellFinalize_holds
          { game with currentSpellController := none } chosenTargets hquiet
          hcard hstack hzones (hburied hgone)
      exact ⟨after, _, hafter, rfl, hholds⟩
    · rw [SpellMethods.resolveSpellCollectEffects_eq hcard]
      cases hillegal : game.allTargetsIllegal chosenTargets with
      | true =>
          exact .inl ⟨rfl, SpellMethods.resolveSpellExecuteEffects_of_illegal
            hcard hillegal⟩
      | false =>
          exact .inr ⟨_, rfl, SpellMethods.resolveSpellExecuteEffects_of_legal
            hcard hillegal⟩

/-- A spell with this type on the stack, a creature on the battlefield and
one in the graveyard. -/
def spellWithTargets (cardType : CardType) : GameState where
  cards := ⟨[none,
    some { id := ⟨1⟩, owner := ⟨0⟩, controller := ⟨0⟩
           types := [cardType]
           effects := [.onTarget .exilePermanent ⟨0⟩] },
    some { id := ⟨2⟩, owner := ⟨1⟩, controller := ⟨1⟩ },
    some { id := ⟨3⟩, owner := ⟨1⟩, controller := ⟨1⟩ }]⟩
  players := [{ id := ⟨0⟩ }, { id := ⟨1⟩ }]
  zones :=
    { battlefield := [⟨2⟩]
      stack := [⟨1⟩]
      playerZones := [(⟨0⟩, {}), (⟨1⟩, { graveyard := [⟨3⟩] })] }
  turn := { activePlayer := ⟨0⟩ }

/-- A spell with its one target on the battlefield. -/
theorem fizzleRule_of_target :
    ∃ c, FizzleRule (spellWithTargets .instant) ⟨1⟩ c [⟨2⟩] := by
  have hspell : SpellOnStack (spellWithTargets .instant) ⟨1⟩ _ :=
    ⟨rfl, by decide, by decide, by decide⟩
  refine ⟨_, (fizzleRule_iff hspell (List.cons_ne_nil _ _)).mpr ⟨?_, ?_⟩⟩
  · intro _ _
    decide
  · intro _
    decide

/-- One of two targets is missing, and the spell does nothing; an enchantment
enters the battlefield without its target. -/
theorem not_fizzleRule :
    (∀ c, (spellWithTargets .instant).cards.get 1 = some c →
      ¬ FizzleRule (spellWithTargets .instant) ⟨1⟩ c [⟨2⟩, ⟨3⟩]) ∧
    ∀ c, (spellWithTargets .enchantment).cards.get 1 = some c →
      ¬ FizzleRule (spellWithTargets .enchantment) ⟨1⟩ c [⟨3⟩] := by
  constructor
  · rintro c ⟨⟩ hrule
    have hexecutes := hrule.executes (by decide) (by decide)
      SpellMethods.failing
    have hok := congrArg (fun outcome =>
      Option.any (fun result => result.2.isOk) outcome) hexecutes
    revert hok
    decide
  · rintro c ⟨⟩ hrule
    have hsame := hrule.noEntry (by decide) SpellMethods.idle
      fun game _ => .error game .needInput
    have hok := congrArg (fun outcome =>
      Option.any (fun result => result.2.isOk) outcome) hsame
    revert hok
    decide

end DeepScry
