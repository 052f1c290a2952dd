/-
Optional costs and the mana for the spell: each extra is measured against the
printed cost alone, so several together, or with a tax, may be too much.
-/
import DeepScry.Announcements
import DeepScry.MoveStages

namespace DeepScry

open Saturating

namespace Card

/-- The card as if nothing had been announced for it. -/
def unannounced (card : Card) : Card :=
  { card with
    effects := []
    xPaid := 0
    timesKicked := 0
    bargainPaid := false
    kickerPaid := false
    offspringPaid := false
    modeCostPaid := 0 }

theorem eq_of_unannounced {α : Type} {f : Card → α}
    (hf : ∀ c : Card, f c.unannounced = f c) {card card' : Card}
    (hsame : card.unannounced = card'.unannounced) : f card = f card' :=
  (hf card).symm.trans ((congrArg f hsame).trans (hf card'))

/-- As many kicks as the spare mana pays for. -/
def kicks (spell : Card) (spare : UInt8) : UInt8 :=
  match spell.multikickerCost with
  | none => spell.timesKicked
  | some kick => if 0 < kick.cmc then spare / kick.cmc else spell.timesKicked

/-- Whether the kicker is paid, or was before. -/
def kicked (spell : Card) (spare : UInt8) : Bool :=
  spell.kickerPaid ||
    spell.kickerCost.any fun kick => 0 < kick.cmc && kick.cmc ≤ spare

/-- Whether the offspring is paid, or was before. -/
def offspringOffered (spell : Card) (spare : UInt8) : Bool :=
  spell.offspringPaid ||
    spell.offspringCost.any fun cost => 0 < cost.cmc && cost.cmc ≤ spare

/-- The effects with the chosen modes in place of the choice. -/
def chosenEffects (spell : Card) (modes : Option (List Nat)) :
    List SpellEffect :=
  match modes with
  | none => spell.effects
  | some indices =>
      (SpellEffect.applySelectedModes indices spell.effects).1

/-- The cost of the chosen modes, or what was left of another choice. -/
def modeCost (spell : Card) (modes : Option (List Nat)) : UInt8 :=
  match modes with
  | none => spell.modeCostPaid
  | some indices =>
      let cost := (SpellEffect.applySelectedModes indices spell.effects).2
      if 0 < cost then cost else spell.modeCostPaid

/-- The spell with the extras that its budgets let through. -/
def withExtras (spell : Card) (modes : Option (List Nat)) (x spare : UInt8) :
    Card :=
  { spell with
    xPaid := x
    timesKicked := spell.kicks spare
    kickerPaid := spell.kicked spare
    modeCostPaid := spell.modeCost modes }

/-- The spell with all that is announced. -/
def announcing (spell : Card) (modes : Option (List Nat)) (x spare : UInt8) :
    Card :=
  { spell.withExtras modes x spare with
    effects := spell.chosenEffects modes
    offspringPaid := spell.offspringOffered spare }

end Card

/-- The cost with everything that is announced on the card. -/
def CostQueries.price (spell : Card) (cost : ManaCost) : ManaCost :=
  withModeCost spell (withKicker spell (withMultikicker spell
    (withX spell cost)))

/-- Only the announcements on one card and the two logs differ. -/
structure Announced (card : CardId) (spell spell' : Card)
    (before after : ArmState) : Prop where
  engine : after.engine = before.engine
  found : before.game.card? card = some spell
  game : ∃ undoLog logger, after.game =
    { before.game with
      cards := before.game.cards.modify card.raw fun _ => spell'
      undoLog, logger }
  unannounced : spell'.unannounced = spell.unannounced

/-- What is counted for a cost does not depend on announcements. -/
structure CostQueries.Blind (queries : CostQueries) : Prop where
  count : ∀ {card spell spell' before after player filter zone},
    Announced card spell spell' before after →
      queries.countCardsMatchingFilter after.game player filter zone =
        queries.countCardsMatchingFilter before.game player filter zone
  evaluate : ∀ {card spell spell' before after player expression},
    Announced card spell spell' before after →
      queries.evaluateCountExpression after.game expression player =
        queries.evaluateCountExpression before.game expression player

namespace AnnouncementMethods

variable (methods : AnnouncementMethods) (player : PlayerId) (card : CardId)

/-- A spell that could be paid without extras can be paid with those that are
announced. -/
def StaysCastable (state : ArmState) : Prop :=
  let started := state.updateEngine player
  ∀ spell, started.game.getCard card = some spell →
    started.engine.canPayWithPool
        (CostQueries.price spell.unannounced
          (methods.changedCost started.game player spell))
        (started.pool player) = true →
      ∀ after, methods.announceCosts player card started = .ok after →
        after.engine.canPayWithPool
          (methods.calculateEffectiveCost after.game player card)
          (after.pool player) = true

/-- X of a spell with X in its cost, once the modes are chosen. -/
def XFor (spell : Card) (chosen : ArmState) (x : UInt8) : Prop :=
  if spell.manaCost.hasX then methods.chosenX player card spell chosen = .ok x
  else x = spell.xPaid

/-- The sources and the pools cover the cost with the extras: X, the kicks and
the kicker that the spare mana allows one by one, and the modes. -/
def ExtrasFit (state : ArmState) : Prop :=
  let started := state.updateEngine player
  ∀ spell, started.game.getCard card = some spell →
    started.engine.canPayWithPool
        (CostQueries.price spell.unannounced
          (methods.changedCost started.game player spell))
        (started.pool player) = true →
      ∀ modes x, methods.chosenModes player card started = .ok modes →
        methods.XFor player card spell
            (methods.afterModes player card modes started) x →
          started.engine.canPayWithPool
            (CostQueries.price
              (spell.withExtras modes x (started.spareMana player card))
              (methods.changedCost started.game player spell))
            (started.pool player) = true

end AnnouncementMethods

namespace ArmState

variable {state : ArmState} {player : PlayerId}

theorem updateEngine_of_upToDate
    (hcurrent : state.engine.upToDate state.game player = true) :
    state.updateEngine player = state := by
  rw [updateEngine, ManaEngine.updateMut, if_pos hcurrent]

theorem upToDate_updateEngine (state : ArmState) (player : PlayerId) :
    (state.updateEngine player).engine.upToDate
      (state.updateEngine player).game player = true :=
  state.engine.upToDate_updateMut state.game player

end ArmState

theorem found_of_getCard {game : GameState} {card : CardId} {spell : Card}
    (hcard : game.getCard card = some spell) :
    game.card? card = some spell := by
  rw [GameState.getCard, EntityStore.get] at hcard
  split at hcard
  · cases hcard
  · exact hcard

namespace Announced

variable {card : CardId} {spell spell' spell'' : Card} {player : PlayerId}
  {before after third : ArmState}

theorem refl (hfound : before.game.card? card = some spell) :
    Announced card spell spell before before where
  engine := rfl
  found := hfound
  game := ⟨_, _, by rw [EntityStore.modify_eq_self_of_tryGet hfound rfl]⟩
  unannounced := rfl

theorem trans (hfirst : Announced card spell spell' before after)
    (hsecond : Announced card spell' spell'' after third) :
    Announced card spell spell'' before third where
  engine := hsecond.engine.trans hfirst.engine
  found := hfirst.found
  game := by
    obtain ⟨undoLog, logger, hafter⟩ := hfirst.game
    obtain ⟨undoLog', logger', hthird⟩ := hsecond.game
    refine ⟨undoLog', logger', ?_⟩
    rw [hthird, hafter]
    dsimp only
    rw [EntityStore.modify_modify]
    rfl
  unannounced := hsecond.unannounced.trans hfirst.unannounced

/-- The card as it is afterwards. -/
theorem found_after (hannounced : Announced card spell spell' before after) :
    after.game.card? card = some spell' := by
  obtain ⟨_, _, hafter⟩ := hannounced.game
  have hfound := hannounced.found
  rw [GameState.card?] at hfound
  rw [hafter, GameState.card?, EntityStore.tryGet_modify_self, hfound]
  rfl

theorem getCard (hannounced : Announced card spell spell' before after)
    (hcard : before.game.getCard card = some spell) :
    after.game.getCard card = some spell' := by
  have hafter := hannounced.found_after
  rw [GameState.card?] at hafter
  rw [GameState.getCard, EntityStore.get] at hcard ⊢
  split
  · next hsentinel =>
    rw [if_pos hsentinel] at hcard
    cases hcard
  · exact hafter

theorem pool (hannounced : Announced card spell spell' before after) :
    after.pool player = before.pool player := by
  obtain ⟨_, _, hafter⟩ := hannounced.game
  rw [ArmState.pool, hafter]
  rfl

theorem availableMana
    (hannounced : Announced card spell spell' before after) :
    after.availableMana player = before.availableMana player := by
  rw [ArmState.availableMana, ArmState.availableMana, hannounced.pool,
    hannounced.engine]

theorem upToDate (hannounced : Announced card spell spell' before after)
    (hcurrent : before.engine.upToDate before.game player = true) :
    after.engine.upToDate after.game player = true := by
  obtain ⟨_, _, hafter⟩ := hannounced.game
  rw [hannounced.engine, hafter]
  exact hcurrent

theorem report (hannounced : Announced card spell spell' before after) :
    Announced card spell spell' before after.report := by
  rw [ArmState.report]
  split
  · refine ⟨hannounced.engine, hannounced.found, ?_, hannounced.unannounced⟩
    obtain ⟨_, _, hafter⟩ := hannounced.game
    rw [ArmState.onGame, hafter]
    exact ⟨_, _, rfl⟩
  · exact hannounced

theorem logChoicePoint
    (hannounced : Announced card spell spell' before after)
    (player : PlayerId) (choice : ReplayChoice) (priorLogSize : Nat) :
    Announced card spell spell' before
      (after.logChoicePoint player choice priorLogSize) := by
  refine ⟨hannounced.engine, hannounced.found, ?_, hannounced.unannounced⟩
  obtain ⟨_, _, hafter⟩ := hannounced.game
  rw [ArmState.logChoicePoint, hafter]
  exact ⟨_, _, rfl⟩

/-- A write to the card. -/
theorem modifyCard (write : Card → Card)
    (hfound : before.game.card? card = some spell)
    (hwrite : (write spell).unannounced = spell.unannounced) :
    Announced card spell (write spell) before
      (before.onGame fun game => game.modifyCard card write) := by
  refine ⟨rfl, hfound, ?_, hwrite⟩
  rw [ArmState.onGame, GameState.modifyCard,
    EntityStore.modify_congr_of_tryGet (g := fun _ => write spell) hfound rfl]
  exact ⟨_, _, rfl⟩

/-- A logged write to the card. -/
theorem setLogged (action : Card → GameAction) (write : Card → Card)
    (hfound : before.game.card? card = some spell)
    (hwrite : (write spell).unannounced = spell.unannounced) :
    Announced card spell (write spell) before
      (before.onGame fun game => game.setLogged card action write) := by
  refine ⟨rfl, hfound, ?_, hwrite⟩
  rw [ArmState.onGame, GameState.setLogged, hfound]
  dsimp only
  rw [GameState.modifyCard, GameState.logAction,
    EntityStore.modify_congr_of_tryGet (g := fun _ => write spell) hfound rfl]
  exact ⟨_, _, rfl⟩

/-- The announcements do not change the printed cost. -/
theorem spareMana (hannounced : Announced card spell spell' before after)
    (hcard : before.game.getCard card = some spell) :
    after.spareMana player card = before.spareMana player card := by
  have hcost : spell'.manaCost = spell.manaCost :=
    Card.eq_of_unannounced (f := fun c => c.manaCost) (fun _ => rfl)
      hannounced.unannounced
  rw [ArmState.spareMana, ArmState.spareMana, hannounced.availableMana, hcard,
    hannounced.getCard hcard, Option.map_some, Option.map_some, hcost]

end Announced

section Cost

variable {queries : CostQueries} {card : CardId} {spell spell' : Card}
  {before after : ArmState} (player : PlayerId) (hblind : queries.Blind)
  (hannounced : Announced card spell spell' before after)

include hannounced in
/-- Every card is the same, announcements aside. -/
theorem Announced.sameView (id : CardId) :
    (after.game.card? id).map Card.unannounced =
      (before.game.card? id).map Card.unannounced := by
  have hfound := hannounced.found
  obtain ⟨_, _, hafter⟩ := hannounced.game
  rw [GameState.card?] at hfound
  rw [hafter, GameState.card?, GameState.card?, EntityStore.tryGet_modify]
  split
  · next heq =>
    rw [← heq, hfound]
    exact congrArg some hannounced.unannounced
  · rfl

include hannounced in
theorem Announced.zones : after.game.zones = before.game.zones := by
  obtain ⟨_, _, hafter⟩ := hannounced.game
  rw [hafter]

include hannounced in
theorem Announced.matchesCostFilter (validCard : CostReductionTarget) :
    spell'.matchesCostFilter validCard = spell.matchesCostFilter validCard := by
  apply Card.eq_of_unannounced (f := fun c => c.matchesCostFilter validCard)
  · intro c
    cases validCard <;> rfl
  · exact hannounced.unannounced

include hblind hannounced in
theorem conditionMet_announced (condition : Option CostReductionCondition) :
    queries.conditionMet after.game player condition =
      queries.conditionMet before.game player condition := by
  cases condition with
  | none => rfl
  | some condition =>
      rw [CostQueries.conditionMet, Option.all_some,
        hblind.count hannounced]
      rfl

include hblind hannounced in
theorem reduceBy_announced (amount : CostReductionAmount) :
    queries.reduceBy after.game player amount =
      queries.reduceBy before.game player amount := by
  cases amount with
  | fixed amount => rfl
  | dynamic expression =>
      rw [CostQueries.reduceBy, hblind.evaluate hannounced]
      rfl

include hblind hannounced in
theorem reduceSelf_announced :
    queries.reduceSelf after.game player =
      queries.reduceSelf before.game player := by
  funext cost ability
  rw [CostQueries.reduceSelf.eq_def, CostQueries.reduceSelf.eq_def]
  split
  · rw [conditionMet_announced player hblind hannounced,
      reduceBy_announced player hblind hannounced]
  · rfl

include hblind hannounced in
theorem changeCost_announced {source source' : Card}
    (hsource : source'.unannounced = source.unannounced) :
    queries.changeCost after.game player spell' source' =
      queries.changeCost before.game player spell source := by
  have hcontroller : source'.controller = source.controller :=
    Card.eq_of_unannounced (f := fun c => c.controller) (fun _ => rfl) hsource
  funext cost ability
  rw [CostQueries.changeCost.eq_def, CostQueries.changeCost.eq_def]
  split
  · rw [hcontroller, hannounced.matchesCostFilter,
      conditionMet_announced player hblind hannounced,
      reduceBy_announced player hblind hannounced]
  · rw [hannounced.matchesCostFilter]
  · rfl

include hannounced in
theorem affinityCost_announced :
    CostQueries.affinityCost after.game player spell' =
      CostQueries.affinityCost before.game player spell := by
  have hkeywords : spell'.keywords = spell.keywords :=
    Card.eq_of_unannounced (f := fun c => c.keywords) (fun _ => rfl)
      hannounced.unannounced
  have hcost : spell'.manaCost = spell.manaCost :=
    Card.eq_of_unannounced (f := fun c => c.manaCost) (fun _ => rfl)
      hannounced.unannounced
  rw [CostQueries.affinityCost, CostQueries.affinityCost, hkeywords, hcost,
    hannounced.zones]
  split
  · next cardType _ =>
    have hcount : ∀ id, ((after.game.card? id).any fun c =>
        c.controller == player && c.subtypes.contains cardType) =
      (before.game.card? id).any fun c =>
        c.controller == player && c.subtypes.contains cardType :=
      fun id => GameState.any_of_map_eq (hannounced.sameView id) fun _ => rfl
    simp only [hcount]
  · rfl

include hblind hannounced in
/-- Announcements leave the cost before them alone. -/
theorem changedCost_announced :
    queries.changedCost after.game player spell' =
      queries.changedCost before.game player spell := by
  have habilities : spell'.staticAbilities = spell.staticAbilities :=
    Card.eq_of_unannounced (f := fun c => c.staticAbilities) (fun _ => rfl)
      hannounced.unannounced
  rw [CostQueries.changedCost, CostQueries.changedCost, habilities,
    reduceSelf_announced player hblind hannounced,
    affinityCost_announced player hannounced, hannounced.zones]
  congr 1
  funext cost id
  have hsame := hannounced.sameView id
  cases hafter : after.game.card? id with
  | none =>
      rw [hafter] at hsame
      rw [Option.map_eq_none_iff.mp hsame.symm]
  | some source' =>
      rw [hafter] at hsame
      obtain ⟨source, hbefore, hsource⟩ :=
        Option.map_eq_some_iff.mp hsame.symm
      have hsources : source'.staticAbilities = source.staticAbilities :=
        Card.eq_of_unannounced (f := fun c => c.staticAbilities)
          (fun _ => rfl) hsource.symm
      rw [hbefore]
      dsimp only
      rw [hsources, changeCost_announced player hblind hannounced hsource.symm]

end Cost

namespace AnnouncementMethods

variable {methods : AnnouncementMethods} {player : PlayerId} {card : CardId}
  {state : ArmState} {spell : Card}
  (hcurrent : state.engine.upToDate state.game player = true)

include hcurrent in
/-- The modes are asked for where the engine is up to date. -/
theorem announceModes_eq :
    methods.announceModes player card state =
      (methods.chosenModes player card state).map fun chosen =>
        methods.afterModes player card chosen state := by
  rw [announceModes]
  split
  · next hnone =>
    rw [chosenModes, hnone]
    rfl
  · rw [ArmState.updateEngine_of_upToDate hcurrent]

include hcurrent in
theorem announceX_eq_ok_iff {after : ArmState}
    (hcard : state.game.getCard card = some spell) :
    methods.announceX player card state = .ok after ↔
      ∃ x, methods.XFor player card spell state x ∧
        after = if spell.manaCost.hasX then
            methods.withX player card x state
          else state := by
  rw [announceX, hcard]
  dsimp only [XFor]
  split
  · rw [ArmState.updateEngine_of_upToDate hcurrent]
    cases methods.chosenX player card spell state with
    | error left =>
        constructor
        · exact fun heq => nomatch heq
        · rintro ⟨x, heq, -⟩
          cases heq
    | ok x =>
        constructor
        · rintro ⟨⟩
          exact ⟨x, rfl, rfl⟩
        · rintro ⟨x', ⟨⟩, rfl⟩
          rfl
  · constructor
    · rintro ⟨⟩
      exact ⟨_, rfl, rfl⟩
    · rintro ⟨x, -, rfl⟩
      rfl

section Steps

variable {before : ArmState} {original : Card} {spell' : Card}
  (hcard : before.game.getCard card = some original)
  (hannounced : Announced card original spell before state)
include hannounced

/-- The modes change the effects and what they cost. -/
theorem announced_afterModes (modes : Option (List Nat)) :
    Announced card original
      { spell with
        effects := spell.chosenEffects modes
        modeCostPaid := spell.modeCost modes } before
      (methods.afterModes player card modes state) := by
  cases modes with
  | none => exact hannounced
  | some indices =>
      have hreports (messages : List Nat) {written : ArmState} {spell' : Card}
          (hwritten : Announced card original spell' before written) :
          Announced card original spell' before
            (messages.foldl (fun state _ => state.report) written) := by
        induction messages generalizing written with
        | nil => exact hwritten
        | cons message rest ih => exact ih hwritten.report
      apply hreports
      have hlogged := hannounced.logChoicePoint player
        (methods.replayModes indices) state.game.logger.logCount
      have hfound := hlogged.found_after
      rw [applyModes, hfound]
      dsimp only [Card.modeCost, Card.chosenEffects]
      have hwritten := hlogged.trans (Announced.modifyCard
        (fun c => { c with
          effects :=
            (SpellEffect.applySelectedModes indices spell.effects).1 })
        hfound rfl)
      split
      · exact hwritten.trans (Announced.setLogged _
          (fun c => { c with
            modeCostPaid := (SpellEffect.applySelectedModes indices
              spell.effects).2 }) hwritten.found_after rfl)
      · exact hwritten

theorem announced_withX {x : UInt8} (hx : methods.XFor player card spell state
    x) : Announced card original { spell with xPaid := x } before
      (if spell.manaCost.hasX then methods.withX player card x state
      else state) := by
  rw [XFor] at hx
  split
  · have hwritten := hannounced.trans (Announced.setLogged
      (fun c => .setXPaid card c.xPaid) (fun c => { c with xPaid := x })
      hannounced.found_after rfl)
    exact (hwritten.logChoicePoint player (methods.replayXValue x)
      state.game.logger.logCount).report
  · next hno =>
    rw [if_neg hno] at hx
    rwa [hx]

include hcurrent hcard in
/-- An additional cost is looked at with the engine up to date. -/
theorem announceCost_eq (cost? : Option ManaCost)
    (decide : UInt8 → UInt8 → ArmState → ArmState) :
    announceCost player card cost? decide state =
      match cost? with
      | none => state
      | some cost =>
          if 0 < cost.cmc then
            decide (before.spareMana player card) cost.cmc state
          else state := by
  cases cost? with
  | none => rfl
  | some cost =>
      rw [announceCost, ArmState.updateEngine_of_upToDate hcurrent]
      dsimp only
      rw [hannounced.spareMana hcard]

include hcurrent hcard in
theorem announced_multikicker :
    Announced card original
      { spell with timesKicked := spell.kicks (before.spareMana player card) }
      before (announceMultikicker player card state) := by
  have hfound := hannounced.found_after
  have hset (count : UInt8) := hannounced.trans (Announced.setLogged
    (fun c => .setTimesKicked card c.timesKicked)
    (fun c => { c with timesKicked := count }) hfound rfl)
  rw [announceMultikicker, hfound, Option.bind_some, Card.kicks,
    announceCost_eq hcurrent hcard hannounced]
  cases spell.multikickerCost with
  | none => exact hannounced
  | some kick =>
      dsimp only
      split
      · split
        · exact (hset _).report
        · next hnone =>
          rw [show before.spareMana player card / kick.cmc = 0 by
            simpa using hnone]
          exact hset 0
      · exact hannounced

include hcurrent hcard in
/-- A flag that is set if the spare mana pays for it. -/
theorem announced_flag {flagged : Card} (cost? : Option ManaCost)
    (set : ArmState → ArmState)
    (hset : Announced card original flagged before (set state)) :
    Announced card original
      (if cost?.any fun cost => 0 < cost.cmc &&
          cost.cmc ≤ before.spareMana player card then flagged else spell)
      before (announceCost player card cost?
        (fun spare cost updated =>
          if cost ≤ spare then (set updated).report else updated) state) := by
  rw [announceCost_eq hcurrent hcard hannounced]
  cases cost? with
  | none => exact hannounced
  | some cost =>
      rw [Option.any_some]
      dsimp only
      by_cases hcost : 0 < cost.cmc
      · rw [if_pos hcost, decide_eq_true hcost, Bool.true_and]
        by_cases henough : cost.cmc ≤ before.spareMana player card
        · rw [if_pos henough, if_pos (decide_eq_true henough)]
          exact hset.report
        · rw [if_neg henough, if_neg (by simpa using henough)]
          exact hannounced
      · rw [if_neg hcost, decide_eq_false hcost, Bool.false_and,
          if_neg Bool.false_ne_true]
        exact hannounced

include hcurrent hcard in
theorem announced_kicker :
    Announced card original
      { spell with kickerPaid := spell.kicked (before.spareMana player card) }
      before (announceKicker player card state) := by
  have hfound := hannounced.found_after
  have hset := hannounced.trans (Announced.setLogged
    (fun c => .setKickerPaid card c.kickerPaid)
    (fun c => { c with kickerPaid := true }) hfound rfl)
  have hflag := announced_flag hcurrent hcard hannounced spell.kickerCost
    (fun updated => updated.onGame fun game =>
      game.setKickerPaidLogged card true) hset
  rw [announceKicker, hfound, Option.bind_some, Card.kicked]
  revert hflag
  cases spell.kickerCost.any fun cost => 0 < cost.cmc &&
    cost.cmc ≤ before.spareMana player card with
  | false =>
      rw [Bool.or_false]
      exact fun hflag => hflag
  | true =>
      rw [Bool.or_true]
      exact fun hflag => hflag

include hcurrent hcard in
theorem announced_offspring :
    Announced card original
      { spell with
        offspringPaid :=
          spell.offspringOffered (before.spareMana player card) }
      before (announceOffspring player card state) := by
  have hfound := hannounced.found_after
  have hset := hannounced.trans (Announced.setLogged
    (fun c => .setOffspringPaid card c.offspringPaid)
    (fun c => { c with offspringPaid := true }) hfound rfl)
  have hflag := announced_flag hcurrent hcard hannounced spell.offspringCost
    (fun updated => updated.onGame fun game =>
      game.setOffspringPaidLogged card true) hset
  rw [announceOffspring, hfound, Option.bind_some, Card.offspringOffered]
  revert hflag
  cases spell.offspringCost.any fun cost => 0 < cost.cmc &&
    cost.cmc ≤ before.spareMana player card with
  | false =>
      rw [Bool.or_false]
      exact fun hflag => hflag
  | true =>
      rw [Bool.or_true]
      exact fun hflag => hflag

end Steps

/-- The card after all announcements that can be announced. -/
theorem announced_announcing {modes : Option (List Nat)} {x : UInt8}
    (hcurrent' : state.engine.upToDate state.game player = true)
    (hcard : state.game.getCard card = some spell)
    (hx : methods.XFor player card spell
      (methods.afterModes player card modes state) x) :
    Announced card spell
      (spell.announcing modes x (state.spareMana player card)) state
      (announceOffspring player card (announceKicker player card
        (announceMultikicker player card
          (if spell.manaCost.hasX then
            methods.withX player card x
              (methods.afterModes player card modes state)
          else methods.afterModes player card modes state)))) := by
  have hmodes : Announced card spell _ state
      (methods.afterModes player card modes state) :=
    announced_afterModes (.refl (found_of_getCard hcard)) modes
  have hwithX := announced_withX hmodes hx
  have hkicks := announced_multikicker (hwithX.upToDate hcurrent') hcard hwithX
  have hkicked := announced_kicker (hkicks.upToDate hcurrent') hcard hkicks
  exact announced_offspring (hkicked.upToDate hcurrent') hcard hkicked

/-- The cost after them. -/
theorem price_announced {modes : Option (List Nat)} {x : UInt8}
    (hblind : methods.Blind) (hcurrent' : state.engine.upToDate state.game
      player = true)
    (hcard : state.game.getCard card = some spell)
    (hx : methods.XFor player card spell
      (methods.afterModes player card modes state) x) :
    let chosen := methods.afterModes player card modes state
    let after := announceOffspring player card (announceKicker player card
      (announceMultikicker player card
        (if spell.manaCost.hasX then methods.withX player card x chosen
        else chosen)))
    after.engine = state.engine ∧ after.pool player = state.pool player ∧
      methods.calculateEffectiveCost after.game player card =
        CostQueries.price
          (spell.withExtras modes x (state.spareMana player card))
          (methods.changedCost state.game player spell) := by
  have hannounced := announced_announcing hcurrent' hcard hx
  refine ⟨hannounced.engine, hannounced.pool, ?_⟩
  rw [CostQueries.calculateEffectiveCost, hannounced.getCard hcard]
  dsimp only
  rw [changedCost_announced player hblind hannounced]
  rfl

/-- A run of the announcements, by what is chosen in it. -/
theorem announceCosts_eq_ok_iff {after : ArmState}
    (hcurrent' : state.engine.upToDate state.game player = true)
    (hcard : state.game.getCard card = some spell) :
    methods.announceCosts player card state = .ok after ↔
      ∃ modes x, methods.chosenModes player card state = .ok modes ∧
        methods.XFor player card spell
          (methods.afterModes player card modes state) x ∧
        after = announceOffspring player card (announceKicker player card
          (announceMultikicker player card
            (if spell.manaCost.hasX then
              methods.withX player card x
                (methods.afterModes player card modes state)
            else methods.afterModes player card modes state))) := by
  rw [announceCosts, announceModes_eq hcurrent']
  cases methods.chosenModes player card state with
  | error left =>
      constructor
      · exact fun heq => nomatch heq
      · rintro ⟨modes, x, heq, -⟩
        cases heq
  | ok modes =>
      have hmodes : Announced card spell _ state
          (methods.afterModes player card modes state) :=
        announced_afterModes (.refl (found_of_getCard hcard)) modes
      have hiff (final : ArmState) : methods.announceX player card
          (methods.afterModes player card modes state) = .ok final ↔
            ∃ x, methods.XFor player card spell
              (methods.afterModes player card modes state) x ∧
                final = if spell.manaCost.hasX then
                    methods.withX player card x
                      (methods.afterModes player card modes state)
                  else methods.afterModes player card modes state :=
        (announceX_eq_ok_iff (hmodes.upToDate hcurrent')
          (hmodes.getCard hcard) :)
      rw [Except.map, Except.bind]
      constructor
      · intro hrun
        cases hx : methods.announceX player card
          (methods.afterModes player card modes state) with
        | error left =>
            rw [hx] at hrun
            cases hrun
        | ok final =>
            rw [hx] at hrun
            cases hrun
            obtain ⟨x, hxfor, rfl⟩ := (hiff final).mp hx
            exact ⟨modes, x, rfl, hxfor, rfl⟩
      · rintro ⟨modes', x, ⟨⟩, hxfor, rfl⟩
        rw [(hiff _).mpr ⟨x, hxfor, rfl⟩]
        rfl

/-- A castable spell stays so exactly when the extras let through fit. -/
theorem staysCastable_iff (hblind : methods.Blind) :
    methods.StaysCastable player card state ↔
      methods.ExtrasFit player card state := by
  rw [StaysCastable, ExtrasFit]
  have hcurrent' := state.upToDate_updateEngine player
  generalize state.updateEngine player = started at hcurrent' ⊢
  constructor
  · intro hstays spell hcard hbase modes x hmodes hx
    obtain ⟨hengine, hpool, hcost⟩ :=
      price_announced hblind hcurrent' hcard hx
    have hpaid := hstays spell hcard hbase _
      ((announceCosts_eq_ok_iff hcurrent' hcard).mpr ⟨modes, x, hmodes, hx, rfl⟩)
    rwa [hengine, hpool, hcost] at hpaid
  · intro hfit spell hcard hbase after hrun
    obtain ⟨modes, x, hmodes, hx, rfl⟩ :=
      (announceCosts_eq_ok_iff hcurrent' hcard).mp hrun
    obtain ⟨hengine, hpool, hcost⟩ :=
      price_announced hblind hcurrent' hcard hx
    rw [hengine, hpool, hcost]
    exact hfit spell hcard hbase modes x hmodes hx

/-- Announcements where nothing is counted for a cost, with this answer
for X. -/
def withAnswer (x : UInt8) : AnnouncementMethods where
  countCardsMatchingFilter _ _ _ _ := 0
  evaluateCountExpression _ _ _ := none
  getValidModesForSpell _ _ _ := []
  numValidTargets _ _ := 0
  relativeTargetCost _ _ := false
  chooseModes _ _ _ _ _ _ _ := .ok []
  chooseXValue _ _ _ _ := .ok x
  replayModes _ := ⟨0⟩
  replayXValue _ := ⟨0⟩

theorem withAnswer_blind (x : UInt8) : (withAnswer x).Blind :=
  ⟨fun _ => rfl, fun _ => rfl⟩

/-- A red spell with a kicker in the hand, and five Mountains. -/
def fiveMountains (xCount : UInt8) (kicker : ManaCost) : ArmState where
  game :=
    { cards := ⟨some
        { id := ⟨0⟩
          owner := ⟨0⟩
          controller := ⟨0⟩
          types := [.instant]
          manaCost := { red := 1, xCount }
          keywords := { keywords := [.kicker], args := [.kicker kicker] } } ::
        (List.range 5).map fun i => some
          { id := ⟨i + 1⟩
            owner := ⟨0⟩
            controller := ⟨0⟩
            types := [.land]
            definition :=
              { cache :=
                  { isLand := true
                    isManaSource := true
                    manaProduction := .free (.fixed .red) } } }⟩
      players := [{ id := ⟨0⟩ }, { id := ⟨1⟩ }]
      zones :=
        { battlefield := (List.range 5).map fun i => ⟨i + 1⟩
          playerZones := [(⟨0⟩, { hand := [⟨0⟩] }), (⟨1⟩, {})] }
      turn := { activePlayer := ⟨0⟩ } }

/-- X and a kicker that fit together. -/
theorem staysCastable_fiveMountains :
    (withAnswer 2).StaysCastable ⟨0⟩ ⟨0⟩ (fiveMountains 1 { generic := 2 }) := by
  apply (staysCastable_iff (withAnswer_blind 2)).mpr
  rintro spell ⟨⟩ hbase modes x ⟨⟩ ⟨⟩
  decide

/-- With X = 4 the kicker is too much, and a blue kicker is not for
Mountains. -/
theorem not_staysCastable :
    ¬ (withAnswer 4).StaysCastable ⟨0⟩ ⟨0⟩
        (fiveMountains 1 { generic := 2 }) ∧
      ¬ (withAnswer 0).StaysCastable ⟨0⟩ ⟨0⟩
        (fiveMountains 0 { generic := 1, blue := 1 }) := by
  constructor
  · intro hstays
    have hpaid := hstays _ rfl (by decide) _ rfl
    revert hpaid
    decide
  · intro hstays
    have hpaid := hstays _ rfl (by decide) _ rfl
    revert hpaid
    decide

end AnnouncementMethods

end DeepScry
