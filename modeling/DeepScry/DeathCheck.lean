/-
Creatures with lethal damage: they are listed once and then put away one by
one, while the triggers of their deaths go on.
-/
import DeepScry.CombatRun
import DeepScry.FailedCast

namespace DeepScry

/-- A game that a call passes through, and the creature whose death triggers
were fired on the way to it. -/
structure Moment where
  fired : Option CardId := none
  game : GameState

/-- The calls whose effects may do anything, with what they pass through. -/
structure DeathMethods where
  checkDeathTriggers : GameState → CardId → List Moment × Outcome Unit
  checkDelayedTriggers :
    GameState → CardId → Zone → Zone → List Moment × Outcome Unit

/-- What the check does: the triggers of a death, the move, and the triggers
that waited for it. -/
inductive DeathStep where
  | triggers (creature : CardId) (before : GameState) (inside : List Moment)
      (outcome : Outcome Unit)
  | moves (creature : CardId) (before after : GameState)
  | delayed (creature : CardId) (before : GameState) (inside : List Moment)
      (outcome : Outcome Unit)

namespace GameState

/-- A creature without toughness, or with lethal damage where it is not
printed indestructible. -/
def isDying (effects : StaticEffects) (game : GameState) (id : CardId)
    (card : Card) : Bool :=
  let toughness := game.combatToughness effects id card
  toughness ≤ 0 ||
    toughness ≤ card.damage && !card.hasKeyword .indestructible

/-- The creatures to destroy, with their owners. -/
def dyingCreatures (effects : StaticEffects) (game : GameState) :
    List (CardId × PlayerId) :=
  game.zones.battlefield.filterMap fun id =>
    (game.card? id).bind fun card =>
      if card.isCreature && game.isDying effects id card then
        some (id, card.owner)
      else none

/-- The planeswalkers without loyalty. -/
def spentPlaneswalkers (game : GameState) : List (CardId × PlayerId) :=
  game.zones.battlefield.filterMap fun id =>
    (game.card? id).bind fun card =>
      if card.isPlaneswalker && card.getCounter .loyalty == 0 then
        some (id, card.owner)
      else none

/-- The log line of a card that is known. -/
def reportDeath (game : GameState) (known : Bool) : GameState :=
  if known then game.message else game

end GameState

namespace DeathMethods

variable (methods : DeathMethods)

/-- `move_card` from the battlefield; a card that is not there any more stays
where it is. -/
def putAway (id : CardId) (dest : Zone) (owner : PlayerId)
    (game : GameState) : List DeathStep × Outcome Unit :=
  match game.moveUntilTriggers id .battlefield dest owner with
  | (moved, true) =>
      let (inside, outcome) := methods.checkDelayedTriggers moved id
        .battlefield (game.moveDestination id dest)
      ([.moves id game moved, .delayed id moved inside outcome], outcome)
  | (unmoved, false) => ([], .ok unmoved ())

/-- The creatures of the list, one after the other; an error of the death
triggers is ignored. -/
def destroyEach : List (CardId × PlayerId) → GameState →
    List DeathStep × Outcome Unit
  | [], game => ([], .ok game ())
  | (id, owner) :: rest, game =>
      let known := (game.card? id).isSome
      let dest := game.deathDestinationForCard id
      let (inside, outcome) := methods.checkDeathTriggers game id
      let fired := DeathStep.triggers id game inside outcome
      match outcome with
      | none => ([fired], none)
      | some (triggered, _) =>
          match methods.putAway id dest owner triggered with
          | (steps, some (moved, .ok ())) =>
              let (later, outcome) := destroyEach rest (moved.reportDeath known)
              (fired :: steps ++ later, outcome)
          | (steps, stopped) => (fired :: steps, stopped)

/-- The planeswalkers of the list. -/
def buryEach : List (CardId × PlayerId) → GameState →
    List DeathStep × Outcome Unit
  | [], game => ([], .ok game ())
  | (id, owner) :: rest, game =>
      let known := (game.card? id).isSome
      match methods.putAway id (game.deathDestinationForCard id) owner
        game with
      | (steps, some (moved, .ok ())) =>
          let (later, outcome) := buryEach rest (moved.reportDeath known)
          (steps ++ later, outcome)
      | (steps, stopped) => (steps, stopped)

/-- `check_lethal_damage`. -/
def checkLethalDamage (effects : StaticEffects) (game : GameState) :
    List DeathStep × Outcome Unit :=
  match methods.destroyEach (game.dyingCreatures effects) game with
  | (steps, some (destroyed, .ok ())) =>
      let (later, outcome) := methods.buryEach destroyed.spentPlaneswalkers
        destroyed
      (steps ++ later, outcome)
  | (steps, stopped) => (steps, stopped)

end DeathMethods

/-- The card is in a zone of its owner. -/
def Zones.IsHome (zones : Zones) (owner : PlayerId) (id : CardId) : Prop :=
  ∃ zone, zone.isShared = false ∧ zones.holds zone owner id

/-- The games in which a card has just left the battlefield. -/
def leavings (id : CardId) : List GameState → List GameState
  | before :: after :: rest =>
      if before.zones.battlefield.contains id &&
          !after.zones.battlefield.contains id then
        after :: leavings id (after :: rest)
      else leavings id (after :: rest)
  | _ => []

namespace DeathStep

/-- The games of a step, in order. -/
def games : DeathStep → List GameState
  | triggers _ before inside outcome | delayed _ before inside outcome =>
      before :: inside.map Moment.game ++ outcome.toList.map Prod.fst
  | moves _ before after => [before, after]

/-- How often the step fires the death triggers of a creature. -/
def fires (id : CardId) : DeathStep → Nat
  | triggers creature _ inside _ =>
      (if creature = id then 1 else 0) +
        inside.countP fun moment => moment.fired == some id
  | delayed _ _ inside _ =>
      inside.countP fun moment => moment.fired == some id
  | moves _ _ _ => 0

end DeathStep

namespace DeathMethods

variable (methods : DeathMethods) (effects : StaticEffects)
  (game : GameState)

/-- Death is uniform: damage destroys only what it may, a shield is used up
instead, and each creature found dying leaves once, for a zone of its owner,
and its triggers fire once. -/
structure UniformDeath : Prop where
  lawful : ∀ id owner card,
    (id, owner) ∈ game.dyingCreatures effects →
      game.card? id = some card → 0 < game.combatToughness effects id card →
        game.combatToughness effects id card ≤ card.damage ∧
          card.hasKeyword .indestructible = false ∧
          game.hasKeywordWithEffects effects id .indestructible = false ∧
            card.regenerationShields = 0
  regenerates : ∀ id ∈ game.zones.battlefield, ∀ card,
    game.card? id = some card → card.isCreature →
      0 < game.combatToughness effects id card →
        game.combatToughness effects id card ≤ card.damage →
          card.hasKeyword .indestructible = false →
            game.hasKeywordWithEffects effects id .indestructible = false →
              0 < card.regenerationShields →
                ∃ after, (methods.checkLethalDamage effects game).2 =
                  .ok after () ∧
                  (after.card? id).map (fun card =>
                    card.regenerationShields) =
                      some (card.regenerationShields - 1)
  fires : ∀ id owner, (id, owner) ∈ game.dyingCreatures effects →
    ((methods.checkLethalDamage effects game).1.map
      (DeathStep.fires id)).sum = 1
  leaves : ∀ id owner, (id, owner) ∈ game.dyingCreatures effects →
    ∃ after, (methods.checkLethalDamage effects game).1.flatMap
        (fun step => leavings id step.games) = [after] ∧
      after.zones.IsHome owner id

end DeathMethods

/-- Along these games a card may leave the battlefield, for a zone of its
owner, and does not come back. -/
def GoesHome (id : CardId) (owner : PlayerId) : List GameState → Prop
  | before :: after :: rest =>
      after.zones.battlefield.count id ≤ before.zones.battlefield.count id ∧
        (id ∈ before.zones.battlefield → id ∉ after.zones.battlefield →
          after.zones.IsHome owner id) ∧
        GoesHome id owner (after :: rest)
  | _ => True

namespace DeathStep

/-- The step leaves those that were found dying to the check: it does not fail
where that stops the check, fires none of their triggers, and sends them home
for good, if anywhere.  A move needs a player to go to. -/
def Spares (dying : List (CardId × PlayerId)) : DeathStep → Prop
  | triggers creature before inside outcome =>
      outcome.isSome ∧ ∀ id owner, (id, owner) ∈ dying →
        (∀ moment ∈ inside, moment.fired ≠ some id) ∧
          GoesHome id owner (triggers creature before inside outcome).games
  | delayed creature before inside outcome =>
      (∃ after, outcome = .ok after ()) ∧ ∀ id owner, (id, owner) ∈ dying →
        (∀ moment ∈ inside, moment.fired ≠ some id) ∧
          GoesHome id owner (delayed creature before inside outcome).games
  | moves creature before _ => ∀ owner, (creature, owner) ∈ dying →
      (before.zones.getPlayerZones owner).isSome

end DeathStep

/-- No creature with lethal damage has anything left to live by: it is not
indestructible for another permanent, and has no shield. -/
def GameState.Unprotected (effects : StaticEffects) (game : GameState) :
    Prop :=
  ∀ id ∈ game.zones.battlefield, ∀ card, game.card? id = some card →
    card.isCreature → 0 < game.combatToughness effects id card →
      game.combatToughness effects id card ≤ card.damage →
        card.hasKeyword .indestructible = false →
          game.hasKeywordWithEffects effects id .indestructible = false ∧
            card.regenerationShields = 0

/-- How a card comes through a part of the check, with the games in which it
has just left. -/
structure Passage (id : CardId) (owner : PlayerId) (before after : GameState)
    (left : List GameState) : Prop where
  fewer : after.zones.battlefield.count id ≤
    before.zones.battlefield.count id
  away : id ∉ before.zones.battlefield → left = []
  there : id ∈ before.zones.battlefield →
    (id ∈ after.zones.battlefield ∧ left = []) ∨
      (id ∉ after.zones.battlefield ∧
        ∃ game, left = [game] ∧ game.zones.IsHome owner id)

namespace Passage

variable {id : CardId} {owner : PlayerId} {before middle after : GameState}
  {left right : List GameState}

theorem refl (game : GameState) : Passage id owner game game [] :=
  ⟨Nat.le_refl _, fun _ => rfl, fun hthere => .inl ⟨hthere, rfl⟩⟩

/-- A card that is not there stays away. -/
theorem stays_away (hpassage : Passage id owner before after left)
    (haway : id ∉ before.zones.battlefield) :
    id ∉ after.zones.battlefield := by
  rw [← List.count_eq_zero] at haway ⊢
  exact Nat.le_zero.mp (haway ▸ hpassage.fewer)

theorem trans (hfirst : Passage id owner before middle left)
    (hsecond : Passage id owner middle after right) :
    Passage id owner before after (left ++ right) := by
  refine ⟨hsecond.fewer.trans hfirst.fewer, fun haway => ?_, fun hthere => ?_⟩
  · rw [hfirst.away haway, hsecond.away (hfirst.stays_away haway)]
    rfl
  · rcases hfirst.there hthere with ⟨hmiddle, rfl⟩ | ⟨hgone, game, rfl, hhome⟩
    · exact hsecond.there hmiddle
    · rw [hsecond.away hgone]
      exact .inr ⟨hsecond.stays_away hgone, game, rfl, hhome⟩

/-- One change of the game. -/
theorem single (hfewer : after.zones.battlefield.count id ≤
      before.zones.battlefield.count id)
    (hhome : id ∈ before.zones.battlefield → id ∉ after.zones.battlefield →
      after.zones.IsHome owner id) :
    Passage id owner before after (leavings id [before, after]) := by
  refine ⟨hfewer, fun haway => ?_, fun hthere => ?_⟩
  · rw [leavings, if_neg (by simp [haway])]
    rfl
  · by_cases hstays : id ∈ after.zones.battlefield
    · rw [leavings, if_neg (by simp [hstays])]
      exact .inl ⟨hstays, rfl⟩
    · rw [leavings, if_pos (by simp [hthere, hstays])]
      exact .inr ⟨hstays, after, rfl, hhome hthere hstays⟩

theorem of_goesHome {inside : List GameState}
    (hhome : GoesHome id owner (before :: inside ++ [after])) :
    Passage id owner before after
      (leavings id (before :: inside ++ [after])) := by
  induction inside generalizing before with
  | nil => exact single hhome.1 hhome.2.1
  | cons next rest ih =>
      have hfirst := single hhome.1 hhome.2.1
      have hrest := ih hhome.2.2
      have hsplit : leavings id (before :: (next :: rest) ++ [after]) =
          leavings id [before, next] ++ leavings id (next :: rest ++ [after]) := by
        simp only [List.cons_append, leavings]
        split <;> rfl
      rw [hsplit]
      exact hfirst.trans hrest

end Passage

namespace GameState

/-- Whether the card was there to be moved. -/
theorem moveUntilTriggers_found (game : GameState) (id : CardId)
    (fromZone toZone : Zone) (owner : PlayerId) :
    (game.moveUntilTriggers id fromZone toZone owner).2 =
      game.zones.holds fromZone owner id := by
  have hreported : (if game.commanderReplaces id toZone then game.message
      else game).zones = game.zones := by
    split <;> rfl
  rw [moveUntilTriggers]
  generalize (if game.commanderReplaces id toZone then game.message
    else game) = reported at hreported ⊢
  have hprepared := (zones_frame.prepareMove reported id fromZone
    (game.moveDestination id toZone) owner).trans hreported
  rw [finishMove, hprepared]
  split
  · next hfound => exact hfound.symm
  · next hlost => exact (Bool.not_eq_true _).mp hlost ▸ rfl

/-- A card that dies goes to a zone of its owner. -/
theorem moveDestination_isShared (game : GameState) (id : CardId)
    {dest : Zone} (hdest : dest.isShared = false) :
    (game.moveDestination id dest).isShared = false := by
  rw [moveDestination]
  split
  · rfl
  · exact hdest

theorem deathDestination_isShared (game : GameState) (id : CardId) :
    (game.deathDestinationForCard id).isShared = false := by
  rw [deathDestinationForCard]
  split
  · split <;> rfl
  · rfl

/-- A card that is put away is off the battlefield; no other card is. -/
theorem battlefield_putAway (game : GameState) (id : CardId) {dest : Zone}
    (hdest : dest.isShared = false) (owner : PlayerId)
    (hthere : id ∈ game.zones.battlefield) :
    (game.moveUntilTriggers id .battlefield dest owner).1.zones.battlefield =
      game.zones.battlefield.erase id := by
  have hdestination := game.moveDestination_isShared id hdest
  have hholds : game.zones.holds .battlefield owner id = true := by
    simp [Zones.holds, Zones.cardsIn, hthere]
  rw [zones_moveUntilTriggers, if_pos hholds, Zones.afterMove]
  refine battlefield_modify _ (fun heq => ?_) _ _
  rw [heq] at hdestination
  cases hdestination

end GameState

namespace DeathMethods

variable (methods : DeathMethods)

/-- How a creature that was found dying comes through some steps. -/
structure ComesThrough (id : CardId) (owner : PlayerId) (fired : Nat)
    (before after : GameState) (steps : List DeathStep) : Prop where
  passage : Passage id owner before after
    (steps.flatMap fun step => leavings id step.games)
  fires : (steps.map (DeathStep.fires id)).sum = fired

namespace ComesThrough

variable {id : CardId} {owner : PlayerId} {fired more : Nat}
  {before middle after : GameState} {steps later : List DeathStep}

theorem refl (game : GameState) : ComesThrough id owner 0 game game [] :=
  ⟨.refl game, rfl⟩

theorem trans (hfirst : ComesThrough id owner fired before middle steps)
    (hsecond : ComesThrough id owner more middle after later) :
    ComesThrough id owner (fired + more) before after (steps ++ later) := by
  constructor
  · rw [List.flatMap_append]
    exact hfirst.passage.trans hsecond.passage
  · rw [List.map_append, List.sum_append, hfirst.fires, hsecond.fires]

theorem single {step : DeathStep}
    (hpassage : Passage id owner before after (leavings id step.games))
    (hfires : step.fires id = fired) :
    ComesThrough id owner fired before after [step] := by
  constructor
  · rw [List.flatMap_singleton]
    exact hpassage
  · simpa using hfires

/-- The zones are all that matters of the last game. -/
theorem congr {other : GameState} (hzones : other.zones = after.zones)
    (hthrough : ComesThrough id owner fired before after steps) :
    ComesThrough id owner fired before other steps := by
  obtain ⟨⟨hfewer, haway, hthere⟩, hfires⟩ := hthrough
  rw [← hzones] at hfewer hthere
  exact ⟨⟨hfewer, haway, hthere⟩, hfires⟩

end ComesThrough

theorem countP_fired {inside : List Moment} {id : CardId}
    (hnone : ∀ moment ∈ inside, moment.fired ≠ some id) :
    (inside.countP fun moment => moment.fired == some id) = 0 := by
  rw [List.countP_eq_zero]
  intro moment hmoment hfired
  exact hnone moment hmoment (eq_of_beq hfired)

/-- One card is put away; whoever else was found dying is left alone. -/
theorem putAway_spec {dying : List (CardId × PlayerId)} {id : CardId}
    {dest : Zone} {owner : PlayerId} {game : GameState}
    (hdest : dest.isShared = false)
    (howner : id ∈ game.zones.battlefield →
      ∀ other, (id, other) ∈ dying → other = owner)
    (hspares : ∀ step ∈ (methods.putAway id dest owner game).1,
      step.Spares dying) :
    ∃ after, (methods.putAway id dest owner game).2 = .ok after () ∧
      ∀ v o, (v, o) ∈ dying →
        ComesThrough v o 0 game after (methods.putAway id dest owner game).1 ∧
          (game.zones.battlefield.count v ≤ 1 → v = id →
            v ∉ after.zones.battlefield) := by
  have hfound := game.moveUntilTriggers_found id .battlefield dest owner
  have hzones := game.zones_moveUntilTriggers id .battlefield dest owner
  have herased := game.battlefield_putAway id hdest owner
  rw [putAway] at hspares ⊢
  generalize game.moveUntilTriggers id .battlefield dest owner = result at *
  obtain ⟨moved, found⟩ := result
  dsimp only at hfound hzones herased
  cases found with
  | false =>
      rw [← hfound, if_neg Bool.false_ne_true] at hzones
      refine ⟨moved, rfl, fun v o _ => ⟨?_, ?_⟩⟩
      · exact (ComesThrough.refl game).congr hzones
      · rintro - rfl
        simpa [Zones.holds, Zones.cardsIn, hzones] using hfound
  | true =>
      have hthere : id ∈ game.zones.battlefield := by
        simpa [Zones.holds, Zones.cardsIn] using hfound
      replace herased := herased hthere
      rw [← hfound, if_pos rfl] at hzones
      dsimp only at hspares ⊢
      have hmoves := hspares _ List.mem_cons_self
      obtain ⟨⟨after, hafter⟩, hdelayed⟩ :=
        hspares _ (List.mem_cons_of_mem _ List.mem_cons_self)
      refine ⟨after, hafter, fun v o hdying => ?_⟩
      have hmove : ComesThrough v o 0 game moved [.moves id game moved] := by
        refine .single (.single ?_ fun hv hgone => ?_) rfl
        · rw [herased]
          exact List.erase_sublist.count_le v
        · by_cases hsame : v = id
          · subst hsame
            rw [howner hthere o hdying, hzones]
            exact ⟨_, game.moveDestination_isShared v hdest,
              Zones.holds_afterMove (howner hthere o hdying ▸
                hmoves o hdying) v _ _⟩
          · rw [herased, List.mem_erase_of_ne hsame] at hgone
            exact absurd hv hgone
      have hrest : ComesThrough v o 0 moved after
          [.delayed id moved (methods.checkDelayedTriggers moved id
            .battlefield (game.moveDestination id dest)).1
            (methods.checkDelayedTriggers moved id .battlefield
              (game.moveDestination id dest)).2] := by
        obtain ⟨hnone, hhome⟩ := hdelayed v o hdying
        refine .single ?_ (countP_fired hnone)
        rw [DeathStep.games, hafter] at hhome ⊢
        exact .of_goesHome hhome
      refine ⟨hmove.trans hrest, ?_⟩
      rintro hcount rfl
      apply hrest.passage.stays_away
      rw [herased, ← List.count_eq_zero, List.count_erase_self]
      omega

theorem zones_reportDeath (game : GameState) (known : Bool) :
    (game.reportDeath known).zones = game.zones := by
  rw [GameState.reportDeath]
  split <;> rfl

/-- The triggers of one death, as all that are dying come through them. -/
theorem triggers_spec {dying : List (CardId × PlayerId)} {id : CardId}
    {game : GameState} {inside : List Moment} {outcome : Outcome Unit}
    (hspares : (DeathStep.triggers id game inside outcome).Spares dying) :
    ∃ triggered result, outcome = some (triggered, result) ∧
      ∀ v o, (v, o) ∈ dying →
        ComesThrough v o (if id = v then 1 else 0) game triggered
          [.triggers id game inside outcome] := by
  obtain ⟨hsome, hquiet⟩ := hspares
  obtain ⟨⟨triggered, result⟩, rfl⟩ := Option.isSome_iff_exists.mp hsome
  refine ⟨triggered, result, rfl, fun v o hdying => ?_⟩
  obtain ⟨hnone, hhome⟩ := hquiet v o hdying
  refine .single (.of_goesHome hhome) ?_
  rw [DeathStep.fires, countP_fired hnone]
  rfl

/-- Each creature of the list is gone at the end, and its triggers are fired
once for each time it is listed. -/
theorem destroyEach_spec {dying : List (CardId × PlayerId)}
    (hunique : ∀ id o other, (id, o) ∈ dying → (id, other) ∈ dying →
      other = o)
    {listed : List (CardId × PlayerId)}
    (hlisted : ∀ entry ∈ listed, entry ∈ dying) {game : GameState}
    (hspares : ∀ step ∈ (methods.destroyEach listed game).1,
      step.Spares dying) :
    ∃ after, (methods.destroyEach listed game).2 = .ok after () ∧
      ∀ v o, (v, o) ∈ dying →
        ComesThrough v o ((listed.map Prod.fst).count v) game after
            (methods.destroyEach listed game).1 ∧
          (game.zones.battlefield.count v ≤ 1 → v ∈ listed.map Prod.fst →
            v ∉ after.zones.battlefield) := by
  induction listed generalizing game with
  | nil => exact ⟨game, rfl, fun v o _ => ⟨.refl game, nofun⟩⟩
  | cons entry rest ih =>
      obtain ⟨id, owner⟩ := entry
      rw [destroyEach] at hspares ⊢
      generalize methods.checkDeathTriggers game id = called at *
      obtain ⟨inside, outcome⟩ := called
      dsimp only at hspares ⊢
      have hfired : (DeathStep.triggers id game inside outcome).Spares
          dying := by
        apply hspares
        split
        · exact List.mem_cons_self
        · split <;> exact List.mem_cons_self
      obtain ⟨triggered, result, rfl, htriggers⟩ := triggers_spec hfired
      dsimp only at hspares ⊢
      have hput : ∀ step ∈ (methods.putAway id
          (game.deathDestinationForCard id) owner triggered).1,
            step.Spares dying := by
        intro step hstep
        apply hspares
        split
        · next heq =>
          rw [heq] at hstep
          exact List.mem_append_left _ (List.mem_cons_of_mem _ hstep)
        · next heq =>
          rw [heq] at hstep
          exact List.mem_cons_of_mem _ hstep
      obtain ⟨moved, hmoved, hgone⟩ := methods.putAway_spec
        (game.deathDestination_isShared id)
        (fun _ other hother => hunique id owner other
          (hlisted _ List.mem_cons_self) hother) hput
      generalize methods.putAway id (game.deathDestinationForCard id) owner
        triggered = called at *
      obtain ⟨steps, outcome⟩ := called
      dsimp only at hmoved hgone hspares ⊢
      subst hmoved
      simp only [Outcome.ok] at hspares ⊢
      obtain ⟨after, hafter, hrest⟩ := ih
        (fun entry hentry => hlisted entry (List.mem_cons_of_mem _ hentry))
        fun step hstep => hspares step (List.mem_append_right _ hstep)
      refine ⟨after, hafter, fun v o hdying => ?_⟩
      have hfirst := htriggers v o hdying
      obtain ⟨hput, haway⟩ := hgone v o hdying
      have hreported := zones_reportDeath moved (game.card? id).isSome
      have hput := hput.congr hreported
      obtain ⟨hlater, hlast⟩ := hrest v o hdying
      constructor
      · have hcounted : ((id :: rest.map Prod.fst).count v) =
            (if id = v then 1 else 0) + 0 + (rest.map Prod.fst).count v := by
          rw [List.count_cons, Nat.add_comm]
          simp
        rw [List.map_cons, hcounted]
        exact (hfirst.trans hput).trans hlater
      · intro hcount hv
        have hcount := hfirst.passage.fewer.trans hcount
        rcases List.mem_cons.mp hv with rfl | hv
        · apply hlater.passage.stays_away
          rw [hreported]
          exact haway hcount rfl
        · exact hlast (hput.passage.fewer.trans hcount) hv

/-- No planeswalker that is put away is one of those that have gone. -/
theorem buryEach_spec {dying listed : List (CardId × PlayerId)}
    {game : GameState}
    (hgone : ∀ id owner, (id, owner) ∈ dying → id ∉ game.zones.battlefield)
    (hspares : ∀ step ∈ (methods.buryEach listed game).1,
      step.Spares dying) :
    ∃ after, (methods.buryEach listed game).2 = .ok after () ∧
      ∀ v o, (v, o) ∈ dying →
        ComesThrough v o 0 game after (methods.buryEach listed game).1 := by
  induction listed generalizing game with
  | nil => exact ⟨game, rfl, fun v o _ => .refl game⟩
  | cons entry rest ih =>
      obtain ⟨id, owner⟩ := entry
      rw [buryEach] at hspares ⊢
      have hput : ∀ step ∈ (methods.putAway id
          (game.deathDestinationForCard id) owner game).1,
            step.Spares dying := by
        intro step hstep
        apply hspares
        dsimp only
        split
        · next heq =>
          rw [heq] at hstep
          exact List.mem_append_left _ hstep
        · next heq =>
          rw [heq] at hstep
          exact hstep
      obtain ⟨moved, hmoved, hthrough⟩ := methods.putAway_spec
        (game.deathDestination_isShared id)
        (fun hthere other hother => absurd hthere (hgone id other hother)) hput
      generalize methods.putAway id (game.deathDestinationForCard id) owner
        game = called at *
      obtain ⟨steps, outcome⟩ := called
      dsimp only at hmoved hthrough hspares ⊢
      subst hmoved
      simp only [Outcome.ok] at hspares ⊢
      have hreported := zones_reportDeath moved (game.card? id).isSome
      have hput (v : CardId) (o : PlayerId) (hdying : (v, o) ∈ dying) :
          ComesThrough v o 0 game (moved.reportDeath (game.card? id).isSome)
            steps :=
        (hthrough v o hdying).1.congr hreported
      obtain ⟨after, hafter, hlater⟩ := ih
        (fun v o hdying => (hput v o hdying).passage.stays_away
          (hgone v o hdying))
        fun step hstep => hspares step (List.mem_append_right _ hstep)
      exact ⟨after, hafter, fun v o hdying =>
        (hput v o hdying).trans (hlater v o hdying)⟩

end DeathMethods

section Listed

variable {effects : StaticEffects} {game : GameState} {id : CardId}
  {owner : PlayerId}

theorem mem_dyingCreatures :
    (id, owner) ∈ game.dyingCreatures effects ↔
      id ∈ game.zones.battlefield ∧ ∃ card, game.card? id = some card ∧
        card.isCreature = true ∧ game.isDying effects id card = true ∧
          card.owner = owner := by
  simp only [GameState.dyingCreatures, List.mem_filterMap,
    Option.bind_eq_some_iff, Option.ite_none_right_eq_some,
    Bool.and_eq_true, Option.some_inj, Prod.mk_inj]
  constructor
  · rintro ⟨_, hthere, card, hcard, ⟨hcreature, hdying⟩, rfl, rfl⟩
    exact ⟨hthere, card, hcard, hcreature, hdying, rfl⟩
  · rintro ⟨hthere, card, hcard, hcreature, hdying, rfl⟩
    exact ⟨id, hthere, card, hcard, ⟨hcreature, hdying⟩, rfl, rfl⟩

theorem isDying_iff {card : Card}
    (htoughness : 0 < game.combatToughness effects id card) :
    game.isDying effects id card = true ↔
      game.combatToughness effects id card ≤ card.damage ∧
        card.hasKeyword .indestructible = false := by
  simp [GameState.isDying, Int32.not_le.mpr htoughness]

/-- A dying creature is listed as often as it is on the battlefield. -/
theorem count_dyingCreatures
    (hdying : (id, owner) ∈ game.dyingCreatures effects) :
    ((game.dyingCreatures effects).map Prod.fst).count id =
      game.zones.battlefield.count id := by
  have hlisted : (game.dyingCreatures effects).map Prod.fst =
      game.zones.battlefield.filter fun id => (game.card? id).any fun card =>
        card.isCreature && game.isDying effects id card := by
    rw [GameState.dyingCreatures, List.map_filterMap,
      ← List.filterMap_eq_filter]
    congr 1
    funext id
    rw [Option.guard]
    cases game.card? id with
    | none => rfl
    | some card =>
        rw [Option.bind_some, Option.any_some]
        split <;> rfl
  obtain ⟨-, card, hcard, hcreature, hlethal, -⟩ :=
    mem_dyingCreatures.mp hdying
  rw [hlisted, List.count_filter]
  rw [hcard, Option.any_some, hcreature, hlethal]
  rfl

end Listed

namespace DeathMethods

variable (methods : DeathMethods) {effects : StaticEffects}
  {game : GameState}

/-- The triggers of a creature are fired at least as often as it is listed,
and each creature that is listed once comes through the whole check. -/
theorem checkLethalDamage_spec
    (hspares : ∀ step ∈ (methods.checkLethalDamage effects game).1,
      step.Spares (game.dyingCreatures effects))
    {id : CardId} {owner : PlayerId}
    (hdying : (id, owner) ∈ game.dyingCreatures effects) :
    ((game.dyingCreatures effects).map Prod.fst).count id ≤
        ((methods.checkLethalDamage effects game).1.map
          (DeathStep.fires id)).sum ∧
      (((game.dyingCreatures effects).map Prod.fst).Nodup →
        ∃ after, ComesThrough id owner 1 game after
            (methods.checkLethalDamage effects game).1 ∧
          id ∉ after.zones.battlefield) := by
  have hunique : ∀ id o other, (id, o) ∈ game.dyingCreatures effects →
      (id, other) ∈ game.dyingCreatures effects → other = o := by
    intro id o other ho hother
    obtain ⟨-, card, hcard, -, -, rfl⟩ := mem_dyingCreatures.mp ho
    obtain ⟨-, again, hagain, -, -, rfl⟩ := mem_dyingCreatures.mp hother
    rw [hcard] at hagain
    cases hagain
    rfl
  rw [checkLethalDamage] at hspares ⊢
  have hdestroys : ∀ step ∈ (methods.destroyEach
      (game.dyingCreatures effects) game).1,
        step.Spares (game.dyingCreatures effects) := by
    intro step hstep
    apply hspares
    split
    · next heq =>
      rw [heq] at hstep
      exact List.mem_append_left _ hstep
    · next heq =>
      rw [heq] at hstep
      exact hstep
  obtain ⟨destroyed, hdestroyed, hall⟩ :=
    methods.destroyEach_spec hunique (fun _ hentry => hentry) hdestroys
  generalize methods.destroyEach (game.dyingCreatures effects) game =
    called at *
  obtain ⟨steps, outcome⟩ := called
  dsimp only at hdestroyed hall hspares ⊢
  subst hdestroyed
  simp only [Outcome.ok] at hspares ⊢
  have hthrough := hall _ _ hdying
  refine ⟨?_, fun hnodup => ?_⟩
  · rw [List.map_append, List.sum_append, hthrough.1.fires]
    exact Nat.le_add_right _ _
  · have hgone (v : CardId) (o : PlayerId)
        (hv : (v, o) ∈ game.dyingCreatures effects) :
        v ∉ destroyed.zones.battlefield := by
      have hlisted := List.mem_map_of_mem (f := Prod.fst) hv
      refine (hall v o hv).2 ?_ hlisted
      rw [← count_dyingCreatures hv, List.count_eq_one_of_mem hnodup hlisted]
    obtain ⟨after, -, hbury⟩ := methods.buryEach_spec hgone
      fun step hstep => hspares step (List.mem_append_right _ hstep)
    have hlisted := List.mem_map_of_mem (f := Prod.fst) hdying
    have hboth := hthrough.1.trans (hbury _ _ hdying)
    rw [List.count_eq_one_of_mem hnodup hlisted] at hboth
    exact ⟨after, hboth, (hbury _ _ hdying).passage.stays_away
      (hgone _ _ hdying)⟩

end DeathMethods

/-- Deaths that nothing waits for. -/
def idleDeaths : DeathMethods where
  checkDeathTriggers game _ := ([], .ok game ())
  checkDelayedTriggers game _ _ _ := ([], .ok game ())

/-- A creature of player 0 with lethal damage. -/
def woundedBear (shields : UInt8) : Card :=
  { GameState.bear 0 ⟨0⟩ [] with damage := 2, regenerationShields := shields }

/-- The creature, and an enchantment that grants a keyword. -/
def woundedAlly (shields : UInt8) (keyword : Keyword) : GameState where
  cards := ⟨[
    some (woundedBear shields),
    some
      { strikeGrant 1 ⟨0⟩ with
        staticAbilities := [.grantKeyword .creaturesYouControl keyword none] }]⟩
  players := [{ id := ⟨0⟩ }, { id := ⟨1⟩ }]
  zones :=
    { battlefield := [⟨0⟩, ⟨1⟩]
      playerZones := [(⟨0⟩, {}), (⟨1⟩, {})] }
  turn := { activePlayer := ⟨0⟩ }

theorem goesHome_still (id : CardId) (owner : PlayerId) (game : GameState) :
    GoesHome id owner [game, game] :=
  ⟨Nat.le_refl _, fun hthere hgone => absurd hthere hgone, trivial⟩

theorem spares_still (dying : List (CardId × PlayerId)) (creature : CardId)
    (game : GameState) :
    (DeathStep.triggers creature game [] (.ok game ())).Spares dying ∧
      (DeathStep.delayed creature game [] (.ok game ())).Spares dying := by
  have hquiet : ∀ id owner, (id, owner) ∈ dying →
      (∀ moment ∈ ([] : List Moment), moment.fired ≠ some id) ∧
        GoesHome id owner [game, game] :=
    fun id owner _ => ⟨List.forall_mem_nil _, goesHome_still id owner game⟩
  constructor
  · rw [DeathStep.Spares]
    exact ⟨rfl, hquiet⟩
  · rw [DeathStep.Spares]
    exact ⟨⟨game, rfl⟩, hquiet⟩

/-- Two creatures with lethal damage. -/
def woundedPair : GameState :=
  { woundedAlly 0 .flying with
    cards := ⟨[some (woundedBear 0), some { woundedBear 0 with id := ⟨1⟩ }]⟩ }

/-- The death of the first destroys the second. -/
def chainedDeaths : DeathMethods :=
  { idleDeaths with
    checkDeathTriggers := fun game id =>
      let fallen :=
        (game.moveUntilTriggers ⟨1⟩ .battlefield .graveyard ⟨0⟩).1
      if id = ⟨0⟩ then ([⟨some ⟨1⟩, fallen⟩], .ok fallen ())
      else ([], .ok game ()) }

end DeepScry
