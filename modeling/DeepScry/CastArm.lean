/-
Casting a spell from the hand in the priority loop: what is announced is
written on the card before the casting, and no failure takes it back.
-/
import DeepScry.CastingTargets
import DeepScry.FailedCast
import DeepScry.OptionalCosts
import DeepScry.Puzzle

namespace DeepScry

/-- What a spell says, and what was announced for it. -/
structure SpellFace where
  name : String
  types : List CardType
  manaCost : ManaCost
  effects : List SpellEffect
  definition : CardDefinition
  xPaid : UInt8
  timesKicked : UInt8
  kickerPaid : Bool
  offspringPaid : Bool
  bargainPaid : Bool
  modeCostPaid : UInt8

def Card.face (card : Card) : SpellFace where
  name := card.name
  types := card.types
  manaCost := card.manaCost
  effects := card.effects
  definition := card.definition
  xPaid := card.xPaid
  timesKicked := card.timesKicked
  kickerPaid := card.kickerPaid
  offspringPaid := card.offspringPaid
  bargainPaid := card.bargainPaid
  modeCostPaid := card.modeCostPaid

/-- The spell as its Adventure face; the other definition is kept in the
slot of the face. -/
def Card.withAdventure (spell face : Card) (power toughness : Option Int8) :
    Card :=
  { spell with
    name := face.name
    manaCost := face.manaCost
    types := face.types
    subtypes := face.subtypes
    colors := face.colors
    keywords := face.keywords
    effects := face.effects
    activatedAbilities := face.activatedAbilities
    staticAbilities := face.staticAbilities
    basePower := power
    baseToughness := toughness
    definition := { face.definition with adventure := some spell.definition }
    castAsAdventure := true }

namespace GameState

variable (game : GameState) (player : PlayerId) (card : CardId)

def faceOf : Option SpellFace := (game.card? card).map Card.face

/-- `begin_adventure_cast`; the loop goes on after its errors. -/
def beginAdventureCast (db : Puzzle.CardDatabase) : GameState :=
  match game.getCard card with
  | none => game
  | some spell =>
      match spell.definition.adventure with
      | none => game
      | some face =>
          (game.logAction (.restoreCardState card spell.captureStateSnapshot)
            game.logger.logCount).modifyCard card fun c =>
              c.withAdventure (db.instantiate face card spell.owner)
                face.power face.toughness

/-- The first token, artifact or enchantment of the player next to the
spell. -/
def bargainFodder : Option CardId :=
  game.zones.battlefield.find? fun id =>
    (game.card? id).any fun permanent =>
      permanent.controller == player && permanent.id != card &&
        (permanent.isToken || permanent.types.contains .artifact ||
          permanent.types.contains .enchantment)

end GameState

/-- What the casting of a spell from the hand calls. -/
structure CastArmMethods extends AnnouncementMethods where
  casting : CastingMethods
  db : Puzzle.CardDatabase
  getValidTargetsForSpell : GameState → CardId → Option (List CardId)
  chooseTargets : GameState → PlayerId → CardId → List CardId → Nat → Nat →
    ChoiceResult (List CardId)
  replayTargets : List CardId → ReplayChoice

namespace CastArmMethods

variable (methods : CastArmMethods) (player : PlayerId) (card : CardId)

/-- An Adventure takes the other face; then the casting is reported. -/
def beginCast (adventure : Bool) (state : ArmState) : ArmState :=
  (if adventure then
    state.onGame fun game => game.beginAdventureCast card methods.db
  else state).report

/-- Bargain is paid whenever something can be sacrificed, which is returned
with the state. -/
def announceBargain (state : ArmState) :
    Option (ArmState × Option CardId) :=
  if (state.game.card? card).any fun spell => spell.hasKeyword .bargain then
    match state.game.bargainFodder player card with
    | some fodder =>
        let flagged := state.game.setBargainPaidLogged card true
        (methods.casting.moveCard flagged fodder .battlefield
          (flagged.deathDestinationForCard fodder) player).map
            fun (moved, _) =>
              let after := { state with game := moved }
              (if (moved.card? fodder).isSome then after.report else after,
                some fodder)
    | none =>
        some (state.onGame fun game => game.setBargainPaidLogged card false,
          none)
  else some (state, none)

/-- The targets are written out where one of them has a name. -/
def reportTargets (targets : List CardId) (state : ArmState) : ArmState :=
  if targets.any fun target =>
      target.playerTarget?.isSome || (state.game.card? target).isSome then
    state.report
  else state

/-- The targets, chosen unless they are forced. -/
def aim (state : ArmState) :
    Except (GameState × Option MtgError) (ArmState × List CardId) :=
  let valid := (methods.getValidTargetsForSpell state.game card).getD []
  let bounds := state.game.targetCountBoundsForSpell card valid.length
  let forcedAll := bounds.1 == bounds.2 && bounds.2 == valid.length
  let trivialSingle := bounds.1 == bounds.2 && bounds.2 == 1 &&
    valid.length == 1
  if valid.length = 0 then .ok (state, [])
  else if forcedAll || trivialSingle then
    .ok (reportTargets (valid.take bounds.2) state, valid.take bounds.2)
  else
    (state.answered player (methods.chooseTargets state.game player card
      valid bounds.1 bounds.2)).map fun targets =>
        (reportTargets targets (state.logChoicePoint player
          (methods.replayTargets targets) state.game.logger.logCount),
          targets)

/-- The state after a failure: an error message and a pass. -/
def afterFailure (reports : Bool) (failed : GameState) : GameState :=
  (if reports then failed.message else failed).passAfterError player

end CastArmMethods

/-- A casting from the hand that fails after its announcements. -/
structure FailedCasting (methods : CastArmMethods) (player : PlayerId)
    (card : CardId) (adventure : Bool) (start : ArmState)
    (sacrificed : Option CardId) (after : GameState) : Prop where
  run : ∃ announced bargained aimed targets failed e,
    methods.announceCosts player card
        (methods.beginCast card adventure start) = .ok announced ∧
      methods.announceBargain player card announced =
        some (bargained, sacrificed) ∧
      methods.aim player card bargained = .ok (aimed, targets) ∧
      methods.casting.castSpell8StepFrom player card targets.length .hand
        none (aimed.updateEngine player).engine.manaSources
        (aimed.updateEngine player).game = .error failed e ∧
      after = CastArmMethods.afterFailure player start.reports failed

/-- The spell reads as before, and nothing was sacrificed for Bargain. -/
structure Withdrawn (card : CardId) (before after : GameState)
    (sacrificed : Option CardId) : Prop where
  face : after.faceOf card = before.faceOf card
  bargain : sacrificed = none

/-- There is no other face and no mode to choose, X and the kicks are those
of the last time, and no other cost is newly paid. -/
structure AnnouncesNothing (methods : CastArmMethods) (player : PlayerId)
    (card : CardId) (adventure : Bool) (start : ArmState) (spell : Card) :
    Prop where
  adventure : adventure = true → spell.definition.adventure = none
  modes : methods.chosenModes player card
    (start.report.updateEngine player) = .ok none
  x : methods.XFor player card spell (start.report.updateEngine player)
    spell.xPaid
  kicks : spell.kicks
    ((start.report.updateEngine player).spareMana player card) =
      spell.timesKicked
  kicker : spell.kicked
    ((start.report.updateEngine player).spareMana player card) =
      spell.kickerPaid
  offspring : spell.offspringOffered
    ((start.report.updateEngine player).spareMana player card) =
      spell.offspringPaid
  bargain : spell.hasKeyword .bargain = true →
    start.game.bargainFodder player card = none ∧ spell.bargainPaid = false

/-- What is called while the spell is cast does not write on it. -/
structure CastingMethods.KeepsFace (methods : CastingMethods)
    (player : PlayerId) (card : CardId) : Prop where
  delayedTriggers : ∀ game id fromZone toZone,
    (methods.checkDelayedTriggers game id fromZone toZone).Ensures
      fun after => after.faceOf card = game.faceOf card
  sacrificeCosts : ∀ game,
    (methods.paySacrificeCosts game card player).Ensures
      fun after => after.faceOf card = game.faceOf card
  taps : ∀ game source hint,
    (methods.tapForManaAndUpdateHint game player source hint).Ensures
      fun after => after.faceOf card = game.faceOf card
  spellcastTriggers : ∀ game,
    (methods.checkSpellcastTriggers game card player).Ensures
      fun after => after.faceOf card = game.faceOf card

namespace GameState

theorem faceOf_of_steady {game other : GameState} {card : CardId}
    (hcards : SameView Card.steady game.cards other.cards) :
    game.faceOf card = other.faceOf card := by
  have hface (c : Option Card) :
      c.map Card.face = (c.map Card.steady).map Card.face := by
    rw [Option.map_map]
    rfl
  exact (hface _).trans ((congrArg _ (hcards card.raw)).trans (hface _).symm)

theorem faceOf_modifyCard {game : GameState} {card : CardId} (id : CardId)
    {write : Card → Card} (hwrite : ∀ c, (write c).face = c.face) :
    (game.modifyCard id write).faceOf card = game.faceOf card :=
  sameView_modify hwrite game.cards id.raw card.raw

end GameState

namespace CastingMethods.KeepsFace

variable {methods : CastingMethods} {player : PlayerId} {card : CardId}
  (hkeeps : methods.KeepsFace player card) {face : Option SpellFace}
  {game : GameState} (hface : game.faceOf card = face)
include hkeeps hface

theorem moveCard {fromZone toZone : Zone} (hfrom : fromZone ≠ .battlefield)
    (hto : toZone ≠ .battlefield) (owner : PlayerId) :
    (methods.moveCard game card fromZone toZone owner).Ensures
      fun after => after.faceOf card = face := by
  have hmoved := (GameState.faceOf_of_steady (game.moveUntilTriggers_off_battlefield
    card hfrom hto owner).2.1).trans hface
  rw [CastingMethods.moveCard]
  generalize game.moveUntilTriggers card fromZone toZone owner = step
    at hmoved ⊢
  obtain ⟨moved, held⟩ := step
  cases held
  · exact .ok hmoved _
  · exact (hkeeps.delayedTriggers moved card fromZone _).mono
      fun after hafter => hafter.trans hmoved

theorem putBack {α : Type} (owner : PlayerId) (e : MtgError) :
    (methods.putBack game card .hand owner e : Outcome α).Ensures
      fun after => after.faceOf card = face := by
  rw [CastingMethods.putBack]
  apply Outcome.Ensures.andThen
  · exact hkeeps.moveCard hface (by decide : Zone.stack ≠ .battlefield)
      (by decide : Zone.hand ≠ .battlefield) owner
  · exact fun after _ hafter => .error hafter e

theorem propose (numTargets : Nat) (sources : List ManaSource) :
    (methods.propose player card numTargets .hand none sources game).Ensures
      fun after => after.faceOf card = face := by
  rw [CastingMethods.propose]
  split
  · exact .error hface _
  · apply Outcome.Ensures.andThen
    · exact hkeeps.moveCard hface (by decide : Zone.hand ≠ .battlefield)
        (by decide : Zone.stack ≠ .battlefield) _
    · intro moved _ hmoved
      have hpaid := (hkeeps.sacrificeCosts moved).mono
        fun after (hafter : after.faceOf card = moved.faceOf card) =>
          hafter.trans hmoved
      dsimp only
      rcases hpay : methods.paySacrificeCosts moved card player with
        - | ⟨paid, e | _⟩
      · rintro after result ⟨⟩
      · exact hkeeps.putBack (hpaid _ _ hpay) _ e
      · have hpaidFace := hpaid _ _ hpay
        dsimp only
        split
        · exact .error hpaidFace _
        · split
          · exact .ok hpaidFace _
          · split
            · exact .ok hpaidFace _
            · exact hkeeps.putBack hpaidFace _ _

theorem tapSources {sources tapped : List CardId} {hint : ManaCost}
    {after : GameState} {e : Option MtgError}
    (htaps : methods.tapSources player sources hint game =
      some (after, tapped, e)) : after.faceOf card = face := by
  induction sources generalizing game hint tapped with
  | nil =>
      cases htaps
      exact hface
  | cons source rest ih =>
      rw [CastingMethods.tapSources] at htaps
      rcases htap : methods.tapForManaAndUpdateHint game player source hint
        with - | ⟨middle, e' | left⟩
      · rw [htap] at htaps
        cases htaps
      · rw [htap] at htaps
        cases htaps
        exact (hkeeps.taps game source hint _ _ htap).trans hface
      · rw [htap] at htaps
        obtain ⟨⟨final, taps, e'⟩, hrest, heq⟩ :=
          Option.map_eq_some_iff.mp htaps
        cases heq
        exact ih ((hkeeps.taps game source hint _ _ htap).trans hface) hrest

theorem unwind {plan : CastPlan} (hcard : plan.card = card)
    (hzone : plan.sourceZone = .hand) (tapped : List CardId) (e : MtgError) :
    (methods.unwind player plan tapped e game).Ensures
      fun after => after.faceOf card = face := by
  rw [CastingMethods.unwind, hcard, hzone]
  apply Outcome.Ensures.andThen
  · exact hkeeps.moveCard hface (by decide : Zone.stack ≠ .battlefield)
      (by decide : Zone.hand ≠ .battlefield) _
  · intro moved _ hmoved
    have huntap (game : GameState) (id : CardId) :
        (game.untapQuietly id).faceOf card = game.faceOf card := by
      rw [GameState.untapQuietly, GameState.untapPermanent,
        GameState.setTapped]
      split
      · rfl
      · split
        · rfl
        · exact GameState.faceOf_modifyCard id fun _ => rfl
    have huntapped : (tapped.foldl GameState.untapQuietly moved).faceOf card =
        moved.faceOf card := by
      induction tapped generalizing moved with
      | nil => rfl
      | cons id rest ih =>
          rw [List.foldl_cons, ih (moved.untapQuietly id)
            ((huntap moved id).trans hmoved), huntap]
    have hafter := huntapped.trans hmoved
    dsimp only
    split
    · exact .error hafter _
    · exact .error hafter e

theorem payFor {plan : CastPlan} (hcard : plan.card = card)
    (hzone : plan.sourceZone = .hand) :
    (methods.payFor player plan game).Ensures
      fun after => after.faceOf card = face := by
  rw [CastingMethods.payFor]
  rcases htaps : methods.tapSources player plan.sources plan.hint game with
    - | ⟨current, tapped, - | e⟩
  · rintro after result ⟨⟩
  · have hcurrent := hkeeps.tapSources hface htaps
    have hlogged : (current.logPools player).faceOf card = face := by
      rw [← hcurrent, GameState.logPools]
      split
      · rfl
      · split <;> rfl
    dsimp only
    rw [CastingMethods.pay]
    split
    · exact .error hlogged _
    · split
      · rw [hcard]
        exact (hkeeps.spellcastTriggers _).mono
          fun after hafter => hafter.trans hlogged
      · exact hkeeps.unwind hlogged hcard hzone tapped _
  · exact hkeeps.unwind (hkeeps.tapSources hface htaps) hcard hzone tapped _

end CastingMethods.KeepsFace

namespace ArmState

variable {state : ArmState} {player : PlayerId}

theorem card?_updateEngine (state : ArmState) (player : PlayerId)
    (card : CardId) : (state.updateEngine player).game.card? card =
      state.game.card? card := by
  obtain ⟨_, hgame⟩ := state.engine.updateMut_game state.game player
  exact congrArg (fun game => game.card? card) hgame

theorem getCard_updateEngine (state : ArmState) (player : PlayerId)
    (card : CardId) : (state.updateEngine player).game.getCard card =
      state.game.getCard card := by
  obtain ⟨_, hgame⟩ := state.engine.updateMut_game state.game player
  exact congrArg (fun game => game.getCard card) hgame

theorem bargainFodder_updateEngine (state : ArmState) (player : PlayerId)
    (card : CardId) :
    (state.updateEngine player).game.bargainFodder player card =
      state.game.bargainFodder player card := by
  obtain ⟨_, hgame⟩ := state.engine.updateMut_game state.game player
  exact congrArg (fun game => game.bargainFodder player card) hgame

theorem updateEngine_updateEngine (state : ArmState) (player : PlayerId) :
    (state.updateEngine player).updateEngine player =
      state.updateEngine player :=
  updateEngine_of_upToDate (state.upToDate_updateEngine player)

end ArmState

namespace AnnouncementMethods

variable {methods : AnnouncementMethods} {player : PlayerId} {card : CardId}
  {state : ArmState}

theorem upToDate_setLogged {engine : ManaEngine} {game : GameState}
    (hcurrent : engine.upToDate game player = true)
    (action : Card → GameAction) (write : Card → Card) :
    engine.upToDate (game.setLogged card action write) player = true := by
  rw [GameState.setLogged]
  split
  · exact hcurrent
  · exact hcurrent

section UpToDate

variable (hcurrent : state.engine.upToDate state.game player = true)
include hcurrent

theorem upToDate_report :
    state.report.engine.upToDate state.report.game player = true := by
  rw [ArmState.report]
  split
  · exact hcurrent
  · exact hcurrent

theorem upToDate_afterModes (modes : Option (List Nat)) :
    (methods.afterModes player card modes state).engine.upToDate
      (methods.afterModes player card modes state).game player = true := by
  cases modes with
  | none => exact hcurrent
  | some indices =>
      have hreports (messages : List Nat) {written : ArmState}
          (hwritten : written.engine.upToDate written.game player = true) :
          (messages.foldl (fun state _ => state.report)
            written).engine.upToDate (messages.foldl
              (fun state _ => state.report) written).game player = true := by
        induction messages generalizing written with
        | nil => exact hwritten
        | cons message rest ih => exact ih (upToDate_report hwritten)
      apply hreports
      rw [applyModes]
      split
      · exact hcurrent
      · dsimp only
        split
        · apply upToDate_setLogged
          exact hcurrent
        · exact hcurrent

theorem upToDate_withX (x : UInt8) :
    (methods.withX player card x state).engine.upToDate
      (methods.withX player card x state).game player = true :=
  upToDate_report (upToDate_setLogged hcurrent _ _)

end UpToDate

/-- The engine may be updated before an additional cost is looked at, or
after. -/
theorem updateEngine_announceCost {cost? : Option ManaCost}
    {decide : UInt8 → UInt8 → ArmState → ArmState}
    (hdecide : ∀ spare cost {state : ArmState},
      state.engine.upToDate state.game player = true →
        (decide spare cost state).engine.upToDate
          (decide spare cost state).game player = true) :
    (announceCost player card cost? decide state).updateEngine player =
      announceCost player card cost? decide
        (state.updateEngine player) := by
  cases cost? with
  | none => rfl
  | some cost =>
      rw [announceCost, announceCost]
      split
      · dsimp only
        rw [state.updateEngine_updateEngine]
        exact ArmState.updateEngine_of_upToDate
          (hdecide _ _ (state.upToDate_updateEngine player))
      · rfl

theorem updateEngine_announceMultikicker :
    (announceMultikicker player card state).updateEngine player =
      announceMultikicker player card (state.updateEngine player) := by
  rw [announceMultikicker, announceMultikicker, state.card?_updateEngine]
  apply updateEngine_announceCost
  intro spare cost state hcurrent
  dsimp only
  split
  · exact upToDate_report (upToDate_setLogged hcurrent _ _)
  · exact upToDate_setLogged hcurrent _ _

theorem updateEngine_announceKicker :
    (announceKicker player card state).updateEngine player =
      announceKicker player card (state.updateEngine player) := by
  rw [announceKicker, announceKicker, state.card?_updateEngine]
  apply updateEngine_announceCost
  intro spare cost state hcurrent
  split
  · exact upToDate_report (upToDate_setLogged hcurrent _ _)
  · exact hcurrent

theorem updateEngine_announceOffspring :
    (announceOffspring player card state).updateEngine player =
      announceOffspring player card (state.updateEngine player) := by
  rw [announceOffspring, announceOffspring, state.card?_updateEngine]
  apply updateEngine_announceCost
  intro spare cost state hcurrent
  split
  · exact upToDate_report (upToDate_setLogged hcurrent _ _)
  · exact hcurrent

theorem announceX_updateEngine {after : ArmState}
    (hrun : methods.announceX player card state = .ok after) :
    methods.announceX player card (state.updateEngine player) =
      .ok (after.updateEngine player) := by
  rw [announceX] at hrun ⊢
  rw [state.getCard_updateEngine]
  cases hcard : state.game.getCard card with
  | none =>
      rw [hcard] at hrun
      cases hrun
      rfl
  | some spell =>
      rw [hcard] at hrun
      dsimp only at hrun ⊢
      split at hrun
      · next hx =>
        rw [if_pos hx, state.updateEngine_updateEngine]
        cases hchosen : methods.chosenX player card spell
          (state.updateEngine player) with
        | error left =>
            rw [hchosen] at hrun
            cases hrun
        | ok x =>
            rw [hchosen] at hrun
            cases hrun
            exact congrArg Except.ok (ArmState.updateEngine_of_upToDate
              (upToDate_withX (state.upToDate_updateEngine player) x)).symm
      · next hx =>
        rw [if_neg hx]
        cases hrun
        rfl

theorem announceModes_updateEngine {after : ArmState}
    (hrun : methods.announceModes player card state = .ok after) :
    methods.announceModes player card (state.updateEngine player) =
      .ok (after.updateEngine player) := by
  have hchoice : modalChoice? card (state.updateEngine player) =
      modalChoice? card state := by
    rw [modalChoice?, modalChoice?, state.getCard_updateEngine]
  rw [announceModes] at hrun ⊢
  rw [hchoice]
  cases hmodal : modalChoice? card state with
  | none =>
      rw [hmodal] at hrun
      cases hrun
      rfl
  | some choice =>
      rw [hmodal] at hrun
      dsimp only at hrun ⊢
      rw [state.updateEngine_updateEngine]
      cases hchosen : methods.chosenModes player card
        (state.updateEngine player) with
      | error left =>
          rw [hchosen] at hrun
          cases hrun
      | ok modes =>
          rw [hchosen] at hrun
          cases hrun
          exact congrArg Except.ok (ArmState.updateEngine_of_upToDate
            (upToDate_afterModes (state.upToDate_updateEngine player)
              modes)).symm

/-- The announcements do not depend on when the engine is updated. -/
theorem announceCosts_updateEngine {after : ArmState}
    (hrun : methods.announceCosts player card state = .ok after) :
    methods.announceCosts player card (state.updateEngine player) =
      .ok (after.updateEngine player) := by
  rw [announceCosts] at hrun ⊢
  cases hmodes : methods.announceModes player card state with
  | error left =>
      rw [hmodes] at hrun
      cases hrun
  | ok chosen =>
      rw [hmodes] at hrun
      rw [announceModes_updateEngine hmodes]
      dsimp only [Except.bind] at hrun ⊢
      cases hx : methods.announceX player card chosen with
      | error left =>
          rw [hx] at hrun
          cases hrun
      | ok final =>
          rw [hx] at hrun
          rw [announceX_updateEngine hx]
          cases hrun
          rw [updateEngine_announceOffspring, updateEngine_announceKicker,
            updateEngine_announceMultikicker]
          rfl

end AnnouncementMethods

namespace SpellEffect

theorem applySelectedModes_fst (indices : List Nat)
    (effects : List SpellEffect) :
    (applySelectedModes indices effects).1 =
      effects.flatMap fun effect => (effect.applyModes indices).1 := by
  have hfold (applied : List SpellEffect × UInt8) :
      (effects.foldl (fun applied effect =>
        (applied.1 ++ (effect.applyModes indices).1,
          Saturating.add8 applied.2 (effect.applyModes indices).2))
        applied).1 =
      applied.1 ++ effects.flatMap fun effect =>
        (effect.applyModes indices).1 := by
    induction effects generalizing applied with
    | nil => exact (List.append_nil _).symm
    | cons effect rest ih =>
        rw [List.foldl_cons, ih, List.flatMap_cons, List.append_assoc]
  exact hfold ([], 0)

/-- What is still a choice after the modes are chosen was part of a larger
choice. -/
theorem mem_applyModes {indices : List Nat} {effect left : SpellEffect}
    (hmem : left ∈ (effect.applyModes indices).1)
    (hmodal : left.modalChoice?.isSome = true) :
    effect.modalChoice?.isSome = true ∧ sizeOf left < sizeOf effect := by
  rw [applyModes.eq_def] at hmem
  split at hmem
  · next modes numToChoose minToChoose canRepeatModes =>
    refine ⟨rfl, ?_⟩
    obtain ⟨mode, hmode, rfl⟩ := List.mem_map.mp hmem
    obtain ⟨index, -, hindex⟩ := List.mem_filterMap.mp hmode
    have hlt := List.sizeOf_lt_of_mem (List.mem_of_getElem? hindex)
    obtain ⟨mode, cost⟩ := mode
    rw [Prod.mk.sizeOf_spec] at hlt
    rw [modalChoice.sizeOf_spec]
    dsimp only
    omega
  · next hother =>
    cases List.mem_singleton.mp hmem
    cases effect with
    | modalChoice modes numToChoose minToChoose canRepeatModes =>
        exact absurd rfl (hother modes numToChoose minToChoose canRepeatModes)
    | _ => cases hmodal

/-- Choosing modes is not without a trace. -/
theorem applySelectedModes_ne {indices : List Nat}
    {effects : List SpellEffect}
    {choice : List (SpellEffect × UInt8) × UInt8 × UInt8 × Bool}
    (hmodal : effects.findSome? modalChoice? = some choice) :
    (applySelectedModes indices effects).1 ≠ effects := by
  intro hsame
  rw [applySelectedModes_fst] at hsame
  have hlarger (n : Nat) : ∃ effect ∈ effects,
      effect.modalChoice?.isSome = true ∧ n ≤ sizeOf effect := by
    induction n with
    | zero =>
        obtain ⟨effect, hmem, heffect⟩ :=
          List.exists_of_findSome?_eq_some hmodal
        exact ⟨effect, hmem, by rw [heffect]; rfl, Nat.zero_le _⟩
    | succ n ih =>
        obtain ⟨left, hmem, hleft, hsize⟩ := ih
        rw [← hsame] at hmem
        obtain ⟨effect, heffect, hpart⟩ := List.mem_flatMap.mp hmem
        obtain ⟨hchoice, hlt⟩ := mem_applyModes hpart hleft
        exact ⟨effect, heffect, hchoice, Nat.lt_of_le_of_lt hsize hlt⟩
  obtain ⟨effect, hmem, -, hsize⟩ := hlarger (sizeOf effects)
  exact absurd (List.sizeOf_lt_of_mem hmem) (Nat.not_lt.mpr hsize)

end SpellEffect

theorem CastingMethods.plan_of_propose {methods : CastingMethods}
    {player : PlayerId} {card : CardId} {numTargets : Nat} {zone : Zone}
    {sources : List ManaSource} {game after : GameState} {plan : CastPlan}
    (hrun : methods.propose player card numTargets zone none sources game =
      .ok after plan) : plan.card = card ∧ plan.sourceZone = zone := by
  have hback {other after : GameState} {owner : PlayerId} {e : MtgError}
      (hput : methods.putBack other card zone owner e = .ok after plan) :
      False := by
    obtain ⟨_, _, -, hput⟩ := Outcome.andThen_eq_ok.mp hput
    cases hput
  rw [CastingMethods.propose] at hrun
  split at hrun
  · cases hrun
  · obtain ⟨moved, _, -, hrun⟩ := Outcome.andThen_eq_ok.mp hrun
    dsimp only at hrun
    split at hrun
    · cases hrun
    · exact absurd hrun hback
    · split at hrun
      · cases hrun
      · split at hrun
        · cases hrun
          exact ⟨rfl, rfl⟩
        · split at hrun
          · cases hrun
            exact ⟨rfl, rfl⟩
          · exact absurd hrun hback

/-- The casting leaves the face of the spell alone. -/
theorem CastingMethods.KeepsFace.castSpell8StepFrom {methods : CastingMethods}
    {player : PlayerId} {card : CardId}
    (hkeeps : methods.KeepsFace player card) (numTargets : Nat)
    (sources : List ManaSource) (game : GameState) :
    (methods.castSpell8StepFrom player card numTargets .hand none sources
      game).Ensures fun after => after.faceOf card = game.faceOf card := by
  have hproposed := hkeeps.propose (rfl : game.faceOf card = _)
    numTargets sources
  rw [CastingMethods.castSpell8StepFrom]
  rcases hpropose : methods.propose player card numTargets .hand none sources
    game with - | ⟨proposed, e | plan⟩
  · rintro after result ⟨⟩
  · exact .error (hproposed _ _ hpropose) e
  · obtain ⟨hcard, hzone⟩ := plan_of_propose hpropose
    exact hkeeps.payFor (hproposed _ _ hpropose) hcard hzone

namespace CastArmMethods

variable {methods : CastArmMethods} {player : PlayerId} {card : CardId}
  {adventure : Bool} {state aimed bargained : ArmState} {spell : Card}

theorem faceOf_report (state : ArmState) (card : CardId) :
    state.report.game.faceOf card = state.game.faceOf card := by
  rw [ArmState.report]
  split <;> rfl

/-- Targets are not written on the spell. -/
theorem faceOf_aim {targets : List CardId}
    (haim : methods.aim player card state = .ok (aimed, targets)) :
    aimed.game.faceOf card = state.game.faceOf card := by
  have hreport (targets : List CardId) (state : ArmState) :
      (reportTargets targets state).game.faceOf card =
        state.game.faceOf card := by
    rw [reportTargets]
    split
    · exact faceOf_report state card
    · rfl
  rw [aim] at haim
  split at haim
  · cases haim
    rfl
  · split at haim
    · cases haim
      exact hreport _ state
    · generalize state.answered player (methods.chooseTargets state.game player
        card _ _ _) = answer at haim
      cases answer with
      | error left => cases haim
      | ok chosen =>
          cases haim
          exact hreport _ _

/-- The face of the spell once Bargain is announced without a sacrifice. -/
theorem faceOf_announceBargain
    (hfound : state.game.card? card = some spell)
    (hbargain : methods.announceBargain player card state =
      some (bargained, none)) :
    (spell.hasKeyword .bargain = true →
        state.game.bargainFodder player card = none) ∧
      bargained.game.faceOf card = some
        (if spell.hasKeyword .bargain then { spell with bargainPaid := false }
        else spell).face := by
  rw [announceBargain, hfound, Option.any_some] at hbargain
  split at hbargain
  · next hkeyword =>
    rw [if_pos hkeyword]
    split at hbargain
    · obtain ⟨_, _, heq⟩ := Option.map_eq_some_iff.mp hbargain
      cases heq
    · next hfodder =>
      refine ⟨fun _ => hfodder, ?_⟩
      cases hbargain
      have hwritten := (@Announced.setLogged card spell state
        (fun c => .setBargainPaid card c.bargainPaid)
        (fun c => { c with bargainPaid := false }) hfound rfl).found_after
      exact congrArg (Option.map Card.face) hwritten
  · next hkeyword =>
    rw [if_neg hkeyword]
    refine ⟨fun hkeyword' => absurd hkeyword' hkeyword, ?_⟩
    cases hbargain
    exact congrArg (Option.map Card.face) hfound

end CastArmMethods

/-- Announcements do not change what can be sacrificed. -/
theorem Announced.bargainFodder {card : CardId} {spell spell' : Card}
    {before after : ArmState}
    (hannounced : Announced card spell spell' before after)
    (player : PlayerId) : after.game.bargainFodder player card =
      before.game.bargainFodder player card := by
  have hfodder : ∀ id, ((after.game.card? id).any fun permanent =>
      permanent.controller == player && permanent.id != card &&
        (permanent.isToken || permanent.types.contains .artifact ||
          permanent.types.contains .enchantment)) =
      ((before.game.card? id).any fun permanent =>
        permanent.controller == player && permanent.id != card &&
          (permanent.isToken || permanent.types.contains .artifact ||
            permanent.types.contains .enchantment)) :=
    fun id => GameState.any_of_map_eq (hannounced.sameView id) fun _ => rfl
  rw [GameState.bargainFodder, GameState.bargainFodder, hannounced.zones]
  simp only [hfodder]

namespace Card

/-- The spell once Bargain is announced without a sacrifice. -/
def unbargained (spell : Card) : Card :=
  if spell.hasKeyword .bargain then { spell with bargainPaid := false }
  else spell

theorem unbargained_definition (spell : Card) :
    spell.unbargained.definition = spell.definition := by
  rw [unbargained]
  split <;> rfl

end Card

namespace CastArmMethods

variable {methods : CastArmMethods} {player : PlayerId} {card : CardId}
  {adventure : Bool} {start : ArmState} {spell begun : Card}
  {after : GameState}

theorem beginCast_of_plain (hcard : start.game.getCard card = some spell)
    (hplain : adventure = true → spell.definition.adventure = none) :
    methods.beginCast card adventure start = start.report := by
  rw [beginCast]
  cases adventure with
  | false => rfl
  | true =>
      rw [if_pos rfl, ArmState.onGame, GameState.beginAdventureCast, hcard]
      dsimp only
      rw [hplain rfl]

/-- The other face takes over, with the definition in its slot. -/
theorem beginCast_of_face {face : CardDefinition}
    (hcard : start.game.getCard card = some spell)
    (hface : spell.definition.adventure = some face) :
    ∃ begun, (methods.beginCast card true start).game.getCard card =
        some begun ∧
      begun.definition.adventure = some spell.definition := by
  refine ⟨spell.withAdventure (methods.db.instantiate face card spell.owner)
    face.power face.toughness, ?_, rfl⟩
  have hreport (state : ArmState) :
      state.report.game.getCard card = state.game.getCard card := by
    rw [ArmState.report]
    split <;> rfl
  rw [beginCast, hreport, if_pos rfl, ArmState.onGame,
    GameState.beginAdventureCast, hcard]
  dsimp only
  rw [hface]
  have hfound := found_of_getCard hcard
  rw [GameState.card?] at hfound
  rw [GameState.getCard, EntityStore.get] at hcard ⊢
  split
  · next hsentinel =>
    rw [if_pos hsentinel] at hcard
    cases hcard
  · change (EntityStore.modify _ _ _).tryGet _ = _
    rw [EntityStore.tryGet_modify_self]
    exact congrArg (Option.map _) hfound

/-- The face of the spell after a failed casting that sacrificed nothing for
Bargain. -/
theorem faceOf_failed (hkeeps : methods.casting.KeepsFace player card)
    (hbegun : (methods.beginCast card adventure start).game.getCard card =
      some begun)
    (hfails : FailedCasting methods player card adventure start none
      after) :
    let started := (methods.beginCast card adventure start).updateEngine
      player
    ∃ modes x, methods.chosenModes player card started = .ok modes ∧
      methods.XFor player card begun
        (methods.afterModes player card modes started) x ∧
      (begun.hasKeyword .bargain = true →
        started.game.bargainFodder player card = none) ∧
      after.faceOf card = some (begun.announcing modes x
        (started.spareMana player card)).unbargained.face := by
  obtain ⟨announced, bargained, aimed, targets, failed, e, hannounce,
    hbargain, haim, hcast, rfl⟩ := hfails.run
  generalize methods.beginCast card adventure start = state
    at hbegun hannounce
  have hstarted : (state.updateEngine player).game.getCard card =
      some begun :=
    (state.getCard_updateEngine player card).trans hbegun
  have hcurrent := state.upToDate_updateEngine player
  have hrun := AnnouncementMethods.announceCosts_updateEngine hannounce
  dsimp only
  generalize state.updateEngine player = started at hstarted hcurrent hrun ⊢
  obtain ⟨modes, x, hmodes, hx, hafter⟩ :=
    (AnnouncementMethods.announceCosts_eq_ok_iff hcurrent hstarted).mp hrun
  have hannounced :=
    AnnouncementMethods.announced_announcing hcurrent hstarted hx
  rw [← hafter] at hannounced
  have hfound := hannounced.found_after
  rw [announced.card?_updateEngine] at hfound
  obtain ⟨hfodder, hface⟩ := faceOf_announceBargain hfound hbargain
  refine ⟨modes, x, hmodes, hx, ?_, ?_⟩
  · intro hkeyword
    rw [← hannounced.bargainFodder, announced.bargainFodder_updateEngine]
    exact hfodder hkeyword
  · have hcastFace := hkeeps.castSpell8StepFrom targets.length _ _ _ _ hcast
    have haimed : (aimed.updateEngine player).game.faceOf card =
        aimed.game.faceOf card :=
      congrArg (Option.map Card.face) (aimed.card?_updateEngine player card)
    have hpassed : (afterFailure player start.reports failed).faceOf card =
        failed.faceOf card := by
      rw [afterFailure]
      split <;> rfl
    rw [hpassed, hcastFace, haimed, faceOf_aim haim, hface]
    rfl

/-- No definition is its own other face. -/
theorem definition_ne {definition face : CardDefinition}
    (hface : face.adventure = some definition) : definition ≠ face := by
  rintro rfl
  have hsize := congrArg sizeOf hface
  rw [Option.some.sizeOf_spec] at hsize
  cases definition
  rw [CardDefinition.mk.sizeOf_spec] at hsize
  dsimp only at hsize
  omega

/-- The face is the former one exactly when nothing was announced anew. -/
theorem announcing_face_iff {modes : Option (List Nat)} {x spare : UInt8}
    (hmodes : modes.isSome = true → ∃ choice,
      spell.effects.findSome? SpellEffect.modalChoice? = some choice) :
    (spell.announcing modes x spare).unbargained.face = spell.face ↔
      modes = none ∧ x = spell.xPaid ∧
        spell.kicks spare = spell.timesKicked ∧
        spell.kicked spare = spell.kickerPaid ∧
        spell.offspringOffered spare = spell.offspringPaid ∧
        (spell.hasKeyword .bargain = true → spell.bargainPaid = false) := by
  have hkeyword : (spell.announcing modes x spare).hasKeyword .bargain =
      spell.hasKeyword .bargain := rfl
  have hface : (spell.announcing modes x spare).unbargained.face =
      { spell.face with
        effects := spell.chosenEffects modes
        xPaid := x
        timesKicked := spell.kicks spare
        kickerPaid := spell.kicked spare
        offspringPaid := spell.offspringOffered spare
        bargainPaid := if spell.hasKeyword .bargain then false
          else spell.bargainPaid
        modeCostPaid := spell.modeCost modes } := by
    rw [Card.unbargained, hkeyword]
    split <;> rfl
  rw [hface]
  cases modes with
  | none =>
      rw [Card.face, SpellFace.mk.injEq]
      constructor
      · rintro ⟨-, -, -, -, -, hx, hkicks, hkicker, hoffspring, hpaid, -⟩
        refine ⟨rfl, hx, hkicks, hkicker, hoffspring, fun hkeyword => ?_⟩
        rw [if_pos hkeyword] at hpaid
        exact hpaid.symm
      · rintro ⟨-, hx, hkicks, hkicker, hoffspring, hpaid⟩
        refine ⟨rfl, rfl, rfl, rfl, rfl, hx, hkicks, hkicker, hoffspring, ?_,
          rfl⟩
        split
        · next hkeyword => exact (hpaid hkeyword).symm
        · rfl
  | some indices =>
      obtain ⟨choice, hchoice⟩ := hmodes rfl
      refine iff_of_false (fun heq => ?_) fun hnone => nomatch hnone.1
      exact SpellEffect.applySelectedModes_ne hchoice
        (congrArg SpellFace.effects heq)

/-- Modes are only chosen for a spell with a choice. -/
theorem modal_of_chosenModes {state : ArmState} {modes : Option (List Nat)}
    (hcard : state.game.getCard card = some spell)
    (hchosen : methods.chosenModes player card state = .ok modes)
    (hsome : modes.isSome = true) : ∃ choice,
      spell.effects.findSome? SpellEffect.modalChoice? = some choice := by
  rw [AnnouncementMethods.chosenModes, AnnouncementMethods.modalChoice?,
    hcard, Option.bind_some] at hchosen
  cases hmodal : spell.effects.findSome? SpellEffect.modalChoice? with
  | none =>
      rw [hmodal] at hchosen
      cases hchosen
      cases hsome
  | some choice => exact ⟨choice, rfl⟩

variable {sacrificed : Option CardId}

/-- A failed casting leaves no trace of its announcements exactly when there
was nothing to announce. -/
theorem withdrawn_iff (hkeeps : methods.casting.KeepsFace player card)
    (hcard : start.game.getCard card = some spell)
    (hfails : FailedCasting methods player card adventure start sacrificed
      after) :
    Withdrawn card start.game after sacrificed ↔
      AnnouncesNothing methods player card adventure start spell := by
  have hbefore : start.game.faceOf card = some spell.face :=
    congrArg (Option.map Card.face) (found_of_getCard hcard)
  by_cases hplain : adventure = true → spell.definition.adventure = none
  · have hbegun := @beginCast_of_plain methods _ _ _ _ hcard hplain
    have hreport : (methods.beginCast card adventure start).game.getCard
        card = some spell := by
      rw [hbegun, ← hcard, ArmState.report]
      split <;> rfl
    have hstarted : (start.report.updateEngine player).game.getCard card =
        some spell := by
      rw [start.report.getCard_updateEngine, ← hbegun]
      exact hreport
    have hfodder : (start.report.updateEngine
        player).game.bargainFodder player card =
          start.game.bargainFodder player card := by
      rw [start.report.bargainFodder_updateEngine, ArmState.report]
      split <;> rfl
    cases sacrificed with
    | none =>
        obtain ⟨modes, x, hmodes, hx, hbargain, hface⟩ :=
          faceOf_failed hkeeps hreport hfails
        rw [hbegun] at hmodes hx hbargain hface
        have hiff := @announcing_face_iff spell modes x
          ((start.report.updateEngine player).spareMana player card)
          (modal_of_chosenModes hstarted hmodes)
        constructor
        · intro hsame
          have heq := hsame.face
          rw [hface, hbefore, Option.some.injEq, hiff] at heq
          obtain ⟨rfl, rfl, hkicks, hkicker, hoffspring, hpaid⟩ := heq
          exact ⟨hplain, hmodes, hx, hkicks, hkicker, hoffspring,
            fun hkeyword =>
              ⟨hfodder.symm.trans (hbargain hkeyword), hpaid hkeyword⟩⟩
        · intro hnothing
          refine ⟨?_, rfl⟩
          rw [hface, hbefore, Option.some.injEq, hiff]
          cases hmodes.symm.trans hnothing.modes
          have hxs : x = spell.xPaid := by
            have hx' := hnothing.x
            rw [AnnouncementMethods.XFor] at hx hx'
            split at hx
            · next hhas =>
              rw [if_pos hhas] at hx'
              exact Except.ok.inj (hx.symm.trans hx')
            · exact hx
          exact ⟨rfl, hxs, hnothing.kicks, hnothing.kicker,
            hnothing.offspring, fun hkeyword => (hnothing.bargain hkeyword).2⟩
    | some fodder =>
        refine iff_of_false (fun hsame => absurd hsame.bargain (by simp)) ?_
        intro hnothing
        obtain ⟨announced, bargained, aimed, targets, failed, e, hannounce,
          hbargain, -, -, -⟩ := hfails.run
        obtain ⟨modes, x, -, hx, hafter⟩ :=
          (AnnouncementMethods.announceCosts_eq_ok_iff
            (start.report.upToDate_updateEngine player) hstarted).mp
              (AnnouncementMethods.announceCosts_updateEngine
                (hbegun ▸ hannounce))
        have hannounced := AnnouncementMethods.announced_announcing
          (start.report.upToDate_updateEngine player) hstarted hx
        rw [← hafter] at hannounced
        have hfound := hannounced.found_after
        rw [announced.card?_updateEngine] at hfound
        have hsame := hannounced.bargainFodder player
        rw [announced.bargainFodder_updateEngine, hfodder] at hsame
        rw [announceBargain, hfound, Option.any_some] at hbargain
        split at hbargain
        · next hkeyword =>
          rw [hsame, (hnothing.bargain hkeyword).1] at hbargain
          cases hbargain
        · cases hbargain
  · refine iff_of_false ?_ fun hnothing => hplain hnothing.adventure
    obtain ⟨rfl, hface⟩ := Classical.not_imp.mp hplain
    obtain ⟨face, hface⟩ := Option.ne_none_iff_exists'.mp hface
    rintro ⟨hsame, rfl⟩
    obtain ⟨begun, hbegun, hdefinition⟩ :=
      @beginCast_of_face methods _ _ _ _ hcard hface
    obtain ⟨modes, x, -, -, -, hafter⟩ := faceOf_failed hkeeps hbegun hfails
    rw [hafter, hbefore, Option.some.injEq] at hsame
    have hkept := congrArg SpellFace.definition hsame
    change (Card.unbargained _).definition = _ at hkept
    rw [Card.unbargained_definition] at hkept
    exact definition_ne hdefinition hkept.symm

end CastArmMethods

end DeepScry
