/-
The targets announced when a spell is cast: from the hand within the bounds of
the spell, from elsewhere by copies of that code or not at all.
-/
import DeepScry.CastingCharge
import DeepScry.SpellPhases

namespace DeepScry

/-- Distinct valid targets, no fewer and no more than the bounds say. -/
structure WithinBounds (valid : List CardId) (min max : Nat)
    (chosen : List CardId) : Prop where
  nodup : chosen.Nodup
  valid : chosen ⊆ valid
  atLeast : min ≤ chosen.length
  atMost : chosen.length ≤ max

/-- A controller that is asked for targets, and may stop instead.  It chooses
within the bounds where that is possible. -/
structure TargetChooser where
  chooseTargets : GameState → PlayerId → CardId → List CardId → Nat → Nat →
    Outcome (Option (List CardId))
  within : ∀ {game player spell valid min max after chosen},
    chooseTargets game player spell valid min max = .ok after (some chosen) →
      (∃ targets, WithinBounds valid min max targets) →
        WithinBounds valid min max chosen

/-- The only effect with a number of targets of the player's choice. -/
def SpellEffect.dividesX : SpellEffect → Bool
  | dealDamageXPaid _ .evenlyRoundedDown => true
  | _ => false

namespace GameState

/-- Whether the spell divides its damage among any number of targets. -/
def dividesX (game : GameState) (spell : CardId) : Bool :=
  (game.cards.get spell.raw).any fun card =>
    card.effects.any SpellEffect.dividesX

def targetCountBoundsForSpell (game : GameState) (spell : CardId)
    (numValid : Nat) : Nat × Nat :=
  if game.dividesX spell then (0, numValid) else (1, 1)

/-- The targets that are stored for the spell, the first of them. -/
def storedTargets (game : GameState) (spell : CardId) :
    Option (List CardId) :=
  (game.spellTargets.find? fun entry => entry.1 == spell).map Prod.snd

end GameState

/-- What the casting of a spell calls before it is put on the stack: the
announcements before its targets, which may stop, and the targets it may
have. -/
structure TargetMethods extends CastingMethods where
  announce : GameState → PlayerId → SpellAbility → Outcome Bool
  getValidTargetsForSpell : GameState → CardId → Option (List CardId)

namespace TargetMethods

variable (methods : TargetMethods) (chooser : TargetChooser)

def validTargets (game : GameState) (spell : CardId) : List CardId :=
  (methods.getValidTargetsForSpell game spell).getD []

/-- From the hand: targets are chosen unless their number and identity is
forced. -/
def castSpellTargets (game : GameState) (player : PlayerId)
    (spell : CardId) : Outcome (Option (List CardId)) :=
  let valid := methods.validTargets game spell
  let bounds := game.targetCountBoundsForSpell spell valid.length
  let forcedAll := bounds.1 == bounds.2 && bounds.2 == valid.length
  let trivialSingle := bounds.1 == bounds.2 && bounds.2 == 1 &&
    valid.length == 1
  if valid.length = 0 then .ok game (some [])
  else if forcedAll || trivialSingle then
    .ok game (some (valid.take bounds.2))
  else chooser.chooseTargets game player spell valid bounds.1 bounds.2

/-- From exile and the command zone: one target, if there is any. -/
def castFromElsewhereTargets (game : GameState) (player : PlayerId)
    (spell : CardId) : Outcome (Option (List CardId)) :=
  match methods.validTargets game spell with
  | [] => .ok game (some [])
  | [target] => .ok game (some [target])
  | valid => chooser.chooseTargets game player spell valid 1 1

/-- The target step of each action. -/
def targetStep (game : GameState) (player : PlayerId) :
    SpellAbility → Outcome (Option (List CardId))
  | .castSpell spell | .castAdventure spell =>
      methods.castSpellTargets chooser game player spell
  | .castFromExile spell _ _ | .castFromCommand spell _ =>
      methods.castFromElsewhereTargets chooser game player spell
  | _ => .ok game (some [])

/-- Modes and optional costs; not all actions announce them. -/
def announcements (game : GameState) (player : PlayerId)
    (ability : SpellAbility) : Outcome Bool :=
  match ability with
  | .castSpell _ | .castAdventure _ | .castFromExile _ _ _ =>
      methods.announce game player ability
  | _ => .ok game true

/-- The castings with these announcements. -/
def casting : CastingMethods :=
  { methods.toCastingMethods with
    choose := fun game player ability =>
      (methods.announcements game player ability).andThen
        fun announced goesOn =>
          if goesOn then methods.targetStep chooser announced player ability
          else .ok announced none }

/-- A target list with which the spell could be cast from the hand. -/
def PossibleTargets (game : GameState) (player : PlayerId) (spell : CardId)
    (targets : List CardId) : Prop :=
  ∃ chooser after,
    methods.castSpellTargets chooser game player spell =
      .ok after (some targets)

end TargetMethods

/-- A casting that puts its spell on the stack with these targets. -/
structure CastRun (methods : TargetMethods) (chooser : TargetChooser)
    (player : PlayerId) (ability : SpellAbility)
    (request : CardId × Zone × Option ManaCost)
    (game announced chosen : GameState) (targets : List CardId)
    (cast : GameState) : Prop where
  asks : ability.castRequest? = some request
  announces : methods.announcements game player ability = .ok announced true
  chooses : (methods.casting chooser).choices player ability game =
    .ok chosen (some targets)
  casts : (methods.casting chooser).castSpell8StepFrom player request.1
    targets.length request.2.1 request.2.2
    ((methods.casting chooser).engineSources chosen player)
    ((methods.casting chooser).withEngine chosen player) = .ok cast ()

/-- The targets are some that the action for the hand can announce, and the
resolution finds them. -/
structure AnnouncesAlike (methods : TargetMethods) (player : PlayerId)
    (spell : CardId) (announced : GameState)
    (targets : List CardId) (after : GameState) : Prop where
  possible : methods.PossibleTargets announced player spell targets
  stored : after.targetsOf spell = targets

/-- The actions without a target step. -/
def SpellAbility.skipsTargets : SpellAbility → Bool
  | castFromHandWithAltCost _ _ | castFromLibrary _ => true
  | _ => false

namespace TargetChooser

variable {valid targets : List CardId} {min max : Nat}

/-- The controller that gives this answer where it may. -/
noncomputable def answering (targets : List CardId) : TargetChooser where
  chooseTargets game _ _ valid min max :=
    open Classical in
    .ok game (some (if WithinBounds valid min max targets then targets
      else if hpossible : ∃ other, WithinBounds valid min max other then
        hpossible.choose
      else []))
  within := by
    rintro game player spell valid min max after chosen hchosen hpossible
    cases hchosen
    split
    · assumption
    · exact hpossible.choose_spec

theorem answering_chooseTargets (game : GameState) (player : PlayerId)
    (spell : CardId) (hwithin : WithinBounds valid min max targets) :
    (answering targets).chooseTargets game player spell valid min max =
      .ok game (some targets) := by
  rw [answering]
  dsimp only
  rw [if_pos hwithin]

end TargetChooser

theorem WithinBounds.one {valid : List CardId} {target : CardId}
    (hmem : target ∈ valid) : WithinBounds valid 1 1 [target] where
  nodup := List.nodup_singleton target
  valid := List.cons_subset.mpr ⟨hmem, List.nil_subset _⟩
  atLeast := Nat.le_refl 1
  atMost := Nat.le_refl 1

namespace GameState

variable {game : GameState} {spell : CardId}

/-- As many targets as the bounds ask for can be chosen. -/
theorem exists_withinBounds {valid : List CardId} (hvalid : valid ≠ []) :
    ∃ targets, WithinBounds valid
      (game.targetCountBoundsForSpell spell valid.length).1
      (game.targetCountBoundsForSpell spell valid.length).2 targets := by
  obtain ⟨target, rest, rfl⟩ := List.exists_cons_of_ne_nil hvalid
  refine ⟨[target], ?_⟩
  have hone := WithinBounds.one (List.mem_cons_self (a := target) (l := rest))
  rw [targetCountBoundsForSpell]
  split
  · exact ⟨hone.nodup, hone.valid, Nat.zero_le _, Nat.succ_pos rest.length⟩
  · exact hone

end GameState

namespace TargetMethods

variable {methods : TargetMethods} {chooser : TargetChooser}
  {game : GameState} {player : PlayerId} {spell : CardId}
  {targets : List CardId}

/-- The choice is left to the controller unless the one target is forced. -/
theorem castSpellTargets_of_valid
    (hvalid : methods.validTargets game spell ≠ []) :
    methods.castSpellTargets chooser game player spell =
      if game.dividesX spell = false ∧
          (methods.validTargets game spell).length = 1 then
        .ok game (some (methods.validTargets game spell))
      else chooser.chooseTargets game player spell
        (methods.validTargets game spell)
        (game.targetCountBoundsForSpell spell
          (methods.validTargets game spell).length).1
        (game.targetCountBoundsForSpell spell
          (methods.validTargets game spell).length).2 := by
  have hlength : (methods.validTargets game spell).length ≠ 0 :=
    fun hzero => hvalid (List.eq_nil_of_length_eq_zero hzero)
  rw [castSpellTargets, if_neg hlength, GameState.targetCountBoundsForSpell]
  generalize methods.validTargets game spell = valid at hvalid hlength ⊢
  cases game.dividesX spell with
  | true => simp [Ne.symm hlength]
  | false =>
      by_cases hone : valid.length = 1
      · simp [hone, List.take_of_length_le (Nat.le_of_eq hone)]
      · simp [hone, Ne.symm hone]

theorem castSpellTargets_of_none
    (hvalid : methods.validTargets game spell = []) :
    methods.castSpellTargets chooser game player spell =
      .ok game (some []) := by
  rw [castSpellTargets, hvalid]
  rfl

/-- Without a valid target the list is empty. -/
theorem possibleTargets_of_none
    (hvalid : methods.validTargets game spell = []) :
    methods.PossibleTargets game player spell targets ↔ targets = [] := by
  constructor
  · rintro ⟨chooser, after, hchosen⟩
    rw [castSpellTargets_of_none hvalid] at hchosen
    cases hchosen
    rfl
  · rintro rfl
    exact ⟨.answering [], game, castSpellTargets_of_none hvalid⟩

/-- The target lists with which a spell can be cast from the hand are those
within its bounds. -/
theorem possibleTargets_of_valid
    (hvalid : methods.validTargets game spell ≠ []) :
    methods.PossibleTargets game player spell targets ↔
      WithinBounds (methods.validTargets game spell)
        (game.targetCountBoundsForSpell spell
          (methods.validTargets game spell).length).1
        (game.targetCountBoundsForSpell spell
          (methods.validTargets game spell).length).2 targets := by
  by_cases hforced : game.dividesX spell = false ∧
      (methods.validTargets game spell).length = 1
  · obtain ⟨target, hone⟩ := List.length_eq_one_iff.mp hforced.2
    have hbounds : game.targetCountBoundsForSpell spell
        (methods.validTargets game spell).length = (1, 1) := by
      rw [GameState.targetCountBoundsForSpell, if_neg]
      rw [hforced.1]
      exact Bool.false_ne_true
    rw [hbounds, PossibleTargets]
    simp only [castSpellTargets_of_valid hvalid, if_pos hforced]
    rw [hone]
    constructor
    · rintro ⟨chooser, after, ⟨⟩⟩
      exact .one List.mem_cons_self
    · intro hwithin
      obtain ⟨only, rfl⟩ := List.length_eq_one_iff.mp
        (Nat.le_antisymm hwithin.atMost hwithin.atLeast)
      cases List.mem_singleton.mp (hwithin.valid List.mem_cons_self)
      exact ⟨.answering [], game, rfl⟩
  · rw [PossibleTargets]
    simp only [castSpellTargets_of_valid hvalid, if_neg hforced]
    constructor
    · rintro ⟨chooser, after, hchosen⟩
      exact chooser.within hchosen (game.exists_withinBounds hvalid)
    · intro hwithin
      exact ⟨.answering targets, game,
        TargetChooser.answering_chooseTargets game player spell hwithin⟩

/-- One target, if there is any, is possible for every spell. -/
theorem possibleTargets_of_elsewhere {after : GameState}
    (hchosen : methods.castFromElsewhereTargets chooser game player spell =
      .ok after (some targets)) :
    methods.PossibleTargets game player spell targets := by
  by_cases hvalid : methods.validTargets game spell = []
  · rw [possibleTargets_of_none hvalid]
    rw [castFromElsewhereTargets, hvalid] at hchosen
    cases hchosen
    rfl
  · rw [possibleTargets_of_valid hvalid]
    have hone : WithinBounds (methods.validTargets game spell) 1 1 targets := by
      obtain ⟨target, rest, hlist⟩ := List.exists_cons_of_ne_nil hvalid
      have hsome := WithinBounds.one
        (hlist ▸ List.mem_cons_self : target ∈ methods.validTargets game spell)
      rw [castFromElsewhereTargets.eq_def] at hchosen
      split at hchosen
      · next hnone => exact absurd hnone hvalid
      · next only honly =>
        cases hchosen
        rw [honly]
        exact .one List.mem_cons_self
      · exact chooser.within hchosen ⟨_, hsome⟩
    rw [GameState.targetCountBoundsForSpell]
    split
    · refine ⟨hone.nodup, hone.valid, Nat.zero_le _, hone.atMost.trans ?_⟩
      exact List.length_pos_iff.mpr hvalid
    · exact hone

/-- No target is possible for a spell that has none or needs none. -/
theorem possibleTargets_nil_iff :
    methods.PossibleTargets game player spell [] ↔
      methods.validTargets game spell = [] ∨ game.dividesX spell = true := by
  by_cases hvalid : methods.validTargets game spell = []
  · rw [possibleTargets_of_none hvalid]
    exact iff_of_true rfl (.inl hvalid)
  · rw [possibleTargets_of_valid hvalid, GameState.targetCountBoundsForSpell]
    cases game.dividesX spell with
    | true =>
        refine iff_of_true ?_ (.inr rfl)
        exact ⟨List.nodup_nil, List.nil_subset _, Nat.le_refl 0,
          Nat.zero_le _⟩
    | false =>
        refine iff_of_false ?_ (not_or.mpr ⟨hvalid, Bool.false_ne_true⟩)
        rw [if_neg Bool.false_ne_true]
        exact fun hwithin => Nat.not_succ_le_zero 0 hwithin.atLeast

end TargetMethods

namespace GameState

/-- The first list that is stored counts. -/
theorem targetsOf_eq (game : GameState) (spell : CardId) :
    game.targetsOf spell = (game.storedTargets spell).getD [] :=
  rfl

theorem storedTargets_append {game after : GameState} {spell : CardId}
    {targets : List CardId}
    (hstored : after.spellTargets = game.spellTargets ++ [(spell, targets)]) :
    after.targetsOf spell = (game.storedTargets spell).getD targets := by
  rw [targetsOf_eq, storedTargets, storedTargets, hstored, List.find?_append]
  cases game.spellTargets.find? fun entry => entry.1 == spell with
  | some entry => rfl
  | none => simp

/-- A list that is not stored because it is empty. -/
theorem storedTargets_unlessEmpty {game after : GameState} {spell : CardId}
    {targets : List CardId}
    (hstored : after.spellTargets = if targets.isEmpty then game.spellTargets
      else game.spellTargets ++ [(spell, targets)]) :
    after.targetsOf spell = (game.storedTargets spell).getD targets := by
  cases targets with
  | nil => rw [targetsOf_eq, storedTargets, hstored]; rfl
  | cons target rest => exact storedTargets_append hstored

/-- What the resolution finds for the spell. -/
theorem targetsOf_recordCast (game : GameState) (player : PlayerId)
    {targets : List CardId} {ability : SpellAbility}
    {request : CardId × Zone × Option ManaCost}
    (hrequest : ability.castRequest? = some request)
    (hskips : ability.skipsTargets = true → targets = []) :
    (game.recordCast player targets ability).targetsOf request.1 =
      (game.storedTargets request.1).getD targets := by
  cases ability with
  | castSpell card | castAdventure card =>
      cases hrequest
      exact storedTargets_append rfl
  | castFromExile card alternativeCost effect =>
      cases hrequest
      exact storedTargets_unlessEmpty rfl
  | castFromCommand card totalCost =>
      cases hrequest
      apply storedTargets_unlessEmpty
      rw [recordCast]
      split <;> rfl
  | castFromHandWithAltCost card alternativeCost =>
      cases hrequest
      rw [hskips rfl]
      rfl
  | castFromLibrary card =>
      cases hrequest
      rw [hskips rfl]
      rfl
  | _ => cases hrequest

end GameState

section Announcing

variable {methods : TargetMethods} {chooser : TargetChooser}
  {player : PlayerId} {ability : SpellAbility}
  {request : CardId × Zone × Option ManaCost}
  {game announced chosen cast : GameState} {targets : List CardId}

/-- The target step of the action that was run. -/
theorem CastRun.targetStep (hrun : CastRun methods chooser player ability
    request game announced chosen targets cast) :
    methods.targetStep chooser announced player ability =
      .ok chosen (some targets) := by
  obtain ⟨hrequest, hannounces, hchooses, -⟩ := hrun
  have hchoose : (methods.casting chooser).choose game player ability =
      methods.targetStep chooser announced player ability := by
    change (methods.announcements game player ability).andThen _ = _
    rw [hannounces]
    rfl
  cases ability with
  | castFromHandWithAltCost card alternativeCost =>
      cases hannounces
      exact hchooses
  | castFromLibrary card =>
      cases hannounces
      exact hchooses
  | castSpell | castAdventure | castFromExile | castFromCommand =>
      exact hchoose.symm.trans hchooses
  | _ => cases hrequest

/-- Only an action without a target step may announce what the action for the
hand cannot. -/
theorem CastRun.possibleTargets_iff (hrun : CastRun methods chooser player
    ability request game announced chosen targets cast) :
    methods.PossibleTargets announced player request.1 targets ↔
      (ability.skipsTargets = true →
        methods.validTargets announced request.1 = [] ∨
          announced.dividesX request.1 = true) := by
  have hstep := hrun.targetStep
  have hrequest := hrun.asks
  cases ability with
  | castSpell card | castAdventure card =>
      cases hrequest
      exact iff_of_true ⟨chooser, chosen, hstep⟩ fun hskips => nomatch hskips
  | castFromExile card | castFromCommand card =>
      cases hrequest
      refine iff_of_true ?_ fun hskips => nomatch hskips
      exact TargetMethods.possibleTargets_of_elsewhere hstep
  | castFromHandWithAltCost card | castFromLibrary card =>
      cases hrequest
      cases hstep
      rw [TargetMethods.possibleTargets_nil_iff]
      exact ⟨fun hnone _ => hnone, fun hnone => hnone rfl⟩
  | _ => cases hrequest

/-- The resolution finds the targets unless others are stored already. -/
theorem CastRun.stored_iff (hrun : CastRun methods chooser player ability
    request game announced chosen targets cast) :
    (cast.recordCast player targets ability).targetsOf request.1 = targets ↔
      ∀ old, cast.storedTargets request.1 = some old → old = targets := by
  have hskips : ability.skipsTargets = true → targets = [] := by
    have hstep := hrun.targetStep
    intro hskips
    cases ability <;> cases hskips <;> cases hstep <;> rfl
  rw [cast.targetsOf_recordCast player hrun.asks hskips]
  cases cast.storedTargets request.1 with
  | none => exact iff_of_true rfl fun old hold => nomatch hold
  | some old => exact ⟨fun heq _ hold => Option.some.inj hold ▸ heq,
      fun hall => hall old rfl⟩

end Announcing

/-- A bolt with these targets, and a Mountain to pay for it. -/
def boltTargets (targets : List CardId) : TargetMethods where
  toCastingMethods := GameState.withMountain ⟨1⟩
  announce game _ _ := .ok game true
  getValidTargetsForSpell _ _ := some targets

end DeepScry
