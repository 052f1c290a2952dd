/-
A combat damage step of the game loop: one damage step, or a first-strike step
and a normal one.  Each creature is meant to strike as its keywords say; the
steps are chosen by the keywords on the cards, and the strikes by the keywords
with all continuous effects.
-/
import DeepScry.StrikeBack

namespace DeepScry

/-- One damage step that goes through: its game at the start, when the damage
is dealt, and after the destruction of creatures. -/
structure DamageStep where
  firstStrike : Bool
  start : GameState
  dealt : GameState
  record : DamageRecord
  last : GameState

section Run

variable (effects : StaticEffects) (executor : CombatExecutor) (depth : Nat)
  (between : GameState → GameState → Prop)

/-- `assign_combat_damage`, with some controllers and some recorded plan. -/
def DamageStep.Runs (step : DamageStep) : Prop :=
  ∃ attackerController blockerController recordedPlan plan,
    step.start.dealCombatDamage effects executor depth step.firstStrike
      attackerController blockerController recordedPlan =
        some (step.dealt, .ok (plan, step.record)) ∧
    GameState.destroyCreatures executor depth step.dealt
      (step.dealt.creaturesToDestroy effects step.record) =
        some (step.last, .ok ())

/-- `combat_damage_step`, by the damage steps it runs.  `between` is what the
priority round after first-strike damage may do. -/
inductive CombatDamageRun : GameState → List DamageStep → Prop
  | single {step : DamageStep}
      (hnone : step.start.hasFirstStrikeCombat = false)
      (hnormal : step.firstStrike = false)
      (hruns : step.Runs effects executor depth) :
      CombatDamageRun step.start [step]
  | double {first second : DamageStep}
      (hsome : first.start.hasFirstStrikeCombat = true)
      (hfirst : first.firstStrike = true)
      (hnormal : second.firstStrike = false)
      (hruns : first.Runs effects executor depth)
      (hbetween : between first.last second.start)
      (hruns' : second.Runs effects executor depth) :
      CombatDamageRun first.start [first, second]

/-- The step is what `assign_combat_damage_planned` does. -/
theorem DamageStep.Runs.assigns {step : DamageStep}
    (hruns : step.Runs effects executor depth) :
    ∃ attackerController blockerController recordedPlan plan,
      step.start.assignCombatDamagePlanned effects executor depth
        step.firstStrike attackerController blockerController recordedPlan =
          some (step.last, .ok plan) := by
  obtain ⟨attackerController, blockerController, recordedPlan, plan, hdealt,
    hdestroyed⟩ := hruns
  refine ⟨attackerController, blockerController, recordedPlan, plan, ?_⟩
  rw [GameState.assignCombatDamagePlanned]
  exact Outcome.andThen_eq_ok.mpr ⟨_, _, hdealt,
    Outcome.andThen_eq_ok.mpr ⟨_, _, hdestroyed, rfl⟩⟩

/-- Run one damage step. -/
def GameState.damageStep (game : GameState) (firstStrike : Bool)
    (attackerController blockerController : DamageController) :
    Option DamageStep :=
  match game.dealCombatDamage effects executor depth firstStrike
      attackerController blockerController none with
  | some (dealt, .ok (_, record)) =>
      match GameState.destroyCreatures executor depth dealt
          (dealt.creaturesToDestroy effects record) with
      | some (last, .ok ()) => some ⟨firstStrike, game, dealt, record, last⟩
      | _ => none
  | _ => none

theorem GameState.damageStep_runs {game : GameState} {firstStrike : Bool}
    {attackerController blockerController : DamageController}
    {step : DamageStep}
    (hstep : game.damageStep effects executor depth firstStrike
      attackerController blockerController = some step) :
    step.start = game ∧ step.firstStrike = firstStrike ∧
      step.Runs effects executor depth := by
  rw [GameState.damageStep] at hstep
  split at hstep
  · next dealt plan record hdealt =>
    split at hstep
    · next last hdestroyed =>
      obtain rfl := Option.some.inj hstep
      exact ⟨rfl, rfl, attackerController, blockerController, none, plan,
        hdealt, hdestroyed⟩
    · cases hstep
  · cases hstep

end Run

section Strikes

variable (effects : StaticEffects)

/-- The creature attacks, or blocks an attacker. -/
def GameState.InCombat (game : GameState) (id : CardId) : Prop :=
  id ∈ game.combat.attackerIds ∨
    ∃ attacker ∈ game.combat.attackerIds,
      id ∈ game.combat.getBlockers attacker

/-- The creature is there in each damage step, with positive power and the
strike keywords it has at first. -/
structure StaysInCombat (game : GameState) (steps : List DamageStep)
    (id : CardId) : Prop where
  inCombat : game.InCombat id
  there : ∀ step ∈ steps, step.start.zones.battlefield.contains id = true
  positive : ∀ step ∈ steps, ∃ card, step.start.getCard id = some card ∧
    0 < step.start.combatPower effects id card
  firstStrike : ∀ step ∈ steps,
    step.start.hasKeywordWithEffects effects id .firstStrike =
      game.hasKeywordWithEffects effects id .firstStrike
  doubleStrike : ∀ step ∈ steps,
    step.start.hasKeywordWithEffects effects id .doubleStrike =
      game.hasKeywordWithEffects effects id .doubleStrike

/-- In how many of the steps the creature deals damage. -/
def strikeCount (steps : List DamageStep) (id : CardId) : Nat :=
  steps.countP fun step =>
    step.start.dealsDamageThisStep effects step.firstStrike id

variable {effects} {executor : CombatExecutor} {depth : Nat}
  {between : GameState → GameState → Prop} {game : GameState}
  {steps : List DamageStep}

/-- One creature strikes as often as it should unless it has one of the
keywords and no first-strike step is run. -/
theorem StaysInCombat.strikeCount_iff
    (hrun : CombatDamageRun effects executor depth between game steps)
    {id : CardId} (hstays : StaysInCombat effects game steps id) :
    strikeCount effects steps id =
        (if game.hasKeywordWithEffects effects id .doubleStrike then 2
          else 1) ↔
      (game.hasKeywordWithEffects effects id .firstStrike = true ∨
        game.hasKeywordWithEffects effects id .doubleStrike = true →
          game.hasFirstStrikeCombat = true) := by
  have hfirstStrike := hstays.firstStrike
  have hdoubleStrike := hstays.doubleStrike
  cases hrun with
  | single hnone hnormal hruns =>
      rw [strikeCount, List.countP_singleton, GameState.dealsDamageThisStep,
        hnormal, hnone]
      cases GameState.hasKeywordWithEffects effects _ id .firstStrike <;>
      cases GameState.hasKeywordWithEffects effects _ id .doubleStrike <;>
      simp [strikesInStep]
  | @double first second hsome hfirst hnormal hruns hbetween hruns' =>
      have hsecond := List.mem_cons_of_mem first (List.mem_singleton_self second)
      rw [strikeCount, List.countP_cons, List.countP_singleton,
        GameState.dealsDamageThisStep, GameState.dealsDamageThisStep, hfirst,
        hnormal, hsome, hfirstStrike second hsecond,
        hdoubleStrike second hsecond]
      cases GameState.hasKeywordWithEffects effects _ id .firstStrike <;>
      cases GameState.hasKeywordWithEffects effects _ id .doubleStrike <;>
      simp [strikesInStep]

end Strikes

/-- The executor of a game whose triggers hand nothing over. -/
def idleCombatExecutor : CombatExecutor where
  toEffectExecutor := GameState.idleExecutor
  checkCombatDamageTriggers game _ _ := .ok game ()

open GameState

/-- An enchantment that gives first strike to the creatures of its
controller. -/
def strikeGrant (id : Nat) (controller : PlayerId) : Card where
  id := ⟨id⟩
  owner := controller
  controller := controller
  types := [.enchantment]
  staticAbilities := [.grantKeyword .creaturesYouControl .firstStrike none]
  definition := { cache := { isEnchantment := true } }

/-- The attacker has first strike from the enchantment. -/
def grantedBlock : GameState :=
  { singleBlock [] with
    cards := ⟨[some (bear 0 ⟨0⟩ []), some (bear 1 ⟨1⟩ []),
      some (strikeGrant 2 ⟨0⟩)]⟩
    zones := { battlefield := [⟨0⟩, ⟨1⟩, ⟨2⟩] } }

end DeepScry
