/-
Destruction by combat damage over the damage steps of a combat.  The damage of
a step is compared on its own with the current toughness, so damage already
marked, damage of an earlier step and continuous effects on the toughness are
left out.
-/
import DeepScry.CombatRun
import DeepScry.MaximalPick
import Mathlib.Algebra.Order.Group.Int

namespace DeepScry

open SortedMap MaximalPick

/-- The damage of hits, under the creatures that they are on. -/
def hitAmounts (hits : List CreatureHit) : List (CardId × Int) :=
  hits.map fun hit => (hit.target, hit.amount.toInt)

/-- The damage that the hits deal to a creature. -/
def damageTo (hits : List CreatureHit) (id : CardId) : Int :=
  weightOf (hitAmounts hits) id

theorem damageTo_cons (hit : CreatureHit) (hits : List CreatureHit)
    (id : CardId) :
    damageTo (hit :: hits) id =
      (if hit.target = id then hit.amount.toInt else 0) + damageTo hits id :=
  weightOf_cons _ _ _

theorem toInt_pos {amount : Int32} (hpositive : 0 < amount) :
    0 < amount.toInt :=
  Int32.lt_iff_toInt_lt.mp hpositive

theorem damageTo_nonneg {hits : List CreatureHit}
    (hpositive : ∀ hit ∈ hits, 0 < hit.amount) (id : CardId) :
    0 ≤ damageTo hits id := by
  apply weightOf_nonneg
  intro item hitem
  obtain ⟨hit, hmem, rfl⟩ := List.mem_map.mp hitem
  exact (toInt_pos (hpositive hit hmem)).le

/-- A creature is dealt damage when some hit is on it. -/
theorem damageTo_pos_iff {hits : List CreatureHit}
    (hpositive : ∀ hit ∈ hits, 0 < hit.amount) (id : CardId) :
    0 < damageTo hits id ↔ ∃ hit ∈ hits, hit.target = id := by
  induction hits with
  | nil => simp [damageTo, hitAmounts, weightOf]
  | cons hit rest ih =>
      have hhit := toInt_pos (hpositive hit List.mem_cons_self)
      have hpositive := fun other hother =>
        hpositive other (List.mem_cons_of_mem _ hother)
      have hrest := damageTo_nonneg hpositive id
      rw [damageTo_cons]
      split
      · next htarget =>
        constructor
        · intro _
          exact ⟨hit, List.mem_cons_self, htarget⟩
        · intro _
          exact add_pos_of_pos_of_nonneg hhit hrest
      · next htarget =>
        rw [zero_add, ih hpositive]
        constructor
        · rintro ⟨other, hother, hid⟩
          exact ⟨other, List.mem_cons_of_mem _ hother, hid⟩
        · rintro ⟨other, hother, hid⟩
          rcases List.mem_cons.mp hother with rfl | hother
          · exact absurd hid htarget
          · exact ⟨other, hother, hid⟩

section Totals

/-- The running totals of damage to creatures. -/
def addHits (totals : List (CardId × Int32)) (hits : List CreatureHit) :
    List (CardId × Int32) :=
  hits.foldl (fun totals hit => addTo totals hit.target hit.amount) totals

theorem addHits_sorted (hits : List CreatureHit)
    {totals : List (CardId × Int32)} (hsorted : Sorted totals) :
    Sorted (addHits totals hits) := by
  induction hits generalizing totals with
  | nil => exact hsorted
  | cons hit rest ih => exact ih (hsorted.insert _ _)

theorem isSome_lookup_addHits (hits : List CreatureHit)
    (totals : List (CardId × Int32)) (id : CardId) :
    (lookup (addHits totals hits) id).isSome = true ↔
      (lookup totals id).isSome = true ∨ ∃ hit ∈ hits, hit.target = id := by
  induction hits generalizing totals with
  | nil => simp [addHits]
  | cons hit rest ih =>
      have hstep := ih (addTo totals hit.target hit.amount)
      rw [addTo, lookup_insert] at hstep
      rw [addHits, List.foldl_cons, ← addHits, addTo, hstep, List.exists_mem_cons_iff]
      split
      · next htarget => simp [htarget]
      · next htarget => simp [htarget]

/-- As long as nothing overflows, the total of a creature is all the damage
dealt to it. -/
theorem toInt_lookup_addHits {hits : List CreatureHit}
    (hpositive : ∀ hit ∈ hits, 0 < hit.amount)
    (totals : List (CardId × Int32)) (id : CardId)
    (hstart : 0 ≤ ((lookup totals id).getD 0).toInt)
    (hfits : ((lookup totals id).getD 0).toInt + damageTo hits id < 2 ^ 31) :
    ((lookup (addHits totals hits) id).getD 0).toInt =
      ((lookup totals id).getD 0).toInt + damageTo hits id := by
  induction hits generalizing totals with
  | nil => exact (Int.add_zero _).symm
  | cons hit rest ih =>
      have hhit := toInt_pos (hpositive hit List.mem_cons_self)
      have hpositive := fun other hother =>
        hpositive other (List.mem_cons_of_mem _ hother)
      have hrest := damageTo_nonneg hpositive id
      rw [damageTo_cons] at hfits ⊢
      have hstep := ih hpositive (addTo totals hit.target hit.amount)
      rw [addTo, lookup_insert] at hstep
      rw [addHits, List.foldl_cons, ← addHits, addTo]
      split at hstep
      · next htarget =>
        rw [if_pos htarget] at hfits ⊢
        rw [Option.getD_some, htarget, Int32.toInt_add,
          Int.bmod_eq_of_le_mul_two (by omega) (by omega)] at hstep
        rw [htarget, hstep (by omega) (by omega)]
        omega
      · next htarget =>
        rw [if_neg htarget, zero_add] at hfits ⊢
        exact hstep hstart hfits

end Totals

section Destroyed

variable (effects : StaticEffects)

/-- A creature on the battlefield without indestructible. -/
structure GameState.Destructible (game : GameState) (id : CardId)
    (card : Card) : Prop where
  present : game.getCard id = some card
  there : game.zones.battlefield.contains id = true
  creature : card.isCreature = true
  notIndestructible :
    game.hasKeywordWithEffects effects id .indestructible = false

/-- All damage that a step deals to a creature. -/
def DamageRecord.received (record : DamageRecord) (id : CardId) : Int :=
  damageTo record.creatureHits id

variable {effects} {game : GameState} {record : DamageRecord} {id : CardId}
  {card : Card}

theorem DamageRecord.damageToCreatures_sorted (record : DamageRecord) :
    Sorted record.damageToCreatures :=
  addHits_sorted record.creatureHits List.Pairwise.nil

theorem GameState.mem_creaturesToDestroy :
    id ∈ game.creaturesToDestroy effects record ↔
      ∃ damage, lookup record.damageToCreatures id = some damage ∧
        game.destroyedBy effects record id damage = true := by
  rw [creaturesToDestroy, List.mem_map]
  constructor
  · rintro ⟨⟨other, damage⟩, hmem, rfl⟩
    obtain ⟨hentry, hdestroyed⟩ := List.mem_filter.mp hmem
    exact ⟨damage, record.damageToCreatures_sorted.lookup_eq_some_iff.mpr
      hentry, hdestroyed⟩
  · rintro ⟨damage, hlookup, hdestroyed⟩
    exact ⟨(id, damage), List.mem_filter.mpr
      ⟨record.damageToCreatures_sorted.lookup_eq_some_iff.mp hlookup,
        hdestroyed⟩, rfl⟩

theorem DamageRecord.exists_hit_of_deathtouched
    (htouched : record.deathtouched id = true) :
    ∃ hit ∈ record.creatureHits, hit.target = id := by
  obtain ⟨hit, hmem, hboth⟩ := List.any_eq_true.mp htouched
  exact ⟨hit, hmem, beq_iff_eq.mp (Bool.and_eq_true _ _ ▸ hboth).2⟩

theorem GameState.destructible_of_destroyed
    (hdestroyed : id ∈ game.creaturesToDestroy effects record) :
    ∃ card, game.Destructible effects id card := by
  obtain ⟨damage, -, hby⟩ := mem_creaturesToDestroy.mp hdestroyed
  rw [destroyedBy, Bool.and_eq_true] at hby
  obtain ⟨card, hpresent, hcard⟩ := (Option.any_eq_true _ _).mp hby.2
  rw [Bool.and_eq_true, Bool.and_eq_true, Bool.not_eq_true'] at hcard
  exact ⟨card, hpresent, hby.1, hcard.1.1, hcard.1.2⟩

/-- The total of a creature in a step is there when it is dealt damage, and is
all of it. -/
theorem DamageRecord.lookup_damageToCreatures
    (hpositive : ∀ hit ∈ record.creatureHits, 0 < hit.amount)
    (hfits : record.received id < 2 ^ 31) (damage : Int32) :
    lookup record.damageToCreatures id = some damage ↔
      0 < record.received id ∧ damage.toInt = record.received id := by
  have hsome := isSome_lookup_addHits record.creatureHits [] id
  have htotal := toInt_lookup_addHits hpositive [] id le_rfl
    (by simpa [lookup, received] using hfits)
  rw [← damageTo_pos_iff hpositive, ← received] at hsome
  rw [← received] at htotal
  change (lookup record.damageToCreatures id).isSome = true ↔ _ at hsome
  change ((lookup record.damageToCreatures id).getD 0).toInt = _ at htotal
  generalize lookup record.damageToCreatures id = total at hsome htotal
  rcases total with _ | total
  · constructor
    · intro heq
      cases heq
    · rintro ⟨hthere, -⟩
      exact absurd hthere (by simpa [lookup] using hsome)
  · have hthere : 0 < record.received id := by simpa [lookup] using hsome
    have htotal : total.toInt = record.received id := by
      simpa [lookup] using htotal
    constructor
    · intro heq
      obtain rfl := Option.some.inj heq
      exact ⟨hthere, htotal⟩
    · rintro ⟨-, hdamage⟩
      rw [Int32.toInt_inj.mp (hdamage.trans htotal.symm)]

theorem GameState.Destructible.destroyedBy_iff
    (hcreature : game.Destructible effects id card) (damage : Int32) :
    game.destroyedBy effects record id damage = true ↔
      card.currentToughness.toInt ≤ damage.toInt ∨
        record.deathtouched id = true ∧ 0 < card.currentToughness := by
  rw [destroyedBy, hcreature.present, hcreature.there, Bool.true_and,
    Option.any_some, hcreature.creature, hcreature.notIndestructible]
  simp only [Bool.not_false, Bool.true_and, Bool.or_eq_true, Bool.and_eq_true,
    decide_eq_true_eq, Int32.le_iff_toInt_le, Int8.toInt_toInt32]

/-- What the damage of one step destroys: the creatures whose current
toughness it reaches, and those touched by deathtouch. -/
theorem GameState.Destructible.destroyed_iff
    (hcreature : game.Destructible effects id card)
    (hpositive : ∀ hit ∈ record.creatureHits, 0 < hit.amount)
    (hfits : record.received id < 2 ^ 31) :
    id ∈ game.creaturesToDestroy effects record ↔
      max 1 card.currentToughness.toInt ≤ record.received id ∨
        record.deathtouched id = true ∧ 0 < card.currentToughness := by
  have hreceived : record.deathtouched id = true → 0 < record.received id :=
    fun htouched => (damageTo_pos_iff hpositive id).mpr
      (record.exists_hit_of_deathtouched htouched)
  rw [mem_creaturesToDestroy, max_le_iff]
  constructor
  · rintro ⟨damage, hlookup, hdestroyed⟩
    obtain ⟨hthere, htotal⟩ :=
      (record.lookup_damageToCreatures hpositive hfits damage).mp hlookup
    rcases hcreature.destroyedBy_iff damage |>.mp hdestroyed with hle | htouch
    · exact Or.inl ⟨hthere, htotal ▸ hle⟩
    · exact Or.inr htouch
  · intro hdestroyed
    have hthere : 0 < record.received id := by
      rcases hdestroyed with ⟨hone, -⟩ | ⟨htouched, -⟩
      · exact hone
      · exact hreceived htouched
    have htotal : (Int32.ofInt (record.received id)).toInt =
        record.received id :=
      Int32.toInt_ofInt_of_le (by omega) (by omega)
    refine ⟨Int32.ofInt (record.received id),
      (record.lookup_damageToCreatures hpositive hfits _).mpr
        ⟨hthere, htotal⟩, (hcreature.destroyedBy_iff _).mpr ?_⟩
    rw [htotal]
    exact hdestroyed.imp_left And.right

/-- A bonus that is added is some damage. -/
theorem GameState.amount_pos_of_mem_creatureBoosts
    (game : GameState) (record : DamageRecord) :
    ∀ hit ∈ game.creatureBoosts record, 0 < hit.amount := by
  intro hit hmem
  obtain ⟨⟨target, sources⟩, -, hhit⟩ := List.mem_flatMap.mp hmem
  dsimp at hhit
  split at hhit
  · split at hhit
    · obtain ⟨source, -, hboost⟩ := List.mem_filterMap.mp hhit
      split at hboost
      · next hpositive =>
        rw [← Option.some.inj hboost]
        exact hpositive
      · cases hboost
    · cases hhit
  · cases hhit

end Destroyed

section Run

variable {effects : StaticEffects} {executor : CombatExecutor} {depth : Nat}
  {between : GameState → GameState → Prop} {game : GameState}
  {steps : List DamageStep}

/-- No damage of a step is zero or negative. -/
theorem DamageStep.Runs.amount_pos {step : DamageStep}
    (hruns : step.Runs effects executor depth) :
    ∀ hit ∈ step.record.creatureHits, 0 < hit.amount := by
  obtain ⟨_, _, _, plan, hdealt, -⟩ := hruns
  obtain ⟨planned, passed, record, -, hpass, hrecord⟩ :=
    GameState.dealCombatDamage_pass effects executor depth _ hdealt
  have hsourced : record.Sourced planned.combat.attackerIds :=
    GameState.exchangeAll_sourced effects step.firstStrike plan
      (by rw [hpass])
  rw [hrecord]
  intro hit hmem
  rcases List.mem_append.mp hmem with hmem | hmem
  · rcases List.mem_append.mp hmem with hmem | hmem
    · exact (hsourced.toBlockers hit hmem).2
    · exact (hsourced.strikeBacks hit hmem).2
  · rw [GameState.applyBoosts, hsourced.boosts] at hmem
    exact passed.amount_pos_of_mem_creatureBoosts record hit hmem

theorem CombatDamageRun.runs
    (hrun : CombatDamageRun effects executor depth between game steps) :
    ∀ step ∈ steps, step.Runs effects executor depth := by
  cases hrun with
  | single hnone hnormal hruns =>
      intro step hmem
      rw [List.mem_singleton.mp hmem]
      exact hruns
  | double hsome hfirst hnormal hruns hbetween hruns' =>
      intro step hmem
      rcases List.mem_cons.mp hmem with rfl | hmem
      · exact hruns
      · rw [List.mem_singleton.mp hmem]
        exact hruns'

/-- The damage on a creature before a step: what is marked on it, and what the
earlier damage steps dealt, which is nowhere marked. -/
def damageBefore (earlier : List DamageStep) (id : CardId) (card : Card) :
    Int :=
  card.damage.toInt + (earlier.map fun step => step.record.received id).sum

/-- The step destroys the creature, or uses up its regeneration shield. -/
def DamageStep.Destroys (effects : StaticEffects) (step : DamageStep)
    (id : CardId) : Prop :=
  id ∈ step.dealt.creaturesToDestroy effects step.record

/-- What a step should destroy: the creatures whose damage of the whole turn
reaches their effective toughness, and those touched by deathtouch. -/
structure DestroysRightly (effects : StaticEffects)
    (earlier : List DamageStep) (step : DamageStep) : Prop where
  survives : ∀ id card, step.dealt.Destructible effects id card →
    ¬step.Destroys effects id →
      damageBefore earlier id card + step.record.received id <
        (step.dealt.combatToughness effects id card).toInt
  destroyed : ∀ id, step.Destroys effects id →
    ∃ card, step.dealt.getCard id = some card ∧
      ((step.dealt.combatToughness effects id card).toInt ≤
          damageBefore earlier id card + step.record.received id ∨
        step.record.deathtouched id = true)

/-- The current toughness is what is left of the effective toughness after the
earlier damage, as the step compares it. -/
structure ExactToughness (effects : StaticEffects)
    (earlier : List DamageStep) (step : DamageStep) (id : CardId)
    (card : Card) : Prop where
  exact : max 1 card.currentToughness.toInt =
    (step.dealt.combatToughness effects id card).toInt -
      damageBefore earlier id card
  fits : step.record.received id < 2 ^ 31

theorem DamageStep.Runs.destroysRightly {earlier : List DamageStep}
    {step : DamageStep} (hruns : step.Runs effects executor depth)
    (hexact : ∀ id card, step.dealt.Destructible effects id card →
      ExactToughness effects earlier step id card) :
    DestroysRightly effects earlier step := by
  constructor
  · intro id card hcreature hsurvives
    have hiff := hcreature.destroyed_iff hruns.amount_pos
      (hexact id card hcreature).fits
    have hthreshold := (hexact id card hcreature).exact
    have hless : ¬max 1 card.currentToughness.toInt ≤
        step.record.received id :=
      fun hle => hsurvives (hiff.mpr (Or.inl hle))
    omega
  · intro id hdestroyed
    obtain ⟨card, hcreature⟩ := GameState.destructible_of_destroyed hdestroyed
    have hthreshold := (hexact id card hcreature).exact
    refine ⟨card, hcreature.present, ?_⟩
    rcases (hcreature.destroyed_iff hruns.amount_pos
      (hexact id card hcreature).fits).mp hdestroyed with hle | ⟨htouched, -⟩
    · left
      omega
    · exact Or.inr htouched

end Run

open GameState

/-- The normal damage step of two bears that fight. -/
def bearsStep : Option DamageStep :=
  (singleBlock []).damageStep noEffects idleCombatExecutor 1 false
    (firstOption ⟨0⟩) (firstOption ⟨1⟩)

/-- An attacker with double strike and power two, and a blocker with toughness
four. -/
def doubleStrikeBlock : GameState :=
  { singleBlock [] with
    cards := ⟨[some (bear 0 ⟨0⟩ [.doubleStrike]),
      some { bear 1 ⟨1⟩ [] with baseToughness := some 4 }]⟩ }

def doubleStrikeSteps : Option (DamageStep × DamageStep) :=
  (doubleStrikeBlock.damageStep noEffects idleCombatExecutor 1 true
    (firstOption ⟨0⟩) (firstOption ⟨1⟩)).bind fun first =>
      (first.last.damageStep noEffects idleCombatExecutor 1 false
        (firstOption ⟨0⟩) (firstOption ⟨1⟩)).map fun second => (first, second)

end DeepScry
