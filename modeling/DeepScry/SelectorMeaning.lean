/-
One selector, one meaning: when a static ability and the same ability with its
selector put in a list of alternatives affect the same creatures.
-/
import DeepScry.Selectors
import DeepScry.StrikeBack

namespace DeepScry

namespace Layers

namespace Pairing

variable (effects : StaticEffects) (p : Pairing)

/-- The creature and the source are cards of the game, the source under its
own id. -/
structure Found : Prop where
  creature : p.game.getCard p.creatureId = some p.creature
  source : p.game.getCard p.sourceId = some p.source
  sourceId : p.source.id = p.sourceId

/-- The source is attached to the creature without being one of its Auras. -/
def AttachedOtherwise : Prop :=
  p.isAttached ∧ p.sourceId ∉ p.auras

/-- The selectors that the power and toughness layer takes to mean something
else than the shared test does, with the creatures for which it matters. -/
def MisreadByLayer : AffectedSelector → Prop
  | .creaturesWithPowerGe n => n ≤ p.creature.currentPower.toInt32
  | .creatureCardTypeOtherYouControl cardType =>
      cardType ≠ .artifact ∧ p.isSource = false ∧ p.sameController ∧
        p.hasCardType cardType
  | .creatureCardTypeYouControl cardType =>
      cardType ≠ .artifact ∧ p.sameController ∧ p.hasCardType cardType
  | .artifactEnchantedBy | .planeswalkerEnchantedBy
  | .equipmentEnchantedBy => p.AttachedOtherwise
  | _ => False

/-- The one selector that the keyword grants take to mean something else. -/
def MisreadByGrants : AffectedSelector → Prop
  | .landsYouControl => p.creature.isLand ∧ p.sameController
  | _ => False

/-- A static ability of the source contributes to power and toughness. -/
def Contributes (ability : StaticAbility) : Prop :=
  (p.modifyPtBonus effects ability).isSome

/-- A static ability of the source grants its keyword. -/
def Grants (ability : StaticAbility) : Prop :=
  (p.grantedKeyword effects ability).isSome

@[simp]
theorem anyApplies_eq (selectors : List AffectedSelector) :
    selectorApplies.anyApplies effects p selectors =
      selectors.any (p.selectorApplies effects) := by
  induction selectors with
  | nil => rfl
  | cons selector rest ih => simp [selectorApplies.anyApplies, ih]

theorem Found.isSourceCard {p : Pairing} (found : p.Found) :
    p.isSourceCard = p.isSource := by
  simp [Pairing.isSourceCard, Pairing.isSource, found.sourceId]

/-- An Aura on the battlefield is attached to what it enchants. -/
theorem Found.isAttached_of_mem_auras {p : Pairing} (found : p.Found)
    (hmem : p.sourceId ∈ p.auras) : p.isAttached := by
  simp only [auras, GameState.getAttachedAuras, List.mem_filter,
    found.source, Option.any_some, Bool.and_eq_true] at hmem
  exact hmem.2.2

theorem Found.attached_iff {p : Pairing} (found : p.Found) :
    p.isAttached = decide (p.sourceId ∈ p.auras) ↔
      ¬p.AttachedOtherwise := by
  have hattached := found.isAttached_of_mem_auras
  unfold AttachedOtherwise
  by_cases hmem : p.sourceId ∈ p.auras
  · simp [hmem, hattached hmem]
  · simp [hmem]

/-- The shared test knows no card type but the artifacts. -/
theorem cardType_iff (guard : Bool) (cardType : CardType) :
    (guard && p.hasCardType cardType) =
        (guard && p.hasSharedCardType cardType) ↔
      ¬(cardType ≠ .artifact ∧ guard ∧ p.hasCardType cardType) := by
  cases cardType
  case artifact => simp [hasCardType, hasSharedCardType]
  all_goals simp [hasSharedCardType]

/-- The two matches over all selectors agree but for the misread ones. -/
theorem modifyPtApplies_iff (found : p.Found)
    (hcreature : p.creature.isCreature) (selector : AffectedSelector) :
    p.modifyPtApplies effects selector =
        p.selectorApplies effects selector ↔
      ¬p.MisreadByLayer selector := by
  cases selector
  case creatureCardTypeOtherYouControl cardType =>
    have hcardType := p.cardType_iff (!p.isSource && p.sameController) cardType
    simpa [modifyPtApplies, selectorApplies, MisreadByLayer, and_assoc]
      using hcardType
  case creatureCardTypeYouControl cardType =>
    exact p.cardType_iff p.sameController cardType
  case artifactsYouControl =>
    simp [modifyPtApplies, selectorApplies, MisreadByLayer, Bool.and_comm]
  case artifactsYouControlOther =>
    simp [modifyPtApplies, selectorApplies, MisreadByLayer, Bool.and_comm]
  all_goals
    first
    | exact iff_of_true rfl not_false
    | simp [modifyPtApplies, selectorApplies, MisreadByLayer,
        found.isSourceCard, found.attached_iff, hcreature]

/-- So do the match of the keyword grants and the shared test. -/
theorem grantApplies_iff (selector : AffectedSelector)
    (hhandled : handledByGrants selector) :
    p.grantApplies effects selector = p.selectorApplies effects selector ↔
      ¬p.MisreadByGrants selector := by
  cases selector
  case landsYouControl =>
    simp [grantApplies, selectorApplies, MisreadByGrants]
  all_goals
    first
    | exact iff_of_true rfl not_false
    | (simp [handledByGrants] at hhandled; done)
    | simp [grantApplies, selectorApplies, MisreadByGrants]

/-- A static ability with the selector contributes, or grants its keyword,
exactly when it does with the selector as the only alternative. -/
structure OneMeaning (selector : AffectedSelector) (power toughness : Int32)
    (keyword : Keyword) (condition : Option StaticCondition) : Prop where
  contributes :
    p.Contributes effects (.modifyPt selector power toughness condition) ↔
      p.Contributes effects
        (.modifyPt (.any [selector]) power toughness condition)
  grants : handledByGrants selector →
    (p.Grants effects (.grantKeyword selector keyword condition) ↔
      p.Grants effects (.grantKeyword (.any [selector]) keyword condition))

theorem contributes_iff (selector : AffectedSelector)
    (power toughness : Int32) (condition : Option StaticCondition) :
    p.Contributes effects (.modifyPt selector power toughness condition) ↔
      p.conditionMet effects condition ∧
        p.modifyPtApplies effects selector := by
  simp [Contributes, modifyPtBonus]

theorem grants_iff (selector : AffectedSelector) (keyword : Keyword)
    (condition : Option StaticCondition) :
    p.Grants effects (.grantKeyword selector keyword condition) ↔
      p.conditionMet effects condition ∧ p.grantApplies effects selector := by
  simp [Grants, grantedKeyword]

/-- Two tests under one condition agree when they do or it is not met. -/
theorem guarded_iff (met first second : Bool) :
    ((met ∧ first) ↔ (met ∧ second)) ↔ (met → first = second) := by
  cases met <;> cases first <;> cases second <;> simp

/-- A selector has one meaning for the abilities whose condition is not met,
and else where neither the layer nor the keyword grants misread it. -/
theorem oneMeaning_iff (found : p.Found) (hcreature : p.creature.isCreature)
    (selector : AffectedSelector) (power toughness : Int32)
    (keyword : Keyword) (condition : Option StaticCondition) :
    p.OneMeaning effects selector power toughness keyword condition ↔
      (p.conditionMet effects condition →
        ¬p.MisreadByLayer selector ∧ ¬p.MisreadByGrants selector) := by
  have hlayer := p.modifyPtApplies_iff effects found hcreature selector
  have hcontributes :
      (p.Contributes effects (.modifyPt selector power toughness condition) ↔
        p.Contributes effects
          (.modifyPt (.any [selector]) power toughness condition)) ↔
      (p.conditionMet effects condition → ¬p.MisreadByLayer selector) := by
    rw [contributes_iff, contributes_iff, guarded_iff, ← hlayer]
    simp [modifyPtApplies]
  have hgrants :
      (handledByGrants selector →
        (p.Grants effects (.grantKeyword selector keyword condition) ↔
          p.Grants effects
            (.grantKeyword (.any [selector]) keyword condition))) ↔
      (p.conditionMet effects condition → ¬p.MisreadByGrants selector) := by
    rw [grants_iff, grants_iff, guarded_iff]
    by_cases hhandled : handledByGrants selector
    · rw [← p.grantApplies_iff effects selector hhandled]
      simp [hhandled, grantApplies]
    · have hread : ¬p.MisreadByGrants selector := by
        intro hmisread
        cases selector <;> simp_all [MisreadByGrants, handledByGrants]
      simp [hhandled, hread]
  constructor
  · intro hone hmet
    exact ⟨hcontributes.mp hone.contributes hmet,
      hgrants.mp hone.grants hmet⟩
  · intro hread
    exact ⟨hcontributes.mpr fun hmet => (hread hmet).1,
      hgrants.mpr fun hmet => (hread hmet).2⟩

/-- A card of the first player with some card types. -/
def permanent (id : Nat) (types : List CardType) : Card where
  id := ⟨id⟩
  owner := ⟨0⟩
  controller := ⟨0⟩
  types
  definition :=
    { cache :=
        { isCreature := types.contains .creature
          isArtifact := types.contains .artifact
          isEnchantment := types.contains .enchantment } }

/-- A creature of some card types beside a second one. -/
def besideBear (types : List CardType) : Pairing where
  game :=
    { cards := ⟨[some (permanent 0 types), some (permanent 1 [.creature])]⟩
      zones := { battlefield := [⟨0⟩, ⟨1⟩] }
      turn := { activePlayer := ⟨0⟩ } }
  creatureId := ⟨0⟩
  sourceId := ⟨1⟩
  creature := permanent 0 types
  source := permanent 1 [.creature]

theorem besideBear_found (types : List CardType) :
    (besideBear types).Found := ⟨rfl, rfl, rfl⟩

/-- Artifact creatures are read alike. -/
theorem oneMeaning_artifacts :
    (besideBear [.artifact, .creature]).OneMeaning GameState.noEffects
      (.creatureCardTypeOtherYouControl .artifact) 1 1 .flying none :=
  (oneMeaning_iff GameState.noEffects _ (besideBear_found _) rfl _ 1 1 .flying
    none).mpr fun _ => ⟨by simp [MisreadByLayer], by simp [MisreadByGrants]⟩

/-- An enchantment creature gets the bonus for enchantment creatures, and does
not get it when the selector is put in a list. -/
theorem not_oneMeaning_enchantments :
    ¬(besideBear [.enchantment, .creature]).OneMeaning
        GameState.noEffects (.creatureCardTypeYouControl .enchantment) 1 1
        .flying none := by
  intro hone
  have hread := hone.contributes.mp (by
    rw [contributes_iff]
    decide)
  rw [contributes_iff] at hread
  simp [modifyPtApplies, selectorApplies, hasSharedCardType] at hread

end Pairing

end Layers

end DeepScry
