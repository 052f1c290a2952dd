/-
The cached flags of a type line: when a change of types or subtypes leaves
every flag as a fresh cache would have it.
-/
import DeepScry.Turns

namespace DeepScry

/-- The cached flags that depend on the type line and the name. -/
@[ext]
structure TypeFlags where
  isLand : Bool
  isCreature : Bool
  isArtifact : Bool
  isInstant : Bool
  isSorcery : Bool
  isEnchantment : Bool
  isAura : Bool
  isEquipment : Bool
  hasSubtype : ManaColor → Bool

def CardCache.typeFlags (cache : CardCache) : TypeFlags where
  isLand := cache.isLand
  isCreature := cache.isCreature
  isArtifact := cache.isArtifact
  isInstant := cache.isInstant
  isSorcery := cache.isSorcery
  isEnchantment := cache.isEnchantment
  isAura := cache.isAura
  isEquipment := cache.isEquipment
  hasSubtype := cache.hasSubtype

/-- Some subtype is this word. -/
def hasWord (subtypes : List String) (word : String) : Bool :=
  subtypes.any fun subtype => eqIgnoreAsciiCase subtype word

namespace CardCache

variable (cache : CardCache) (subtypes : List String) (name : String)

theorem typeFlags_addSubtypes :
    (subtypes.foldl addSubtype cache).typeFlags =
      { cache.typeFlags with
        isAura := if hasWord subtypes "aura" then cache.isEnchantment
          else cache.isAura
        isEquipment := if hasWord subtypes "equipment" then cache.isArtifact
          else cache.isEquipment
        hasSubtype := fun color =>
          cache.hasSubtype color || hasWord subtypes color.landWord } := by
  induction subtypes generalizing cache with
  | nil => simp [hasWord, typeFlags]
  | cons subtype rest ih =>
      rw [List.foldl_cons, ih]
      simp only [typeFlags, addSubtype, hasWord, List.any_cons,
        Bool.or_eq_true, TypeFlags.mk.injEq, true_and]
      refine ⟨?_, ?_, ?_⟩
      · by_cases hrest : rest.any (eqIgnoreAsciiCase · "aura") <;>
          simp [hrest]
      · by_cases hrest : rest.any (eqIgnoreAsciiCase · "equipment") <;>
          simp [hrest]
      · funext color
        rw [Bool.or_assoc]

/-- The subtypes only ever set the flags of the lands. -/
theorem typeFlags_updateFromSubtypes :
    (cache.updateFromSubtypes subtypes name).typeFlags =
      { cache.typeFlags with
        isAura := if hasWord subtypes "aura" then cache.isEnchantment
          else cache.isAura
        isEquipment := if hasWord subtypes "equipment" then cache.isArtifact
          else cache.isEquipment
        hasSubtype := fun color =>
          cache.hasSubtype color || hasWord subtypes color.landWord ||
            (cache.isLand && nameContains name color.landWord) } := by
  have hadded := cache.typeFlags_addSubtypes subtypes
  have hland : (subtypes.foldl addSubtype cache).isLand = cache.isLand :=
    congrArg TypeFlags.isLand hadded
  rw [updateFromSubtypes]
  dsimp only
  rw [hland]
  split
  · next hisLand =>
    simp only [typeFlags, TypeFlags.mk.injEq] at hadded ⊢
    simp [hadded, hisLand]
  · next hisLand =>
    rw [hadded]
    simp [hisLand]

end CardCache

/-- The flags of a fresh cache that both updates were run on. -/
def freshFlags (types : List CardType) (subtypes : List String)
    (name : String) : TypeFlags :=
  ((({} : CardCache).updateFromTypes types).updateFromSubtypes subtypes
    name).typeFlags

/-- The flag of a basic land type on a fresh cache. -/
def freshLand (types : List CardType) (subtypes : List String)
    (name : String) (color : ManaColor) : Bool :=
  hasWord subtypes color.landWord ||
    (types.contains .land && nameContains name color.landWord)

theorem freshLand_append_of_ne {cardType : CardType}
    (hne : cardType ≠ .land) (types : List CardType)
    (subtypes : List String) (name : String) :
    freshLand (types ++ [cardType]) subtypes name =
      freshLand types subtypes name := by
  funext color
  simp [freshLand, hne.symm]

theorem freshFlags_eq (types : List CardType) (subtypes : List String)
    (name : String) :
    freshFlags types subtypes name =
      { isLand := types.contains .land
        isCreature := types.contains .creature
        isArtifact := types.contains .artifact
        isInstant := types.contains .instant
        isSorcery := types.contains .sorcery
        isEnchantment := types.contains .enchantment
        isAura := hasWord subtypes "aura" && types.contains .enchantment
        isEquipment :=
          hasWord subtypes "equipment" && types.contains .artifact
        hasSubtype := freshLand types subtypes name } := by
  rw [freshFlags, CardCache.typeFlags_updateFromSubtypes]
  simp only [CardCache.typeFlags, CardCache.updateFromTypes,
    TypeFlags.mk.injEq, true_and]
  refine ⟨?_, ?_, ?_⟩
  · cases hasWord subtypes "aura" <;> rfl
  · cases hasWord subtypes "equipment" <;> rfl
  · funext color
    rw [Bool.false_or, freshLand]

section Flags

/-- A flag that is only set where its word is listed. -/
theorem listedFlag_iff (listed wasListed kind wasKind : Bool) :
    (if listed then kind else wasListed && wasKind) = (listed && kind) ↔
      (wasListed = true → wasKind = true → listed = true) := by
  cases listed <;> simp

theorem setFlag_iff (old new : Bool) :
    (old || new) = new ↔ (old = true → new = true) := by
  cases old <;> simp

theorem and_left_inj_iff (word kind kind' : Bool) :
    (word && kind) = (word && kind') ↔ (word = true → kind = kind') := by
  cases word <;> simp

theorem or_and_inj_iff (word name kind kind' : Bool) :
    (word || kind && name) = (word || kind' && name) ↔
      (word = false → name = true → kind = kind') := by
  cases word <;> cases name <;> simp

end Flags

namespace Card

/-- The cached flags are those of a fresh cache. -/
def TypesCoherent (card : Card) : Prop :=
  card.definition.cache.typeFlags =
    freshFlags card.types card.subtypes card.name

def withCache (card : Card) (f : CardCache → CardCache) : Card :=
  { card with
    definition := { card.definition with cache := f card.definition.cache } }

/-- `add_type`. -/
def addType (card : Card) (cardType : CardType) : Card :=
  let card := { card with types := card.types ++ [cardType] }
  match cardType with
  | .land => card.withCache fun cache =>
      { cache with isLand := true : CardCache }.updateFromSubtypes
        card.subtypes card.name
  | .creature => card.withCache fun cache => { cache with isCreature := true }
  | .artifact => card.withCache fun cache => { cache with isArtifact := true }
  | .instant => card.withCache fun cache => { cache with isInstant := true }
  | .sorcery => card.withCache fun cache => { cache with isSorcery := true }
  | .enchantment => card.withCache fun cache =>
      { cache with isEnchantment := true }
  | .planeswalker => card

/-- `set_types`. -/
def setTypes (card : Card) (newTypes : List CardType) : Card :=
  { card with types := newTypes : Card }.withCache fun cache =>
    cache.updateFromTypes newTypes

/-- `set_subtypes`. -/
def setSubtypes (card : Card) (newSubtypes : List String) : Card :=
  { card with subtypes := newSubtypes : Card }.withCache fun cache =>
    cache.updateFromSubtypes newSubtypes card.name

/-- The types once the animation is over. -/
def unanimatedTypes (card : Card) : List CardType :=
  card.types.filter fun cardType =>
    !card.tempAnimateTypes.contains cardType

/-- The subtypes once the animation is over. -/
def unanimatedSubtypes (card : Card) : List String :=
  (card.subtypes.filter fun subtype =>
    !card.tempAnimateSubtypes.contains subtype) ++ card.tempRemovedSubtypes

theorem typesCoherent_iff {card : Card} :
    card.TypesCoherent ↔ card.definition.cache.typeFlags =
      { isLand := card.types.contains .land
        isCreature := card.types.contains .creature
        isArtifact := card.types.contains .artifact
        isInstant := card.types.contains .instant
        isSorcery := card.types.contains .sorcery
        isEnchantment := card.types.contains .enchantment
        isAura := hasWord card.subtypes "aura" &&
          card.types.contains .enchantment
        isEquipment := hasWord card.subtypes "equipment" &&
          card.types.contains .artifact
        hasSubtype :=
          freshLand card.types card.subtypes card.name } := by
  rw [TypesCoherent, freshFlags_eq]

/-- No flag of an Aura, an Equipment or a land is on that the new type line
does not have. -/
structure NoFlagLost (card : Card) (types : List CardType)
    (subtypes : List String) : Prop where
  aura : hasWord card.subtypes "aura" = true →
    card.types.contains .enchantment = true →
      hasWord subtypes "aura" = true
  equipment : hasWord card.subtypes "equipment" = true →
    card.types.contains .artifact = true →
      hasWord subtypes "equipment" = true
  lands : ∀ color,
    freshLand card.types card.subtypes card.name color = true →
      freshLand types subtypes card.name color = true

/-- Both updates, run on an older cache. -/
theorem refreshed_coherent_iff {card : Card} (hcoherent : card.TypesCoherent)
    (types : List CardType) (subtypes : List String) :
    ((card.definition.cache.updateFromTypes types).updateFromSubtypes subtypes
        card.name).typeFlags = freshFlags types subtypes card.name ↔
      card.NoFlagLost types subtypes := by
  rw [typesCoherent_iff] at hcoherent
  simp only [CardCache.typeFlags, TypeFlags.mk.injEq] at hcoherent
  obtain ⟨-, -, -, -, -, -, haura, hequipment, hlands⟩ := hcoherent
  rw [freshFlags_eq, CardCache.typeFlags_updateFromSubtypes]
  simp only [CardCache.typeFlags, CardCache.updateFromTypes,
    TypeFlags.mk.injEq, true_and, haura, hequipment, hlands, funext_iff,
    Bool.or_assoc, listedFlag_iff]
  have hland (color : ManaColor) :=
    setFlag_iff (freshLand card.types card.subtypes card.name color)
      (freshLand types subtypes card.name color)
  constructor
  · rintro ⟨hnewAura, hnewEquipment, hnewLands⟩
    exact ⟨hnewAura, hnewEquipment,
      fun color => (hland color).mp (hnewLands color)⟩
  · intro hkept
    exact ⟨hkept.aura, hkept.equipment,
      fun color => (hland color).mpr (hkept.lands color)⟩

/-- What is left of an animation: the cache is refreshed if there was one. -/
theorem revertTempAnimation_line (card : Card) :
    card.revertTempAnimation.1.types = card.unanimatedTypes ∧
      card.revertTempAnimation.1.subtypes = card.unanimatedSubtypes ∧
      card.revertTempAnimation.1.name = card.name ∧
      (card.revertTempAnimation.1.definition.cache =
          card.definition.cache ∧
        card.unanimatedTypes = card.types ∧
        card.unanimatedSubtypes = card.subtypes ∨
      card.revertTempAnimation.1.definition.cache =
        (card.definition.cache.updateFromTypes
          card.unanimatedTypes).updateFromSubtypes card.unanimatedSubtypes
            card.name) := by
  rcases htypes : card.tempAnimateTypes with - | ⟨cardType, types⟩ <;>
    rcases hadded : card.tempAnimateSubtypes with - | ⟨added, addeds⟩ <;>
    rcases hremoved : card.tempRemovedSubtypes with - | ⟨removed, removeds⟩ <;>
    simp [revertTempAnimation, refreshCache, unanimatedTypes,
      unanimatedSubtypes, htypes, hadded, hremoved]

end Card

/-- A change of the type line of a card. -/
inductive TypeChange where
  | addType (cardType : CardType)
  | setTypes (types : List CardType)
  | setSubtypes (subtypes : List String)
  | revertTempAnimation

namespace TypeChange

def apply (change : TypeChange) (card : Card) : Card :=
  match change with
  | addType cardType => card.addType cardType
  | setTypes types => card.setTypes types
  | setSubtypes subtypes => card.setSubtypes subtypes
  | revertTempAnimation => card.revertTempAnimation.1

/-- A new type does not make an Aura or an Equipment, other types do not end
one or give or take a land its name, and no word is lost. -/
def KeepsFlags (change : TypeChange) (card : Card) : Prop :=
  match change with
  | addType cardType =>
      (cardType = .enchantment → hasWord card.subtypes "aura" = true →
        card.types.contains .enchantment = true) ∧
      (cardType = .artifact → hasWord card.subtypes "equipment" = true →
        card.types.contains .artifact = true)
  | setTypes types =>
      (hasWord card.subtypes "aura" = true →
        card.types.contains .enchantment = types.contains .enchantment) ∧
      (hasWord card.subtypes "equipment" = true →
        card.types.contains .artifact = types.contains .artifact) ∧
      ∀ color : ManaColor, hasWord card.subtypes color.landWord = false →
        nameContains card.name color.landWord = true →
          card.types.contains .land = types.contains .land
  | setSubtypes subtypes => card.NoFlagLost card.types subtypes
  | revertTempAnimation =>
      card.NoFlagLost card.unanimatedTypes card.unanimatedSubtypes

section Step

variable {card : Card} (hcoherent : card.TypesCoherent)
include hcoherent

theorem addType_coherent_iff (cardType : CardType) :
    (card.addType cardType).TypesCoherent ↔
      (addType cardType).KeepsFlags card := by
  have hflags := Card.typesCoherent_iff.mp hcoherent
  simp only [CardCache.typeFlags, TypeFlags.mk.injEq] at hflags
  obtain ⟨hland, hcreature, hartifact, hinstant, hsorcery, henchantment,
    haura, hequipment, hlands⟩ := hflags
  rw [Card.typesCoherent_iff]
  cases cardType with
  | land =>
      apply iff_of_true
      · simp only [Card.addType, Card.withCache,
          CardCache.typeFlags_updateFromSubtypes]
        simp [CardCache.typeFlags, hcreature, hartifact, hinstant,
          hsorcery, henchantment, haura, hequipment, hlands]
        refine ⟨fun hword _ => hword, fun hword _ => hword, ?_⟩
        funext color
        simp only [freshLand, List.contains_append, List.contains_cons,
          List.contains_nil]
        cases hasWord card.subtypes color.landWord <;>
          cases card.types.contains .land <;> simp
      · simp [KeepsFlags]
  | enchantment =>
      simp [Card.addType, Card.withCache, CardCache.typeFlags, hland,
        hcreature, hartifact, hinstant, hsorcery, haura,
        hequipment, hlands, freshLand_append_of_ne, KeepsFlags]
  | artifact =>
      simp [Card.addType, Card.withCache, CardCache.typeFlags, hland,
        hcreature, hinstant, hsorcery, henchantment, haura,
        hequipment, hlands, freshLand_append_of_ne, KeepsFlags]
  | _ =>
      apply iff_of_true
      · simp [Card.addType, Card.withCache, CardCache.typeFlags, hland,
          hcreature, hartifact, hinstant, hsorcery, henchantment, haura,
          hequipment, hlands, freshLand_append_of_ne]
      · simp [KeepsFlags]

theorem setTypes_coherent_iff (types : List CardType) :
    (card.setTypes types).TypesCoherent ↔
      (setTypes types).KeepsFlags card := by
  have hflags := Card.typesCoherent_iff.mp hcoherent
  simp only [CardCache.typeFlags, TypeFlags.mk.injEq] at hflags
  obtain ⟨-, -, -, -, -, -, haura, hequipment, hlands⟩ := hflags
  rw [Card.typesCoherent_iff]
  simp only [Card.setTypes, Card.withCache, CardCache.typeFlags,
    CardCache.updateFromTypes, TypeFlags.mk.injEq, true_and, haura,
    hequipment, hlands, funext_iff, KeepsFlags, freshLand,
    and_left_inj_iff, or_and_inj_iff]

theorem setSubtypes_coherent_iff (subtypes : List String) :
    (card.setSubtypes subtypes).TypesCoherent ↔
      (setSubtypes subtypes).KeepsFlags card := by
  have hsame : card.definition.cache.updateFromTypes card.types =
      card.definition.cache := by
    have hflags := Card.typesCoherent_iff.mp hcoherent
    simp only [CardCache.typeFlags, TypeFlags.mk.injEq] at hflags
    obtain ⟨hland, hcreature, hartifact, hinstant, hsorcery, henchantment,
      -⟩ := hflags
    rw [CardCache.updateFromTypes, ← hland, ← hcreature, ← hartifact,
      ← hinstant, ← hsorcery, ← henchantment]
  rw [KeepsFlags, ← Card.refreshed_coherent_iff hcoherent, hsame]
  rfl

theorem revertTempAnimation_coherent_iff :
    card.revertTempAnimation.1.TypesCoherent ↔
      revertTempAnimation.KeepsFlags card := by
  obtain ⟨htypes, hsubtypes, hname, hcache⟩ := card.revertTempAnimation_line
  rw [Card.TypesCoherent, htypes, hsubtypes, hname, KeepsFlags]
  rcases hcache with ⟨hsame, hsameTypes, hsameSubtypes⟩ | hrefreshed
  · rw [hsame, hsameTypes, hsameSubtypes]
    apply iff_of_true hcoherent
    exact ⟨fun hword _ => hword, fun hword _ => hword, fun _ hland => hland⟩
  · rw [hrefreshed]
    exact Card.refreshed_coherent_iff hcoherent _ _

theorem apply_coherent_iff (change : TypeChange) :
    (change.apply card).TypesCoherent ↔ change.KeepsFlags card := by
  cases change with
  | addType cardType => exact addType_coherent_iff hcoherent cardType
  | setTypes types => exact setTypes_coherent_iff hcoherent types
  | setSubtypes subtypes => exact setSubtypes_coherent_iff hcoherent subtypes
  | revertTempAnimation => exact revertTempAnimation_coherent_iff hcoherent

end Step

def applyAll (changes : List TypeChange) (card : Card) : Card :=
  changes.foldl (fun card change => change.apply card) card

/-- Each change keeps the flags of the card that it finds. -/
def AllKeepFlags : List TypeChange → Card → Prop
  | [], _ => True
  | change :: rest, card =>
      change.KeepsFlags card ∧ AllKeepFlags rest (change.apply card)

/-- The flags are right in every state of a run exactly when each change keeps
them. -/
theorem coherent_run_iff {card : Card} (hcoherent : card.TypesCoherent)
    (changes : List TypeChange) :
    (∀ earlier later, changes = earlier ++ later →
        (applyAll earlier card).TypesCoherent) ↔
      AllKeepFlags changes card := by
  induction changes generalizing card with
  | nil =>
      apply iff_of_true _ trivial
      intro earlier later heq
      obtain ⟨rfl, -⟩ := List.append_eq_nil_iff.mp heq.symm
      exact hcoherent
  | cons change rest ih =>
      rw [AllKeepFlags, ← apply_coherent_iff hcoherent]
      constructor
      · intro hrun
        have hfirst : (change.apply card).TypesCoherent :=
          hrun [change] rest rfl
        refine ⟨hfirst, (ih hfirst).mp ?_⟩
        intro earlier later heq
        exact hrun (change :: earlier) later (by rw [heq]; rfl)
      · rintro ⟨hfirst, hrest⟩ earlier later heq
        cases earlier with
        | nil => exact hcoherent
        | cons head earlier =>
            obtain ⟨rfl, htail⟩ := List.cons_eq_cons.mp heq
            exact (ih hfirst).mpr hrest earlier later htail

/-- A card as `Card::new` makes it, without a type line. -/
def newCard (name : String) : Card :=
  { id := ⟨0⟩, owner := ⟨0⟩, controller := ⟨0⟩, name := name }

theorem newCard_coherent (name : String) : (newCard name).TypesCoherent := by
  rw [Card.typesCoherent_iff]
  rfl

theorem newCard_coherent_run_iff :
    (∀ earlier later,
        [addType .artifact, setSubtypes ["Equipment"]] = earlier ++ later →
          (applyAll earlier (newCard "Bonesplitter")).TypesCoherent) ↔
      AllKeepFlags [addType .artifact, setSubtypes ["Equipment"]]
        (newCard "Bonesplitter") :=
  coherent_run_iff (newCard_coherent "Bonesplitter") _

/-- An Equipment that stops to be an artifact is still cached as one. -/
theorem setTypes_not_coherent :
    ¬(applyAll [addType .artifact, setSubtypes ["Equipment"],
      setTypes [.creature]] (newCard "Bonesplitter")).TypesCoherent := by
  rw [Card.typesCoherent_iff]
  intro hcoherent
  exact absurd (congrArg TypeFlags.isEquipment hcoherent) (by decide)

end TypeChange

end DeepScry
