/-
Cards: the printed definition, the precomputed cache, the mutable state that a
snapshot captures, and the reset of that state when a card leaves the
battlefield.  Script texts are left out: a definition carries what its parsers
return.
-/
import DeepScry.Effects
import DeepScry.FirstMatch
import DeepScry.SpellEffect
import Mathlib.Data.List.Infix

namespace DeepScry

inductive CardType where
  | creature
  | instant
  | sorcery
  | enchantment
  | artifact
  | land
  | planeswalker
deriving DecidableEq

inductive KeywordArgs where
  | equip (cost : ManaCost)
  | dredge (amount : UInt8)
  | affinity (cardType : String)
  | multikicker (cost : ManaCost)
  | kicker (cost : ManaCost)
  | offspring (cost : ManaCost)
  | landwalk (landType : String)
  | other (discriminant : Nat)
deriving DecidableEq

def KeywordArgs.keyword : KeywordArgs → Keyword
  | .equip _ => .equip
  | .dredge _ => .dredge
  | .affinity _ => .affinity
  | .multikicker _ => .multikicker
  | .kicker _ => .kicker
  | .offspring _ => .offspring
  | .landwalk _ => .landwalk
  | .other discriminant => .other discriminant

structure KeywordSet where
  keywords : List Keyword := []
  args : List KeywordArgs := []
deriving DecidableEq

namespace KeywordSet

def contains (set : KeywordSet) (keyword : Keyword) : Bool :=
  keyword ∈ set.keywords

/-- The arguments of the first entry for a keyword in the set. -/
def getArgs (set : KeywordSet) (keyword : Keyword) : Option KeywordArgs :=
  if set.contains keyword then
    set.args.find? fun args => args.keyword == keyword
  else none

def insert (set : KeywordSet) (keyword : Keyword) : KeywordSet :=
  if set.contains keyword then set
  else { set with keywords := set.keywords ++ [keyword] }

def remove (set : KeywordSet) (keyword : Keyword) : KeywordSet where
  keywords := set.keywords.filter fun other => other != keyword
  args := set.args.filter fun args => args.keyword != keyword

end KeywordSet

/-- Precomputed properties of a card.  `hasSubtype` is the five land subtype
flags, indexed by the colour the type taps for. -/
structure CardCache where
  isLand : Bool := false
  isCreature : Bool := false
  isArtifact : Bool := false
  isInstant : Bool := false
  isSorcery : Bool := false
  isEnchantment : Bool := false
  isAura : Bool := false
  isEquipment : Bool := false
  manaProduction : ManaProduction := .default
  isManaSource : Bool := false
  hasSubtype : ManaColor → Bool := fun _ => false
  entersTapped : Bool := false
  etbChooseColor : Bool := false
  etbExcludeColors : List Color := []
  etbChoosePlayer : Bool := false
  etbChooseMode : Bool := false
  etbModeAiLogic : Option String := none
  etbModeChoices : List String := []
  etbPayLife : Bool := false
  etbChooseName : Bool := false
  isIslandSanctuary : Bool := false
  skipsUntapStep : Bool := false
  limitsLandUntap : Option UInt8 := none

/-- `eq_ignore_ascii_case`. -/
def eqIgnoreAsciiCase (s t : String) : Bool :=
  s.toList.map Char.toLower == t.toList.map Char.toLower

/-- Whether the lower-cased name contains a lower-case word. -/
def nameContains (name word : String) : Bool :=
  decide (word.toList <:+: name.toList.map Char.toLower)

/-- The basic land type that taps for a colour. -/
def ManaColor.landType : ManaColor → String
  | white => "Plains"
  | blue => "Island"
  | black => "Swamp"
  | red => "Mountain"
  | green => "Forest"

/-- The same, as the searches in lower-cased names spell it. -/
def ManaColor.landWord : ManaColor → String
  | white => "plains"
  | blue => "island"
  | black => "swamp"
  | red => "mountain"
  | green => "forest"

namespace CardCache

def updateFromTypes (cache : CardCache) (types : List CardType) :
    CardCache :=
  { cache with
    isLand := types.contains .land
    isCreature := types.contains .creature
    isArtifact := types.contains .artifact
    isInstant := types.contains .instant
    isSorcery := types.contains .sorcery
    isEnchantment := types.contains .enchantment }

def addSubtype (cache : CardCache) (subtype : String) : CardCache :=
  { cache with
    hasSubtype := fun color =>
      cache.hasSubtype color || eqIgnoreAsciiCase subtype color.landWord
    isAura := if eqIgnoreAsciiCase subtype "aura" then cache.isEnchantment
      else cache.isAura
    isEquipment := if eqIgnoreAsciiCase subtype "equipment" then
      cache.isArtifact else cache.isEquipment }

/-- The explicit subtypes, then for lands the words in the name. -/
def updateFromSubtypes (cache : CardCache) (subtypes : List String)
    (name : String) : CardCache :=
  let cache := subtypes.foldl addSubtype cache
  if cache.isLand then
    { cache with
      hasSubtype := fun color =>
        cache.hasSubtype color || nameContains name color.landWord }
  else cache

def deriveFromSubtypes (cache : CardCache) : ManaProduction :=
  let colors := (ManaColor.all.filter cache.hasSubtype).foldl
    ManaColors.insert .empty
  if colors.isEmpty then .default
  else .free (ManaProduction.ofColors colors)

def deriveFromName (name : String) : ManaProduction :=
  match ManaColor.all.find? fun color => nameContains name color.landWord with
  | some color => .free (.fixed color)
  | none =>
      if nameContains name "wastes" then .free .colorless else .default

/-- `set_mana_production`. -/
def setManaProduction (cache : CardCache) (production : ManaProduction) :
    CardCache :=
  { cache with
    manaProduction := production
    isManaSource := production.producesMana }

/-- From the mana abilities, else from the land subtypes, else, for a land,
from its name. -/
def updateFromAbilitiesWithName (cache : CardCache)
    (abilities : List ActivatedAbility) (name : String) : CardCache :=
  let fromAbilities := ManaProduction.deriveFromAbilities abilities
  let fromSubtypes := if fromAbilities.producesMana then fromAbilities
    else cache.deriveFromSubtypes
  cache.setManaProduction
    (if fromSubtypes.producesMana || !cache.isLand then fromSubtypes
    else deriveFromName name)

end CardCache

/-- A card as printed; `keywords`, `effects`, `activatedAbilities` and
`staticAbilities` are what its parsers return.  `adventure` is its other
face. -/
structure CardDefinition where
  name : String := ""
  manaCost : ManaCost := {}
  types : List CardType := []
  subtypes : List String := []
  colors : List Color := []
  power : Option Int8 := none
  toughness : Option Int8 := none
  loyalty : Option UInt8 := none
  isLegendary : Bool := false
  keywords : KeywordSet := {}
  effects : List SpellEffect := []
  activatedAbilities : List ActivatedAbility := []
  staticAbilities : List StaticAbility := []
  entersTapped : Bool := false
  skipsUntapStep : Bool := false
  limitsLandUntap : Option UInt8 := none
  etbTappedGlobal : Option TargetRestriction := none
  etbChooseColor : Bool := false
  etbExcludeColors : List Color := []
  etbChoosePlayer : Bool := false
  etbChooseMode : Bool := false
  etbModeAiLogic : Option String := none
  etbModeChoices : List String := []
  etbPayLife : Bool := false
  etbChooseName : Bool := false
  cache : CardCache := {}
  originSet : Option String := none
  adventure : Option CardDefinition := none

/-- The cache of a freshly reset card, before its abilities are read. -/
def CardDefinition.freshCache (definition : CardDefinition) : CardCache :=
  { (({} : CardCache).updateFromTypes definition.types).updateFromSubtypes
      definition.subtypes definition.name with
    entersTapped := definition.entersTapped
    skipsUntapStep := definition.skipsUntapStep
    limitsLandUntap := definition.limitsLandUntap
    etbChooseColor := definition.etbChooseColor
    etbExcludeColors := definition.etbExcludeColors
    etbChoosePlayer := definition.etbChoosePlayer
    etbChooseMode := definition.etbChooseMode
    etbModeAiLogic := definition.etbModeAiLogic
    etbModeChoices := definition.etbModeChoices
    etbPayLife := definition.etbPayLife
    etbChooseName := definition.etbChooseName }

/-- The transient and copiable fields of a card. -/
structure CardStateSnapshot where
  name : String := ""
  manaCost : ManaCost := {}
  types : List CardType := []
  subtypes : List String := []
  colors : List Color := []
  basePower : Option Int8 := none
  baseToughness : Option Int8 := none
  powerBonus : Int32 := 0
  toughnessBonus : Int32 := 0
  tempBasePower : Option Int8 := none
  tempBaseToughness : Option Int8 := none
  tempAnimateTypes : List CardType := []
  tempAnimateSubtypes : List String := []
  tempRemovedSubtypes : List String := []
  tempKeywordsUntilEot : KeywordSet := {}
  damage : Int32 := 0
  damagedByThisTurn : List CardId := []
  tapped : Bool := false
  turnEnteredBattlefield : Option UInt32 := none
  counters : List (CounterType × UInt8) := []
  keywords : KeywordSet := {}
  effects : List SpellEffect := []
  activatedAbilities : List ActivatedAbility := []
  staticAbilities : List StaticAbility := []
  attachedTo : Option CardId := none
  controlFromAura : Option CardId := none
  controlGrant : Option (CardId × PlayerId) := none
  chosenColor : Option Color := none
  chosenPlayer : Option PlayerId := none
  chosenMode : Option String := none
  chosenName : Option String := none
  storedInt : Option UInt32 := none
  isLegendary : Bool := false
  loyaltyActivatedThisTurn : Bool := false
  regenerationShields : UInt8 := 0
  damagePrevention : Int32 := 0
  xPaid : UInt8 := 0
  timesKicked : UInt8 := 0
  bargainPaid : Bool := false
  kickerPaid : Bool := false
  offspringPaid : Bool := false
  modeCostPaid : UInt8 := 0
  exileIfWouldDieThisTurn : Bool := false
  exileIfWouldGoToGraveyardThisTurn : Bool := false
  preventAllCombatDamageThisTurn : Bool := false
  dealtDamageToOpponentThisTurn : Bool := false
  attackedThisTurn : Bool := false
  exhaustedAbilities : List Nat := []
  castAsAdventure : Bool := false
  definition : CardDefinition := {}

/-- A card in the game: what a snapshot captures, and what stays put. -/
structure Card extends CardStateSnapshot where
  id : CardId
  printedName : String := ""
  owner : PlayerId
  controller : PlayerId
  revealedToMask : UInt8 := 0
  isCommander : Bool := false
  isToken : Bool := false

/-- The characteristics a copy effect overwrites. -/
structure CardCopiableState where
  name : String
  manaCost : ManaCost
  types : List CardType
  subtypes : List String
  colors : List Color
  basePower : Option Int8
  baseToughness : Option Int8
  isLegendary : Bool
  keywords : KeywordSet
  activatedAbilities : List ActivatedAbility
  staticAbilities : List StaticAbility
  definition : CardDefinition

/-- The count of the first entry for a counter kind, or zero. -/
def counterCount (counters : List (CounterType × UInt8))
    (counterType : CounterType) : UInt8 :=
  match counters.find? fun entry => entry.1 == counterType with
  | some (_, count) => count
  | none => 0

/-- Set the count of the first entry; a zero drops every entry of the kind. -/
def setCount (counterType : CounterType) (count : UInt8)
    (counters : List (CounterType × UInt8)) : List (CounterType × UInt8) :=
  if count = 0 then counters.filter fun entry => entry.1 != counterType
  else FirstMatch.modifyFirst (fun entry => entry.1 == counterType)
    (fun entry => (entry.1, count)) counters

namespace Card

def captureStateSnapshot (card : Card) : CardStateSnapshot :=
  card.toCardStateSnapshot

def restoreStateSnapshot (card : Card) (snapshot : CardStateSnapshot) :
    Card :=
  { card with toCardStateSnapshot := snapshot }

def isCreature (card : Card) : Bool := card.definition.cache.isCreature
def isLand (card : Card) : Bool := card.definition.cache.isLand
def isArtifact (card : Card) : Bool := card.definition.cache.isArtifact
def isEnchantment (card : Card) : Bool := card.definition.cache.isEnchantment
def isAura (card : Card) : Bool := card.definition.cache.isAura
def isEquipment (card : Card) : Bool := card.definition.cache.isEquipment
def isPlaneswalker (card : Card) : Bool := card.types.contains .planeswalker
def isManaSource (card : Card) : Bool := card.definition.cache.isManaSource

def manaProduction (card : Card) : ManaProduction :=
  card.definition.cache.manaProduction

def hasKeyword (card : Card) (keyword : Keyword) : Bool :=
  card.keywords.contains keyword

def getCounter (card : Card) (counterType : CounterType) : UInt8 :=
  counterCount card.counters counterType

def hasCounters (card : Card) : Bool :=
  card.counters.any fun entry => 0 < entry.2

/-- Power with counters and bonuses, added up in an `i8`. -/
def currentPower (card : Card) : Int8 :=
  (card.tempBasePower.or card.basePower).getD 0 +
    (card.getCounter .p1p1).toInt8 - (card.getCounter .m1m1).toInt8 +
    card.powerBonus.toInt8

/-- Toughness, in the same way. -/
def currentToughness (card : Card) : Int8 :=
  (card.tempBaseToughness.or card.baseToughness).getD 0 +
    (card.getCounter .p1p1).toInt8 - (card.getCounter .m1m1).toInt8 +
    card.toughnessBonus.toInt8

def hasFirstStrike (card : Card) : Bool := card.hasKeyword .firstStrike
def hasDoubleStrike (card : Card) : Bool := card.hasKeyword .doubleStrike

/-- The bit of a player; the shift amount is taken modulo the width. -/
def revealBit (player : PlayerId) : UInt8 :=
  1 <<< (player.raw % 8).toUInt8

def isRevealedTo (card : Card) (player : PlayerId) : Bool :=
  card.revealedToMask &&& revealBit player != 0

def isRevealedToAll (card : Card) : Bool := 3 ≤ card.revealedToMask

def markRevealedTo (card : Card) (player : PlayerId) : Card :=
  { card with revealedToMask := card.revealedToMask ||| revealBit player }

def markRevealedToAll (card : Card) : Card :=
  { card with revealedToMask := 3 }

def clearRevealedToAll (card : Card) : Card :=
  { card with revealedToMask := 0 }

def tap (card : Card) : Card := { card with tapped := true }

def untap (card : Card) : Card := { card with tapped := false }

/-- Add to the first entry of the kind; plus and minus counters then cancel. -/
def addCounter (card : Card) (counterType : CounterType) (amount : UInt8) :
    Card :=
  if amount = 0 then card
  else
    let added :=
      if card.counters.any fun entry => entry.1 == counterType then
        setCount counterType
          (Saturating.add8 (counterCount card.counters counterType) amount)
          card.counters
      else card.counters ++ [(counterType, amount)]
    let plus := counterCount added .p1p1
    let minus := counterCount added .m1m1
    { card with
      counters :=
        if 0 < plus && 0 < minus then
          setCount .m1m1 (minus - min plus minus)
            (setCount .p1p1 (plus - min plus minus) added)
        else added }

def removeCounter (card : Card) (counterType : CounterType)
    (amount : UInt8) : Card :=
  if amount = 0 then card
  else if card.counters.any fun entry => entry.1 == counterType then
    let count := counterCount card.counters counterType
    { card with
      counters := setCount counterType (count - min count amount)
        card.counters }
  else card

/-- Take the keywords granted until end of turn out of the live set. -/
def clearTempKeywordsUntilEot (card : Card) : Card :=
  { card with
    keywords := card.tempKeywordsUntilEot.keywords.foldl KeywordSet.remove
      card.keywords
    tempKeywordsUntilEot := {} }

def restoreCopiableState (card : Card) (state : CardCopiableState) : Card :=
  { card with
    name := state.name
    manaCost := state.manaCost
    types := state.types
    subtypes := state.subtypes
    colors := state.colors
    basePower := state.basePower
    baseToughness := state.baseToughness
    isLegendary := state.isLegendary
    keywords := state.keywords
    activatedAbilities := state.activatedAbilities
    staticAbilities := state.staticAbilities
    definition := state.definition }

/-- Recompute the type and subtype flags of the cache. -/
def refreshCache (card : Card) : Card :=
  { card with
    definition := { card.definition with
      cache := (card.definition.cache.updateFromTypes
        card.types).updateFromSubtypes card.subtypes card.name } }

/-- The intrinsic mana ability of a basic land type. -/
def landManaAbility (color : ManaColor) : ActivatedAbility where
  cost := .tap
  effects := [.addMana ⟨0⟩
    (match color with
      | .white => { white := 1 }
      | .blue => { blue := 1 }
      | .black => { black := 1 }
      | .red => { red := 1 }
      | .green => { green := 1 }) false none]
  isManaAbility := true

/-- The name and the printed characteristics after a reset. -/
def printedState (card : Card) : Option CardDefinition → CardStateSnapshot
  | some definition =>
      { card.toCardStateSnapshot with
        name := definition.name
        manaCost := definition.manaCost
        types := definition.types
        subtypes := definition.subtypes
        colors := definition.colors
        basePower := definition.power
        baseToughness := definition.toughness
        isLegendary := definition.isLegendary
        definition := { definition with cache := definition.freshCache } }
  | none => { card.toCardStateSnapshot with name := card.printedName }

/-- The parsed abilities, with the intrinsic ones of lands and equipment. -/
def printedAbilities (card : Card) (printed : CardStateSnapshot) :
    List ActivatedAbility :=
  let parsed := printed.definition.activatedAbilities
  let landAbilities :=
    if printed.definition.cache.isLand &&
        !parsed.any ActivatedAbility.isManaAbility then
      (ManaColor.all.filter fun color =>
        printed.subtypes.contains color.landType).map landManaAbility
    else []
  let equipAbility :=
    if printed.definition.cache.isArtifact &&
        printed.subtypes.contains "Equipment" then
      match printed.definition.keywords.getArgs .equip with
      | some (.equip cost) =>
          [{ cost := .mana cost
             effects := [.attachEquipment card.id ⟨0⟩]
             isManaAbility := false
             sorcerySpeed := true }]
      | _ => []
    else []
  parsed ++ landAbilities ++ equipAbility

/-- Back to the printed card, with nothing from its time on the battlefield. -/
def resetTransientState (card : Card) (originalDef : Option CardDefinition) :
    Card :=
  let printed := card.printedState originalDef
  let abilities := card.printedAbilities printed
  { card with
    toCardStateSnapshot :=
      { name := printed.name
        manaCost := printed.manaCost
        types := printed.types
        subtypes := printed.subtypes
        colors := printed.colors
        basePower := printed.basePower
        baseToughness := printed.baseToughness
        isLegendary := printed.isLegendary
        keywords := printed.definition.keywords
        effects := printed.definition.effects
        activatedAbilities := abilities
        staticAbilities := printed.definition.staticAbilities
        definition :=
          { printed.definition with
            cache := printed.definition.cache.updateFromAbilitiesWithName
              abilities printed.name } } }

end Card

def TargetType.matches (target : TargetType) (card : Card) : Bool :=
  match target with
  | any => true
  | artifact => card.isArtifact
  | enchantment => card.isEnchantment
  | creature => card.isCreature
  | land => card.isLand
  | planeswalker => card.isPlaneswalker

/-- Everything but the controller. -/
def TargetRestriction.matches (restriction : TargetRestriction) (card : Card) : Bool :=
  !restriction.requiresRemembered &&
  !restriction.requiresNamedCard &&
  !(restriction.requiresNontoken && card.isToken) &&
  !(restriction.requiresNonartifact && card.isArtifact) &&
  !(restriction.requiresNoncreature && card.isCreature) &&
  (restriction.requiredColor.all fun color => card.colors.contains color) &&
  (restriction.requiredSet.all fun code =>
    card.definition.originSet == some code) &&
  !(restriction.requiresNoCounters && card.hasCounters) &&
  (restriction.powerGe.all fun n => n ≤ card.currentPower.toInt32) &&
  (restriction.powerLe.all fun n => card.currentPower.toInt32 ≤ n) &&
  (restriction.requiredSubtypes.all fun subtypes =>
    subtypes.any fun subtype => card.subtypes.contains subtype) &&
  (restriction.minCmc.all fun n => n ≤ card.manaCost.cmc) &&
  (restriction.maxCmc.all fun n => card.manaCost.cmc ≤ n) &&
  (restriction.exactCmc.all fun n => card.manaCost.cmc == n) &&
  (!restriction.requiresDefender || card.hasKeyword .defender) &&
  (restriction.types.isEmpty || restriction.types.any fun t => t.matches card)

def TargetRestriction.matchesWithController
    (restriction : TargetRestriction) (card : Card)
    (spellController targetController : PlayerId) : Bool :=
  restriction.matches card &&
    match restriction.controller with
    | .any => true
    | .youCtrl => targetController == spellController
    | .oppCtrl => targetController != spellController
    | .activePlayerCtrl => targetController == spellController

end DeepScry
