/-
All selectors of static abilities, and the three places that read them: the
shared test, the one inlined in the power and toughness layer, and the one of
the keyword grants.
-/
import DeepScry.ContinuousEffects

namespace DeepScry

namespace Layers

/-- Which permanents a static ability is about. -/
inductive AffectedSelector where
  | creatureEquippedBy | creaturesYouControl | creaturesYouControlOther
  | allCreatures
  | creaturesWithPowerGe (n : Int32)
  | self | landAttachedBy
  | creatureTypeYouControl (subtype : String)
  | creatureTypeOtherYouControl (subtype : String)
  | creatureTypesOtherYouControl (types : List String)
  | creatureEnchantedBy
  | creatureCardTypeOtherYouControl (cardType : CardType)
  | creatureCardTypeYouControl (cardType : CardType)
  | landCreaturesYouControl
  | creatureNonTypeOtherYouControl (excludedSubtype : String)
  | selfWhenEquipped | selfWhenEnchanted | equippedCreaturesYouControl
  | enchantedCreaturesYouControl
  | allCreaturesOfType (subtype : String)
  | you | player | landsYouControl | instantYouControl | sorceryYouControl
  | creaturesOpponentControls | topCardOfLibrary | creatureAttachedBy
  | artifactsYouControl | artifactsYouControlOther | allLands
  | permanentsYouControl | tokenCreaturesYouControl
  | tokenCreatureTypeYouControl (subtype : String)
  | attackingCreaturesYouControl | allAttackingCreatures | opponent
  | selfWhenAttacking | artifactEnchantedBy | planeswalkerEnchantedBy
  | equipmentEnchantedBy | landEnchantedBy | cardAttachedBy | landsYouOwn
  | selfWhenUntapped | selfWhenMonstrous | selfWhenRenowned
  | tappedCreaturesYouControlOther | untappedCreaturesYouControlOther
  | nonLandPermanentsYouControl | nonLandCardsYouOwn
  | any (selectors : List AffectedSelector)
  | allPermanents | allCards | cardsYouControl | cardsOpponentOwns
  | selfWithCounters (counterType : String) (minimum : UInt32)
  | nonBasicLands
  | creatureColorOther (color : String)
  | allCreaturesOfColor (color : String)
  | humanEquippedBy | selfThisTurnEntered | cardExiledWithSource
  | topOfLibrary | landTopOfLibrary | creatureTopOfLibraryNonLand
  | commanderYouControl | equippedByLegendary | topOfLibraryYouOwn
  | permanentAttachedBy | artifactsNonCreature | allArtifacts
  | basicLandsYouControl
  | specificLandType (landType : String)
  | nonLandCmcLe (maxCmc : Int32)
  | creatureWithFlyingOppCtrl
  | creatureTypeOther (subtype : String)
  | sliversYouControl | permanentEquippedBy | vehicleAttachedBy
  | nonLandCardsYouOwnWithoutForetell | topOfLibraryNonLand | rememberedCards
  | creatureYouControlWasCast
  | cardTypeYouOwn (cardType : CardType)
  | subtypeYouOwn (subtype : String)
  | cardTypeTopLibrary (cardType : CardType)
  | subtypeTopLibraryNonLand (subtype : String)
  | permanentSubtypeYouControl (subtype : String)
  | equippedBySubtype (subtype : String)
  | artifactsNonCreatureYouControl | artifactCreaturesYouControlOther
  | treasuresYouControl | cardsYouControlWasCast | selfTopLibrary
  | instantColorYouControl (color : String)
  | sorceryColorYouControl (color : String)
  | topLibraryWithSubtype (subtype : String)
  | permanentsOpponentControls
  | attackingCreatureTypeYouControl (subtype : String)
  | legendaryYouControl | legendaryOtherYouControl
  | equippedCreatureTypeYouControl (subtype : String)
  | legendarySubtypeYouControl (subtype : String)
  | nonAuraEnchantmentsOther | selfWhenTapped | selfWhenCast
  | enchantmentsYouControl | historicYouControl | historicYouOwn
  | cardSubtypeOtherYouControl (subtype : String)
  | cardSubtypeYouControl (subtype : String)
  | permanentSubtypeOtherYouControl (subtype : String)
  | selfWhenNotAttacking | selfWhenNotInCombat | nonTokenArtifactsYouControl
  | nonLegendaryArtifactsYouControl | cardsYouControlCastFromExile
  | commanderYouOwn
  | subtypeOther (subtype : String)

/-- A creature and the source of a static ability, with their ids. -/
structure Pairing where
  game : GameState
  creatureId : CardId
  sourceId : CardId
  creature : Card
  source : Card

namespace Pairing

variable (effects : StaticEffects) (p : Pairing)

def isSource : Bool := p.creatureId == p.sourceId

def sameController : Bool := p.creature.controller == p.source.controller

def hasSubtype (subtype : String) : Bool :=
  p.creature.subtypes.contains subtype

def isLegendary : Bool := p.hasSubtype "Legendary"

def isAttacking : Bool := p.game.isAttacking p.creatureId

/-- `is_blocking`. -/
def isBlocking : Bool :=
  p.game.combat.blockers.any fun entry => entry.1 == p.creatureId

def equipment : List CardId := p.game.getAttachedEquipment p.creatureId

def auras : List CardId := p.game.getAttachedAuras p.creatureId

/-- The source is attached to the creature. -/
def isAttached : Bool := p.source.attachedTo == some p.creatureId

/-- The creature has one of the five names of basic lands. -/
def hasBasicLandName : Bool :=
  ["Plains", "Island", "Swamp", "Mountain", "Forest"].contains p.creature.name

/-- A colour by its name, read from the mana cost. -/
def hasColorNamed (color : String) : Bool :=
  match color with
  | "White" => 0 < p.creature.manaCost.white
  | "Blue" => 0 < p.creature.manaCost.blue
  | "Black" => 0 < p.creature.manaCost.black
  | "Red" => 0 < p.creature.manaCost.red
  | "Green" => 0 < p.creature.manaCost.green
  | _ => false

/-- Three counter types are known by name. -/
def sourceCounters (counterType : String) : UInt8 :=
  match counterType with
  | "CHARGE" => p.source.getCounter (.other 37)
  | "P1P1" => p.source.getCounter .p1p1
  | "DIVINITY" => p.source.getCounter (.other 58)
  | _ => 0

/-- Some attached equipment is legendary. -/
def equippedByLegendary : Bool :=
  p.equipment.any fun id =>
    (p.game.getCard id).any fun card => card.subtypes.contains "Legendary"

/-- A card type as the shared test looks it up. -/
def hasSharedCardType (cardType : CardType) : Bool :=
  match cardType with
  | .artifact => p.creature.isArtifact
  | _ => false

/-- `selector_applies_to_creature`, for two cards that exist. -/
def selectorApplies : AffectedSelector → Bool
  | .creatureEquippedBy => p.equipment.contains p.sourceId
  | .creaturesYouControl => p.sameController
  | .creaturesYouControlOther => !p.isSource && p.sameController
  | .allCreatures => p.creature.isCreature
  | .creaturesWithPowerGe n =>
      p.creature.isCreature && n ≤ p.creature.currentPower.toInt32
  | .self => p.isSource
  | .landAttachedBy => false
  | .creatureTypesOtherYouControl types =>
      !p.isSource && p.sameController && types.any p.hasSubtype
  | .creatureTypeYouControl subtype => p.sameController && p.hasSubtype subtype
  | .creatureTypeOtherYouControl subtype =>
      !p.isSource && p.sameController && p.hasSubtype subtype
  | .creatureEnchantedBy => p.auras.contains p.sourceId
  | .creatureCardTypeOtherYouControl cardType =>
      !p.isSource && p.sameController && p.hasSharedCardType cardType
  | .creatureCardTypeYouControl cardType =>
      p.sameController && p.hasSharedCardType cardType
  | .landCreaturesYouControl => p.sameController && p.creature.isLand
  | .creatureNonTypeOtherYouControl excludedSubtype =>
      !p.isSource && p.sameController && !p.hasSubtype excludedSubtype
  | .selfWhenEquipped => p.isSource && !p.equipment.isEmpty
  | .selfWhenEnchanted => p.isSource && !p.auras.isEmpty
  | .equippedCreaturesYouControl => p.sameController && !p.equipment.isEmpty
  | .enchantedCreaturesYouControl => p.sameController && !p.auras.isEmpty
  | .allCreaturesOfType subtype => p.hasSubtype subtype
  | .creaturesOpponentControls => !p.sameController
  | .you | .player | .landsYouControl | .topCardOfLibrary => false
  | .creatureAttachedBy => p.isAttached
  | .artifactsYouControl => p.sameController && p.creature.isArtifact
  | .artifactsYouControlOther =>
      !p.isSource && p.sameController && p.creature.isArtifact
  | .allLands => p.creature.isLand
  | .permanentsYouControl => p.sameController
  | .tokenCreaturesYouControl =>
      p.creature.isToken && p.creature.isCreature && p.sameController
  | .tokenCreatureTypeYouControl subtype =>
      p.creature.isToken && p.creature.isCreature && p.sameController &&
        p.hasSubtype subtype
  | .attackingCreaturesYouControl => p.sameController && p.isAttacking
  | .allAttackingCreatures => p.isAttacking
  | .opponent => false
  | .selfWhenAttacking => p.isSource && p.isAttacking
  | .selfWhenUntapped => p.isSource && !p.creature.tapped
  | .selfWhenMonstrous | .selfWhenRenowned => false
  | .artifactEnchantedBy | .planeswalkerEnchantedBy | .equipmentEnchantedBy =>
      p.auras.contains p.sourceId
  | .cardAttachedBy => p.isAttached
  | .landsYouOwn =>
      p.creature.isLand && p.creature.owner == p.source.controller
  | .tappedCreaturesYouControlOther =>
      !p.isSource && p.sameController && p.creature.tapped
  | .untappedCreaturesYouControlOther =>
      !p.isSource && p.sameController && !p.creature.tapped
  | .nonLandPermanentsYouControl => p.sameController && !p.creature.isLand
  | .nonLandCardsYouOwn =>
      p.creature.owner == p.source.controller && !p.creature.isLand
  | .allPermanents | .allCards => true
  | .cardsYouControl => p.sameController
  | .cardsOpponentOwns => p.creature.owner != p.source.controller
  | .selfWithCounters counterType minimum =>
      p.isSource && minimum.toUInt8 ≤ p.sourceCounters counterType
  | .nonBasicLands => p.creature.isLand && !p.hasBasicLandName
  | .creatureColorOther color =>
      !p.isSource && (p.creature.isCreature && p.hasColorNamed color)
  | .allCreaturesOfColor color =>
      p.creature.isCreature && p.hasColorNamed color
  | .humanEquippedBy => p.equipment.contains p.sourceId && p.hasSubtype "Human"
  | .selfThisTurnEntered =>
      p.isSource &&
        p.creature.turnEnteredBattlefield == some p.game.turn.turnNumber
  | .any selectors => anyApplies selectors
  | .instantYouControl | .sorceryYouControl | .cardExiledWithSource
  | .topOfLibrary | .landTopOfLibrary | .creatureTopOfLibraryNonLand
  | .commanderYouControl => false
  | .equippedByLegendary => p.equippedByLegendary
  | .topOfLibraryYouOwn => false
  | .permanentAttachedBy => p.isAttached
  | .artifactsNonCreature => p.creature.isArtifact && !p.creature.isCreature
  | .allArtifacts => p.creature.isArtifact
  | .basicLandsYouControl =>
      p.creature.isLand && p.sameController && p.hasBasicLandName
  | .specificLandType landType => p.creature.isLand && p.hasSubtype landType
  | .nonLandCmcLe maxCmc =>
      !p.creature.isLand &&
        p.creature.manaCost.cmc.toUInt32.toInt32 ≤ maxCmc
  | .creatureWithFlyingOppCtrl =>
      p.creature.isCreature && !p.sameController &&
        p.game.hasKeywordWithEffects effects p.creatureId .flying
  | .creatureTypeOther subtype => !p.isSource && p.hasSubtype subtype
  | .sliversYouControl => p.sameController && p.hasSubtype "Sliver"
  | .permanentEquippedBy => p.equipment.contains p.sourceId
  | .vehicleAttachedBy => p.isAttached && p.hasSubtype "Vehicle"
  | .nonLandCardsYouOwnWithoutForetell =>
      p.creature.owner == p.source.controller && !p.creature.isLand
  | .topOfLibraryNonLand | .rememberedCards => false
  | .creatureYouControlWasCast => p.creature.isCreature && p.sameController
  | .cardTypeYouOwn _ | .subtypeYouOwn _ | .cardTypeTopLibrary _
  | .subtypeTopLibraryNonLand _ => false
  | .permanentSubtypeYouControl subtype =>
      p.sameController && p.hasSubtype subtype
  | .equippedBySubtype subtype =>
      p.equipment.contains p.sourceId && p.hasSubtype subtype
  | .artifactsNonCreatureYouControl =>
      p.sameController && p.creature.isArtifact && !p.creature.isCreature
  | .artifactCreaturesYouControlOther =>
      !p.isSource && p.sameController && p.creature.isArtifact &&
        p.creature.isCreature
  | .treasuresYouControl => p.sameController && p.hasSubtype "Treasure"
  | .cardsYouControlWasCast => p.sameController
  | .selfTopLibrary | .instantColorYouControl _ | .sorceryColorYouControl _
  | .topLibraryWithSubtype _ | .landEnchantedBy => false
  | .permanentsOpponentControls => !p.sameController
  | .attackingCreatureTypeYouControl subtype =>
      p.sameController && p.hasSubtype subtype && p.isAttacking
  | .legendaryYouControl => p.sameController && p.isLegendary
  | .legendaryOtherYouControl =>
      !p.isSource && p.sameController && p.isLegendary
  | .equippedCreatureTypeYouControl subtype =>
      p.sameController && p.hasSubtype subtype && !p.equipment.isEmpty
  | .legendarySubtypeYouControl subtype =>
      p.sameController && p.hasSubtype subtype && p.isLegendary
  | .nonAuraEnchantmentsOther =>
      !p.isSource && p.creature.isEnchantment && !p.hasSubtype "Aura"
  | .selfWhenTapped => p.isSource && p.creature.tapped
  | .selfWhenCast => p.isSource
  | .enchantmentsYouControl => p.sameController && p.creature.isEnchantment
  | .historicYouControl =>
      p.sameController &&
        (p.isLegendary || p.creature.isArtifact || p.hasSubtype "Saga")
  | .historicYouOwn =>
      p.creature.owner == p.source.controller &&
        (p.isLegendary || p.creature.isArtifact || p.hasSubtype "Saga")
  | .cardSubtypeOtherYouControl subtype =>
      !p.isSource && p.sameController && p.hasSubtype subtype
  | .cardSubtypeYouControl subtype => p.sameController && p.hasSubtype subtype
  | .permanentSubtypeOtherYouControl subtype =>
      !p.isSource && p.sameController && p.hasSubtype subtype
  | .selfWhenNotAttacking => p.isSource && !p.isAttacking
  | .selfWhenNotInCombat => p.isSource && !p.isAttacking && !p.isBlocking
  | .nonTokenArtifactsYouControl => p.sameController && p.creature.isArtifact
  | .nonLegendaryArtifactsYouControl =>
      p.sameController && p.creature.isArtifact && !p.isLegendary
  | .cardsYouControlCastFromExile | .commanderYouOwn => false
  | .subtypeOther subtype => !p.isSource && p.hasSubtype subtype
where
  anyApplies : List AffectedSelector → Bool
    | [] => false
    | selector :: rest => selectorApplies selector || anyApplies rest

/-- A card type as the power and toughness layer looks it up. -/
def hasCardType (cardType : CardType) : Bool :=
  match cardType with
  | .artifact => p.creature.isArtifact
  | .land => p.creature.isLand
  | .creature => p.creature.isCreature
  | cardType => p.creature.types.contains cardType

/-- The card carries the id of the source. -/
def isSourceCard : Bool := p.creatureId == p.source.id

/-- The selector of a `ModifyPT` ability, as `calculate_modifypt_effects` reads
it; the selectors that came later go to the shared test. -/
def modifyPtApplies : AffectedSelector → Bool
  | .creatureEquippedBy => p.equipment.contains p.sourceId
  | .creaturesYouControl => p.sameController
  | .creaturesYouControlOther => !p.isSource && p.sameController
  | .allCreatures => p.creature.isCreature
  | .creaturesWithPowerGe _ => false
  | .self => p.isSource
  | .landAttachedBy => false
  | .creatureTypesOtherYouControl types =>
      !p.isSource && p.sameController && types.any p.hasSubtype
  | .creatureTypeYouControl subtype => p.sameController && p.hasSubtype subtype
  | .creatureTypeOtherYouControl subtype =>
      !p.isSource && p.sameController && p.hasSubtype subtype
  | .creatureEnchantedBy => p.auras.contains p.sourceId
  | .creatureCardTypeOtherYouControl cardType =>
      !p.isSource && p.sameController && p.hasCardType cardType
  | .creatureCardTypeYouControl cardType =>
      p.sameController && p.hasCardType cardType
  | .landCreaturesYouControl =>
      p.sameController && (p.creature.isCreature && p.creature.isLand)
  | .creatureNonTypeOtherYouControl excludedSubtype =>
      !p.isSource && p.sameController && !p.hasSubtype excludedSubtype
  | .selfWhenEquipped => p.isSource && !p.equipment.isEmpty
  | .selfWhenEnchanted => p.isSource && !p.auras.isEmpty
  | .equippedCreaturesYouControl => p.sameController && !p.equipment.isEmpty
  | .enchantedCreaturesYouControl => p.sameController && !p.auras.isEmpty
  | .allCreaturesOfType subtype => p.hasSubtype subtype
  | .creaturesOpponentControls => !p.sameController
  | .you | .player | .landsYouControl | .topCardOfLibrary => false
  | .creatureAttachedBy => p.isAttached
  | .artifactsYouControl => p.creature.isArtifact && p.sameController
  | .artifactsYouControlOther =>
      p.creature.isArtifact && (!p.isSource && p.sameController)
  | .allLands => p.creature.isLand
  | .permanentsYouControl => p.sameController
  | .tokenCreaturesYouControl =>
      p.creature.isToken && p.creature.isCreature && p.sameController
  | .tokenCreatureTypeYouControl subtype =>
      p.creature.isToken && p.creature.isCreature && p.sameController &&
        p.hasSubtype subtype
  | .attackingCreaturesYouControl => p.sameController && p.isAttacking
  | .allAttackingCreatures => p.isAttacking
  | .opponent => false
  | .selfWhenAttacking => p.isSourceCard && p.isAttacking
  | .artifactEnchantedBy | .planeswalkerEnchantedBy
  | .equipmentEnchantedBy => p.isAttached
  | .cardAttachedBy => p.isAttached
  | .landsYouOwn =>
      p.creature.isLand && p.creature.owner == p.source.controller
  | .selfWhenUntapped => p.isSourceCard && !p.creature.tapped
  | .selfWhenMonstrous | .selfWhenRenowned => false
  | .tappedCreaturesYouControlOther =>
      !p.isSourceCard && p.sameController && p.creature.tapped
  | .untappedCreaturesYouControlOther =>
      !p.isSourceCard && p.sameController && !p.creature.tapped
  | .nonLandPermanentsYouControl => p.sameController && !p.creature.isLand
  | .nonLandCardsYouOwn =>
      p.creature.owner == p.source.controller && !p.creature.isLand
  | .allPermanents | .allCards => true
  | .cardsYouControl => p.sameController
  | .cardsOpponentOwns => p.creature.owner != p.source.controller
  | .selfWithCounters counterType minimum =>
      p.isSourceCard && minimum.toUInt8 ≤ p.sourceCounters counterType
  | .nonBasicLands => p.creature.isLand && !p.hasBasicLandName
  | .creatureColorOther color =>
      !p.isSourceCard && (p.creature.isCreature && p.hasColorNamed color)
  | .allCreaturesOfColor color =>
      p.creature.isCreature && p.hasColorNamed color
  | .humanEquippedBy => p.equipment.contains p.sourceId && p.hasSubtype "Human"
  | .selfThisTurnEntered =>
      p.isSourceCard &&
        p.creature.turnEnteredBattlefield == some p.game.turn.turnNumber
  | .any selectors => selectors.any (p.selectorApplies effects)
  | selector => p.selectorApplies effects selector

/-- The selectors that the keyword grants read themselves. -/
def handledByGrants : AffectedSelector → Bool
  | .creatureTypeOtherYouControl _ | .creatureTypesOtherYouControl _
  | .creaturesYouControl | .creaturesYouControlOther | .creatureEquippedBy
  | .creatureEnchantedBy | .allCreatures | .creaturesWithPowerGe _
  | .allCreaturesOfType _ | .selfWhenAttacking | .any _ | .allLands
  | .landsYouControl => true
  | _ => false

/-- The selector of a `GrantKeyword` ability, as `get_granted_keywords` reads
it. -/
def grantApplies : AffectedSelector → Bool
  | .creatureTypeOtherYouControl subtype =>
      !p.isSource && p.sameController && p.hasSubtype subtype
  | .creatureTypesOtherYouControl types =>
      !p.isSource && p.sameController && types.any p.hasSubtype
  | .creaturesYouControl => p.sameController
  | .creaturesYouControlOther => !p.isSource && p.sameController
  | .creatureEquippedBy => p.equipment.contains p.sourceId
  | .creatureEnchantedBy => p.auras.contains p.sourceId
  | .allCreatures => p.creature.isCreature
  | .creaturesWithPowerGe n =>
      p.creature.isCreature && n ≤ p.creature.currentPower.toInt32
  | .allCreaturesOfType subtype => p.hasSubtype subtype
  | .selfWhenAttacking => p.isSource && p.isAttacking
  | .any selectors => selectors.any (p.selectorApplies effects)
  | .allLands => p.creature.isLand
  | .landsYouControl => p.creature.isLand && p.sameController
  | _ => false

/-- A condition is read for the controller of the source. -/
def conditionMet (condition : Option StaticCondition) : Bool :=
  condition.all fun condition =>
    p.game.staticConditionMet effects condition p.source.controller

end Pairing

/-- What defines power or toughness. -/
inductive CountModifier where
  | none
  | minus (n : Int32)
  | plus (n : Int32)
  | times (n : Int32)

def CountModifier.apply : CountModifier → Int32 → Int32
  | .none, value => value
  | .minus n, value => value - n
  | .plus n, value => value + n
  | .times n, value => value * n

inductive CdaPtSource where
  | controllerLifeTotal
  | allGraveyardCreatures (modifier : CountModifier)

/-- The static abilities that the layers of power, toughness and keywords look
at, with all their data. -/
inductive StaticAbility where
  | modifyPt (affected : AffectedSelector) (power toughness : Int32)
      (condition : Option StaticCondition)
  | grantKeyword (affected : AffectedSelector) (keyword : Keyword)
      (condition : Option StaticCondition)
  | characteristicDefiningPt (powerSource toughnessSource : CdaPtSource)
  | opalescenceStyle
  | other

namespace Pairing

variable (effects : StaticEffects) (p : Pairing)

/-- What one static ability of the source adds to power and toughness. -/
def modifyPtBonus : StaticAbility → Option (Int32 × Int32)
  | .modifyPt affected power toughness condition =>
      if p.conditionMet effects condition &&
          p.modifyPtApplies effects affected then
        some (power, toughness)
      else none
  | _ => none

/-- The keyword that one static ability of the source grants. -/
def grantedKeyword : StaticAbility → Option Keyword
  | .grantKeyword affected keyword condition =>
      if p.conditionMet effects condition &&
          p.grantApplies effects affected then
        some keyword
      else none
  | _ => none

end Pairing

section Layer

variable (full : DeepScry.StaticAbility → StaticAbility)
  (effects : StaticEffects) (game : GameState)

/-- The permanents and the cards in the command zones. -/
def sources : List CardId :=
  game.zones.battlefield ++
    game.zones.playerZones.flatMap fun entry => entry.2.command

/-- The static abilities of a card with all their data. -/
def statics (card : Card) : List StaticAbility :=
  card.staticAbilities.map full

/-- Add what one source contributes.  An unknown permanent ends in a panic, an
unknown card of a command zone is passed over. -/
def addSource (creatureId : CardId) (creature : Card)
    (sum : Int32 × Int32) (sourceId : CardId) : Option (Int32 × Int32) :=
  match game.getCard sourceId with
  | none => if game.zones.battlefield.contains sourceId then none else some sum
  | some source =>
      let p : Pairing := { game, creatureId, sourceId, creature, source }
      some ((statics full source).foldl (fun sum ability =>
        match p.modifyPtBonus effects ability with
        | some bonus => (sum.1 + bonus.1, sum.2 + bonus.2)
        | none => sum) sum)

/-- `calculate_modifypt_effects`, for a creature that exists. -/
def calculateModifyptEffects (creatureId : CardId) (creature : Card) :
    Option (Int32 × Int32) :=
  (sources game).foldlM (addSource full effects game creatureId creature)
    (0, 0)

/-- `get_granted_keywords`. -/
def getGrantedKeywords (creatureId : CardId) : KeywordSet :=
  match game.getCard creatureId with
  | none => {}
  | some creature =>
      (sources game).foldl (fun granted sourceId =>
        match game.getCard sourceId with
        | none => granted
        | some source =>
            let p : Pairing := { game, creatureId, sourceId, creature, source }
            ((statics full source).filterMap (p.grantedKeyword effects)).foldl
              KeywordSet.insert granted) {}

end Layer

end Layers

end DeepScry
