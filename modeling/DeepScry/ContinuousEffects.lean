/-
Continuous effects: the layers of power and toughness, and the keywords that
static abilities grant.  What the larger tables of static abilities add stays
a parameter.
-/
import DeepScry.GameState

namespace DeepScry

/-- The parts of the layer system that are not told apart here.  `none` is an
error of the lookup. -/
structure StaticEffects where
  calculateCdaPt : GameState → CardId → Option (Option (Int32 × Int32))
  opalescencePt : GameState → Card → Option Int32
  calculateModifyptEffects : GameState → CardId → Option (Int32 × Int32)
  otherSelectorApplies : GameState → Nat → CardId → CardId → Bool
  countCardsMatchingFilter : GameState → PlayerId → String → Zone → Nat

/-- What each layer contributes to power and toughness. -/
structure PTBreakdown where
  base : Int32 × Int32
  characteristicValue : Option (Int32 × Int32)
  setptValue : Option (Int32 × Int32)
  modifyptEffects : Int32 × Int32
  modifyptCounters : Int32 × Int32
  isSwitched : Bool

namespace PTBreakdown

def finalPt (breakdown : PTBreakdown) : Int32 × Int32 :=
  let start := breakdown.setptValue.getD
    (breakdown.characteristicValue.getD breakdown.base)
  let power := start.1 +
    (breakdown.modifyptEffects.1 + breakdown.modifyptCounters.1)
  let toughness := start.2 +
    (breakdown.modifyptEffects.2 + breakdown.modifyptCounters.2)
  if breakdown.isSwitched then (toughness, power) else (power, toughness)

def power (breakdown : PTBreakdown) : Int32 := breakdown.finalPt.1

def toughness (breakdown : PTBreakdown) : Int32 := breakdown.finalPt.2

end PTBreakdown

namespace GameState

/-- `cards.get`. -/
def getCard (game : GameState) (id : CardId) : Option Card :=
  game.cards.get id.raw

/-- What continuous effects look at: everything but the two logs and the
prevention shields. -/
def board (game : GameState) : GameState :=
  { game with
    undoLog := {}
    logger := {}
    players := game.players.map fun player =>
      { player with sourcePreventionShields := [] } }

def getAttachedEquipment (game : GameState) (creature : CardId) :
    List CardId :=
  game.zones.battlefield.filter fun id =>
    (game.getCard id).any fun card =>
      card.isEquipment && card.attachedTo == some creature

def getAttachedAuras (game : GameState) (permanent : CardId) : List CardId :=
  game.zones.battlefield.filter fun id =>
    (game.getCard id).any fun card =>
      card.isAura && card.attachedTo == some permanent

/-- `is_attacking`. -/
def isAttacking (game : GameState) (id : CardId) : Bool :=
  game.combat.attackers.any fun entry => entry.1 == id

/-- Counters of both kinds change power and toughness alike. -/
def modifyptCounters (card : Card) : Int32 × Int32 :=
  let bonus := (card.getCounter .p1p1).toUInt32.toInt32 -
    (card.getCounter .m1m1).toUInt32.toInt32
  (bonus, bonus)

section Effects

variable (effects : StaticEffects)

def getPtBreakdown (game : GameState) (creature : CardId) :
    Option PTBreakdown := do
  let card ← game.getCard creature
  let characteristicValue ← effects.calculateCdaPt game.board creature
  let continuous ← effects.calculateModifyptEffects game.board creature
  return {
    base := (((card.tempBasePower.or card.basePower).getD 0).toInt32,
      ((card.tempBaseToughness.or card.baseToughness).getD 0).toInt32)
    characteristicValue := characteristicValue
    setptValue := (effects.opalescencePt game.board card).map fun v => (v, v)
    modifyptEffects := (continuous.1 + card.powerBonus,
      continuous.2 + card.toughnessBonus)
    modifyptCounters := modifyptCounters card
    isSwitched := false }

def getEffectivePower (game : GameState) (creature : CardId) : Option Int32 :=
  (game.getPtBreakdown effects creature).map PTBreakdown.power

def getEffectiveToughness (game : GameState) (creature : CardId) :
    Option Int32 :=
  (game.getPtBreakdown effects creature).map PTBreakdown.toughness

def staticConditionMet (game : GameState) (condition : StaticCondition)
    (sourceController : PlayerId) : Bool :=
  match condition with
  | .playerTurn => game.turn.activePlayer == sourceController
  | .notPlayerTurn => game.turn.activePlayer != sourceController
  | .controlsPresent filter zone minCount =>
      minCount.toNat ≤
        effects.countCardsMatchingFilter game.board sourceController filter
          zone

/-- `selector_applies_to_creature`, for two cards that exist. -/
def selectorApplies (game : GameState) (creatureId sourceId : CardId)
    (creature source : Card) : AffectedSelector → Bool
  | .landsYouControl | .landEnchantedBy => false
  | .allLands => creature.isLand
  | .creatureEnchantedBy =>
      (game.getAttachedAuras creatureId).contains sourceId
  | .creatureEquippedBy =>
      (game.getAttachedEquipment creatureId).contains sourceId
  | .self => creatureId == sourceId
  | .selfWhenAttacking => creatureId == sourceId && game.isAttacking creatureId
  | .creaturesYouControl => creature.controller == source.controller
  | .creaturesYouControlOther =>
      creatureId != sourceId && creature.controller == source.controller
  | .allCreatures => creature.isCreature
  | .creaturesWithPowerGe n =>
      creature.isCreature && n ≤ creature.currentPower.toInt32
  | .creatureTypeOtherYouControl subtype =>
      creatureId != sourceId && creature.controller == source.controller &&
        creature.subtypes.contains subtype
  | .creatureTypesOtherYouControl types =>
      creatureId != sourceId && creature.controller == source.controller &&
        types.any fun subtype => creature.subtypes.contains subtype
  | .allCreaturesOfType subtype => creature.subtypes.contains subtype
  | .any selectors => anyApplies selectors
  | .other tag =>
      effects.otherSelectorApplies game.board tag creatureId sourceId
where
  anyApplies : List AffectedSelector → Bool
    | [] => false
    | selector :: rest =>
        game.selectorApplies creatureId sourceId creature source selector ||
          anyApplies rest

/-- The selector of a keyword grant; most read as for power and toughness. -/
def grantApplies (game : GameState) (creatureId sourceId : CardId)
    (creature source : Card) : AffectedSelector → Bool
  | .landsYouControl =>
      creature.isLand && creature.controller == source.controller
  | .self | .landEnchantedBy | .other _ => false
  | selector =>
      game.selectorApplies effects creatureId sourceId creature source selector

/-- Add what one static ability of a source grants. -/
def addGranted (game : GameState) (creatureId sourceId : CardId)
    (creature source : Card) (granted : KeywordSet) :
    StaticAbility → KeywordSet
  | .grantKeyword affected keyword condition =>
      if condition.all (fun condition =>
            game.staticConditionMet effects condition source.controller) &&
          game.grantApplies effects creatureId sourceId creature source
            affected then
        granted.insert keyword
      else granted
  | _ => granted

/-- The keywords granted by the permanents and by the command zones. -/
def getGrantedKeywords (game : GameState) (creatureId : CardId) : KeywordSet :=
  match game.getCard creatureId with
  | none => {}
  | some creature =>
      (game.zones.battlefield ++
        game.zones.playerZones.flatMap fun entry => entry.2.command).foldl
        (fun granted sourceId =>
          match game.getCard sourceId with
          | none => granted
          | some source =>
              source.staticAbilities.foldl
                (game.addGranted effects creatureId sourceId creature source)
                granted)
        {}

def hasKeywordWithEffects (game : GameState) (creature : CardId)
    (keyword : Keyword) : Bool :=
  (game.getCard creature).any (fun card => card.hasKeyword keyword) ||
    (game.getGrantedKeywords effects creature).contains keyword

end Effects

end GameState

end DeepScry
