/-
Effects, costs and abilities, as far as the mana system and the zone changes
read them.  Constructors that no modelled function tells apart share one that
keeps a tag.
-/
import DeepScry.Mana
import DeepScry.Types

namespace DeepScry

/-- `delegated` stands for the other effects a firing delayed trigger hands to
the effect executor, `unsupported` for those it only warns about. -/
inductive Effect where
  | earthbend (numCounters : UInt8)
  | addMana (player : PlayerId) (mana : ManaCost)
      (producesChosenColor : Bool) (amountVar : Option String)
  | scry (player : PlayerId) (count : UInt8)
  | destroyPermanent (target : CardId) (noRegenerate : Bool)
  | attachEquipment (sourceEquipment targetCreature : CardId)
  | searchLibrary (tag : Nat)
  | delegated (tag : Nat)
  | unsupported (tag : Nat)
deriving DecidableEq

inductive Cost where
  | tap
  | untap
  | mana (cost : ManaCost)
  | tapAndMana (cost : ManaCost)
  | sacrifice (card : CardId)
  | sacrificePattern (count : UInt8) (cardType : String)
  | payLife (amount : Int32)
  | discard (card : CardId)
  | discardHand
  | composite (parts : List Cost)
  | waterbend (amount : UInt8)
  | addLoyalty (amount : UInt8)
  | subLoyalty (amount : UInt8)
  | subCounter (amount : UInt8) (counterType : CounterType)

/-- The most expensive side cost among the parts, `sacrifice` worst. -/
def Cost.deriveSideCost : Cost → ManaSideCost
  | .sacrifice _ => .sacrifice
  | .sacrificePattern _ _ => .sacrifice
  | .payLife amount =>
      .payLife (if amount < 1 then 1 else if 255 < amount then 255
        else amount.toInt.toNat.toUInt8)
  | .composite parts => worst parts
  | .tap | .untap | .mana _ | .tapAndMana _ | .discard _ | .discardHand
  | .waterbend _ | .addLoyalty _ | .subLoyalty _ | .subCounter _ _ => .none
where
  worst : List Cost → ManaSideCost
    | [] => .none
    | part :: rest => (worst rest).max part.deriveSideCost

structure ActivatedAbility where
  cost : Cost
  effects : List Effect
  isManaAbility : Bool
  sorcerySpeed : Bool := false
  producesReflectedMana : Bool := false

/-- The keywords that a modelled function asks for; `other` keeps the rest
apart by their discriminant. -/
inductive Keyword where
  | flying
  | haste
  | defender
  | equip
  | dredge
  | indestructible
  | firstStrike
  | doubleStrike
  | trample
  | deathtouch
  | lifelink
  | epic
  | affinity
  | multikicker
  | kicker
  | offspring
  | bargain
  | reach
  | menace
  | horsemanship
  | shadow
  | fear
  | intimidate
  | skulk
  | landwalk
  | protectionFromRed
  | protectionFromBlue
  | protectionFromBlack
  | protectionFromWhite
  | protectionFromGreen
  | mayNotUntap
  | doesNotUntap
  | other (discriminant : Nat)
deriving DecidableEq

/-- Which permanents a static ability is about; the selectors that the keyword
grants do not look at themselves share a constructor. -/
inductive AffectedSelector where
  | landsYouControl
  | allLands
  | creatureEnchantedBy
  | landEnchantedBy
  | creatureEquippedBy
  | self
  | selfWhenAttacking
  | creaturesYouControl
  | creaturesYouControlOther
  | allCreatures
  | creaturesWithPowerGe (n : Int32)
  | creatureTypeOtherYouControl (subtype : String)
  | creatureTypesOtherYouControl (types : List String)
  | allCreaturesOfType (subtype : String)
  | any (selectors : List AffectedSelector)
  | other (tag : Nat)

inductive StaticCondition where
  | playerTurn
  | notPlayerTurn
  | controlsPresent (filter : String) (zone : Zone) (minCount : UInt8)
deriving DecidableEq

/-- How a count of permanents is rounded. -/
inductive CountModifier where
  | all
  | half
  | halfUp
deriving DecidableEq

/-- A number, or a variable that counts permanents of the caster. -/
inductive RaisedCostAmount where
  | fixed (amount : UInt8)
  | variable (typeFilter : String) (modifier : CountModifier)
deriving DecidableEq

inductive RaisedCost where
  | mana (amount : UInt8)
  | sacrifice (amount : RaisedCostAmount) (validType : String)
deriving DecidableEq

/-- The spells whose cost a static ability changes. -/
inductive CostReductionTarget where
  | nonCreature
  | allSpells
  | selfCard
  | creature
  | subtype (subtype : String)
  | color (color : Color)
deriving DecidableEq

/-- A number, or an expression that is counted when the spell is cast. -/
inductive CostReductionAmount where
  | fixed (amount : UInt8)
  | dynamic (expression : Nat)
deriving DecidableEq

structure CostReductionCondition where
  isPresent : String
  presentZone : Zone
  minCount : UInt8
deriving DecidableEq

inductive TargetType where
  | any
  | artifact
  | enchantment
  | creature
  | land
  | planeswalker
deriving DecidableEq

inductive ControllerRestriction where
  | any
  | youCtrl
  | oppCtrl
  | activePlayerCtrl
deriving DecidableEq

/-- A card filter.  `requiredSubtypes` holds the comma-separated alternatives
of the source's `required_subtype`, already split and trimmed. -/
structure TargetRestriction where
  types : List TargetType := []
  requiresNoCounters : Bool := false
  controller : ControllerRestriction := .any
  powerGe : Option Int32 := none
  powerLe : Option Int32 := none
  requiresNontoken : Bool := false
  requiresRemembered : Bool := false
  requiresNonartifact : Bool := false
  requiredColor : Option Color := none
  requiredSet : Option String := none
  requiredSubtypes : Option (List String) := none
  requiresNoncreature : Bool := false
  minCmc : Option UInt8 := none
  maxCmc : Option UInt8 := none
  requiresDefender : Bool := false
  requiresNamedCard : Bool := false
  exactCmc : Option UInt8 := none
deriving DecidableEq

inductive StaticAbility where
  | reduceCost (validCard : CostReductionTarget)
      (amount : CostReductionAmount)
      (condition : Option CostReductionCondition)
  | raiseCost (validCard : CostReductionTarget) (raisedCost : RaisedCost)
  | grantAbility (affected : AffectedSelector) (ability : ActivatedAbility)
  | grantKeyword (affected : AffectedSelector) (keyword : Keyword)
      (condition : Option StaticCondition)
  | damageIncrease (bonus : UInt8)
  | preventDamageToEnchantedByChosenColor
  | damageToExileLibrary
  | lifeFloor
  | cantBlockMatching (attackerFilter : TargetRestriction)
  | cantAttackOrBlockMatching (cantAttack cantBlock : Bool)
      (filter : TargetRestriction)
  | gainControl (affected : AffectedSelector)
  | other (tag : Nat)

/-- What the mana abilities of a card offer together, while they are read in
order. -/
structure ManaAbilityScan where
  colors : ManaColors := .empty
  producesColorless : Bool := false
  producesAny : Bool := false
  maxAmount : UInt8 := 0
  minSideCost : Option ManaSideCost := none
  hasOtherAbilities : Bool := false

namespace ManaAbilityScan

/-- `mana.color > 0`. -/
def hasColor (mana : ManaCost) (color : ManaColor) : Bool :=
  0 < mana.amountOf color.toColor

def addEffect (scan : ManaAbilityScan) : Effect → ManaAbilityScan
  | .addMana _ mana _ _ =>
      { scan with
        colors := (ManaColor.all.filter (hasColor mana)).foldl
          ManaColors.insert scan.colors
        producesColorless := scan.producesColorless || 0 < mana.colorless
        producesAny := scan.producesAny || ManaColor.all.all (hasColor mana)
        maxAmount := max scan.maxAmount
          ((Color.all.map mana.amountOf).foldl max 0) }
  | _ => scan

def addAbility (scan : ManaAbilityScan) (ability : ActivatedAbility) :
    ManaAbilityScan :=
  if ability.isManaAbility then
    let sideCost := ability.cost.deriveSideCost
    ability.effects.foldl addEffect
      { scan with
        minSideCost := some (match scan.minSideCost with
          | some prev => prev.min sideCost
          | none => sideCost) }
  else if ability.effects.isEmpty then scan
  else { scan with hasOtherAbilities := true }

def sideCost (scan : ManaAbilityScan) : ManaSideCost :=
  let base := scan.minSideCost.getD .none
  if base = .none && scan.hasOtherAbilities then .utility else base

end ManaAbilityScan

namespace ManaProduction

/-- `ManaProduction::default`: no mana. -/
def default : ManaProduction := { kind := .choice .empty }

/-- `ManaProduction::free`. -/
def free (kind : ManaProductionKind) : ManaProduction := { kind := kind }

/-- A single colour becomes `fixed`, several become `choice`. -/
def ofColors (colors : ManaColors) : ManaProductionKind :=
  match colors.iter with
  | [color] => .fixed color
  | _ => .choice colors

/-- `CardCache::derive_mana_production_from_abilities`. -/
def deriveFromAbilities (abilities : List ActivatedAbility) :
    ManaProduction :=
  let scan := abilities.foldl ManaAbilityScan.addAbility {}
  let production kind : ManaProduction :=
    { kind := kind, amount := max scan.maxAmount 1, sideCost := scan.sideCost }
  if scan.producesAny then production .anyColor
  else if scan.colors.isEmpty then
    if scan.producesColorless then production .colorless else default
  else production (ofColors scan.colors)

end ManaProduction

end DeepScry
