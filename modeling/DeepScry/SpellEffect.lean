/-
The effects of a spell, as far as its resolution reads them.  Fields that no
modelled function looks at are kept as a tag.
-/
import DeepScry.Types

namespace DeepScry

inductive TargetRef where
  | player (player : PlayerId)
  | permanent (card : CardId)
  | none
deriving DecidableEq

inductive DamageDivision where
  | none
  | evenlyRoundedDown
deriving DecidableEq

/-- An amount that is read while the spell resolves. -/
inductive DynamicAmount where
  | fixed (amount : Int32)
  | targetPower
  | targetManaValue
  | damageDealt
  | damageDealtCappedByTarget (cap : Option Int32)
  | other (tag : Nat)
deriving DecidableEq

/-- What an effect does to the one permanent or spell that is its target. -/
inductive TargetedEffect where
  | destroyPermanent (noRegenerate : Bool) (tag : Nat)
  | pumpCreature (powerBonus toughnessBonus : Int32) (tag : Nat)
  | pumpCreatureVariable (tag : Nat)
  | debuffCreature (tag : Nat)
  | tapPermanent
  | untapPermanent
  | tapOrUntapPermanent
  | counterSpell (rememberManaValue : Bool) (tag : Nat)
  | returnPermanentToHand (tag : Nat)
  | exilePermanent
  | playFromGraveyard (exileOnResolution : Bool) (tag : Nat)
  | earthbend (numCounters : UInt8)
  | airbend
  | removeCounter (counterType : Option CounterType) (amount : UInt8)
  | putCounter (counterType : CounterType) (amount : UInt8)
  | multiplyCounter (counterType : Option CounterType) (multiplier : UInt8)
deriving DecidableEq

/-- What an effect does for or to the one player it names. -/
inductive PlayerEffect where
  | drawCards (count : UInt8)
  | drawCardsXPaid
  | discardCards (count : UInt8)
      (rememberDiscarded optional rememberDiscardingPlayers : Bool)
  | discardCardsXPaid (rememberDiscarded : Bool)
  | gainLife (amount : Int32)
  | loseLife (amount : Int32)
  | setLife (amount : Int32)
  | forceSacrifice (sacType : String) (count : UInt8)
  | mill (count : UInt8)
  | scry (count : UInt8) (onlyIfBargained : Bool)
  | surveil (count : UInt8)
  | loot (discardCount drawCount : UInt8)
  | addMana (tag : Nat)
  | drainMana
  | addTurn (numTurns : UInt8)
  | skipUntapStep
  | chooseColor (source : CardId)
  | chooseName
  | returnCardsFromGraveyardToHand
  | putCardsFromHandOnTopOfLibrary (count : UInt8)
  | revealCardsFromHand (anyNumber rememberCount : Bool) (tag : Nat)
  | returnGraveyardCardToHand (typeFilter : String)
  | returnGraveyardCardToZone (destination : Zone) (tag : Nat)
  | putCreatureFromHandOnBattlefield (rememberChanged : Bool) (tag : Nat)
  | rearrangeTopOfLibrary (count : UInt8)
  | extraLandPlay (amount : UInt8)
  | grantCastWithFlash (tag : Nat)
  | createEmblem (tag : Nat)
  | tapPermanentsMatchingFilter (count : UInt8) (tag : Nat)
  | pumpAllCreatures (powerBonus toughnessBonus : Int32) (tag : Nat)
  | animateAll (tag : Nat)
  | searchLibrary (destination : Zone) (entersTapped shuffle : Bool)
      (tag : Nat)
  | createTokenDynamic (tag : Nat)
  | firebend (amount : UInt8)
  | preventDamageFromSource (source : CardId) (tag : Nat)
deriving DecidableEq

/-- Who pays an unless cost.  The source keeps a text that is replaced by the
id of a player when the effect is resolved. -/
inductive UnlessPayer where
  | you
  | targetedController
  | targetedOrController
  | player
  | opponent
  | resolved (id : PlayerId)
  | other (text : String)
deriving DecidableEq

/-- The effects of a spell; `other` are those without a target or a player.  A
mode of a modal choice has an effect and a cost. -/
inductive SpellEffect where
  | dealDamage (target : TargetRef) (amount : Int32)
  | dealDamageXPaid (target : TargetRef) (divide : DamageDivision)
  | dealDamageDynamic (target : TargetRef) (count : Nat)
  | dealDamageDivided (targets : List TargetRef) (amountEach : Int32)
  | eachDamage (damagers : List CardId) (receiver : CardId)
      (useCardPower : Bool) (fixedDamage : Int32)
  | preventDamage (target : TargetRef) (amount : Int32)
  | onTarget (effect : TargetedEffect) (target : CardId)
  | onPlayer (effect : PlayerEffect) (player : PlayerId)
  | gainControl (target : CardId) (newController : PlayerId) (untap : Bool)
      (source : Option CardId) (tag : Nat)
  | fight (fighter target : CardId)
  | exileIfWouldDieThisTurn (target : CardId)
  | preventAllCombatDamageThisTurn (target : CardId)
  | gainLifeDynamic (player : PlayerId) (amount : DynamicAmount)
      (reference : CardId)
  | copyPermanent (target : CardId) (controller : PlayerId) (tag : Nat)
  | createDelayedTrigger (trackedCard : CardId) (tag : Nat)
  | copySpellAbility (mayChooseTargets : Bool)
      (controller : Option UnlessPayer) (tag : Nat)
  | unlessCostWrapper (innerEffect : SpellEffect) (payer : UnlessPayer)
      (tag : Nat)
  | createToken (controller : PlayerId) (amount : UInt8)
      (forEachPlayer : Bool) (tokenScript : String)
  | createTokenWithStoredPt (sourceCard : CardId) (controller : PlayerId)
      (tokenScript : String)
  | repeatEachCard (targets : List CardId) (requireInGraveyard : Bool)
      (tag : Nat)
  | destroyAll (cmcEqSvar noRegenerate : Bool) (cmcEqSource : Option CardId)
      (tag : Nat)
  | selfExileFromStack (source : CardId) (rememberChanged : Bool)
  | moveSelfBetweenZones (source : CardId) (origin destination : Zone)
  | conditionalSelfCounter (source : CardId) (inner : SpellEffect)
      (tag : Nat)
  | changeZoneAll (targetPlayer : Option PlayerId) (tag : Nat)
  | modalChoice (modes : List (SpellEffect × UInt8))
      (numToChoose minToChoose : UInt8) (canRepeatModes : Bool)
  | other (tag : Nat)

end DeepScry
