/-
Resolving an effect of a spell: its placeholders become the chosen targets,
the player it acts for and the opponent.
-/
import DeepScry.GameState
import DeepScry.SpellEffect

namespace DeepScry

namespace CardId

def isPlaceholder (id : CardId) : Bool := id.raw == 0

def isSelfTarget (id : CardId) : Bool := id.raw == 4294967295 - 3

def isReusePrevious (id : CardId) : Bool := id.raw == 4294967295

/-- `player_target_from_sentinel`: a player in the place of a card. -/
def playerTarget? (id : CardId) : Option PlayerId :=
  let base := 4294967295 - 1000
  if base ≤ id.raw ∧ id.raw < base + 64 then some ⟨id.raw - base⟩ else none

end CardId

namespace PlayerId

def isPlaceholder (id : PlayerId) : Bool := id.raw == 0

def isAllPlayers (id : PlayerId) : Bool := id.raw == 4294967295 - 1

def isTargetOpponent (id : PlayerId) : Bool := id.raw == 4294967295 - 5

def isTargetController (id : PlayerId) : Bool := id.raw == 4294967295 - 6

end PlayerId

/-- `target_ref_from_chosen_target`. -/
def CardId.targetRef (id : CardId) : TargetRef :=
  match id.playerTarget? with
  | some player => .player player
  | none => .permanent id

/-- What the effects of one spell are resolved with: `cardOwner` stands in for
`you`. -/
structure SpellContext where
  chosenTargets : List CardId
  cardOwner : PlayerId
  opponentId : Option PlayerId
  sourceCardId : Option CardId

/-- The next target to consume, and the one resolved last. -/
structure TargetCursor where
  targetIndex : Nat := 0
  lastResolvedTarget : Option CardId := none

/-- What the resolution of an effect computes elsewhere. -/
structure ResolutionQueries where
  evaluateCountWithSource :
    GameState → Nat → PlayerId → Option CardId → Option Int32
  isLegalTarget : Card → PlayerId → List Color → Bool
  getEffectivePower : GameState → CardId → Option Int32
  getEffectiveToughness : GameState → CardId → Option Int32

/-- The effect with the amount of X that was paid. -/
def SpellEffect.resolveXPaid (xPaid : UInt8) : SpellEffect → SpellEffect
  | dealDamageXPaid .none .evenlyRoundedDown =>
      dealDamageDivided [] (Int32.ofNat xPaid.toNat)
  | dealDamageXPaid target _ => dealDamage target (Int32.ofNat xPaid.toNat)
  | onPlayer .drawCardsXPaid player => onPlayer (.drawCards xPaid) player
  | onPlayer (.discardCardsXPaid rememberDiscarded) player =>
      onPlayer (.discardCards xPaid rememberDiscarded false false) player
  | effect => effect

namespace SpellContext

variable (context : SpellContext)

/-- The opponent, or the owner where there is none. -/
def opponentOrOwner : PlayerId :=
  context.opponentId.getD context.cardOwner

/-- `consume_next_target`. -/
def consumeNextTarget (cursor : TargetCursor) :
    Option CardId × TargetCursor :=
  match context.chosenTargets[cursor.targetIndex]? with
  | some id => (some id, ⟨cursor.targetIndex + 1, some id⟩)
  | none => (none, cursor)

/-- The next target takes its place; without one the effect is unchanged. -/
def bind (cursor : TargetCursor) (unbound : SpellEffect)
    (bound : CardId → SpellEffect) : SpellEffect × TargetCursor :=
  match context.consumeNextTarget cursor with
  | (some id, cursor) => (bound id, cursor)
  | (none, cursor) => (unbound, cursor)

/-- Damage without a target goes to the next one, else to the opponent. -/
def aim (cursor : TargetCursor) (untargeted : SpellEffect)
    (aimed : TargetRef → SpellEffect) : SpellEffect × TargetCursor :=
  match context.consumeNextTarget cursor with
  | (some id, cursor) => (aimed id.targetRef, cursor)
  | (none, cursor) =>
      match context.opponentId with
      | some opponent => (aimed (.player opponent), cursor)
      | none => (untargeted, cursor)

/-- The player of an effect that names one; a target may be a player for
`SetLife`, and the loop effects have their own default. -/
def resolvePlayer (game : GameState) (effect : PlayerEffect)
    (player : PlayerId) (cursor : TargetCursor) : PlayerId × TargetCursor :=
  let toYou := if player.isPlaceholder then context.cardOwner else player
  match effect with
  | .loseLife _ | .forceSacrifice _ _ =>
      (if player.isPlaceholder then context.opponentOrOwner else player,
        cursor)
  | .discardCards _ _ _ _ | .discardCardsXPaid _ | .skipUntapStep =>
      (if player.isPlaceholder then context.cardOwner
      else if player.isTargetOpponent then context.opponentOrOwner
      else player, cursor)
  | .drainMana =>
      (if player.isTargetController then
        ((cursor.lastResolvedTarget.bind game.card?).map
          Card.controller).getD context.opponentOrOwner
      else if player.isPlaceholder then context.cardOwner
      else if player.isTargetOpponent then context.opponentOrOwner
      else player, cursor)
  | .setLife _ =>
      if player.isPlaceholder then
        match context.chosenTargets[cursor.targetIndex]? with
        | some raw =>
            match raw.playerTarget? with
            | some target => (target, ⟨cursor.targetIndex + 1, some raw⟩)
            | none => (context.cardOwner, cursor)
        | none => (context.cardOwner, cursor)
      else (player, cursor)
  | .tapPermanentsMatchingFilter _ _ | .pumpAllCreatures _ _ _
  | .animateAll _ | .searchLibrary _ _ _ _ | .createTokenDynamic _
  | .firebend _ | .preventDamageFromSource _ _ => (player, cursor)
  | .drawCards _ | .drawCardsXPaid | .gainLife _ | .mill _ | .scry _ _
  | .surveil _ | .loot _ _ | .addMana _ | .addTurn _ | .chooseColor _
  | .chooseName | .returnCardsFromGraveyardToHand
  | .putCardsFromHandOnTopOfLibrary _ | .revealCardsFromHand _ _ _
  | .returnGraveyardCardToHand _ | .returnGraveyardCardToZone _ _
  | .putCreatureFromHandOnBattlefield _ _ | .rearrangeTopOfLibrary _
  | .extraLandPlay _ | .grantCastWithFlash _ | .createEmblem _ =>
      (toYou, cursor)

end SpellContext

/-- Power of a creature in a fight, without its counters. -/
def Card.fightPower (card : Card) : Int32 :=
  (card.basePower.getD 0).toInt32 + card.powerBonus

/-- Whether a damaged creature is still alive to be tapped. -/
def GameState.survives (game : GameState) (id : CardId) : Bool :=
  game.zones.battlefield.contains id &&
    (game.card? id).any fun card =>
      0 < card.currentToughness.toInt32 &&
        card.damage < card.currentToughness.toInt32

namespace ResolutionQueries

variable (queries : ResolutionQueries)

/-- The creature of an opponent with the most power, the first among equals. -/
def bestFightTarget (game : GameState) (owner : PlayerId) (fighter : CardId) :
    Option CardId :=
  let card? := game.cards.get fighter.raw
  let controller := (card?.map Card.controller).getD owner
  let colors := (card?.map fun card => card.colors).getD []
  (game.zones.battlefield.foldl (fun best id =>
    match game.cards.get id.raw with
    | some card =>
        if card.isCreature && card.controller != controller &&
            queries.isLegalTarget card controller colors &&
            best.all fun entry => entry.2 < card.fightPower
        then some (id, card.fightPower)
        else best
    | none => best) none).map Prod.fst

/-- The amount of a counted effect, never negative. -/
def countedAmount (game : GameState) (context : SpellContext) (count : Nat) :
    Int32 :=
  max ((queries.evaluateCountWithSource game count context.cardOwner
    context.sourceCardId).getD 0) 0

/-- Who is asked to pay to stop an effect. -/
def resolvePayer (game : GameState) (context : SpellContext)
    (cursor : TargetCursor) : UnlessPayer → PlayerId
  | .you => context.cardOwner
  | .targetedController | .targetedOrController =>
      (cursor.lastResolvedTarget.bind fun target =>
        target.playerTarget?.or
          ((game.cards.get target.raw).map Card.controller)).getD
        context.opponentOrOwner
  | .player | .opponent => context.opponentOrOwner
  | .resolved _ | .other _ => context.cardOwner

/-- `resolve_effect_target`: the effect as it is executed, and the targets
used up. -/
def resolveEffectTarget (game : GameState) (context : SpellContext) :
    SpellEffect → TargetCursor → SpellEffect × TargetCursor
  | .dealDamage .none amount, cursor =>
      context.aim cursor (.dealDamage .none amount) fun target =>
        .dealDamage target amount
  | .dealDamage (.player player) amount, cursor =>
      (.dealDamage (.player (if player.isPlaceholder then context.cardOwner
        else player)) amount, cursor)
  | .dealDamageDynamic .none count, cursor =>
      context.aim cursor (.dealDamageDynamic .none count) fun target =>
        .dealDamage target (queries.countedAmount game context count)
  | .dealDamageDynamic target count, cursor =>
      (.dealDamage target (queries.countedAmount game context count), cursor)
  | .dealDamageDivided [] total, cursor =>
      let remaining := context.chosenTargets.drop cursor.targetIndex
      if remaining.isEmpty then (.dealDamageDivided [] total, cursor)
      else
        (.dealDamageDivided (remaining.map CardId.targetRef)
          (total / Int32.ofNat remaining.length),
          ⟨context.chosenTargets.length, remaining.getLast?⟩)
  | .dealDamageXPaid .none .none, cursor =>
      context.aim cursor (.dealDamageXPaid .none .none) fun target =>
        .dealDamageXPaid target .none
  | .preventDamage .none amount, cursor =>
      context.bind cursor (.preventDamage (.player context.cardOwner) amount)
        fun id => .preventDamage (.permanent id) amount
  | .preventDamage (.permanent card) amount, cursor =>
      if card.isPlaceholder then
        context.bind cursor (.preventDamage (.permanent card) amount)
          fun id => .preventDamage (.permanent id) amount
      else (.preventDamage (.permanent card) amount, cursor)
  | .preventDamage (.player player) amount, cursor =>
      (.preventDamage (.player (if player.isPlaceholder then context.cardOwner
        else player)) amount, cursor)
  | .eachDamage [] receiver useCardPower fixedDamage, cursor =>
      match receiver.isPlaceholder, context.chosenTargets.getLast? with
      | true, some last =>
          -- All targets but the last deal the damage.
          (.eachDamage context.chosenTargets.dropLast last useCardPower
            fixedDamage, ⟨context.chosenTargets.length, some last⟩)
      | _, _ => (.eachDamage [] receiver useCardPower fixedDamage, cursor)
  | .onTarget .tapPermanent target, cursor =>
      if target.isReusePrevious then
        -- Only a creature that survives the damage before is tapped.
        match cursor.lastResolvedTarget with
        | some previous =>
            (.onTarget .tapPermanent
              (if game.survives previous then previous else ⟨0⟩), cursor)
        | none => (.onTarget .tapPermanent ⟨0⟩, cursor)
      else if target.isPlaceholder then
        context.bind cursor (.onTarget .tapPermanent target)
          (.onTarget .tapPermanent)
      else (.onTarget .tapPermanent target, cursor)
  | .onTarget .untapPermanent target, cursor =>
      if target.isReusePrevious then
        (.onTarget .untapPermanent (cursor.lastResolvedTarget.getD ⟨0⟩),
          cursor)
      else if target.isPlaceholder then
        context.bind cursor (.onTarget .untapPermanent target)
          (.onTarget .untapPermanent)
      else (.onTarget .untapPermanent target, cursor)
  | .onTarget effect target, cursor =>
      if target.isPlaceholder then
        context.bind cursor (.onTarget effect target) (.onTarget effect)
      else (.onTarget effect target, cursor)
  | .gainControl target newController untap source tag, cursor =>
      if target.isPlaceholder then
        context.bind cursor
          (.gainControl target newController untap source tag)
          fun id => .gainControl id context.cardOwner untap source tag
      else (.gainControl target newController untap source tag, cursor)
  | .fight fighter target, cursor =>
      if target.isPlaceholder then
        let resolvedFighter :=
          if fighter.isPlaceholder then cursor.lastResolvedTarget.getD ⟨0⟩
          else fighter
        match context.consumeNextTarget cursor with
        | (some id, cursor) => (.fight resolvedFighter id, cursor)
        | (none, cursor) =>
            if resolvedFighter.isPlaceholder then
              (.fight fighter target, cursor)
            else
              match queries.bestFightTarget game context.cardOwner
                resolvedFighter with
              | some id =>
                  (.fight resolvedFighter id,
                    { cursor with lastResolvedTarget := some id })
              | none => (.fight fighter target, cursor)
      else (.fight fighter target, cursor)
  | .exileIfWouldDieThisTurn target, cursor =>
      if target.isReusePrevious || target.isPlaceholder then
        -- The target is not consumed.
        (.exileIfWouldDieThisTurn
          ((cursor.lastResolvedTarget.or
            context.chosenTargets[cursor.targetIndex]?).getD target), cursor)
      else (.exileIfWouldDieThisTurn target, cursor)
  | .preventAllCombatDamageThisTurn target, cursor =>
      (.preventAllCombatDamageThisTurn
        (if target.isPlaceholder then cursor.lastResolvedTarget.getD target
        else target), cursor)
  | .onPlayer effect player, cursor =>
      let resolved := context.resolvePlayer game effect player cursor
      (.onPlayer effect resolved.1, resolved.2)
  | .gainLifeDynamic player amount reference, cursor =>
      let reference :=
        if reference.isReusePrevious || reference.isPlaceholder then
          cursor.lastResolvedTarget.getD reference
        else reference
      (.gainLifeDynamic
        (if player.isTargetController then
          ((game.card? reference).map Card.controller).getD context.cardOwner
        else if player.isPlaceholder then context.cardOwner else player)
        amount reference, cursor)
  | .copyPermanent target controller tag, cursor =>
      if target.isPlaceholder then
        context.bind cursor (.copyPermanent target controller tag) fun id =>
          .copyPermanent id (if controller.isPlaceholder then
            context.cardOwner else controller) tag
      else (.copyPermanent target controller tag, cursor)
  | .createDelayedTrigger trackedCard tag, cursor =>
      if trackedCard.isPlaceholder then
        context.bind cursor (.createDelayedTrigger trackedCard tag) fun id =>
          .createDelayedTrigger id tag
      else if trackedCard.isReusePrevious then
        (.createDelayedTrigger
          (cursor.lastResolvedTarget.getD trackedCard) tag, cursor)
      else (.createDelayedTrigger trackedCard tag, cursor)
  | .unlessCostWrapper innerEffect payer tag, cursor =>
      let (resolvedInner, cursor) :=
        resolveEffectTarget game context innerEffect cursor
      let resolvedPayer := UnlessPayer.resolved
        (resolvePayer game context cursor payer)
      -- Who pays controls the copy.
      let resolvedInner := match resolvedInner with
        | .copySpellAbility mayChooseTargets _ tag =>
            .copySpellAbility mayChooseTargets (some resolvedPayer) tag
        | effect => effect
      (.unlessCostWrapper resolvedInner resolvedPayer tag, cursor)
  | .createToken controller amount forEachPlayer tokenScript, cursor =>
      (.createToken
        (if controller = ⟨0⟩ then context.cardOwner
        else if controller = ⟨1⟩ then context.opponentId.getD controller
        else controller) amount forEachPlayer tokenScript, cursor)
  | .createTokenWithStoredPt sourceCard controller tokenScript, cursor =>
      (.createTokenWithStoredPt
        (if sourceCard.isPlaceholder then
          context.sourceCardId.getD sourceCard else sourceCard)
        (if controller.isPlaceholder then context.cardOwner else controller)
        tokenScript, cursor)
  | .repeatEachCard targets requireInGraveyard tag, cursor =>
      if targets.isEmpty && !context.chosenTargets.isEmpty then
        let remaining := context.chosenTargets.drop cursor.targetIndex
        if remaining.isEmpty then
          -- Effects before consumed the targets: the same ones again.
          (.repeatEachCard context.chosenTargets requireInGraveyard tag,
            cursor)
        else
          (.repeatEachCard remaining requireInGraveyard tag,
            { cursor with targetIndex := context.chosenTargets.length })
      else (.repeatEachCard targets requireInGraveyard tag, cursor)
  | effect, cursor => (effect, cursor)

end ResolutionQueries

end DeepScry
