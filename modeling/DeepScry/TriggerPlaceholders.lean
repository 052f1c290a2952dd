/-
Resolving the placeholders of a trigger's effect, and when resolving them again
in another context changes nothing.
-/
import DeepScry.CountExpressions
import DeepScry.EffectTargets

namespace DeepScry

/-- `TRIGGERED_PLAYER_ID`. -/
def PlayerId.isTriggeredPlayer (id : PlayerId) : Bool :=
  id.raw == 4294967295 - 7

/-- `TRIGGERED_SPELL_ID`. -/
def CardId.isTriggeredSpell (id : CardId) : Bool :=
  id.raw == 4294967295 - 10

/-- What a trigger knows of its event, as far as the effects ask for it. -/
structure TriggerContext where
  triggerSource : CardId
  controller : PlayerId
  opponent : Option PlayerId := none
  creaturePower : UInt8 := 0
  sacrificedPower : UInt8 := 0
  drawingPlayer : Option PlayerId := none
  damageAmount : Option Int32 := none
  triggeredCardCounterAmounts : List (CounterType × UInt8) := []
  triggeredCardPower : Option Int32 := none
  castSpellId : Option CardId := none
  casterId : Option PlayerId := none
  castSpellManaValue : Option UInt8 := none

/-- A dynamic amount; `compareTriggeredPower` is the count that compares the
power of the card that triggered, `count` any other. -/
inductive TriggerAmount where
  | damageDealt
  | triggeredCardCounters (counterType : CounterType)
  | compareTriggeredPower (condition : CompareCondition)
      (trueValue falseValue : Int32)
  | count (tag : Nat)
  | other (tag : Nat)
deriving DecidableEq

inductive UnlessCostType where
  | mana (cost : ManaCost)
  | discard (count : UInt8) (cardType : String)
  | sacrifice (count : UInt8) (validType : String)
  | payLife (amount : UInt8)
  | reveal (count : UInt8) (cardType : String)
deriving DecidableEq

/-- What an effect does for the one player it names. -/
inductive PlayerPart where
  | drawCards (count : UInt8)
  | discardCards (count : UInt8)
      (rememberDiscarded optional rememberDiscardingPlayers : Bool)
  | gainLife (amount : Int32)
  | loseLife (amount : Int32)
  | mill (count : UInt8)
  | scry (count : UInt8) (onlyIfBargained : Bool)
  | searchLibrary (cardTypeFilter : String) (destination : Zone)
      (entersTapped shuffle : Bool)
  | loot (discardCount drawCount : UInt8)
  | addMana (mana : ManaCost) (producesChosenColor : Bool)
      (amountVar : Option String)
  | createToken (tokenScript : String) (amount : UInt8)
      (forEachPlayer : Bool)
  | pumpAllCreatures (filter : String) (powerBonus toughnessBonus : Int32)
  | animateAll (filter : String) (power toughness : Option Int32)
      (keywordsGranted : List Keyword) (keywordArgsGranted : List KeywordArgs)
  | rearrangeTopOfLibrary (count : UInt8)
  | skipUntapStep
deriving DecidableEq

/-- What an effect does to the card that has the trigger. -/
inductive SourcePart where
  | putCounter (counterType : CounterType) (amount : UInt8)
  | removeCounter (counterType : Option CounterType) (amount : UInt8)
  | moveSelfBetweenZones (origin destination : Zone)
  | attachEquipment (targetCreature : CardId)
deriving DecidableEq

/-- The effects that are looked at; any other stays as it is. -/
inductive TriggerEffect where
  | onPlayer (part : PlayerPart) (player : PlayerId)
  | onSource (part : SourcePart) (source : CardId)
  | gainLifeDynamic (player : PlayerId) (amount : TriggerAmount)
      (reference : CardId)
  | firebend (controller : PlayerId) (amount : UInt8)
  | dealDamage (target : TargetRef) (amount : Int32)
  | createTokenDynamic (controller : PlayerId) (tokenScript : String)
      (amount : TriggerAmount) (forEachPlayer : Bool)
  | conditionalSelfCounter (source : CardId) (condition : Nat)
      (inner : TriggerEffect)
  | unlessCostWrapper (innerEffect : TriggerEffect) (cost : UnlessCostType)
      (payer : String) (switched : Bool)
  | counterSpell (target : CardId) (spellRestriction : Nat)
      (rememberManaValue : Bool)
  | other (tag : Nat)
deriving DecidableEq

/-- Whether `parse::<u32>` reads the text. -/
def isU32 (text : String) : Bool :=
  let digits := if text.toList.head? = some '+' then text.toList.tail
    else text.toList
  !digits.isEmpty && digits.all Char.isDigit &&
    decide (Nat.ofDigitChars 10 digits 0 < 4294967296)

namespace TriggerContext

variable (ctx : TriggerContext)

/-- The player for one part: life is lost by the opponent, a card is drawn by
the triggered player where it says so, and three parts know the opponent. -/
def resolvePlayer (part : PlayerPart) (player : PlayerId) : PlayerId :=
  if player.isPlaceholder then
    match part with
    | .loseLife _ => ctx.opponent.getD ctx.controller
    | _ => ctx.controller
  else
    match part with
    | .drawCards _ =>
        if player.isTriggeredPlayer then ctx.drawingPlayer.getD ctx.controller
        else player
    | .discardCards _ _ _ _ | .rearrangeTopOfLibrary _ | .skipUntapStep =>
        if player.isTargetOpponent then ctx.opponent.getD ctx.controller
        else player
    | _ => player

/-- The card itself; an Equipment is never named as such. -/
def resolveSource (part : SourcePart) (source : CardId) : CardId :=
  match part with
  | .attachEquipment _ =>
      if source.isPlaceholder then ctx.triggerSource else source
  | _ =>
      if source.isSelfTarget || source.isPlaceholder then ctx.triggerSource
      else source

def resolveController (controller : PlayerId) : PlayerId :=
  if controller.isPlaceholder then ctx.controller else controller

/-- The number of tokens, where it is known now; a power that asks for more
than a `u8` makes none. -/
def tokenCount : TriggerAmount → Option UInt8
  | .triggeredCardCounters counterType =>
      some (((ctx.triggeredCardCounterAmounts.find? fun entry =>
        entry.1 == counterType).map Prod.snd).getD 0)
  | .compareTriggeredPower condition trueValue falseValue =>
      let amount :=
        if condition.evaluate (ctx.triggeredCardPower.getD 0) then trueValue
        else falseValue
      some (if max amount 0 ≤ 255 then (max amount 0).toUInt32.toUInt8 else 0)
  | _ => none

def resolveCost (cost : UnlessCostType) : UnlessCostType :=
  match cost with
  | .mana manaCost =>
      if 0 < manaCost.xCount then
        match ctx.castSpellManaValue with
        | some manaValue =>
            .mana { manaCost with
              generic := Saturating.add8 manaCost.generic
                (Saturating.mul8 manaCost.xCount manaValue)
              xCount := 0 }
        | none => cost
      else cost
  | _ => cost

def resolvePayer (payer : String) : PlayerId :=
  if payer = "TriggeredActivator" then ctx.casterId.getD ctx.controller
  else ctx.controller

end TriggerContext

open TriggerContext in
/-- `resolve_effect_placeholder`. -/
def resolveEffectPlaceholder (ctx : TriggerContext) :
    TriggerEffect → TriggerEffect
  | .onPlayer part player => .onPlayer part (ctx.resolvePlayer part player)
  | .onSource part source => .onSource part (ctx.resolveSource part source)
  | .gainLifeDynamic player amount reference =>
      if player.isPlaceholder && amount == .damageDealt then
        .onPlayer (.gainLife (max (ctx.damageAmount.getD 0) 0)) ctx.controller
      else .gainLifeDynamic player amount reference
  | .firebend controller amount =>
      if controller.isPlaceholder then
        .firebend ctx.controller
          (if amount = 0 then ctx.creaturePower
          else if amount = 254 then ctx.sacrificedPower
          else amount)
      else .firebend controller amount
  | .dealDamage (.player player) amount =>
      .dealDamage (.player (ctx.resolveController player)) amount
  | .dealDamage .none amount =>
      match ctx.drawingPlayer with
      | some player => .dealDamage (.player player) amount
      | none => .dealDamage .none amount
  | .dealDamage (.permanent card) amount => .dealDamage (.permanent card) amount
  | .createTokenDynamic controller tokenScript amount forEachPlayer =>
      match ctx.tokenCount amount with
      | some count =>
          .onPlayer (.createToken tokenScript count forEachPlayer)
            (ctx.resolveController controller)
      | none =>
          match amount with
          | .count tag =>
              .createTokenDynamic (ctx.resolveController controller)
                tokenScript (.count tag) forEachPlayer
          | amount =>
              .createTokenDynamic controller tokenScript amount forEachPlayer
  | .conditionalSelfCounter source condition inner =>
      .conditionalSelfCounter
        (if source.isSelfTarget || source.isPlaceholder then ctx.triggerSource
        else source)
        condition (resolveEffectPlaceholder ctx inner)
  | .unlessCostWrapper innerEffect cost payer switched =>
      if isU32 payer then .unlessCostWrapper innerEffect cost payer switched
      else
        .unlessCostWrapper (resolveEffectPlaceholder ctx innerEffect)
          (ctx.resolveCost cost) (toString (ctx.resolvePayer payer).raw)
          switched
  | .counterSpell target spellRestriction rememberManaValue =>
      .counterSpell
        (if target.isTriggeredSpell then ctx.castSpellId.getD ⟨0⟩ else target)
        spellRestriction rememberManaValue
  | .other tag => .other tag

/-! ## Resolving twice -/

/-- The ids of a game: players are counted from 0, cards are not 0, and both
stay below the sentinels. -/
abbrev PlayerId.Real (id : PlayerId) : Prop := id.raw < 4294967295 - 1000

abbrev CardId.Real (id : CardId) : Prop :=
  0 < id.raw ∧ id.raw < 4294967295 - 1000

/-- Every player and card of the context is one of a game. -/
structure TriggerContext.Real (ctx : TriggerContext) : Prop where
  triggerSource : ctx.triggerSource.Real
  controller : ctx.controller.Real
  opponent : ∀ player, ctx.opponent = some player → player.Real
  drawingPlayer : ∀ player, ctx.drawingPlayer = some player → player.Real
  castSpellId : ∀ card, ctx.castSpellId = some card → card.Real
  casterId : ∀ player, ctx.casterId = some player → player.Real

@[simp] theorem PlayerId.isPlaceholder_iff (id : PlayerId) :
    id.isPlaceholder = true ↔ id = ⟨0⟩ := by
  rcases id with ⟨raw⟩
  simp [PlayerId.isPlaceholder]

@[simp] theorem CardId.isPlaceholder_iff (id : CardId) :
    id.isPlaceholder = true ↔ id = ⟨0⟩ := by
  rcases id with ⟨raw⟩
  simp [CardId.isPlaceholder]

namespace PlayerId.Real

variable {id : PlayerId} (hid : id.Real)
include hid

theorem not_triggered : id.isTriggeredPlayer = false := by
  simp only [PlayerId.Real] at hid
  simp [PlayerId.isTriggeredPlayer]
  omega

theorem not_opponent : id.isTargetOpponent = false := by
  simp only [PlayerId.Real] at hid
  simp [PlayerId.isTargetOpponent]
  omega

end PlayerId.Real

namespace CardId.Real

variable {id : CardId} (hid : id.Real)
include hid

theorem not_placeholder : id.isPlaceholder = false := by
  simp only [CardId.Real] at hid
  simp [CardId.isPlaceholder]
  omega

theorem not_self : id.isSelfTarget = false := by
  simp only [CardId.Real] at hid
  simp [CardId.isSelfTarget]
  omega

theorem not_triggeredSpell : id.isTriggeredSpell = false := by
  simp only [CardId.Real] at hid
  simp [CardId.isTriggeredSpell]
  omega

end CardId.Real

/-- Whether the part knows the sentinel of the opponent. -/
def PlayerPart.knowsOpponent : PlayerPart → Bool
  | discardCards _ _ _ _ | rearrangeTopOfLibrary _ | skipUntapStep => true
  | _ => false

def PlayerPart.isDrawCards : PlayerPart → Bool
  | drawCards _ => true
  | _ => false

/-- The player that the placeholder stands for in one part. -/
def TriggerContext.byDefault (ctx : TriggerContext) : PlayerPart → PlayerId
  | .loseLife _ => ctx.opponent.getD ctx.controller
  | _ => ctx.controller

/-- When the player of one part is settled by the first context: player 0 is
the placeholder again. -/
def PlayerPart.Settles (first second : TriggerContext) (part : PlayerPart)
    (player : PlayerId) : Prop :=
  (player.isPlaceholder →
    first.byDefault part = ⟨0⟩ → second.byDefault part = ⟨0⟩) ∧
  (player.isTriggeredPlayer → part.isDrawCards →
    first.drawingPlayer.getD first.controller = ⟨0⟩ →
      second.controller = ⟨0⟩) ∧
  (player.isTargetOpponent → part.knowsOpponent →
    first.opponent.getD first.controller = ⟨0⟩ → second.controller = ⟨0⟩)

/-- When an effect is settled by the first context. -/
def TriggerEffect.Settles (first second : TriggerContext) :
    TriggerEffect → Prop
  | .onPlayer part player => part.Settles first second player
  | .gainLifeDynamic player amount _ =>
      player.isPlaceholder → amount = .damageDealt →
        first.controller = ⟨0⟩ → second.controller = ⟨0⟩
  | .firebend controller amount =>
      controller.isPlaceholder → first.controller = ⟨0⟩ →
        second.controller = ⟨0⟩ ∧
          (amount = 0 → first.creaturePower = 0 → second.creaturePower = 0) ∧
          (amount = 0 → first.creaturePower = 254 →
            second.sacrificedPower = 254) ∧
          (amount = 254 → first.sacrificedPower = 0 →
            second.creaturePower = 0) ∧
          (amount = 254 → first.sacrificedPower = 254 →
            second.sacrificedPower = 254)
  | .dealDamage (.player player) _ =>
      player.isPlaceholder → first.controller = ⟨0⟩ →
        second.controller = ⟨0⟩
  | .dealDamage .none _ =>
      (first.drawingPlayer = some ⟨0⟩ → second.controller = ⟨0⟩) ∧
        (first.drawingPlayer = none → second.drawingPlayer = none)
  | .createTokenDynamic controller _ amount _ =>
      controller.isPlaceholder → amount ≠ .damageDealt →
        (∀ tag, amount ≠ .other tag) → first.controller = ⟨0⟩ →
          second.controller = ⟨0⟩
  | .conditionalSelfCounter _ _ inner => inner.Settles first second
  | _ => True

namespace TriggerContext

variable {first second : TriggerContext}

theorem Real.opponent_getD (hfirst : first.Real) :
    (first.opponent.getD first.controller).Real := by
  cases hopponent : first.opponent with
  | none => exact hfirst.controller
  | some player => exact hfirst.opponent player hopponent

theorem Real.drawing_getD (hfirst : first.Real) :
    (first.drawingPlayer.getD first.controller).Real := by
  cases hdrawing : first.drawingPlayer with
  | none => exact hfirst.controller
  | some player => exact hfirst.drawingPlayer player hdrawing

theorem Real.byDefault (hfirst : first.Real) (part : PlayerPart) :
    (first.byDefault part).Real := by
  cases part with
  | loseLife => exact hfirst.opponent_getD
  | _ => exact hfirst.controller

/-- The player of one part as a chain of its three sentinels. -/
theorem resolvePlayer_eq (ctx : TriggerContext) (part : PlayerPart)
    (player : PlayerId) :
    ctx.resolvePlayer part player =
      if player.isPlaceholder then ctx.byDefault part
      else if player.isTriggeredPlayer && part.isDrawCards then
        ctx.drawingPlayer.getD ctx.controller
      else if player.isTargetOpponent && part.knowsOpponent then
        ctx.opponent.getD ctx.controller
      else player := by
  unfold resolvePlayer TriggerContext.byDefault PlayerPart.isDrawCards
    PlayerPart.knowsOpponent
  cases part <;> simp

/-- Most parts know the placeholder only. -/
theorem resolvePlayer_plain (ctx : TriggerContext) {part : PlayerPart}
    (player : PlayerId) (hdraw : part.isDrawCards = false)
    (hopponent : part.knowsOpponent = false) :
    ctx.resolvePlayer part player =
      if player.isPlaceholder then ctx.byDefault part else player := by
  simp [resolvePlayer_eq, hdraw, hopponent]

/-- A real player is changed where it is player 0 only. -/
theorem resolvePlayer_real (ctx : TriggerContext) (part : PlayerPart)
    {player : PlayerId} (hplayer : player.Real) :
    ctx.resolvePlayer part player = player ↔
      (player = ⟨0⟩ → ctx.byDefault part = ⟨0⟩) := by
  by_cases hzero : player = ⟨0⟩
  · subst hzero
    simp [resolvePlayer_eq]
  · simp [resolvePlayer_eq, hzero, hplayer.not_triggered,
      hplayer.not_opponent]

theorem byDefault_draw (ctx : TriggerContext) {part : PlayerPart}
    (hpart : part.isDrawCards) : ctx.byDefault part = ctx.controller := by
  cases part with
  | drawCards => rfl
  | _ => cases hpart

theorem byDefault_opponent (ctx : TriggerContext) {part : PlayerPart}
    (hpart : part.knowsOpponent) : ctx.byDefault part = ctx.controller := by
  cases part with
  | discardCards | rearrangeTopOfLibrary | skipUntapStep => rfl
  | _ => cases hpart

theorem resolvePlayer_twice (hfirst : first.Real) (part : PlayerPart)
    (player : PlayerId) :
    second.resolvePlayer part (first.resolvePlayer part player) =
        first.resolvePlayer part player ↔
      part.Settles first second player := by
  by_cases hzero : player = ⟨0⟩
  · have hnamed : first.resolvePlayer part player = first.byDefault part := by
      simp [resolvePlayer_eq, hzero]
    rw [hnamed, resolvePlayer_real second part (hfirst.byDefault part)]
    simp [PlayerPart.Settles, hzero, PlayerId.isTriggeredPlayer,
      PlayerId.isTargetOpponent]
  by_cases hdraw : player.isTriggeredPlayer ∧ part.isDrawCards
  · have hnamed : first.resolvePlayer part player =
        first.drawingPlayer.getD first.controller := by
      simp [resolvePlayer_eq, hzero, hdraw]
    have hother : player.isTargetOpponent = false := by
      have htriggered := hdraw.1
      simp [PlayerId.isTriggeredPlayer] at htriggered
      simp [PlayerId.isTargetOpponent, htriggered]
    rw [hnamed, resolvePlayer_real second part hfirst.drawing_getD,
      second.byDefault_draw hdraw.2]
    simp [PlayerPart.Settles, hzero, hdraw, hother]
  by_cases hopponent : player.isTargetOpponent ∧ part.knowsOpponent
  · have hnamed : first.resolvePlayer part player =
        first.opponent.getD first.controller := by
      have htriggered : ¬ (player.isTriggeredPlayer && part.isDrawCards) := by
        simpa using hdraw
      simp [resolvePlayer_eq, hzero, htriggered, hopponent]
    rw [hnamed, resolvePlayer_real second part hfirst.opponent_getD,
      second.byDefault_opponent hopponent.2]
    have hnot : ¬ (player.isTriggeredPlayer ∧ part.isDrawCards) := hdraw
    simp only [PlayerPart.Settles, PlayerId.isPlaceholder_iff, hzero,
      hopponent, true_implies, false_implies, true_and]
    tauto
  · have hstays (ctx : TriggerContext) :
        ctx.resolvePlayer part player = player := by
      simp only [resolvePlayer_eq, PlayerId.isPlaceholder_iff,
        Bool.and_eq_true, hzero, hdraw, hopponent, if_false]
    rw [hstays first, hstays second]
    simp only [PlayerPart.Settles, PlayerId.isPlaceholder_iff, hzero,
      false_implies, true_and, true_iff]
    tauto

theorem resolveSource_twice (hfirst : first.Real) (part : SourcePart)
    (source : CardId) :
    second.resolveSource part (first.resolveSource part source) =
      first.resolveSource part source := by
  have hsource := hfirst.triggerSource.not_placeholder
  have hself := hfirst.triggerSource.not_self
  cases part with
  | attachEquipment =>
      by_cases hzero : source.isPlaceholder <;>
        simp [resolveSource, hzero, hsource]
  | _ =>
      by_cases hnamed : source.isSelfTarget || source.isPlaceholder <;>
        simp [resolveSource, hnamed, hsource, hself]

end TriggerContext

/-- A payer that was resolved is a number. -/
theorem isU32_repr {number : Nat} (hnumber : number < 4294967296) :
    isU32 number.repr = true := by
  have hdigits : number.repr.toList = Nat.toDigits 10 number :=
    Nat.toList_repr
  have hne : Nat.toDigits 10 number ≠ [] := Nat.toDigits_ne_nil
  have hall : ∀ c ∈ Nat.toDigits 10 number, c.isDigit = true := by
    intro c hc
    exact Nat.isDigit_of_mem_toDigits (by decide) (by decide) hc
  have hsign : (Nat.toDigits 10 number).head? ≠ some '+' := by
    intro hplus
    have hmem := List.mem_of_mem_head? hplus
    exact absurd (hall _ hmem) (by decide)
  have hvalue := Nat.ofDigitChars_ten_toDigits (n := number)
  simp only [isU32, hdigits, hsign, if_false, Bool.and_eq_true,
    decide_eq_true_eq, List.all_eq_true, Bool.not_eq_true',
    List.isEmpty_eq_false_iff]
  exact ⟨⟨hne, hall⟩, by rw [hvalue]; exact hnumber⟩

namespace TriggerContext

variable {first second : TriggerContext}

theorem resolveController_twice (first second : TriggerContext)
    (controller : PlayerId) :
    second.resolveController (first.resolveController controller) =
        first.resolveController controller ↔
      (controller.isPlaceholder →
        first.controller = ⟨0⟩ → second.controller = ⟨0⟩) := by
  by_cases hzero : controller = ⟨0⟩
  · by_cases hfirst : first.controller = ⟨0⟩ <;>
      simp [resolveController, hzero, hfirst]
  · simp [resolveController, hzero]

theorem Real.payer (hfirst : first.Real) (payer : String) :
    (first.resolvePayer payer).raw < 4294967296 := by
  have hpayer : (first.resolvePayer payer).Real := by
    by_cases hactivator : payer = "TriggeredActivator"
    · cases hcaster : first.casterId with
      | none => simpa [resolvePayer, hactivator, hcaster] using
          hfirst.controller
      | some player => simpa [resolvePayer, hactivator, hcaster] using
          hfirst.casterId player hcaster
    · simpa [resolvePayer, hactivator] using hfirst.controller
  simp only [PlayerId.Real] at hpayer
  omega

end TriggerContext

section Twice

variable {first second : TriggerContext}

open TriggerContext

theorem firebend_twice (controller : PlayerId) (amount : UInt8) :
    resolveEffectPlaceholder second (resolveEffectPlaceholder first
        (.firebend controller amount)) =
      resolveEffectPlaceholder first (.firebend controller amount) ↔
      (TriggerEffect.firebend controller amount).Settles first second := by
  by_cases hplaceholder : controller.isPlaceholder
  · by_cases hplayer : first.controller = ⟨0⟩
    · by_cases hself : amount = 0
      · subst hself
        by_cases hzero : first.creaturePower = 0 <;>
          by_cases hsacrificed : first.creaturePower = 254 <;>
          simp_all [resolveEffectPlaceholder, TriggerEffect.Settles]
      · by_cases hother : amount = 254
        · subst hother
          by_cases hzero : first.sacrificedPower = 0 <;>
            by_cases hsacrificed : first.sacrificedPower = 254 <;>
            simp_all [resolveEffectPlaceholder, TriggerEffect.Settles]
        · simp_all [resolveEffectPlaceholder, TriggerEffect.Settles]
    · simp_all [resolveEffectPlaceholder, TriggerEffect.Settles]
  · simp_all [resolveEffectPlaceholder, TriggerEffect.Settles]

theorem createTokenDynamic_twice (controller : PlayerId)
    (tokenScript : String) (amount : TriggerAmount) (forEachPlayer : Bool) :
    resolveEffectPlaceholder second (resolveEffectPlaceholder first
        (.createTokenDynamic controller tokenScript amount forEachPlayer)) =
      resolveEffectPlaceholder first
        (.createTokenDynamic controller tokenScript amount forEachPlayer) ↔
      (TriggerEffect.createTokenDynamic controller tokenScript amount
        forEachPlayer).Settles first second := by
  have htoken : ∀ count : UInt8,
      second.resolvePlayer (.createToken tokenScript count forEachPlayer)
          (first.resolveController controller) =
        second.resolveController (first.resolveController controller) :=
    fun count => second.resolvePlayer_plain _ rfl rfl
  have htwice := resolveController_twice first second controller
  cases amount <;>
    simp_all [resolveEffectPlaceholder, tokenCount, TriggerEffect.Settles]

theorem dealDamage_twice (target : TargetRef) (amount : Int32) :
    resolveEffectPlaceholder second (resolveEffectPlaceholder first
        (.dealDamage target amount)) =
      resolveEffectPlaceholder first (.dealDamage target amount) ↔
      (TriggerEffect.dealDamage target amount).Settles first second := by
  cases target with
  | player player =>
      simpa [resolveEffectPlaceholder, TriggerEffect.Settles] using
        resolveController_twice first second player
  | permanent card => simp [resolveEffectPlaceholder, TriggerEffect.Settles]
  | none =>
      cases hdrawing : first.drawingPlayer with
      | none =>
          cases hsecond : second.drawingPlayer <;>
            simp [resolveEffectPlaceholder, TriggerEffect.Settles, hdrawing,
              hsecond]
      | some player =>
          by_cases hplayer : player = ⟨0⟩ <;>
            simp [resolveEffectPlaceholder, TriggerEffect.Settles, hdrawing,
              resolveController, hplayer]

/-- Resolving a resolved effect again changes nothing exactly when every
player 0 that the first context put is put by the second one as well. -/
theorem resolveEffectPlaceholder_twice (effect : TriggerEffect)
    (hfirst : first.Real) :
    resolveEffectPlaceholder second (resolveEffectPlaceholder first effect) =
        resolveEffectPlaceholder first effect ↔
      effect.Settles first second := by
  induction effect with
  | onPlayer part player =>
      simpa [resolveEffectPlaceholder, TriggerEffect.Settles] using
        resolvePlayer_twice hfirst part player
  | onSource part source =>
      simpa [resolveEffectPlaceholder, TriggerEffect.Settles] using
        resolveSource_twice hfirst part source
  | gainLifeDynamic player amount reference =>
      have hgain (life : Int32) (player : PlayerId) :
          second.resolvePlayer (.gainLife life) player =
            if player.isPlaceholder then second.controller else player :=
        second.resolvePlayer_plain player rfl rfl
      by_cases hplayer : player.isPlaceholder <;>
        by_cases hamount : amount = .damageDealt <;>
        by_cases hzero : first.controller = ⟨0⟩ <;>
        simp_all [resolveEffectPlaceholder, TriggerEffect.Settles]
  | firebend controller amount => exact firebend_twice controller amount
  | dealDamage target amount => exact dealDamage_twice target amount
  | createTokenDynamic controller tokenScript amount forEachPlayer =>
      exact createTokenDynamic_twice controller tokenScript amount
        forEachPlayer
  | conditionalSelfCounter source condition inner hinner =>
      by_cases hsource : source.isSelfTarget || source.isPlaceholder <;>
        simp [resolveEffectPlaceholder, TriggerEffect.Settles, hsource,
          hinner, hfirst.triggerSource.not_placeholder,
          hfirst.triggerSource.not_self]
  | unlessCostWrapper innerEffect cost payer switched =>
      by_cases hnumber : isU32 payer <;>
        simp [resolveEffectPlaceholder, TriggerEffect.Settles, hnumber,
          isU32_repr (hfirst.payer payer)]
  | counterSpell target spellRestriction rememberManaValue =>
      have hspell : (first.castSpellId.getD ⟨0⟩).isTriggeredSpell = false := by
        cases hcast : first.castSpellId with
        | none => rfl
        | some card => exact (hfirst.castSpellId card hcast).not_triggeredSpell
      by_cases htarget : target.isTriggeredSpell <;>
        simp [resolveEffectPlaceholder, TriggerEffect.Settles, htarget,
          hspell]
  | other tag => simp [resolveEffectPlaceholder, TriggerEffect.Settles]

end Twice

/-- A trigger of card 3 for one of two players. -/
def twoPlayerContext (controller opponent : PlayerId) : TriggerContext where
  triggerSource := ⟨3⟩
  controller := controller
  opponent := some opponent

theorem twoPlayerContext_real {controller opponent : PlayerId}
    (hcontroller : controller.Real) (hopponent : opponent.Real) :
    (twoPlayerContext controller opponent).Real where
  triggerSource := by simp [twoPlayerContext, CardId.Real]
  controller := hcontroller
  opponent := by
    intro player hplayer
    simpa [twoPlayerContext, ← Option.some.inj hplayer] using hopponent
  drawingPlayer := by simp [twoPlayerContext]
  castSpellId := by simp [twoPlayerContext]
  casterId := by simp [twoPlayerContext]

/-- A draw that player 1 was given stays with player 1. -/
theorem resolveEffectPlaceholder_twice_draw :
    resolveEffectPlaceholder (twoPlayerContext ⟨0⟩ ⟨1⟩)
        (resolveEffectPlaceholder (twoPlayerContext ⟨1⟩ ⟨0⟩)
          (.onPlayer (.drawCards 1) ⟨0⟩)) =
      resolveEffectPlaceholder (twoPlayerContext ⟨1⟩ ⟨0⟩)
        (.onPlayer (.drawCards 1) ⟨0⟩) :=
  (resolveEffectPlaceholder_twice _
    (twoPlayerContext_real (by decide) (by decide))).mpr
    (by
      simp [TriggerEffect.Settles, PlayerPart.Settles,
        TriggerContext.byDefault, twoPlayerContext,
        PlayerId.isTriggeredPlayer, PlayerId.isTargetOpponent])

/-- A draw that player 0 was given falls to player 1 in the next context. -/
theorem not_resolveEffectPlaceholder_twice :
    (twoPlayerContext ⟨0⟩ ⟨1⟩).Real ∧ (twoPlayerContext ⟨1⟩ ⟨0⟩).Real ∧
      resolveEffectPlaceholder (twoPlayerContext ⟨1⟩ ⟨0⟩)
          (resolveEffectPlaceholder (twoPlayerContext ⟨0⟩ ⟨1⟩)
            (.onPlayer (.drawCards 1) ⟨0⟩)) ≠
        resolveEffectPlaceholder (twoPlayerContext ⟨0⟩ ⟨1⟩)
          (.onPlayer (.drawCards 1) ⟨0⟩) :=
  ⟨twoPlayerContext_real (by decide) (by decide),
    twoPlayerContext_real (by decide) (by decide), by decide⟩

end DeepScry
