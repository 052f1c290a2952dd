/-
For whom a spell acts: the markers for `you` and the opponent in its effects,
who takes their place, and who controls the permanent.
-/
import DeepScry.Fizzle
import Mathlib.Data.List.ReduceOption

namespace DeepScry

/-- Whom a marker stands for, seen from the caster. -/
inductive Role where
  | you
  | opponent
deriving DecidableEq

def Role.player (caster opponent : PlayerId) : Role → PlayerId
  | .you => caster
  | .opponent => opponent

/-- The place of a player in an effect: what is written there, and whether
the resolver fills it. -/
structure Slot where
  role : Role
  filled : Bool
  written : PlayerId
deriving DecidableEq

/-- The marker for `you`. -/
def PlayerId.youSlot (filled : Bool) (player : PlayerId) : Option Slot :=
  if player.isPlaceholder then some ⟨.you, filled, player⟩ else none

/-- The marker for the opponent. -/
def PlayerId.opponentSlot (filled : Bool) (player : PlayerId) : Option Slot :=
  if player.isTargetOpponent then some ⟨.opponent, filled, player⟩ else none

/-- A resolver that passes over an effect leaves its markers. -/
def PlayerEffect.isPassedOver : PlayerEffect → Bool
  | tapPermanentsMatchingFilter _ _ | pumpAllCreatures _ _ _ | animateAll _
  | searchLibrary _ _ _ _ | createTokenDynamic _ | firebend _
  | preventDamageFromSource _ _ => true
  | _ => false

/-- Only these know the marker for the opponent. -/
def PlayerEffect.takesOpponent : PlayerEffect → Bool
  | discardCards _ _ _ _ | discardCardsXPaid _ | skipUntapStep
  | drainMana => true
  | _ => false

/-- The place of the player; a placeholder means the opponent where life is
lost or a permanent sacrificed, and a target that is a player comes first where
life is set. -/
def PlayerEffect.slot (next : Option CardId) (effect : PlayerEffect)
    (player : PlayerId) : Option Slot :=
  match effect with
  | loseLife _ | forceSacrifice _ _ =>
      if player.isPlaceholder then some ⟨.opponent, true, player⟩
      else player.opponentSlot false
  | setLife _ =>
      if player.isPlaceholder && (next.bind CardId.playerTarget?).isSome then
        none
      else (player.youSlot true).or (player.opponentSlot false)
  | effect =>
      (player.youSlot !effect.isPassedOver).or
        (player.opponentSlot effect.takesOpponent)

def TargetRef.slot (filled : Bool) : TargetRef → Option Slot
  | player id => id.youSlot filled
  | permanent _ | none => .none

def TargetRef.actor : TargetRef → Option PlayerId
  | player id => some id
  | permanent _ | none => .none

def UnlessPayer.slot : UnlessPayer → Option Slot
  | you => some ⟨.you, true, ⟨0⟩⟩
  | player | opponent => some ⟨.opponent, true, ⟨0⟩⟩
  | targetedController | targetedOrController | resolved _ | other _ => none

def UnlessPayer.actor : UnlessPayer → Option PlayerId
  | resolved id => some id
  | _ => none

namespace SpellEffect

/-- The places of players in an effect, when `next` is the next target.
Without one, damage is for the opponent and its prevention for `you`. -/
def slots (next : Option CardId) : SpellEffect → List (Option Slot)
  | dealDamage .none _ | dealDamageDynamic .none _ =>
      [if next.isNone then some ⟨.opponent, true, ⟨0⟩⟩ else none]
  | dealDamage target _ => [target.slot true]
  | dealDamageDynamic target _ => [target.slot false]
  | preventDamage .none _ =>
      [if next.isNone then some ⟨.you, true, ⟨0⟩⟩ else none]
  | preventDamage target _ => [target.slot true]
  | onPlayer effect player => [effect.slot next player]
  | gainControl target newController _ _ _ =>
      [if target.isPlaceholder then
        if next.isSome then newController.youSlot true else none
      else newController.youSlot false]
  | gainLifeDynamic player _ _ => [player.youSlot true]
  | copyPermanent target controller _ =>
      [if target.isPlaceholder then
        if next.isSome then controller.youSlot true else none
      else controller.youSlot false]
  | unlessCostWrapper innerEffect payer _ =>
      payer.slot :: innerEffect.slots next
  | createToken controller _ _ _ =>
      [if controller = ⟨0⟩ then some ⟨.you, true, controller⟩
      else if controller = ⟨1⟩ then some ⟨.opponent, true, controller⟩
      else none]
  | createTokenWithStoredPt _ controller _ => [controller.youSlot true]
  | changeZoneAll (some player) _ => [player.youSlot false]
  | _ => []

/-- The players in these places. -/
def actors : SpellEffect → List (Option PlayerId)
  | dealDamage target _ | dealDamageDynamic target _
  | preventDamage target _ => [target.actor]
  | onPlayer _ player | gainLifeDynamic player _ _
  | changeZoneAll (some player) _ => [some player]
  | gainControl _ controller _ _ _ | copyPermanent _ controller _
  | createToken controller _ _ _ | createTokenWithStoredPt _ controller _ =>
      [some controller]
  | unlessCostWrapper innerEffect payer _ =>
      payer.actor :: innerEffect.actors
  | _ => []

/-- How many targets are used up after an effect, `index` before it. -/
def advance (targets : List CardId) (index : Nat) : SpellEffect → Nat
  | dealDamage .none _ | dealDamageDynamic .none _
  | dealDamageXPaid .none .none | preventDamage .none _ =>
      if index < targets.length then index + 1 else index
  | preventDamage (.permanent target) _ | gainControl target _ _ _ _
  | copyPermanent target _ _ | createDelayedTrigger target _
  | fight _ target =>
      if target.isPlaceholder && index < targets.length then index + 1
      else index
  | onTarget _ target =>
      if target.isPlaceholder && index < targets.length then index + 1
      else index
  | dealDamageDivided [] _ =>
      if index < targets.length then targets.length else index
  | eachDamage [] receiver _ _ =>
      if receiver.isPlaceholder && !targets.isEmpty then targets.length
      else index
  | onPlayer (.setLife _) player =>
      if player.isPlaceholder &&
        (targets[index]?.bind CardId.playerTarget?).isSome then index + 1
      else index
  | unlessCostWrapper innerEffect _ _ => advance targets index innerEffect
  | repeatEachCard [] _ _ =>
      if index < targets.length then targets.length else index
  | _ => index

/-- The places for players in the effects of a spell, in order. -/
def places (targets : List CardId) : Nat → List SpellEffect → List Slot
  | _, [] => []
  | index, effect :: rest =>
      (effect.slots targets[index]?).reduceOption ++
        places targets (effect.advance targets index) rest

end SpellEffect

/-- Who takes a place in the end. -/
def Slot.occupant (owner opponent : PlayerId) (slot : Slot) : PlayerId :=
  if slot.filled then slot.role.player owner opponent else slot.written

/-- Every place for a player is taken by the one it is meant for. -/
def Filled (occupant : Slot → PlayerId) (slots : List (Option Slot))
    (actors : List (Option PlayerId)) : Prop :=
  List.Forall₂ (fun slot actor => ∀ s, slot = some s →
    actor = some (occupant s)) slots actors

theorem Filled.iff {occupant meant : Slot → PlayerId}
    {slots : List (Option Slot)} {actors : List (Option PlayerId)}
    (hfilled : Filled occupant slots actors) :
    Filled meant slots actors ↔
      ∀ s, some s ∈ slots → occupant s = meant s := by
  induction hfilled with
  | nil => exact iff_of_true .nil fun _ hmem => nomatch hmem
  | @cons slot actor slots actors hhead _ ih =>
      rw [Filled, List.forall₂_cons]
      constructor
      · rintro ⟨hmeant, hrest⟩ s hmem
        rcases List.mem_cons.mp hmem with rfl | hmem
        · exact Option.some.inj ((hhead s rfl).symm.trans (hmeant s rfl))
        · exact ih.mp hrest s hmem
      · intro hall
        refine ⟨?_, ih.mpr fun s hmem => hall s (List.mem_cons_of_mem _ hmem)⟩
        rintro s rfl
        rw [hhead s rfl, hall s List.mem_cons_self]

theorem Filled.single {occupant : Slot → PlayerId} {slot : Option Slot}
    {actor : Option PlayerId}
    (hactor : ∀ s, slot = some s → actor = some (occupant s)) :
    Filled occupant [slot] [actor] :=
  .cons hactor .nil

theorem Filled.noSlots {occupant : Slot → PlayerId}
    {actors : List (Option PlayerId)} (hactors : actors = []) :
    Filled occupant [] actors := by
  rw [hactors]
  exact .nil

theorem Filled.noSlot {occupant : Slot → PlayerId} (actor : Option PlayerId) :
    Filled occupant [none] [actor] :=
  .single fun _ hslot => nomatch hslot

section Places

variable {owner opponent player : PlayerId} {filled : Bool}

/-- The marker for `you` is filled in or stays. -/
theorem filled_youSlot (filled : Bool) (player : PlayerId) :
    Filled (Slot.occupant owner opponent) [player.youSlot filled]
      [some (if filled && player.isPlaceholder then owner else player)] := by
  apply Filled.single
  rintro s hslot
  rw [PlayerId.youSlot] at hslot
  split at hslot
  · rename_i hplaceholder
    cases hslot
    rw [hplaceholder, Bool.and_true]
    rfl
  · cases hslot

/-- A player is one marker at most. -/
theorem not_targetOpponent (hplaceholder : player.isPlaceholder = true) :
    player.isTargetOpponent = false := by
  rw [PlayerId.isPlaceholder, beq_iff_eq] at hplaceholder
  rw [PlayerId.isTargetOpponent, hplaceholder]
  decide

end Places

namespace SpellContext

variable {context : SpellContext} {opponent : PlayerId}

theorem bind_cases (cursor : TargetCursor) (unbound : SpellEffect)
    (bound : CardId → SpellEffect) :
    (∃ id, context.chosenTargets[cursor.targetIndex]? = some id ∧
      (context.bind cursor unbound bound).1 = bound id) ∨
    (context.chosenTargets[cursor.targetIndex]? = none ∧
      (context.bind cursor unbound bound).1 = unbound) := by
  rw [bind, consumeNextTarget]
  cases context.chosenTargets[cursor.targetIndex]? with
  | some id => exact .inl ⟨id, rfl, rfl⟩
  | none => exact .inr ⟨rfl, rfl⟩

theorem aim_cases (hopponent : context.opponentId = some opponent)
    (cursor : TargetCursor) (untargeted : SpellEffect)
    (aimed : TargetRef → SpellEffect) :
    (∃ id, context.chosenTargets[cursor.targetIndex]? = some id ∧
      (context.aim cursor untargeted aimed).1 = aimed id.targetRef) ∨
    (context.chosenTargets[cursor.targetIndex]? = none ∧
      (context.aim cursor untargeted aimed).1 =
        aimed (.player opponent)) := by
  rw [aim, consumeNextTarget, hopponent]
  cases context.chosenTargets[cursor.targetIndex]? with
  | some id => exact .inl ⟨id, rfl, rfl⟩
  | none => exact .inr ⟨rfl, rfl⟩

variable (context opponent) in
/-- The markers are filled in where the resolver knows them. -/
theorem filled_markers (you other : Bool) (player : PlayerId) :
    Filled (Slot.occupant context.cardOwner opponent)
      [(player.youSlot you).or (player.opponentSlot other)]
      [some (if you && player.isPlaceholder then context.cardOwner
        else if other && player.isTargetOpponent then opponent
        else player)] := by
  apply Filled.single
  intro s hslot
  rw [PlayerId.youSlot, PlayerId.opponentSlot] at hslot
  by_cases hplaceholder : player.isPlaceholder = true
  · have hother := not_targetOpponent hplaceholder
    rw [if_pos hplaceholder, Option.some_or] at hslot
    cases hslot
    rw [hplaceholder, hother, Bool.and_true, Bool.and_false]
    rfl
  · rw [if_neg hplaceholder, Option.none_or] at hslot
    rw [Bool.not_eq_true] at hplaceholder
    split at hslot
    · rename_i hother
      cases hslot
      rw [hplaceholder, hother, Bool.and_true, Bool.and_false]
      rfl
    · cases hslot

/-- Where a placeholder is the opponent. -/
theorem filled_loser (player : PlayerId) :
    Filled (Slot.occupant context.cardOwner opponent)
      [if player.isPlaceholder then some ⟨.opponent, true, player⟩
        else player.opponentSlot false]
      [some (if player.isPlaceholder then opponent else player)] := by
  apply Filled.single
  intro s hslot
  by_cases hplaceholder : player.isPlaceholder = true
  · rw [if_pos hplaceholder] at hslot ⊢
    cases hslot
    rfl
  · rw [if_neg hplaceholder] at hslot ⊢
    rw [PlayerId.opponentSlot] at hslot
    split at hslot
    · cases hslot
      rfl
    · cases hslot

/-- The controller of a target is no marker. -/
theorem marker_of_targetController {next : Option CardId}
    {player : PlayerId} (hcontroller : player.isTargetController = true) :
    PlayerEffect.drainMana.slot next player = none := by
  have hself : player.raw = 4294967295 - 6 := eq_of_beq hcontroller
  change (player.youSlot true).or (player.opponentSlot true) = none
  rw [PlayerId.youSlot, PlayerId.opponentSlot, PlayerId.isPlaceholder,
    PlayerId.isTargetOpponent, hself]
  rfl

/-- A player who is the target takes the place of the marker. -/
theorem filled_setLife (now : GameState) (amount : Int32) (player : PlayerId)
    (cursor : TargetCursor) :
    Filled (Slot.occupant context.cardOwner opponent)
      [(PlayerEffect.setLife amount).slot
        context.chosenTargets[cursor.targetIndex]? player]
      [some (context.resolvePlayer now (.setLife amount) player cursor).1] := by
  rw [resolvePlayer, PlayerEffect.slot]
  by_cases hplaceholder : player.isPlaceholder = true
  · have hmarkers := filled_markers context opponent true false player
    rw [hplaceholder, Bool.and_true, if_pos rfl] at hmarkers
    rw [if_pos hplaceholder, hplaceholder, Bool.true_and]
    cases context.chosenTargets[cursor.targetIndex]? with
    | none => exact hmarkers
    | some raw =>
        change Filled _ [if raw.playerTarget?.isSome then none else _] _
        dsimp only
        cases raw.playerTarget? with
        | none => exact hmarkers
        | some target => exact Filled.noSlot _
  · rw [if_neg hplaceholder]
    rw [Bool.not_eq_true] at hplaceholder
    rw [hplaceholder, Bool.false_and, if_neg Bool.false_ne_true]
    have hmarkers := filled_markers context opponent true false player
    rw [hplaceholder, Bool.and_false, if_neg Bool.false_ne_true] at hmarkers
    exact hmarkers

/-- The place of the player in an effect that names one. -/
theorem filled_resolvePlayer (hopponent : context.opponentId = some opponent)
    (now : GameState) (effect : PlayerEffect) (player : PlayerId)
    (cursor : TargetCursor) :
    Filled (Slot.occupant context.cardOwner opponent)
      [effect.slot context.chosenTargets[cursor.targetIndex]? player]
      [some (context.resolvePlayer now effect player cursor).1] := by
  have hdefault : context.opponentOrOwner = opponent := by
    rw [opponentOrOwner, hopponent]
    rfl
  cases effect with
  | loseLife amount =>
      rw [resolvePlayer, hdefault]
      exact filled_loser player
  | forceSacrifice sacType count =>
      rw [resolvePlayer, hdefault]
      exact filled_loser player
  | discardCards count remember optional rememberPlayers =>
      rw [resolvePlayer, hdefault]
      exact filled_markers context opponent true true player
  | discardCardsXPaid remember =>
      rw [resolvePlayer, hdefault]
      exact filled_markers context opponent true true player
  | skipUntapStep =>
      rw [resolvePlayer, hdefault]
      exact filled_markers context opponent true true player
  | drainMana =>
      by_cases hcontroller : player.isTargetController = true
      · exact (marker_of_targetController hcontroller).symm ▸
          Filled.noSlot _
      · rw [resolvePlayer, if_neg hcontroller, hdefault]
        exact filled_markers context opponent true true player
  | setLife amount => exact filled_setLife now amount player cursor
  | tapPermanentsMatchingFilter | pumpAllCreatures | animateAll
  | searchLibrary | createTokenDynamic | firebend | preventDamageFromSource =>
      exact filled_markers context opponent false false player
  | _ => exact filled_markers context opponent true false player

end SpellContext

namespace ResolutionQueries

variable {context : SpellContext} {opponent : PlayerId}

theorem bind_targetIndex (cursor : TargetCursor) (unbound : SpellEffect)
    (bound : CardId → SpellEffect) :
    (context.bind cursor unbound bound).2.targetIndex =
      if cursor.targetIndex < context.chosenTargets.length then
        cursor.targetIndex + 1
      else cursor.targetIndex := by
  rw [SpellContext.bind, SpellContext.consumeNextTarget]
  by_cases hnext : cursor.targetIndex < context.chosenTargets.length
  · rw [List.getElem?_eq_getElem hnext, if_pos hnext]
  · rw [List.getElem?_eq_none (Nat.le_of_not_lt hnext), if_neg hnext]

theorem aim_targetIndex (cursor : TargetCursor) (untargeted : SpellEffect)
    (aimed : TargetRef → SpellEffect) :
    (context.aim cursor untargeted aimed).2.targetIndex =
      if cursor.targetIndex < context.chosenTargets.length then
        cursor.targetIndex + 1
      else cursor.targetIndex := by
  rw [SpellContext.aim, SpellContext.consumeNextTarget]
  by_cases hnext : cursor.targetIndex < context.chosenTargets.length
  · rw [List.getElem?_eq_getElem hnext, if_pos hnext]
  · rw [List.getElem?_eq_none (Nat.le_of_not_lt hnext), if_neg hnext]
    cases context.opponentId <;> rfl

variable (context) in
/-- A target that is looked for only by a placeholder. -/
theorem bindPlaceholder_targetIndex (target : CardId) (cursor : TargetCursor)
    (unbound : SpellEffect) (bound : CardId → SpellEffect) :
    (if target.isPlaceholder then context.bind cursor unbound bound
      else (unbound, cursor)).2.targetIndex =
      if target.isPlaceholder &&
          cursor.targetIndex < context.chosenTargets.length then
        cursor.targetIndex + 1
      else cursor.targetIndex := by
  by_cases hplaceholder : target.isPlaceholder = true
  · rw [if_pos hplaceholder, bind_targetIndex, hplaceholder, Bool.true_and]
    simp only [decide_eq_true_eq]
  · rw [if_neg hplaceholder]
    rw [Bool.not_eq_true] at hplaceholder
    rw [hplaceholder, Bool.false_and, if_neg Bool.false_ne_true]

/-- All targets that are left. -/
theorem remaining_targetIndex (cursor : TargetCursor)
    (unbound bound : SpellEffect) (last : Option CardId) :
    (if (context.chosenTargets.drop cursor.targetIndex).isEmpty then
        (unbound, cursor)
      else (bound, ⟨context.chosenTargets.length, last⟩)).2.targetIndex =
      if cursor.targetIndex < context.chosenTargets.length then
        context.chosenTargets.length
      else cursor.targetIndex := by
  by_cases hnext : cursor.targetIndex < context.chosenTargets.length
  · rw [if_pos hnext, if_neg]
    rw [List.isEmpty_iff, List.drop_eq_nil_iff]
    exact Nat.not_le_of_lt hnext
  · rw [if_neg hnext, if_pos]
    rw [List.isEmpty_iff, List.drop_eq_nil_iff]
    exact Nat.le_of_not_lt hnext

/-- Only a player as a target of `SetLife` is used up. -/
theorem resolvePlayer_targetIndex (now : GameState) (effect : PlayerEffect)
    (player : PlayerId) (cursor : TargetCursor) :
    (context.resolvePlayer now effect player cursor).2.targetIndex =
      (SpellEffect.onPlayer effect player).advance context.chosenTargets
        cursor.targetIndex := by
  cases effect with
  | setLife amount =>
      rw [SpellContext.resolvePlayer, SpellEffect.advance]
      cases player.isPlaceholder with
      | false => rfl
      | true =>
          rw [if_pos rfl, Bool.true_and]
          cases context.chosenTargets[cursor.targetIndex]? with
          | none => rfl
          | some raw =>
              rw [Option.bind_some]
              dsimp only
              split
              · rename_i target htarget
                rw [htarget]
                rfl
              · rename_i htarget
                rw [htarget]
                rfl
  | drainMana =>
      rw [SpellContext.resolvePlayer]
      rfl
  | _ => rfl

/-- Two creatures fight, whoever they are; only a chosen one is used up. -/
theorem resolveEffectTarget_fight (queries : ResolutionQueries)
    (now : GameState) (context : SpellContext) (fighter target : CardId)
    (cursor : TargetCursor) :
    ∃ first second after,
      queries.resolveEffectTarget now context (.fight fighter target) cursor =
        (.fight first second, after) ∧
      after.targetIndex =
        if target.isPlaceholder &&
            cursor.targetIndex < context.chosenTargets.length then
          cursor.targetIndex + 1
        else cursor.targetIndex := by
  rw [resolveEffectTarget]
  by_cases hplaceholder : target.isPlaceholder = true
  · rw [if_pos hplaceholder, hplaceholder, Bool.true_and]
    simp only [decide_eq_true_eq, SpellContext.consumeNextTarget]
    generalize (if fighter.isPlaceholder = true then
      cursor.lastResolvedTarget.getD ⟨0⟩ else fighter) = resolved
    by_cases hnext : cursor.targetIndex < context.chosenTargets.length
    · rw [List.getElem?_eq_getElem hnext, if_pos hnext]
      exact ⟨_, _, _, rfl, rfl⟩
    · rw [List.getElem?_eq_none (Nat.le_of_not_lt hnext), if_neg hnext]
      dsimp only
      by_cases hfighter : resolved.isPlaceholder = true
      · rw [if_pos hfighter]
        exact ⟨_, _, _, rfl, rfl⟩
      · rw [if_neg hfighter]
        cases queries.bestFightTarget now context.cardOwner resolved with
        | none => exact ⟨_, _, _, rfl, rfl⟩
        | some id => exact ⟨_, _, _, rfl, rfl⟩
  · rw [if_neg hplaceholder]
    rw [Bool.not_eq_true] at hplaceholder
    rw [hplaceholder]
    exact ⟨_, _, _, rfl, rfl⟩

theorem not_placeholder_of_reuse {target : CardId}
    (hreuse : target.isReusePrevious = true) :
    target.isPlaceholder = false := by
  have hraw : target.raw = 4294967295 := eq_of_beq hreuse
  rw [CardId.isPlaceholder, hraw]
  rfl

theorem resolveEffectTarget_targetIndex (queries : ResolutionQueries)
    (now : GameState) (context : SpellContext) (effect : SpellEffect)
    (cursor : TargetCursor) :
    (queries.resolveEffectTarget now context effect cursor).2.targetIndex =
      effect.advance context.chosenTargets cursor.targetIndex := by
  cases effect with
  | dealDamage target amount =>
      cases target with
      | none => exact aim_targetIndex cursor _ _
      | player | permanent => rfl
  | dealDamageDynamic target count =>
      cases target with
      | none => exact aim_targetIndex cursor _ _
      | player | permanent => rfl
  | dealDamageXPaid target divide =>
      cases target with
      | none =>
          cases divide with
          | none => exact aim_targetIndex cursor _ _
          | evenlyRoundedDown => rfl
      | player | permanent => rfl
  | dealDamageDivided targets amountEach =>
      cases targets with
      | nil =>
          rw [resolveEffectTarget, SpellEffect.advance]
          exact remaining_targetIndex cursor _ _ _
      | cons => rfl
  | eachDamage damagers receiver useCardPower fixedDamage =>
      cases damagers with
      | cons => rfl
      | nil =>
          rw [resolveEffectTarget, SpellEffect.advance]
          cases receiver.isPlaceholder with
          | false => rfl
          | true =>
              cases context.chosenTargets with
              | nil => rfl
              | cons head rest =>
                  rw [List.getLast?_cons]
                  rfl
  | preventDamage target amount =>
      cases target with
      | none => exact bind_targetIndex cursor _ _
      | permanent card =>
          exact bindPlaceholder_targetIndex context card cursor _ _
      | player => rfl
  | onTarget effect target =>
      have hbind := bindPlaceholder_targetIndex context target cursor
        (.onTarget effect target) (.onTarget effect)
      cases effect with
      | tapPermanent =>
          rw [resolveEffectTarget]
          split
          · rename_i hreuse
            rw [SpellEffect.advance, not_placeholder_of_reuse hreuse]
            cases cursor.lastResolvedTarget <;> rfl
          · exact hbind
      | untapPermanent =>
          rw [resolveEffectTarget]
          split
          · rename_i hreuse
            rw [SpellEffect.advance, not_placeholder_of_reuse hreuse]
            rfl
          · exact hbind
      | _ => exact hbind
  | onPlayer effect player =>
      exact resolvePlayer_targetIndex now effect player cursor
  | gainControl target =>
      exact bindPlaceholder_targetIndex context target cursor _ _
  | fight fighter target =>
      rcases resolveEffectTarget_fight queries now context fighter target
        cursor with ⟨first, second, after, hfight, hindex⟩
      rw [hfight, hindex]
      rfl
  | copyPermanent target =>
      exact bindPlaceholder_targetIndex context target cursor _ _
  | createDelayedTrigger target tag =>
      rw [resolveEffectTarget, SpellEffect.advance,
        ← bindPlaceholder_targetIndex context target cursor
          (.createDelayedTrigger target tag) (.createDelayedTrigger · tag)]
      by_cases hplaceholder : target.isPlaceholder = true
      · rw [if_pos hplaceholder, if_pos hplaceholder]
      · rw [if_neg hplaceholder, if_neg hplaceholder]
        split <;> rfl
  | unlessCostWrapper inner payer tag =>
      exact resolveEffectTarget_targetIndex queries now context inner cursor
  | repeatEachCard targets requireInGraveyard tag =>
      cases targets with
      | cons => rfl
      | nil =>
          rw [resolveEffectTarget, SpellEffect.advance]
          by_cases hempty : context.chosenTargets = []
          · rw [hempty]
            rfl
          · rw [if_pos]
            · exact remaining_targetIndex cursor _ _ _
            · rw [List.isEmpty_nil, Bool.true_and, Bool.not_eq_true',
                List.isEmpty_eq_false_iff]
              exact hempty
  | exileIfWouldDieThisTurn target =>
      rw [resolveEffectTarget]
      split <;> rfl
  | _ => rfl

/-- Who pays for the copy of a spell names no other player. -/
theorem actors_copiedBy (payer : UnlessPayer) (effect : SpellEffect) :
    SpellEffect.actors (match effect with
      | .copySpellAbility mayChooseTargets _ tag =>
          .copySpellAbility mayChooseTargets (some payer) tag
      | effect => effect) = effect.actors := by
  cases effect <;> rfl

theorem filled_resolvePayer (hopponent : context.opponentId = some opponent)
    (now : GameState) (cursor : TargetCursor) (payer : UnlessPayer) :
    Filled (Slot.occupant context.cardOwner opponent) [payer.slot]
      [some (resolvePayer now context cursor payer)] := by
  have hdefault : context.opponentOrOwner = opponent := by
    rw [SpellContext.opponentOrOwner, hopponent]
    rfl
  apply Filled.single
  intro s hslot
  cases payer with
  | you =>
      cases hslot
      rfl
  | player | opponent =>
      cases hslot
      rw [resolvePayer, hdefault]
      rfl
  | targetedController | targetedOrController | resolved | other =>
      cases hslot

/-- Effects without a place for a player, with or without a target. -/
theorem bind_actors {unbound : SpellEffect} {bound : CardId → SpellEffect}
    (cursor : TargetCursor) (hunbound : unbound.actors = [])
    (hbound : ∀ id, (bound id).actors = []) :
    (context.bind cursor unbound bound).1.actors = [] := by
  rcases SpellContext.bind_cases cursor unbound bound with
    ⟨id, -, hbind⟩ | ⟨-, hbind⟩
  · rw [hbind, hbound]
  · rw [hbind, hunbound]

theorem bindPlaceholder_actors {unbound : SpellEffect}
    {bound : CardId → SpellEffect} (target : CardId) (cursor : TargetCursor)
    (hunbound : unbound.actors = []) (hbound : ∀ id, (bound id).actors = []) :
    (if target.isPlaceholder then context.bind cursor unbound bound
      else (unbound, cursor)).1.actors = [] := by
  by_cases hplaceholder : target.isPlaceholder = true
  · rw [if_pos hplaceholder]
    exact bind_actors cursor hunbound hbound
  · rw [if_neg hplaceholder, hunbound]

/-- Damage without a target, where the opponent takes the place of one. -/
theorem aim_filled (hopponent : context.opponentId = some opponent)
    {aimed : TargetRef → SpellEffect} (cursor : TargetCursor)
    (untargeted : SpellEffect)
    (haimed : ∀ target, (aimed target).actors = [target.actor]) :
    Filled (Slot.occupant context.cardOwner opponent)
      [if context.chosenTargets[cursor.targetIndex]?.isNone then
        some ⟨.opponent, true, ⟨0⟩⟩ else none]
      (context.aim cursor untargeted aimed).1.actors := by
  rcases SpellContext.aim_cases hopponent cursor untargeted aimed with
    ⟨id, hnext, haim⟩ | ⟨hnext, haim⟩
  · rw [hnext, haim, haimed]
    exact Filled.noSlot _
  · rw [hnext, haim, haimed]
    apply Filled.single
    intro s hslot
    cases hslot
    rfl

/-- A place that depends on whether a target is bound. -/
theorem filled_placeholder {slots : List (Option Slot)}
    {unbound : SpellEffect} {bound : CardId → SpellEffect} (target : CardId)
    (cursor : TargetCursor)
    (hunbound : Filled (Slot.occupant context.cardOwner opponent) slots
      unbound.actors)
    (hbound : ∀ id, Filled (Slot.occupant context.cardOwner opponent) slots
      (bound id).actors) :
    Filled (Slot.occupant context.cardOwner opponent) slots
      (if target.isPlaceholder then context.bind cursor unbound bound
        else (unbound, cursor)).1.actors := by
  by_cases hplaceholder : target.isPlaceholder = true
  · rw [if_pos hplaceholder]
    rcases SpellContext.bind_cases cursor unbound bound with
      ⟨id, -, hbind⟩ | ⟨-, hbind⟩
    · rw [hbind]
      exact hbound id
    · rw [hbind]
      exact hunbound
  · rw [if_neg hplaceholder]
    exact hunbound

/-- Damage is prevented for `you` where there is no target. -/
theorem filled_protected (cursor : TargetCursor) (amount : Int32) :
    Filled (Slot.occupant context.cardOwner opponent)
      [if context.chosenTargets[cursor.targetIndex]?.isNone then
        some ⟨.you, true, ⟨0⟩⟩ else none]
      (context.bind cursor (.preventDamage (.player context.cardOwner) amount)
        fun id => .preventDamage (.permanent id) amount).1.actors := by
  rcases SpellContext.bind_cases cursor
      (.preventDamage (.player context.cardOwner) amount)
      (fun id => .preventDamage (.permanent id) amount) with
    ⟨id, hnext, hbind⟩ | ⟨hnext, hbind⟩
  · rw [hnext, hbind]
    exact Filled.noSlot _
  · rw [hnext, hbind]
    apply Filled.single
    intro s hslot
    cases hslot
    rfl

/-- Whoever controls a permanent from now on. -/
theorem filled_newController {unbound : SpellEffect}
    {bound : CardId → SpellEffect} (target : CardId) (controller : PlayerId)
    (cursor : TargetCursor) (hunbound : unbound.actors = [some controller])
    (hbound : ∀ id, Filled (Slot.occupant context.cardOwner opponent)
      [controller.youSlot true] (bound id).actors) :
    Filled (Slot.occupant context.cardOwner opponent)
      [if target.isPlaceholder then
        if context.chosenTargets[cursor.targetIndex]?.isSome then
          controller.youSlot true else none
      else controller.youSlot false]
      (if target.isPlaceholder then context.bind cursor unbound bound
        else (unbound, cursor)).1.actors := by
  by_cases hplaceholder : target.isPlaceholder = true
  · rw [if_pos hplaceholder, if_pos hplaceholder]
    rcases SpellContext.bind_cases cursor unbound bound with
      ⟨id, hnext, hbind⟩ | ⟨hnext, hbind⟩
    · rw [hnext, hbind]
      exact hbound id
    · rw [hnext, hbind, hunbound]
      exact Filled.noSlot _
  · rw [if_neg hplaceholder, if_neg hplaceholder, hunbound]
    exact filled_youSlot false controller

theorem filled_tokenController
    (hopponent : context.opponentId = some opponent) (controller : PlayerId) :
    Filled (Slot.occupant context.cardOwner opponent)
      [if controller = ⟨0⟩ then some ⟨.you, true, controller⟩
      else if controller = ⟨1⟩ then some ⟨.opponent, true, controller⟩
      else none]
      [some (if controller = ⟨0⟩ then context.cardOwner
        else if controller = ⟨1⟩ then context.opponentId.getD controller
        else controller)] := by
  apply Filled.single
  intro s hslot
  rw [hopponent]
  by_cases hyou : controller = ⟨0⟩
  · rw [if_pos hyou] at hslot ⊢
    cases hslot
    rfl
  · rw [if_neg hyou] at hslot ⊢
    split at hslot
    · rename_i hother
      rw [if_pos hother]
      cases hslot
      rfl
    · cases hslot

/-- One effect: every place is taken, by whom it is meant for or by whom is
written there. -/
theorem resolveEffectTarget_filled
    (hopponent : context.opponentId = some opponent)
    (queries : ResolutionQueries) (now : GameState) (effect : SpellEffect)
    (cursor : TargetCursor) :
    Filled (Slot.occupant context.cardOwner opponent)
      (effect.slots context.chosenTargets[cursor.targetIndex]?)
      (queries.resolveEffectTarget now context effect cursor).1.actors := by
  cases effect with
  | dealDamage target amount =>
      cases target with
      | none => exact aim_filled hopponent cursor _ fun _ => rfl
      | player player => exact filled_youSlot true player
      | permanent card => exact Filled.noSlot _
  | dealDamageDynamic target count =>
      cases target with
      | none => exact aim_filled hopponent cursor _ fun _ => rfl
      | player player => exact filled_youSlot false player
      | permanent card => exact Filled.noSlot _
  | dealDamageXPaid target divide =>
      cases target with
      | none =>
          cases divide with
          | none =>
              apply Filled.noSlots
              change (context.aim cursor _ _).1.actors = []
              rcases SpellContext.aim_cases hopponent cursor
                  (.dealDamageXPaid .none .none)
                  fun target => .dealDamageXPaid target .none with
                ⟨id, -, haim⟩ | ⟨-, haim⟩
              · rw [haim]
                rfl
              · rw [haim]
                rfl
          | evenlyRoundedDown => exact .nil
      | player | permanent => exact .nil
  | dealDamageDivided targets amountEach =>
      cases targets with
      | nil =>
          rw [resolveEffectTarget]
          split <;> exact .nil
      | cons => exact .nil
  | eachDamage damagers receiver useCardPower fixedDamage =>
      cases damagers with
      | nil =>
          rw [resolveEffectTarget]
          split <;> exact .nil
      | cons => exact .nil
  | preventDamage target amount =>
      cases target with
      | none => exact filled_protected cursor amount
      | player player => exact filled_youSlot true player
      | permanent card =>
          exact filled_placeholder card cursor (Filled.noSlot _)
            fun _ => Filled.noSlot _
  | onTarget effect target =>
      apply Filled.noSlots
      have hbind : (if target.isPlaceholder then
            context.bind cursor (.onTarget effect target) (.onTarget effect)
          else (.onTarget effect target, cursor)).1.actors = [] :=
        bindPlaceholder_actors target cursor rfl fun _ => rfl
      cases effect with
      | tapPermanent =>
          rw [resolveEffectTarget]
          split
          · cases cursor.lastResolvedTarget <;> rfl
          · exact hbind
      | untapPermanent =>
          rw [resolveEffectTarget]
          split
          · rfl
          · exact hbind
      | _ => exact hbind
  | onPlayer effect player =>
      exact SpellContext.filled_resolvePlayer hopponent now effect player
        cursor
  | gainControl target newController untap source tag =>
      apply filled_newController target newController cursor rfl
      intro id
      apply Filled.single
      intro s hslot
      rw [PlayerId.youSlot] at hslot
      split at hslot
      · cases hslot
        rfl
      · cases hslot
  | fight fighter target =>
      apply Filled.noSlots
      rcases resolveEffectTarget_fight queries now context fighter target
        cursor with ⟨first, second, after, hfight, -⟩
      rw [hfight]
      rfl
  | exileIfWouldDieThisTurn target =>
      apply Filled.noSlots
      rw [resolveEffectTarget]
      split <;> rfl
  | gainLifeDynamic player amount reference =>
      rw [resolveEffectTarget]
      dsimp only
      by_cases hcontroller : player.isTargetController = true
      · have hself : player.raw = 4294967295 - 6 := eq_of_beq hcontroller
        rw [SpellEffect.slots, PlayerId.youSlot, PlayerId.isPlaceholder, hself]
        exact Filled.noSlot _
      · rw [if_neg hcontroller]
        exact filled_youSlot true player
  | copyPermanent target controller tag =>
      exact filled_newController target controller cursor rfl
        fun _ => filled_youSlot true controller
  | createDelayedTrigger target tag =>
      apply Filled.noSlots
      rw [resolveEffectTarget]
      split
      · exact bind_actors cursor rfl fun _ => rfl
      · split <;> rfl
  | unlessCostWrapper innerEffect payer tag =>
      have hpayer := filled_resolvePayer hopponent now
        (queries.resolveEffectTarget now context innerEffect cursor).2 payer
      have hinner :=
        resolveEffectTarget_filled hopponent queries now innerEffect cursor
      rw [← actors_copiedBy (.resolved (resolvePayer now context
        (queries.resolveEffectTarget now context innerEffect cursor).2
          payer))] at hinner
      exact .cons (List.forall₂_cons.mp hpayer).1 hinner
  | createToken controller amount forEachPlayer tokenScript =>
      exact filled_tokenController hopponent controller
  | createTokenWithStoredPt sourceCard controller tokenScript =>
      exact filled_youSlot true controller
  | repeatEachCard targets requireInGraveyard tag =>
      apply Filled.noSlots
      rw [resolveEffectTarget]
      split
      · dsimp only
        split <;> rfl
      · rfl
  | changeZoneAll targetPlayer tag =>
      cases targetPlayer with
      | none => exact .nil
      | some player => exact filled_youSlot false player
  | _ => exact .nil

/-- The effects that are resolved and the targets used up before each,
whatever becomes of the game in between. -/
inductive Reaches (queries : ResolutionQueries) (context : SpellContext) :
    List SpellEffect → TargetCursor → SpellEffect → TargetCursor → Prop where
  | here (effect : SpellEffect) (rest : List SpellEffect)
      (cursor : TargetCursor) :
      Reaches queries context (effect :: rest) cursor effect cursor
  | later (now : GameState) {head effect : SpellEffect}
      {rest : List SpellEffect} {cursor after : TargetCursor}
      (hrest : Reaches queries context rest
        (queries.resolveEffectTarget now context head cursor).2 effect after) :
      Reaches queries context (head :: rest) cursor effect after

variable {queries : ResolutionQueries} {effects : List SpellEffect}
  {cursor : TargetCursor}

/-- The places found in the list are those of the effects that are resolved. -/
theorem places_of_reaches {effect : SpellEffect} {after : TargetCursor}
    (hreaches : queries.Reaches context effects cursor effect after)
    {s : Slot}
    (hslot : some s ∈ effect.slots context.chosenTargets[after.targetIndex]?) :
    s ∈ SpellEffect.places context.chosenTargets cursor.targetIndex
      effects := by
  induction hreaches with
  | here effect rest cursor =>
      exact List.mem_append_left _ (List.reduceOption_mem_iff.mpr hslot)
  | later now hrest ih =>
      apply List.mem_append_right
      rw [← queries.resolveEffectTarget_targetIndex now]
      exact ih hslot

theorem reaches_of_places (queries : ResolutionQueries) (now : GameState)
    {s : Slot}
    (hslot : s ∈ SpellEffect.places context.chosenTargets cursor.targetIndex
      effects) :
    ∃ effect after, queries.Reaches context effects cursor effect after ∧
      some s ∈ effect.slots context.chosenTargets[after.targetIndex]? := by
  induction effects generalizing cursor with
  | nil => cases hslot
  | cons head rest ih =>
      rcases List.mem_append.mp hslot with hhead | hrest
      · exact ⟨head, cursor, .here head rest cursor,
          List.reduceOption_mem_iff.mp hhead⟩
      · rw [← queries.resolveEffectTarget_targetIndex now] at hrest
        obtain ⟨effect, after, hreaches, hslot⟩ := ih hrest
        exact ⟨effect, after, .later now hreaches, hslot⟩

/-- All effects name the players they are meant for. -/
theorem reaches_filled_iff (effects : List SpellEffect)
    (cursor : TargetCursor) (hopponent : context.opponentId = some opponent)
    (game : GameState) (meant : Slot → PlayerId) :
    (∀ (queries : ResolutionQueries) (now : GameState) effect after,
      queries.Reaches context effects cursor effect after →
        Filled meant
          (effect.slots context.chosenTargets[after.targetIndex]?)
          (queries.resolveEffectTarget now context effect after).1.actors) ↔
      ∀ s ∈ SpellEffect.places context.chosenTargets cursor.targetIndex
        effects, s.occupant context.cardOwner opponent = meant s := by
  constructor
  · intro hfilled s hslot
    obtain ⟨effect, after, hreaches, hslot⟩ := reaches_of_places
      SpellMethods.idle.toResolutionQueries game hslot
    exact (resolveEffectTarget_filled hopponent _ game effect after).iff.mp
      (hfilled _ game effect after hreaches) s hslot
  · intro hmeant queries now effect after hreaches
    apply (resolveEffectTarget_filled hopponent queries now effect
      after).iff.mpr
    intro s hslot
    exact hmeant s (places_of_reaches hreaches hslot)

end ResolutionQueries

namespace GameState

/-- The opponent as the engine finds one. -/
def opponentOf (game : GameState) (player : PlayerId) : Option PlayerId :=
  game.playerIds.find? fun other => other != player

/-- Moves keep who controls the cards until they are reset. -/
theorem controller_frame : MoveFrame (fun _ => true) Card.controller
    fun before after =>
      SameView Card.controller after.cards before.cards where
  refl _ := .refl _
  trans hfirst hsecond := hsecond.trans hfirst
  logAction _ _ _ _ := .refl _
  modifyCard _ _ _ hf := sameView_modify hf _ _
  aside haside := haside.cards ▸ .refl _
  steady _ := rfl
  minor _ _ := rfl

theorem controller_relocate (game : GameState) (card : CardId)
    (toZone : Zone) (owner : PlayerId) :
    SameView Card.controller (game.relocate card .stack toZone owner).cards
      game.cards := by
  have hentered : SameView Card.controller (if toZone = .battlefield then
      (game.changeZone card .stack toZone owner).entersBattlefield card owner
      else game.changeZone card .stack toZone owner).cards game.cards := by
    split
    · exact controller_frame.entersBattlefield
        (game.changeZone card .stack toZone owner) card (fun _ => rfl) rfl
        owner
    · exact .refl _
  exact controller_frame.trans
    (controller_frame.thenLog hentered rfl _)
    (controller_frame.reportAndUpdate _ card .stack toZone)

theorem controller_finishMove (game : GameState) (card : CardId)
    (toZone : Zone) (owner : PlayerId) :
    SameView Card.controller
      (game.finishMove card .stack toZone owner).1.cards game.cards := by
  rw [finishMove]
  split
  · exact game.controller_relocate card toZone owner
  · exact .refl _

/-- A card that leaves the stack keeps its controller. -/
theorem controller_moveFromStack (game : GameState) (card : CardId)
    (toZone : Zone) (owner : PlayerId) :
    ((game.moveUntilTriggers card .stack toZone owner).1.card? card).map
      Card.controller = (game.card? card).map Card.controller := by
  have hmoved : SameView Card.controller
      (game.moveUntilTriggers card .stack toZone owner).1.cards
        game.cards := by
    have hreported : SameView Card.controller (if game.commanderReplaces
        card toZone then game.message else game).cards game.cards := by
      split
      · exact controller_frame.thenMessage (controller_frame.refl game)
      · exact controller_frame.refl game
    have hprepared := controller_frame.trans hreported
      (controller_frame.prepareMove _ card .stack
        (game.moveDestination card toZone) owner)
    exact controller_frame.trans hprepared
      (controller_finishMove _ card _ owner)
  exact hmoved card.raw

end GameState

/-- A spell acts for the player who cast it. -/
structure ActsFor (game : GameState) (card : CardId) (c : Card)
    (chosenTargets : List CardId) (caster opponent : PlayerId) : Prop where
  players : ∀ (queries : ResolutionQueries) (now : GameState) effect cursor,
    queries.Reaches (game.spellContext card c.owner chosenTargets)
        (c.effects.map (SpellEffect.resolveXPaid c.xPaid)) {} effect cursor →
      Filled (fun s => s.role.player caster opponent)
        (effect.slots chosenTargets[cursor.targetIndex]?)
        (queries.resolveEffectTarget now
          (game.spellContext card c.owner chosenTargets) effect
          cursor).1.actors
  controlled : c.isPermanentSpell = true →
    ((game.moveUntilTriggers card .stack .battlefield c.owner).1.card?
      card).map Card.controller = some caster

/-- Whoever takes the place is the one it is meant for. -/
def Slot.IsFor (game : GameState) (owner caster opponent : PlayerId)
    (s : Slot) : Prop :=
  if s.filled then
    match s.role with
    | .you => owner = caster
    | .opponent => game.opponentOf owner = some opponent
  else s.written = s.role.player caster opponent

section Acting

variable {game : GameState} {card : CardId} {c : Card}
  {chosenTargets : List CardId} {caster opponent : PlayerId}

theorem Slot.isFor_iff {owner other : PlayerId}
    (hother : game.opponentOf owner = some other) (s : Slot) :
    s.IsFor game owner caster opponent ↔
      s.occupant owner other = s.role.player caster opponent := by
  rw [IsFor, occupant]
  cases s.filled with
  | false => rfl
  | true =>
      cases s.role with
      | you => rfl
      | opponent =>
          rw [hother]
          exact Option.some_inj

end Acting

/-- A spell of this type in the exile of its owner, which draws a card. -/
def exiledSpell (owner : PlayerId) (cardType : CardType) : GameState where
  cards := ⟨[none,
    some { id := ⟨1⟩, owner, controller := owner
           types := [cardType]
           effects := [.onPlayer (.drawCards 1) ⟨0⟩] }]⟩
  players := [{ id := ⟨0⟩ }, { id := ⟨1⟩ }]
  zones :=
    { playerZones := [(⟨0⟩, { exile := if owner = ⟨0⟩ then [⟨1⟩] else [] }),
        (⟨1⟩, { exile := if owner = ⟨1⟩ then [⟨1⟩] else [] })] }
  turn := { activePlayer := ⟨0⟩ }

/-- The spell is cast for nothing. -/
def castExiled (owner : PlayerId) (cardType : CardType) : Outcome Unit :=
  (GameState.withMountain ⟨0⟩).castSpell8StepFrom ⟨0⟩ ⟨1⟩ 0 .exile (some {})
    [] (exiledSpell owner cardType)

end DeepScry
