/-
Handing out the chosen targets of a spell: each effect takes the next ones,
and the target that is resolved last may be used again.
-/
import DeepScry.SpellCaster

namespace DeepScry

/-- Both are cards, or both stand for players. -/
def CardId.SameKind (id other : CardId) : Prop :=
  id.playerTarget?.isSome = other.playerTarget?.isSome

namespace SpellEffect

/-- The targets that an effect names. -/
def named : SpellEffect → List TargetRef
  | dealDamage target _ | dealDamageXPaid target _
  | dealDamageDynamic target _ | preventDamage target _ => [target]
  | dealDamageDivided targets _ => targets
  | eachDamage damagers receiver _ _ =>
      damagers.map .permanent ++ [.permanent receiver]
  | onTarget _ target => [.permanent target]
  | gainControl target _ _ _ _ => [.permanent target]
  | exileIfWouldDieThisTurn target => [.permanent target]
  | preventAllCombatDamageThisTurn target => [.permanent target]
  | copyPermanent target _ _ => [.permanent target]
  | createDelayedTrigger target _ => [.permanent target]
  | fight fighter target => [.permanent fighter, .permanent target]
  | onPlayer _ player => [.player player]
  | gainLifeDynamic _ _ reference => [.permanent reference]
  | unlessCostWrapper innerEffect _ _ => innerEffect.named
  | repeatEachCard targets _ _ => targets.map .permanent
  | _ => []

/-- Damage, or a shield against it, whose target may be a player. -/
def damages : SpellEffect → Bool
  | dealDamage _ _ | dealDamageXPaid _ _ | dealDamageDynamic _ _
  | dealDamageDivided _ _ | preventDamage _ _ => true
  | unlessCostWrapper innerEffect _ _ => innerEffect.damages
  | _ => false

/-- Whether a loop over the chosen targets waits for them. -/
def repeatsTargets : SpellEffect → Bool
  | repeatEachCard targets _ _ => targets.isEmpty
  | unlessCostWrapper innerEffect _ _ => innerEffect.repeatsTargets
  | _ => false

end SpellEffect

namespace ResolutionQueries

variable (queries : ResolutionQueries) (game : GameState)
  (context : SpellContext)

/-- The effect takes the target at `index`: another target of that kind there
is another target in the resolved effect. -/
def Takes (effect : SpellEffect) (cursor : TargetCursor) (index : Nat) :
    Prop :=
  ∃ id other, context.chosenTargets[index]? = some id ∧ id.SameKind other ∧
    (queries.resolveEffectTarget game
      { context with chosenTargets := context.chosenTargets.set index other }
      effect cursor).1.named ≠
      (queries.resolveEffectTarget game context effect cursor).1.named

/-- One effect gets its targets: the next ones and no others, a loop over the
targets excepted that comes when all are taken, and players as players. -/
structure HandsOut (effect : SpellEffect) (cursor : TargetCursor) : Prop where
  advances : cursor.targetIndex ≤
    (queries.resolveEffectTarget game context effect cursor).2.targetIndex
  inBounds : (queries.resolveEffectTarget game context effect
    cursor).2.targetIndex ≤ context.chosenTargets.length
  takes : ∀ index, queries.Takes game context effect cursor index ↔
    (cursor.targetIndex ≤ index ∧ index <
      (queries.resolveEffectTarget game context effect
        cursor).2.targetIndex) ∨
      effect.repeatsTargets ∧ index < context.chosenTargets.length ∧
        cursor.targetIndex = context.chosenTargets.length
  decodes : ∀ index id player,
    queries.Takes game context effect cursor index →
      context.chosenTargets[index]? = some id →
      id.playerTarget? = some player →
      (queries.resolveEffectTarget game context effect cursor).1.damages →
        .player player ∈
          (queries.resolveEffectTarget game context effect cursor).1.named

/-- The effects of a spell, each with the game it is resolved in. -/
def cursorAfter (steps : List (GameState × SpellEffect)) : TargetCursor :=
  steps.foldl (fun cursor step =>
    (queries.resolveEffectTarget step.1 context step.2 cursor).2) {}

/-- Every effect gets its targets, and no two get the same one. -/
structure HandsOutInOrder (steps : List (GameState × SpellEffect)) :
    Prop where
  each : ∀ before game effect after,
    steps = before ++ (game, effect) :: after →
      queries.HandsOut game context effect
        (queries.cursorAfter context before)
  once : ∀ before game effect between later again after,
    steps = before ++ (game, effect) :: between ++ (later, again) :: after →
      ∀ index,
        queries.Takes game context effect
            (queries.cursorAfter context before) index →
          queries.Takes later context again
              (queries.cursorAfter context
                (before ++ (game, effect) :: between)) index →
            again.repeatsTargets

end ResolutionQueries

/-- How an effect draws from the chosen targets. -/
inductive TargetDraw where
  | keep
  | next
  | nextPlayer
  | rest
  | restOrAll
  | all
  | peek
deriving DecidableEq

namespace TargetDraw

/-- The targets that are drawn. -/
def drawn (targets : List CardId) (index : Nat) : TargetDraw → List CardId
  | keep => []
  | next | peek => targets[index]?.toList
  | nextPlayer =>
      (targets[index]?.filter fun id => id.playerTarget?.isSome).toList
  | rest => targets.drop index
  | restOrAll =>
      if index < targets.length then targets.drop index else targets
  | all => targets

/-- The next target after them. -/
def stop (targets : List CardId) (index : Nat) : TargetDraw → Nat
  | keep | peek => index
  | next => if index < targets.length then index + 1 else index
  | nextPlayer =>
      if (targets[index]?.bind CardId.playerTarget?).isSome then index + 1
      else index
  | rest | restOrAll | all => targets.length

/-- Where they stand. -/
def Covers (targets : List CardId) (index place : Nat) : TargetDraw → Prop
  | keep => False
  | next | peek => place = index
  | nextPlayer => place = index ∧
      (targets[index]?.bind CardId.playerTarget?).isSome
  | rest => index ≤ place
  | restOrAll => index ≤ place ∨ targets.length ≤ index
  | all => True

end TargetDraw

namespace SpellEffect

/-- How the resolver draws targets for an effect, given the one that was
resolved last. -/
def draw (lastResolvedTarget : Option CardId) : SpellEffect → TargetDraw
  | dealDamage .none _ | dealDamageDynamic .none _
  | dealDamageXPaid .none .none | preventDamage .none _ => .next
  | preventDamage (.permanent target) _ | gainControl target _ _ _ _
  | copyPermanent target _ _ | createDelayedTrigger target _
  | fight _ target => if target.isPlaceholder then .next else .keep
  | onTarget _ target => if target.isPlaceholder then .next else .keep
  | dealDamageDivided [] _ => .rest
  | eachDamage [] receiver _ _ =>
      if receiver.isPlaceholder then .all else .keep
  | onPlayer (.setLife _) player =>
      if player.isPlaceholder then .nextPlayer else .keep
  | exileIfWouldDieThisTurn target =>
      if (target.isReusePrevious || target.isPlaceholder) &&
        lastResolvedTarget.isNone then .peek else .keep
  | unlessCostWrapper innerEffect _ _ => innerEffect.draw lastResolvedTarget
  | repeatEachCard [] _ _ => .restOrAll
  | _ => .keep

/-- A shield against damage that waits for its target. -/
def shields : SpellEffect → Bool
  | preventDamage .none _ => true
  | preventDamage (.permanent target) _ => target.isPlaceholder
  | unlessCostWrapper innerEffect _ _ => innerEffect.shields
  | _ => false

/-- What an effect must not meet: it looks at the next target without drawing
it, draws all targets when some are taken, or shields a player. -/
structure Orderly (targets : List CardId) (cursor : TargetCursor)
    (effect : SpellEffect) : Prop where
  peeks : effect.draw cursor.lastResolvedTarget = .peek →
    targets.length ≤ cursor.targetIndex
  starts : effect.draw cursor.lastResolvedTarget = .all →
    cursor.targetIndex = 0
  shields : effect.shields → ∀ id, targets[cursor.targetIndex]? = some id →
    id.playerTarget? = none

end SpellEffect

namespace CardId

theorem playerTarget?_inj {id other : CardId} {player : PlayerId}
    (hid : id.playerTarget? = some player)
    (hother : other.playerTarget? = some player) : id = other := by
  rw [playerTarget?, Option.ite_none_right_eq_some] at hid hother
  have hraw := congrArg PlayerId.raw
    (Option.some.inj (hid.2.trans hother.2.symm))
  exact congrArg CardId.mk ((tsub_left_inj hid.1.1 hother.1.1).mp hraw)

/-- No two chosen targets are the same card or player. -/
theorem targetRef_injective : Function.Injective CardId.targetRef := by
  intro id other href
  rw [targetRef, targetRef] at href
  cases hid : id.playerTarget? with
  | none =>
      rw [hid] at href
      cases hother : other.playerTarget? with
      | none =>
          rw [hother] at href
          exact TargetRef.permanent.inj href
      | some player =>
          rw [hother] at href
          cases href
  | some player =>
      rw [hid] at href
      cases hother : other.playerTarget? with
      | none =>
          rw [hother] at href
          cases href
      | some again =>
          rw [hother] at href
          cases href
          exact playerTarget?_inj hid hother

/-- There is always another target of the kind. -/
theorem exists_sameKind_ne (id : CardId) :
    ∃ other, id.SameKind other ∧ id ≠ other := by
  have hcases : ∃ first second : CardId, first ≠ second ∧
      id.SameKind first ∧ id.SameKind second := by
    by_cases hplayer : id.playerTarget?.isSome = true
    · exact ⟨⟨4294966295⟩, ⟨4294966296⟩, by decide, hplayer, hplayer⟩
    · rw [Bool.not_eq_true] at hplayer
      exact ⟨⟨0⟩, ⟨1⟩, by decide, hplayer, hplayer⟩
  obtain ⟨first, second, hne, hfirst, hsecond⟩ := hcases
  by_cases heq : id = first
  · exact ⟨second, hsecond, heq ▸ hne⟩
  · exact ⟨first, hfirst, heq⟩

end CardId

namespace TargetDraw

variable {targets : List CardId} {index place : Nat} {id other : CardId}

theorem toList_eq_iff {o other : Option CardId} :
    o.toList = other.toList ↔ o = other := by
  constructor
  · intro hlist
    rw [← o.head?_toList, hlist, other.head?_toList]
  · exact congrArg Option.toList

theorem getElem?_set_iff (hplace : targets[place]? = some id)
    (hne : id ≠ other) :
    (targets.set place other)[index]? = targets[index]? ↔ place ≠ index := by
  obtain ⟨hlt, rfl⟩ := List.getElem?_eq_some_iff.mp hplace
  constructor
  · rintro hsame rfl
    rw [List.getElem?_set_self hlt, List.getElem?_eq_getElem hlt] at hsame
    exact hne (Option.some.inj hsame).symm
  · exact fun hother => List.getElem?_set_ne hother

theorem set_eq_iff (hplace : targets[place]? = some id) (hne : id ≠ other) :
    targets.set place other ≠ targets := by
  intro hsame
  have hself : (targets.set place other)[place]? = targets[place]? := by
    rw [hsame]
  exact (getElem?_set_iff hplace hne).mp hself rfl

theorem drop_set_iff (hplace : targets[place]? = some id) (hne : id ≠ other) :
    (targets.set place other).drop index = targets.drop index ↔
      ¬ index ≤ place := by
  rw [List.drop_set]
  split
  · next hbefore => exact iff_of_true rfl (Nat.not_le_of_lt hbefore)
  · next hafter =>
    rw [not_lt] at hafter
    have hdropped : (targets.drop index)[place - index]? = some id := by
      rw [List.getElem?_drop, Nat.add_sub_cancel' hafter]
      exact hplace
    exact iff_of_false (set_eq_iff hdropped hne) (not_not_intro hafter)

/-- Another target of the same kind is noticed just where targets are
drawn. -/
theorem drawn_set_iff (draw : TargetDraw)
    (hplace : targets[place]? = some id) (hkind : id.SameKind other)
    (hne : id ≠ other) :
    draw.drawn (targets.set place other) index = draw.drawn targets index ↔
      ¬ draw.Covers targets index place := by
  have hnext : (targets.set place other)[index]?.toList =
      targets[index]?.toList ↔ ¬ place = index := by
    rw [toList_eq_iff]
    exact getElem?_set_iff hplace hne
  cases draw with
  | keep => exact iff_of_true rfl not_false
  | next | peek => exact hnext
  | nextPlayer =>
      rw [drawn, drawn, toList_eq_iff, Covers]
      by_cases hsame : place = index
      · subst hsame
        rw [hplace, List.getElem?_set_self
          (List.getElem?_eq_some_iff.mp hplace).1]
        rw [CardId.SameKind] at hkind
        simp only [true_and, Option.bind_some, Option.filter, ← hkind]
        split
        · next hplayer =>
          refine iff_of_false ?_ (not_not_intro hplayer)
          exact fun heq => hne (Option.some.inj heq).symm
        · next hcard => exact iff_of_true rfl hcard
      · rw [List.getElem?_set_ne hsame]
        exact iff_of_true rfl fun hcovers => hsame hcovers.1
  | rest => exact drop_set_iff hplace hne
  | restOrAll =>
      rw [drawn, drawn, List.length_set, Covers]
      split
      · next hlt =>
        rw [drop_set_iff hplace hne]
        simp [Nat.not_le_of_lt hlt]
      · next hge =>
        exact iff_of_false (set_eq_iff hplace hne)
          (not_not_intro (.inr (Nat.le_of_not_lt hge)))
  | all => exact iff_of_false (set_eq_iff hplace hne) (not_not_intro trivial)

end TargetDraw

namespace SpellContext

variable {context : SpellContext} {others : List CardId}
  (hkinds : List.Forall₂ CardId.SameKind context.chosenTargets others)

include hkinds

/-- The next targets of both lists. -/
theorem next_cases (index : Nat) :
    (context.chosenTargets[index]? = none ∧ others[index]? = none) ∨
      ∃ id other, context.chosenTargets[index]? = some id ∧
        others[index]? = some other ∧ id.SameKind other := by
  by_cases hlt : index < context.chosenTargets.length
  · have hother := hkinds.length_eq ▸ hlt
    exact .inr ⟨_, _, List.getElem?_eq_getElem hlt,
      List.getElem?_eq_getElem hother, hkinds.get hlt hother⟩
  · rw [not_lt] at hlt
    exact .inl ⟨List.getElem?_eq_none hlt,
      List.getElem?_eq_none (hkinds.length_eq ▸ hlt)⟩

theorem bind_named (cursor : TargetCursor) (unbound : SpellEffect)
    (bound : CardId → SpellEffect)
    (hbound : ∀ id other, (bound id).named = (bound other).named →
      id = other) :
    ({ context with chosenTargets := others }.bind cursor unbound
        bound).1.named = (context.bind cursor unbound bound).1.named ↔
      TargetDraw.next.drawn others cursor.targetIndex =
        TargetDraw.next.drawn context.chosenTargets cursor.targetIndex := by
  rw [bind, bind, consumeNextTarget, consumeNextTarget, TargetDraw.drawn,
    TargetDraw.drawn, TargetDraw.toList_eq_iff]
  rcases next_cases hkinds cursor.targetIndex with
    ⟨hnone, hother⟩ | ⟨id, other, hid, hother, -⟩
  · rw [hnone, hother]
    exact iff_of_true rfl rfl
  · rw [hid, hother, Option.some_inj]
    exact ⟨hbound other id, fun heq => heq ▸ rfl⟩

theorem aim_named (cursor : TargetCursor) (untargeted : SpellEffect)
    (aimed : TargetRef → SpellEffect)
    (haimed : ∀ target other, (aimed target).named = (aimed other).named →
      target = other) :
    ({ context with chosenTargets := others }.aim cursor untargeted
        aimed).1.named = (context.aim cursor untargeted aimed).1.named ↔
      TargetDraw.next.drawn others cursor.targetIndex =
        TargetDraw.next.drawn context.chosenTargets cursor.targetIndex := by
  rw [aim, aim, consumeNextTarget, consumeNextTarget, TargetDraw.drawn,
    TargetDraw.drawn, TargetDraw.toList_eq_iff]
  rcases next_cases hkinds cursor.targetIndex with
    ⟨hnone, hother⟩ | ⟨id, other, hid, hother, -⟩
  · rw [hnone, hother]
    exact iff_of_true rfl rfl
  · rw [hid, hother, Option.some_inj]
    refine ⟨fun hnamed => ?_, fun heq => heq ▸ rfl⟩
    exact CardId.targetRef_injective (haimed _ _ hnamed)

/-- Only a player as a target of `SetLife` is named. -/
theorem setLife_named (now : GameState) (amount : Int32) {player : PlayerId}
    (hplayer : player.isPlaceholder = true) (cursor : TargetCursor) :
    ({ context with chosenTargets := others }.resolvePlayer now
        (.setLife amount) player cursor).1 =
        (context.resolvePlayer now (.setLife amount) player cursor).1 ↔
      TargetDraw.nextPlayer.drawn others cursor.targetIndex =
        TargetDraw.nextPlayer.drawn context.chosenTargets
          cursor.targetIndex := by
  rw [resolvePlayer, resolvePlayer, if_pos hplayer, if_pos hplayer,
    TargetDraw.drawn, TargetDraw.drawn, TargetDraw.toList_eq_iff]
  rcases next_cases hkinds cursor.targetIndex with
    ⟨hnone, hother⟩ | ⟨id, other, hid, hother, hkind⟩
  · rw [hnone, hother]
    exact iff_of_true rfl rfl
  · rw [hid, hother, Option.filter_some, Option.filter_some]
    rw [CardId.SameKind] at hkind
    dsimp only
    cases htarget : id.playerTarget? with
    | none =>
        rw [htarget, Option.isSome_none, eq_comm, Option.isSome_eq_false_iff,
          Option.isNone_iff_eq_none] at hkind
        rw [hkind]
        exact iff_of_true rfl rfl
    | some target =>
        rw [htarget, Option.isSome_some, eq_comm,
          Option.isSome_iff_exists] at hkind
        obtain ⟨again, hagain⟩ := hkind
        rw [hagain]
        refine ⟨fun heq => ?_, fun heq => ?_⟩
        · obtain rfl : again = target := heq
          exact congrArg some (CardId.playerTarget?_inj hagain htarget)
        · obtain rfl : other = id := Option.some.inj heq
          exact Option.some.inj (hagain.symm.trans htarget)

/-- A target that is looked for only by a placeholder. -/
theorem bindPlaceholder_named (target : CardId) (cursor : TargetCursor)
    (unbound : SpellEffect) (bound : CardId → SpellEffect)
    (hbound : ∀ id other, (bound id).named = (bound other).named →
      id = other) :
    (if target.isPlaceholder then
        { context with chosenTargets := others }.bind cursor unbound bound
      else (unbound, cursor)).1.named =
        (if target.isPlaceholder then context.bind cursor unbound bound
          else (unbound, cursor)).1.named ↔
      (if target.isPlaceholder then .next else TargetDraw.keep).drawn others
        cursor.targetIndex =
        (if target.isPlaceholder then .next else TargetDraw.keep).drawn
          context.chosenTargets cursor.targetIndex := by
  cases target.isPlaceholder with
  | false => exact iff_of_true rfl rfl
  | true => exact bind_named hkinds cursor unbound bound hbound

/-- The next target is looked at but not drawn. -/
theorem peek_named (target : CardId) (cursor : TargetCursor) :
    others[cursor.targetIndex]?.getD target =
        context.chosenTargets[cursor.targetIndex]?.getD target ↔
      TargetDraw.peek.drawn others cursor.targetIndex =
        TargetDraw.peek.drawn context.chosenTargets cursor.targetIndex := by
  rw [TargetDraw.drawn, TargetDraw.drawn, TargetDraw.toList_eq_iff]
  rcases next_cases hkinds cursor.targetIndex with
    ⟨hnone, hother⟩ | ⟨id, other, hid, hother, -⟩
  · rw [hnone, hother]
    exact iff_of_true rfl rfl
  · rw [hid, hother, Option.some_inj]
    rfl

end SpellContext

namespace SpellEffect

theorem permanent_inj {id other : CardId}
    (hnamed : [TargetRef.permanent id] = [TargetRef.permanent other]) :
    id = other :=
  TargetRef.permanent.inj (List.head_eq_of_cons_eq hnamed)

/-- Who pays for the copy of a spell names no other target. -/
theorem named_copiedBy (payer : UnlessPayer) (effect : SpellEffect) :
    named (match effect with
      | .copySpellAbility mayChooseTargets _ tag =>
          .copySpellAbility mayChooseTargets (some payer) tag
      | effect => effect) = effect.named := by
  cases effect <;> rfl

end SpellEffect

namespace ResolutionQueries

variable {context : SpellContext} {others : List CardId}

theorem resolveEffectTarget_wrapper (queries : ResolutionQueries)
    (now : GameState) (context : SpellContext) (inner : SpellEffect)
    (payer : UnlessPayer) (tag : Nat) (cursor : TargetCursor) :
    (queries.resolveEffectTarget now context
      (.unlessCostWrapper inner payer tag) cursor).1.named =
        (queries.resolveEffectTarget now context inner cursor).1.named :=
  SpellEffect.named_copiedBy (.resolved (resolvePayer now context
    (queries.resolveEffectTarget now context inner cursor).2 payer)) _

/-- Divided damage is for all targets that are left. -/
theorem resolveEffectTarget_divided (queries : ResolutionQueries)
    (now : GameState) (context : SpellContext) (amountEach : Int32)
    (cursor : TargetCursor) :
    (queries.resolveEffectTarget now context
      (.dealDamageDivided [] amountEach) cursor).1.named =
        (context.chosenTargets.drop cursor.targetIndex).map
          CardId.targetRef := by
  rw [resolveEffectTarget]
  split
  · next hempty =>
    rw [List.isEmpty_iff.mp hempty]
    rfl
  · rfl

/-- So is a loop over the targets, or it is for all of them again. -/
theorem resolveEffectTarget_repeatEach (queries : ResolutionQueries)
    (now : GameState) (context : SpellContext) (requireInGraveyard : Bool)
    (tag : Nat) (cursor : TargetCursor) :
    (queries.resolveEffectTarget now context
      (.repeatEachCard [] requireInGraveyard tag) cursor).1.named =
        (TargetDraw.restOrAll.drawn context.chosenTargets
          cursor.targetIndex).map .permanent := by
  rw [resolveEffectTarget, TargetDraw.drawn, List.isEmpty_nil, Bool.true_and]
  by_cases hnone : context.chosenTargets = []
  · rw [hnone]
    rfl
  · rw [if_pos (by simpa using hnone)]
    by_cases hleft : cursor.targetIndex < context.chosenTargets.length
    · rw [if_pos hleft, if_neg]
      · rfl
      · rw [List.isEmpty_iff, List.drop_eq_nil_iff]
        exact Nat.not_le_of_lt hleft
    · rw [if_neg hleft, if_pos]
      · rfl
      · rw [List.isEmpty_iff, List.drop_eq_nil_iff]
        exact Nat.le_of_not_lt hleft

/-- The last target is dealt damage by all others. -/
theorem resolveEffectTarget_eachDamage (queries : ResolutionQueries)
    (now : GameState) (context : SpellContext) {receiver : CardId}
    (hreceiver : receiver.isPlaceholder = true) (useCardPower : Bool)
    (fixedDamage : Int32) (cursor : TargetCursor) :
    (queries.resolveEffectTarget now context
      (.eachDamage [] receiver useCardPower fixedDamage) cursor).1.named =
        if context.chosenTargets = [] then [.permanent receiver]
        else context.chosenTargets.map .permanent := by
  rw [resolveEffectTarget, hreceiver]
  cases hlast : context.chosenTargets.getLast? with
  | none =>
      rw [if_pos (List.getLast?_eq_none_iff.mp hlast)]
      rfl
  | some last =>
      obtain ⟨damagers, htargets⟩ := List.getLast?_eq_some_iff.mp hlast
      rw [htargets, if_neg (List.concat_ne_nil last damagers),
        List.map_append]
      dsimp only
      rw [List.dropLast_concat]
      rfl

/-- The resolved effect names other targets just when others are drawn. -/
theorem resolveEffectTarget_named (queries : ResolutionQueries)
    (now : GameState) (hkinds : List.Forall₂ CardId.SameKind
      context.chosenTargets others) (effect : SpellEffect)
    (cursor : TargetCursor) :
    (queries.resolveEffectTarget now
        { context with chosenTargets := others } effect cursor).1.named =
        (queries.resolveEffectTarget now context effect cursor).1.named ↔
      (effect.draw cursor.lastResolvedTarget).drawn others
          cursor.targetIndex =
        (effect.draw cursor.lastResolvedTarget).drawn context.chosenTargets
          cursor.targetIndex := by
  cases effect with
  | dealDamage target amount =>
      cases target with
      | none =>
          exact SpellContext.aim_named hkinds cursor _ _
            fun _ _ => List.head_eq_of_cons_eq
      | player | permanent => exact iff_of_true rfl rfl
  | dealDamageDynamic target count =>
      cases target with
      | none =>
          exact SpellContext.aim_named hkinds cursor _ _
            fun _ _ => List.head_eq_of_cons_eq
      | player | permanent => exact iff_of_true rfl rfl
  | dealDamageXPaid target divide =>
      cases target with
      | none =>
          cases divide with
          | none =>
              exact SpellContext.aim_named hkinds cursor _ _
                fun _ _ => List.head_eq_of_cons_eq
          | evenlyRoundedDown => exact iff_of_true rfl rfl
      | player | permanent => exact iff_of_true rfl rfl
  | dealDamageDivided targets amountEach =>
      cases targets with
      | cons => exact iff_of_true rfl rfl
      | nil =>
          rw [resolveEffectTarget_divided, resolveEffectTarget_divided]
          exact (List.map_injective_iff.mpr
            CardId.targetRef_injective).eq_iff
  | eachDamage damagers receiver useCardPower fixedDamage =>
      cases damagers with
      | cons => exact iff_of_true rfl rfl
      | nil =>
          rw [SpellEffect.draw]
          by_cases hreceiver : receiver.isPlaceholder = true
          · rw [resolveEffectTarget_eachDamage _ _ _ hreceiver,
              resolveEffectTarget_eachDamage _ _ _ hreceiver,
              if_pos hreceiver]
            by_cases hnone : context.chosenTargets = []
            · have hother := hkinds
              rw [hnone, List.forall₂_nil_left_iff] at hother
              rw [hnone, hother]
              exact iff_of_true rfl rfl
            · have hother : others ≠ [] := by
                intro hother
                rw [hother, List.forall₂_nil_right_iff] at hkinds
                exact hnone hkinds
              rw [if_neg hnone, if_neg hother]
              exact (List.map_injective_iff.mpr fun _ _ =>
                TargetRef.permanent.inj).eq_iff
          · rw [resolveEffectTarget, resolveEffectTarget, if_neg hreceiver]
            rw [Bool.not_eq_true] at hreceiver
            rw [hreceiver]
            exact iff_of_true rfl rfl
  | preventDamage target amount =>
      cases target with
      | none =>
          exact SpellContext.bind_named hkinds cursor _ _
            fun _ _ => SpellEffect.permanent_inj
      | permanent card =>
          exact SpellContext.bindPlaceholder_named hkinds card cursor _ _
            fun _ _ => SpellEffect.permanent_inj
      | player => exact iff_of_true rfl rfl
  | onTarget effect target =>
      have hbind := SpellContext.bindPlaceholder_named hkinds target cursor
        (.onTarget effect target) (.onTarget effect)
        fun _ _ => SpellEffect.permanent_inj
      cases effect with
      | tapPermanent =>
          rw [resolveEffectTarget, resolveEffectTarget, SpellEffect.draw]
          split
          · next hreuse =>
            rw [not_placeholder_of_reuse hreuse]
            exact iff_of_true rfl rfl
          · exact hbind
      | untapPermanent =>
          rw [resolveEffectTarget, resolveEffectTarget, SpellEffect.draw]
          split
          · next hreuse =>
            rw [not_placeholder_of_reuse hreuse]
            exact iff_of_true rfl rfl
          · exact hbind
      | _ => exact hbind
  | onPlayer effect player =>
      cases effect with
      | setLife amount =>
          rw [resolveEffectTarget, resolveEffectTarget, SpellEffect.draw]
          split
          · next hplayer =>
            rw [← SpellContext.setLife_named hkinds now amount hplayer]
            refine ⟨fun hnamed => ?_, fun heq => ?_⟩
            · exact TargetRef.player.inj (List.head_eq_of_cons_eq hnamed)
            · exact congrArg (fun player => [TargetRef.player player]) heq
          · next hplayer =>
            rw [SpellContext.resolvePlayer, SpellContext.resolvePlayer,
              if_neg hplayer, if_neg hplayer]
            exact iff_of_true rfl rfl
      | _ => exact iff_of_true rfl rfl
  | gainControl target =>
      exact SpellContext.bindPlaceholder_named hkinds target cursor _ _
        fun _ _ => SpellEffect.permanent_inj
  | fight fighter target =>
      rw [resolveEffectTarget, resolveEffectTarget, SpellEffect.draw]
      by_cases hplaceholder : target.isPlaceholder = true
      · rw [if_pos hplaceholder, if_pos hplaceholder, if_pos hplaceholder]
        simp only [SpellContext.consumeNextTarget]
        rw [TargetDraw.drawn, TargetDraw.drawn, TargetDraw.toList_eq_iff]
        rcases SpellContext.next_cases hkinds cursor.targetIndex with
          ⟨hnone, hother⟩ | ⟨id, other, hid, hother, -⟩
        · rw [hnone, hother]
          exact iff_of_true rfl rfl
        · rw [hid, hother, Option.some_inj]
          refine ⟨fun hnamed => ?_, fun heq => heq ▸ rfl⟩
          exact SpellEffect.permanent_inj (List.tail_eq_of_cons_eq hnamed)
      · rw [if_neg hplaceholder, if_neg hplaceholder, if_neg hplaceholder]
        exact iff_of_true rfl rfl
  | copyPermanent target =>
      exact SpellContext.bindPlaceholder_named hkinds target cursor _ _
        fun _ _ => SpellEffect.permanent_inj
  | createDelayedTrigger target tag =>
      have hbind := SpellContext.bindPlaceholder_named hkinds target cursor
        (.createDelayedTrigger target tag)
        (.createDelayedTrigger · tag)
        fun _ _ => SpellEffect.permanent_inj
      rw [resolveEffectTarget, resolveEffectTarget, SpellEffect.draw]
      split
      · next hplaceholder =>
        simp only [if_pos hplaceholder] at hbind
        exact hbind
      · split <;> exact iff_of_true rfl rfl
  | unlessCostWrapper inner payer tag =>
      rw [resolveEffectTarget_wrapper, resolveEffectTarget_wrapper]
      exact resolveEffectTarget_named queries now hkinds inner cursor
  | repeatEachCard targets requireInGraveyard tag =>
      cases targets with
      | cons => exact iff_of_true rfl rfl
      | nil =>
          rw [resolveEffectTarget_repeatEach, resolveEffectTarget_repeatEach]
          exact (List.map_injective_iff.mpr fun _ _ =>
            TargetRef.permanent.inj).eq_iff
  | exileIfWouldDieThisTurn target =>
      rw [resolveEffectTarget, resolveEffectTarget, SpellEffect.draw]
      split
      · next hopen =>
        rw [hopen, Bool.true_and]
        cases cursor.lastResolvedTarget with
        | some previous => exact iff_of_true rfl rfl
        | none =>
            rw [Option.isNone_none, if_pos rfl,
              ← SpellContext.peek_named hkinds target]
            refine ⟨SpellEffect.permanent_inj, fun heq => ?_⟩
            exact congrArg (fun id => [TargetRef.permanent id]) heq
      · next hfilled =>
        rw [Bool.not_eq_true] at hfilled
        rw [hfilled, Bool.false_and]
        exact iff_of_true rfl rfl
  | _ => exact iff_of_true rfl rfl

end ResolutionQueries

theorem sameKind_set {targets : List CardId} {place : Nat}
    {id other : CardId} (hplace : targets[place]? = some id)
    (hkind : id.SameKind other) :
    List.Forall₂ CardId.SameKind targets (targets.set place other) := by
  rw [List.forall₂_iff_get]
  refine ⟨List.length_set.symm, fun index hindex hset => ?_⟩
  rw [List.get_eq_getElem, List.get_eq_getElem, List.getElem_set]
  split
  · next hsame =>
    subst hsame
    rw [List.getElem?_eq_getElem hindex] at hplace
    rw [Option.some.inj hplace]
    exact hkind
  · rfl

namespace SpellEffect

theorem repeatsTargets_iff (effect : SpellEffect) (last : Option CardId) :
    effect.repeatsTargets = true ↔ effect.draw last = .restOrAll := by
  have hkept (placeholder : Bool) (draw : TargetDraw)
      (hdraw : draw ≠ .restOrAll) :
      (if placeholder then draw else .keep) ≠ TargetDraw.restOrAll := by
    cases placeholder with
    | false => exact nofun
    | true => exact hdraw
  cases effect with
  | dealDamage target | dealDamageDynamic target =>
      cases target <;> exact iff_of_false nofun nofun
  | dealDamageXPaid target divide =>
      cases target <;> cases divide <;> exact iff_of_false nofun nofun
  | dealDamageDivided targets =>
      cases targets <;> exact iff_of_false nofun nofun
  | eachDamage damagers receiver =>
      cases damagers with
      | nil => exact iff_of_false nofun (hkept _ _ nofun)
      | cons => exact iff_of_false nofun nofun
  | preventDamage target =>
      cases target with
      | permanent card => exact iff_of_false nofun (hkept _ _ nofun)
      | none | player => exact iff_of_false nofun nofun
  | onPlayer effect player =>
      cases effect with
      | setLife => exact iff_of_false nofun (hkept _ _ nofun)
      | _ => exact iff_of_false nofun nofun
  | onTarget | gainControl | copyPermanent | createDelayedTrigger | fight
  | exileIfWouldDieThisTurn =>
      exact iff_of_false nofun (hkept _ _ nofun)
  | unlessCostWrapper inner => exact repeatsTargets_iff inner last
  | repeatEachCard targets =>
      cases targets with
      | nil => exact iff_of_true rfl rfl
      | cons => exact iff_of_false nofun nofun
  | _ => exact iff_of_false nofun nofun

/-- An effect moves on past what it draws. -/
theorem advance_draw (effect : SpellEffect) (last : Option CardId)
    {targets : List CardId} {index : Nat} (hindex : index ≤ targets.length) :
    effect.advance targets index =
      (effect.draw last).stop targets index := by
  have hrest : (if index < targets.length then targets.length else index) =
      targets.length := by
    split <;> omega
  have hnext (placeholder : Bool) :
      (if placeholder && index < targets.length then index + 1 else index) =
        (if placeholder then .next else TargetDraw.keep).stop targets
          index := by
    cases placeholder with
    | false => rfl
    | true => simp [TargetDraw.stop]
  cases effect with
  | dealDamage target | dealDamageDynamic target => cases target <;> rfl
  | dealDamageXPaid target divide => cases target <;> cases divide <;> rfl
  | dealDamageDivided targets =>
      cases targets with
      | nil => exact hrest
      | cons => rfl
  | eachDamage damagers receiver =>
      cases damagers with
      | nil =>
          rw [advance, draw]
          cases receiver.isPlaceholder with
          | false => rfl
          | true =>
              cases targets with
              | nil => exact Nat.le_zero.mp hindex
              | cons => rfl
      | cons => rfl
  | preventDamage target =>
      cases target with
      | permanent card => exact hnext _
      | none | player => rfl
  | onTarget _ target => exact hnext _
  | gainControl target | copyPermanent target | createDelayedTrigger target
  | fight _ target => exact hnext _
  | onPlayer effect player =>
      cases effect with
      | setLife =>
          rw [advance, draw]
          cases player.isPlaceholder <;> rfl
      | _ => rfl
  | unlessCostWrapper inner => exact advance_draw inner last hindex
  | repeatEachCard targets =>
      cases targets with
      | nil => exact hrest
      | cons => rfl
  | exileIfWouldDieThisTurn target =>
      rw [draw]
      split <;> rfl
  | _ => rfl

end SpellEffect

namespace ResolutionQueries

/-- What an effect takes is what it draws. -/
theorem takes_iff (queries : ResolutionQueries) (now : GameState)
    (context : SpellContext) (effect : SpellEffect) (cursor : TargetCursor)
    (place : Nat) :
    queries.Takes now context effect cursor place ↔
      place < context.chosenTargets.length ∧
        (effect.draw cursor.lastResolvedTarget).Covers context.chosenTargets
          cursor.targetIndex place := by
  constructor
  · rintro ⟨id, other, hplace, hkind, hnamed⟩
    refine ⟨(List.getElem?_eq_some_iff.mp hplace).1, ?_⟩
    have hne : id ≠ other := by
      rintro rfl
      obtain ⟨hlt, rfl⟩ := List.getElem?_eq_some_iff.mp hplace
      rw [List.set_getElem_self hlt] at hnamed
      exact hnamed rfl
    rw [Ne, queries.resolveEffectTarget_named now (sameKind_set hplace hkind),
      TargetDraw.drawn_set_iff _ hplace hkind hne, not_not] at hnamed
    exact hnamed
  · rintro ⟨hlt, hcovers⟩
    have hplace := List.getElem?_eq_getElem hlt
    obtain ⟨other, hkind, hne⟩ :=
      (context.chosenTargets[place]).exists_sameKind_ne
    refine ⟨_, other, hplace, hkind, ?_⟩
    rw [Ne, queries.resolveEffectTarget_named now (sameKind_set hplace hkind),
      TargetDraw.drawn_set_iff _ hplace hkind hne, not_not]
    exact hcovers

end ResolutionQueries

namespace SpellContext

variable (context : SpellContext)

theorem bind_damages (cursor : TargetCursor) (unbound : SpellEffect)
    (bound : CardId → SpellEffect)
    (hbound : ∀ id, (bound id).damages = unbound.damages) :
    (context.bind cursor unbound bound).1.damages = unbound.damages := by
  rw [bind, consumeNextTarget]
  cases context.chosenTargets[cursor.targetIndex]? with
  | none => rfl
  | some id => exact hbound id

theorem bindPlaceholder_damages (target : CardId) (cursor : TargetCursor)
    (unbound : SpellEffect) (bound : CardId → SpellEffect)
    (hbound : ∀ id, (bound id).damages = unbound.damages) :
    (if target.isPlaceholder then context.bind cursor unbound bound
      else (unbound, cursor)).1.damages = unbound.damages := by
  split
  · exact context.bind_damages cursor unbound bound hbound
  · rfl

theorem aim_damages (cursor : TargetCursor) (untargeted : SpellEffect)
    (aimed : TargetRef → SpellEffect)
    (haimed : ∀ target, (aimed target).damages = untargeted.damages) :
    (context.aim cursor untargeted aimed).1.damages = untargeted.damages := by
  rw [aim, consumeNextTarget]
  cases context.chosenTargets[cursor.targetIndex]? with
  | some id => exact haimed _
  | none =>
      cases context.opponentId with
      | none => rfl
      | some opponent => exact haimed _

end SpellContext

theorem SpellEffect.damages_copiedBy (payer : UnlessPayer)
    (effect : SpellEffect) :
    damages (match effect with
      | .copySpellAbility mayChooseTargets _ tag =>
          .copySpellAbility mayChooseTargets (some payer) tag
      | effect => effect) = effect.damages := by
  cases effect <;> rfl

theorem SpellEffect.damages_of_shields (effect : SpellEffect)
    (hshields : effect.shields = true) : effect.damages = true := by
  cases effect with
  | preventDamage => rfl
  | unlessCostWrapper inner => exact damages_of_shields inner hshields
  | _ => cases hshields

namespace ResolutionQueries

/-- Damage stays damage. -/
theorem resolveEffectTarget_damages (queries : ResolutionQueries)
    (now : GameState) (context : SpellContext) (effect : SpellEffect)
    (cursor : TargetCursor) :
    (queries.resolveEffectTarget now context effect cursor).1.damages =
      effect.damages := by
  cases effect with
  | dealDamage target | dealDamageDynamic target =>
      cases target with
      | none => exact context.aim_damages cursor _ _ fun _ => rfl
      | player | permanent => rfl
  | dealDamageXPaid target divide =>
      cases target with
      | none =>
          cases divide with
          | none => exact context.aim_damages cursor _ _ fun _ => rfl
          | evenlyRoundedDown => rfl
      | player | permanent => rfl
  | dealDamageDivided targets =>
      cases targets with
      | nil =>
          rw [resolveEffectTarget]
          split <;> rfl
      | cons => rfl
  | eachDamage damagers receiver =>
      cases damagers with
      | nil =>
          rw [resolveEffectTarget]
          split <;> rfl
      | cons => rfl
  | preventDamage target =>
      cases target with
      | none => exact context.bind_damages cursor _ _ fun _ => rfl
      | permanent card =>
          exact context.bindPlaceholder_damages card cursor _ _ fun _ => rfl
      | player => rfl
  | onTarget effect target =>
      have hbind := context.bindPlaceholder_damages target cursor
        (.onTarget effect target) (.onTarget effect) fun _ => rfl
      cases effect with
      | tapPermanent | untapPermanent =>
          rw [resolveEffectTarget]
          split
          · first
            | rfl
            | split <;> rfl
          · exact hbind
      | _ => exact hbind
  | gainControl target | copyPermanent target =>
      exact context.bindPlaceholder_damages target cursor _ _ fun _ => rfl
  | createDelayedTrigger target =>
      rw [resolveEffectTarget]
      split
      · exact context.bind_damages cursor _ _ fun _ => rfl
      · split <;> rfl
  | fight fighter target =>
      obtain ⟨first, second, after, hfight, -⟩ :=
        resolveEffectTarget_fight queries now context fighter target cursor
      rw [hfight]
      rfl
  | exileIfWouldDieThisTurn target =>
      rw [resolveEffectTarget]
      split <;> rfl
  | unlessCostWrapper inner payer tag =>
      exact (SpellEffect.damages_copiedBy (.resolved (resolvePayer now context
        (queries.resolveEffectTarget now context inner cursor).2 payer))
        _).trans (resolveEffectTarget_damages queries now context inner cursor)
  | repeatEachCard targets =>
      cases targets with
      | nil =>
          rw [resolveEffectTarget]
          split
          · dsimp only
            split <;> rfl
          · rfl
      | cons => rfl
  | _ => rfl

end ResolutionQueries

/-- The players among the drawn targets are named as players. -/
def TargetDraw.Decodes (targets : List CardId) (index : Nat)
    (resolved : SpellEffect) (draw : TargetDraw) : Prop :=
  ∀ place id player, draw.Covers targets index place →
    targets[place]? = some id → id.playerTarget? = some player →
    resolved.damages → .player player ∈ resolved.named

theorem CardId.targetRef_of_player {id : CardId} {player : PlayerId}
    (hplayer : id.playerTarget? = some player) :
    id.targetRef = .player player := by
  rw [targetRef, hplayer]

namespace SpellContext

variable (context : SpellContext)

theorem aim_decodes (cursor : TargetCursor) (untargeted : SpellEffect)
    (aimed : TargetRef → SpellEffect)
    (haimed : ∀ target, target ∈ (aimed target).named) :
    TargetDraw.next.Decodes context.chosenTargets cursor.targetIndex
      (context.aim cursor untargeted aimed).1 := by
  rintro _ id player rfl hid hplayer -
  rw [aim, consumeNextTarget, hid, ← CardId.targetRef_of_player hplayer]
  exact haimed _

/-- A shield protects the next target as a card. -/
theorem shield_decodes (cursor : TargetCursor) (unbound : SpellEffect)
    (amount : Int32) :
    TargetDraw.next.Decodes context.chosenTargets cursor.targetIndex
        (context.bind cursor unbound fun id =>
          .preventDamage (.permanent id) amount).1 ↔
      ∀ id, context.chosenTargets[cursor.targetIndex]? = some id →
        id.playerTarget? = none := by
  rw [bind, consumeNextTarget]
  constructor
  · intro hdecodes id hid
    rw [hid] at hdecodes
    cases hplayer : id.playerTarget? with
    | none => rfl
    | some player =>
        have hnamed := hdecodes _ id player rfl hid hplayer rfl
        cases List.mem_singleton.mp hnamed
  · rintro hcards _ id player rfl hid hplayer
    rw [hcards id hid] at hplayer
    cases hplayer

end SpellContext

namespace ResolutionQueries

theorem decodes_iff (queries : ResolutionQueries) (now : GameState)
    (context : SpellContext) (effect : SpellEffect) (cursor : TargetCursor) :
    (effect.draw cursor.lastResolvedTarget).Decodes context.chosenTargets
        cursor.targetIndex
        (queries.resolveEffectTarget now context effect cursor).1 ↔
      (effect.shields → ∀ id,
        context.chosenTargets[cursor.targetIndex]? = some id →
          id.playerTarget? = none) := by
  have hkeep (resolved : SpellEffect) : TargetDraw.keep.Decodes
      context.chosenTargets cursor.targetIndex resolved :=
    fun _ _ _ hcovers => hcovers.elim
  have hfixed {held : Prop} (hshields : false = true) : held :=
    absurd hshields Bool.false_ne_true
  by_cases hdamages : effect.damages = true
  · cases effect with
    | dealDamage target | dealDamageDynamic target =>
        cases target with
        | none =>
            exact iff_of_true (context.aim_decodes cursor _ _
              fun _ => List.mem_cons_self) hfixed
        | player | permanent => exact iff_of_true (hkeep _) hfixed
    | dealDamageXPaid target divide =>
        cases target with
        | none =>
            cases divide with
            | none =>
                exact iff_of_true (context.aim_decodes cursor _ _
                  fun _ => List.mem_cons_self) hfixed
            | evenlyRoundedDown => exact iff_of_true (hkeep _) hfixed
        | player | permanent => exact iff_of_true (hkeep _) hfixed
    | dealDamageDivided targets =>
        cases targets with
        | nil =>
            refine iff_of_true ?_ hfixed
            intro place id player hcovers hid hplayer _
            rw [resolveEffectTarget_divided,
              ← CardId.targetRef_of_player hplayer]
            apply List.mem_map_of_mem
            rw [List.mem_iff_getElem?]
            refine ⟨place - cursor.targetIndex, ?_⟩
            rw [List.getElem?_drop, Nat.add_sub_cancel' hcovers]
            exact hid
        | cons => exact iff_of_true (hkeep _) hfixed
    | preventDamage target amount =>
        cases target with
        | none =>
            refine (context.shield_decodes cursor _ amount).trans ?_
            exact ⟨fun hcards _ => hcards, fun hcards => hcards rfl⟩
        | permanent card =>
            rw [resolveEffectTarget, SpellEffect.draw, SpellEffect.shields]
            cases card.isPlaceholder with
            | false => exact iff_of_true (hkeep _) hfixed
            | true =>
                refine (context.shield_decodes cursor _ amount).trans ?_
                exact ⟨fun hcards _ => hcards, fun hcards => hcards rfl⟩
        | player => exact iff_of_true (hkeep _) hfixed
    | unlessCostWrapper inner payer tag =>
        have hsame : (queries.resolveEffectTarget now context
            (.unlessCostWrapper inner payer tag) cursor).1.damages =
              (queries.resolveEffectTarget now context inner
                cursor).1.damages := by
          rw [resolveEffectTarget_damages, resolveEffectTarget_damages]
          rfl
        rw [SpellEffect.shields,
          ← decodes_iff queries now context inner cursor, TargetDraw.Decodes,
          TargetDraw.Decodes, resolveEffectTarget_wrapper, hsame,
          SpellEffect.draw]
    | _ => cases hdamages
  · refine iff_of_true ?_ ?_
    · intro place id player _ _ _ hresolved
      rw [resolveEffectTarget_damages] at hresolved
      exact absurd hresolved hdamages
    · intro hshields
      exact absurd (effect.damages_of_shields hshields) hdamages

end ResolutionQueries

/-- What is drawn lies between the cursors, unless all targets are drawn, or
the next one is only looked at. -/
theorem TargetDraw.covers_iff (draw : TargetDraw) {targets : List CardId}
    {index : Nat} (hindex : index ≤ targets.length) :
    (∀ place, place < targets.length ∧ draw.Covers targets index place ↔
      (index ≤ place ∧ place < draw.stop targets index) ∨
        draw = .restOrAll ∧ place < targets.length ∧
          index = targets.length) ↔
      (draw = .peek → targets.length ≤ index) ∧ (draw = .all → index = 0) := by
  cases draw with
  | keep =>
      refine iff_of_true (fun place => ?_) ⟨nofun, nofun⟩
      simp [Covers, stop]
  | next =>
      refine iff_of_true (fun place => ?_) ⟨nofun, nofun⟩
      simp only [Covers, stop, reduceCtorEq, false_and, or_false]
      split <;> omega
  | nextPlayer =>
      refine iff_of_true (fun place => ?_) ⟨nofun, nofun⟩
      simp only [Covers, stop, reduceCtorEq, false_and, or_false]
      split
      · next hplayer =>
        have hlt : index < targets.length := by
          by_contra hge
          rw [List.getElem?_eq_none (Nat.le_of_not_lt hge)] at hplayer
          cases hplayer
        simp only [hplayer, and_true]
        omega
      · next hcard =>
        exact iff_of_false (fun hplace => hcard hplace.2.2) (by omega)
  | rest =>
      refine iff_of_true (fun place => ?_) ⟨nofun, nofun⟩
      simp only [Covers, stop, reduceCtorEq, false_and, or_false]
      exact and_comm
  | restOrAll =>
      refine iff_of_true (fun place => ?_) ⟨nofun, nofun⟩
      simp only [Covers, stop, true_and]
      omega
  | all =>
      simp only [Covers, stop, reduceCtorEq, false_and, or_false, and_true,
        false_imp_iff, true_imp_iff, true_and]
      constructor
      · intro hall
        by_contra hne
        have hfirst := (hall 0).mp (by omega)
        omega
      · rintro rfl place
        omega
  | peek =>
      simp only [Covers, stop, reduceCtorEq, false_and, or_false,
        false_imp_iff, true_imp_iff, and_true]
      constructor
      · intro hpeek
        by_contra hlt
        have hnext := (hpeek index).mp ⟨Nat.lt_of_not_le hlt, rfl⟩
        omega
      · intro hend place
        omega

/-- The next target stays one of the chosen ones, or the end. -/
theorem TargetDraw.stop_bounds (draw : TargetDraw) {targets : List CardId}
    {index : Nat} (hindex : index ≤ targets.length) :
    index ≤ draw.stop targets index ∧
      draw.stop targets index ≤ targets.length := by
  cases draw with
  | keep | peek => exact ⟨Nat.le_refl _, hindex⟩
  | next =>
      rw [stop]
      split <;> omega
  | nextPlayer =>
      rw [stop]
      split
      · next hplayer =>
        obtain ⟨player, hplayer⟩ := Option.isSome_iff_exists.mp hplayer
        obtain ⟨id, hid, -⟩ := Option.bind_eq_some_iff.mp hplayer
        exact ⟨Nat.le_succ _, (List.getElem?_eq_some_iff.mp hid).1⟩
      · exact ⟨Nat.le_refl _, hindex⟩
  | rest | restOrAll | all => exact ⟨hindex, Nat.le_refl _⟩

namespace ResolutionQueries

variable (queries : ResolutionQueries) (context : SpellContext)

theorem targetIndex_draw (now : GameState) (effect : SpellEffect)
    {cursor : TargetCursor}
    (hcursor : cursor.targetIndex ≤ context.chosenTargets.length) :
    (queries.resolveEffectTarget now context effect cursor).2.targetIndex =
      (effect.draw cursor.lastResolvedTarget).stop context.chosenTargets
        cursor.targetIndex :=
  (queries.resolveEffectTarget_targetIndex now context effect cursor).trans
    (effect.advance_draw cursor.lastResolvedTarget hcursor)

theorem handsOut_iff (now : GameState) (effect : SpellEffect)
    {cursor : TargetCursor}
    (hcursor : cursor.targetIndex ≤ context.chosenTargets.length) :
    queries.HandsOut now context effect cursor ↔
      effect.Orderly context.chosenTargets cursor := by
  have hindex := queries.targetIndex_draw context now effect hcursor
  have hbounds := (effect.draw cursor.lastResolvedTarget).stop_bounds hcursor
  have hcovers := (effect.draw cursor.lastResolvedTarget).covers_iff hcursor
  rw [← hindex] at hbounds hcovers
  simp only [← queries.takes_iff now context effect,
    ← effect.repeatsTargets_iff] at hcovers
  have hdecodes := queries.decodes_iff now context effect cursor
  constructor
  · intro hands
    have horder := hcovers.mp hands.takes
    refine ⟨horder.1, horder.2, hdecodes.mp ?_⟩
    intro place id player hplace hid hplayer
    exact hands.decodes place id player ((queries.takes_iff _ _ _ _ _).mpr
      ⟨(List.getElem?_eq_some_iff.mp hid).1, hplace⟩) hid hplayer
  · intro horderly
    refine ⟨hbounds.1, hbounds.2,
      hcovers.mpr ⟨horderly.peeks, horderly.starts⟩, ?_⟩
    intro place id player htakes
    exact hdecodes.mpr horderly.shields place id player
      ((queries.takes_iff _ _ _ _ _).mp htakes).2

theorem cursorAfter_concat (steps : List (GameState × SpellEffect))
    (game : GameState) (effect : SpellEffect) :
    queries.cursorAfter context (steps ++ [(game, effect)]) =
      (queries.resolveEffectTarget game context effect
        (queries.cursorAfter context steps)).2 := by
  rw [cursorAfter, List.foldl_append]
  rfl

theorem cursorAfter_le (steps : List (GameState × SpellEffect)) :
    (queries.cursorAfter context steps).targetIndex ≤
      context.chosenTargets.length := by
  induction steps using List.reverseRecOn with
  | nil => exact Nat.zero_le _
  | append_singleton steps step ih =>
      rw [cursorAfter_concat, targetIndex_draw queries context _ _ ih]
      exact (TargetDraw.stop_bounds _ ih).2

/-- A target index never goes back. -/
theorem cursorAfter_mono (steps between : List (GameState × SpellEffect)) :
    (queries.cursorAfter context steps).targetIndex ≤
      (queries.cursorAfter context (steps ++ between)).targetIndex := by
  induction between using List.reverseRecOn with
  | nil => rw [List.append_nil]
  | append_singleton between step ih =>
      have hle := queries.cursorAfter_le context (steps ++ between)
      rw [← List.append_assoc, cursorAfter_concat,
        targetIndex_draw queries context _ _ hle]
      exact ih.trans (TargetDraw.stop_bounds _ hle).1

/-- The targets are handed out in order and as what they are just when no
effect meets what it must not. -/
theorem handsOutInOrder_iff (steps : List (GameState × SpellEffect)) :
    queries.HandsOutInOrder context steps ↔
      ∀ before game effect after,
        steps = before ++ (game, effect) :: after →
          effect.Orderly context.chosenTargets
            (queries.cursorAfter context before) := by
  have hstep (before : List (GameState × SpellEffect)) (game : GameState)
      (effect : SpellEffect) := queries.handsOut_iff context game effect
        (queries.cursorAfter_le context before)
  constructor
  · intro hands before game effect after hsteps
    exact (hstep before game effect).mp
      (hands.each before game effect after hsteps)
  · intro horderly
    have heach : ∀ before game effect after,
        steps = before ++ (game, effect) :: after →
          queries.HandsOut game context effect
            (queries.cursorAfter context before) :=
      fun before game effect after hsteps => (hstep before game effect).mpr
        (horderly before game effect after hsteps)
    refine ⟨heach, ?_⟩
    intro before game effect between later again after hsteps index hfirst
      hsecond
    have hbefore := heach before game effect
      (between ++ (later, again) :: after)
      (by rw [hsteps, List.append_assoc]; rfl)
    rcases ((heach _ later again after hsteps).takes index).mp hsecond with
      ⟨hlater, -⟩ | ⟨hrepeats, -⟩
    · have hmono := queries.cursorAfter_mono context
        (before ++ [(game, effect)]) between
      rw [cursorAfter_concat, List.append_assoc] at hmono
      have hlate := hmono.trans hlater
      rcases (hbefore.takes index).mp hfirst with
        ⟨-, hearly⟩ | ⟨-, hlt, hend⟩
      · exact absurd hearly (Nat.not_lt_of_le hlate)
      · have hadvances := hbefore.advances
        omega
    · exact hrepeats

/-- Two players at the start of a game. -/
def twoPlayers : GameState where
  players := [{ id := ⟨0⟩ }, { id := ⟨1⟩ }]
  turn := { activePlayer := ⟨0⟩ }

/-- What a spell of player 0 with this one target is resolved with. -/
def aimedAt (target : CardId) : SpellContext where
  chosenTargets := [target]
  cardOwner := ⟨0⟩
  opponentId := some ⟨1⟩
  sourceCardId := none

/-- A shield for player 1 is a shield for a card, and a creature that is to be
exiled if it dies is still there for the next effect. -/
theorem not_handsOutInOrder :
    ¬ SpellMethods.idle.HandsOutInOrder (aimedAt ⟨4294966296⟩)
        [(twoPlayers, .preventDamage .none 3)] ∧
      ¬ SpellMethods.idle.HandsOutInOrder (aimedAt ⟨5⟩)
        [(twoPlayers, .exileIfWouldDieThisTurn ⟨0⟩),
          (twoPlayers, .onTarget .tapPermanent ⟨0⟩)] := by
  constructor
  · intro hands
    have hdecodes := (hands.each [] _ _ [] rfl).decodes 0 ⟨4294966296⟩ ⟨1⟩
      ⟨_, ⟨4294966297⟩, rfl, rfl, by decide⟩ rfl rfl rfl
    revert hdecodes
    decide
  · intro hands
    have htwice := hands.once [] _ _ [] _ _ [] rfl 0
      ⟨_, ⟨6⟩, rfl, rfl, by decide⟩ ⟨_, ⟨6⟩, rfl, rfl, by decide⟩
    cases htwice

end ResolutionQueries

end DeepScry
