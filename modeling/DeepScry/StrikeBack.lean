/-
Which blockers strike back: the damage of the blockers of an attacker is dealt
in the attacker's own turn of the second pass, after everything that may end
that turn early.
-/
import DeepScry.CombatFrame
import DeepScry.CombatPass
import DeepScry.CombatStep

namespace DeepScry

open SortedMap

namespace GameState

variable (effects : StaticEffects) (firstStrikeStep : Bool)

/-- The damage one blocker deals back, if any. -/
def strikeBackOf (game : GameState) (attacker blocker : CardId) :
    Option CreatureHit :=
  (game.getCard blocker).bind fun card =>
    if !game.zones.battlefield.contains blocker then none
    else if !game.dealsDamageThisStep effects firstStrikeStep blocker ||
        card.preventAllCombatDamageThisTurn ||
        game.combatDamagePrevented attacker then none
    else if 0 < game.combatPower effects blocker card then
      if game.isColorPreventedByAura attacker blocker then none
      else
        some ⟨blocker, attacker, game.combatPower effects blocker card,
          game.hasKeywordWithEffects effects blocker .deathtouch⟩
    else none

/-- The blockers of an attacker that strike back. -/
def strikeBacksOf (game : GameState) (attacker : CardId) : List CreatureHit :=
  (game.combat.getBlockers attacker).filterMap
    (game.strikeBackOf effects firstStrikeStep attacker)

/-- Every creature declared in this combat has its card. -/
structure CombatPresent (game : GameState) : Prop where
  attackers : ∀ attacker ∈ game.combat.attackerIds,
    (game.getCard attacker).isSome = true
  blockers : ∀ attacker, ∀ blocker ∈ game.combat.getBlockers attacker,
    (game.getCard blocker).isSome = true

/-- What is left of the power after the assigned damage, leaving out the
blockers that an aura protects. -/
def leftAfter (game : GameState) (attacker : CardId) :
    Int32 → Assignment → Int32
  | remaining, [] => remaining
  | remaining, (blocker, damage) :: rest =>
      leftAfter game attacker
        (if 0 < damage && !game.isColorPreventedByAura blocker attacker then
          remaining - damage else remaining) rest

/-- The shields of the defending player stop all of the trample damage that an
assignment leaves. -/
def TrampleStopped (game : GameState) (attacker : CardId) (power : Int32)
    (assignments : Assignment) : Prop :=
  ∃ player, game.combat.getDefendingPlayer attacker = some player ∧
    game.hasKeywordWithEffects effects attacker .trample = true ∧
    0 < game.leftAfter attacker power assignments ∧
    (game.applySourcePreventionShields player (some attacker)
      (game.leftAfter attacker power assignments)).2 ≤ 0

/-- The attacker deals damage in the step, and its turn in the second pass is
not cut short. -/
structure Engages (game : GameState) (plan : DamageAssignmentPlan)
    (attacker : CardId) (card : Card) : Prop where
  there : game.zones.battlefield.contains attacker = true
  strikes : game.dealsDamageThisStep effects firstStrikeStep attacker = true
  unprevented : card.preventAllCombatDamageThisTurn = false
  positive : 0 < game.combatPower effects attacker card
  unstopped : ∀ assignments, lookup plan attacker = some assignments →
    ¬game.TrampleStopped effects attacker
      (game.combatPower effects attacker card) assignments

section Exchange

variable (game : GameState)

theorem SameBoard.strikeBackOf {other : GameState}
    (hsame : game.SameBoard other) (attacker blocker : CardId) :
    other.strikeBackOf effects firstStrikeStep attacker blocker =
      game.strikeBackOf effects firstStrikeStep attacker blocker := by
  simp only [GameState.strikeBackOf, hsame.getCard, hsame.zones,
    hsame.dealsDamageThisStep, hsame.combatDamagePrevented, hsame.combatPower,
    hsame.isColorPreventedByAura, hsame.hasKeywordWithEffects]

/-- All blockers that can strike back do. -/
theorem strikeBack_eq (attacker : CardId) {blockers : List CardId}
    (hpresent : ∀ blocker ∈ blockers, (game.getCard blocker).isSome = true) :
    (strikeBack effects firstStrikeStep attacker game blockers).2 =
      .ok (blockers.filterMap
        (game.strikeBackOf effects firstStrikeStep attacker)) := by
  induction blockers generalizing game with
  | nil => rfl
  | cons blocker rest ih =>
      obtain ⟨hblocker, hrest⟩ := List.forall_mem_cons.mp hpresent
      obtain ⟨card, hcard⟩ := Option.isSome_iff_exists.mp hblocker
      have hlater := ih game hrest
      have hreported := ih game.message hrest
      have hsame (other : CardId) :=
        game.sameBoard_message.strikeBackOf effects firstStrikeStep game
          attacker other
      simp only [hsame] at hreported
      rw [strikeBack, List.filterMap_cons, strikeBackOf, hcard,
        Option.bind_some]
      simp only
      split
      · exact hlater
      · split
        · exact hlater
        · split
          · split
            · exact hreported
            · generalize strikeBack effects firstStrikeStep attacker
                game.message rest = struck at hreported
              obtain ⟨struckGame, result⟩ := struck
              cases hreported
              rfl
          · exact hlater

theorem finishExchange_eq (attacker : CardId) (record : DamageRecord)
    (hpresent : ∀ blocker ∈ game.combat.getBlockers attacker,
      (game.getCard blocker).isSome = true) :
    (game.finishExchange effects firstStrikeStep attacker record).2 =
      .ok { record with
        strikeBacks := game.strikeBacksOf effects firstStrikeStep attacker }
        := by
  have hstruck := game.strikeBack_eq effects firstStrikeStep attacker hpresent
  rw [finishExchange]
  generalize strikeBack effects firstStrikeStep attacker game _ = struck
    at hstruck
  obtain ⟨struckGame, result⟩ := struck
  cases hstruck
  rfl

theorem SameBoard.leftAfter {other : GameState}
    (hsame : game.SameBoard other) (attacker : CardId) (remaining : Int32)
    (assignments : Assignment) :
    other.leftAfter attacker remaining assignments =
      game.leftAfter attacker remaining assignments := by
  induction assignments generalizing remaining with
  | nil => rfl
  | cons entry rest ih =>
      rw [GameState.leftAfter, GameState.leftAfter, ih,
        hsame.isColorPreventedByAura]

theorem dealAssigned_left (attacker : CardId) (deathtouch : Bool)
    (remaining : Int32) (assignments : Assignment) :
    (dealAssigned attacker deathtouch game remaining assignments).2.1 =
      game.leftAfter attacker remaining assignments := by
  induction assignments generalizing game remaining with
  | nil => rfl
  | cons entry rest ih =>
      obtain ⟨blocker, damage⟩ := entry
      have hreported (remaining : Int32) :=
        (ih game.message remaining).trans
          (game.sameBoard_message.leftAfter game attacker remaining rest)
      rw [dealAssigned, leftAfter]
      by_cases hdamage : 0 < damage
      · cases hcolor : game.isColorPreventedByAura blocker attacker with
        | true => simpa [hdamage] using hreported remaining
        | false => simpa [hdamage] using hreported (remaining - damage)
      · simpa [hdamage] using ih game remaining

theorem dealInOrder_ok (attacker : CardId) (deathtouch trample alone : Bool)
    (remaining : Int32) {blockers : List CardId}
    (hpresent : ∀ blocker ∈ blockers, (game.getCard blocker).isSome = true) :
    ∃ dealt, (dealInOrder attacker deathtouch trample alone game remaining
      blockers).2 = .ok dealt := by
  induction blockers generalizing game remaining with
  | nil => exact ⟨_, rfl⟩
  | cons blocker rest ih =>
      obtain ⟨hblocker, hrest⟩ := List.forall_mem_cons.mp hpresent
      obtain ⟨card, hcard⟩ := Option.isSome_iff_exists.mp hblocker
      rw [dealInOrder, hcard]
      simp only
      generalize (if (alone && !trample) = true then remaining
        else min remaining _) = damage
      split
      · exact ⟨_, rfl⟩
      · split
        · split
          · exact ih game.message (remaining - damage) hrest
          · obtain ⟨dealt, hdealt⟩ :=
              ih game.message (remaining - damage) hrest
            generalize dealInOrder attacker deathtouch trample alone
              game.message (remaining - damage) rest = later at hdealt
            obtain ⟨laterGame, result⟩ := later
            cases hdealt
            exact ⟨_, rfl⟩
        · exact ih game remaining hrest

/-- Messages do not decide what the shields let through. -/
theorem applySourcePreventionShields_logger (logger : GameLogger)
    (target : PlayerId) (source : Option CardId) (amount : Int32) :
    ({ game with logger := logger }.applySourcePreventionShields target source
      amount).2 =
      (game.applySourcePreventionShields target source amount).2 := by
  rw [applySourcePreventionShields.eq_def, applySourcePreventionShields.eq_def]
  split
  · rfl
  · split
    · rfl
    · have hplayer : { game with logger := logger }.getPlayer target =
          game.getPlayer target := rfl
      rw [hplayer]
      split
      · rfl
      · split
        · rfl
        · rfl

theorem SameBoard.strikeBacksOf {other : GameState}
    (hsame : game.SameBoard other) (attacker : CardId) :
    other.strikeBacksOf effects firstStrikeStep attacker =
      game.strikeBacksOf effects firstStrikeStep attacker := by
  have hhits : other.strikeBackOf effects firstStrikeStep attacker =
      game.strikeBackOf effects firstStrikeStep attacker := by
    funext blocker
    exact hsame.strikeBackOf effects firstStrikeStep game attacker blocker
  rw [GameState.strikeBacksOf, hsame.combat, hhits, GameState.strikeBacksOf]

/-- `finish_exchange` from a game that looks the same. -/
theorem SameBoard.finishExchange {other : GameState}
    (hsame : game.SameBoard other) (attacker : CardId) (record : DamageRecord)
    (hpresent : ∀ blocker ∈ game.combat.getBlockers attacker,
      (game.getCard blocker).isSome = true) :
    (other.finishExchange effects firstStrikeStep attacker record).2 =
      .ok { record with
        strikeBacks := game.strikeBacksOf effects firstStrikeStep attacker } := by
  have hother := other.finishExchange_eq effects firstStrikeStep attacker
    record (by
      intro blocker hblocker
      rw [hsame.combat] at hblocker
      rw [hsame.getCard]
      exact hpresent blocker hblocker)
  rw [hother, hsame.strikeBacksOf]

theorem hitPlayer_eq_none_iff (attacker : CardId) (player : PlayerId)
    (amount : Int32) :
    (game.hitPlayer attacker player amount).2 = none ↔
      (game.applySourcePreventionShields player (some attacker) amount).2 ≤ 0 := by
  rw [hitPlayer]
  simp only
  split
  · next hle => simp [hle]
  · next hgt => simp [hgt]

theorem exchangePlanned_strikeBacks (attacker : CardId) (power : Int32)
    (assignments : Assignment)
    (hpresent : ∀ blocker ∈ game.combat.getBlockers attacker,
      (game.getCard blocker).isSome = true) :
    ∃ record, (game.exchangePlanned effects firstStrikeStep attacker power
        assignments).2 = .ok record ∧
      (¬game.TrampleStopped effects attacker power assignments →
        record.strikeBacks =
          game.strikeBacksOf effects firstStrikeStep attacker) ∧
      (game.TrampleStopped effects attacker power assignments →
        record.strikeBacks = []) := by
  have hleft := game.dealAssigned_left attacker
    (game.hasKeywordWithEffects effects attacker .deathtouch) power
    assignments
  obtain ⟨logger, hdealt⟩ := game.dealAssigned_frame attacker
    (game.hasKeywordWithEffects effects attacker .deathtouch) power
    assignments
  rw [exchangePlanned]
  generalize dealAssigned attacker _ game power assignments = dealt
    at hdealt hleft
  obtain ⟨dealtGame, left, hits⟩ := dealt
  simp only at hdealt hleft
  subst hdealt hleft
  have hsame := game.sameBoard_logger logger
  have hfinish (record : DamageRecord) :=
    hsame.finishExchange effects firstStrikeStep game attacker record hpresent
  simp only
  split
  · next htrample =>
    obtain ⟨htrample, hpositive⟩ := Bool.and_eq_true_iff.mp htrample
    have hpositive := of_decide_eq_true hpositive
    cases hplayer : game.combat.getDefendingPlayer attacker with
    | none =>
        refine ⟨_, hfinish _, fun _ => rfl, ?_⟩
        rintro ⟨player, hsome, -⟩
        rw [hplayer] at hsome
        cases hsome
    | some player =>
        have hhit := hsame.trans (hitPlayer_sameBoard _ attacker player
          (game.leftAfter attacker power assignments))
        have hstopped := (hitPlayer_eq_none_iff { game with logger := logger }
          attacker player (game.leftAfter attacker power assignments)).trans
            (by rw [applySourcePreventionShields_logger])
        simp only
        generalize hitPlayer _ attacker player _ = hit at hhit hstopped
        rcases hit with ⟨hitGame, _ | playerHit⟩
        · refine ⟨_, rfl, ?_, fun _ => rfl⟩
          intro hnot
          exact absurd ⟨player, hplayer, htrample, hpositive,
            hstopped.mp rfl⟩ hnot
        · refine ⟨_, hhit.finishExchange effects firstStrikeStep game attacker
            _ hpresent, fun _ => rfl, ?_⟩
          rintro ⟨other, hother, -, -, hle⟩
          obtain rfl := Option.some.inj (hplayer.symm.trans hother)
          cases hstopped.mpr hle
  · next hnone =>
    refine ⟨_, hfinish _, fun _ => rfl, ?_⟩
    rintro ⟨player, -, htrample, hpositive, -⟩
    exact absurd (Bool.and_eq_true_iff.mpr
      ⟨htrample, decide_eq_true hpositive⟩) hnone

theorem exchangeSimple_strikeBacks (attacker : CardId) (power : Int32)
    (hpresent : ∀ blocker ∈ game.combat.getBlockers attacker,
      (game.getCard blocker).isSome = true) :
    ∃ record, (game.exchangeSimple effects firstStrikeStep attacker
        power).2 = .ok record ∧
      record.strikeBacks =
        game.strikeBacksOf effects firstStrikeStep attacker := by
  obtain ⟨logger, hdealt⟩ := game.dealInOrder_frame attacker
    (game.hasKeywordWithEffects effects attacker .deathtouch)
    (game.hasKeywordWithEffects effects attacker .trample)
    ((game.combat.getBlockers attacker).length == 1) power
    (game.combat.getBlockers attacker)
  obtain ⟨⟨left, hits⟩, hok⟩ := game.dealInOrder_ok attacker
    (game.hasKeywordWithEffects effects attacker .deathtouch)
    (game.hasKeywordWithEffects effects attacker .trample)
    ((game.combat.getBlockers attacker).length == 1) power hpresent
  rw [exchangeSimple]
  generalize dealInOrder attacker _ _ _ game power _ = dealt at hdealt hok
  obtain ⟨dealtGame, result⟩ := dealt
  simp only at hdealt hok
  subst hdealt hok
  have hsame := game.sameBoard_logger logger
  simp only
  split
  · split
    · exact ⟨_, (hsame.trans (sameBoard_message _)).finishExchange effects
        firstStrikeStep game attacker _ hpresent, rfl⟩
    · exact ⟨_, hsame.finishExchange effects firstStrikeStep game attacker _
        hpresent, rfl⟩
  · exact ⟨_, hsame.finishExchange effects firstStrikeStep game attacker _
      hpresent, rfl⟩

theorem strikePlayer_strikeBacks (attacker : CardId) (power : Int32) :
    ∃ record, (game.strikePlayer attacker power).2 = .ok record ∧
      record.strikeBacks = [] := by
  rw [strikePlayer]
  split
  · exact ⟨_, rfl, rfl⟩
  · exact ⟨_, rfl, rfl⟩

/-- The blockers strike back exactly when the attacker engages. -/
theorem exchange_strikeBacks (plan : DamageAssignmentPlan) {attacker : CardId}
    {card : Card} (hcard : game.getCard attacker = some card)
    (hpresent : ∀ blocker ∈ game.combat.getBlockers attacker,
      (game.getCard blocker).isSome = true) :
    ∃ record, (game.exchange effects firstStrikeStep plan attacker).2 =
        .ok record ∧
      (game.Engages effects firstStrikeStep plan attacker card →
        record.strikeBacks =
          game.strikeBacksOf effects firstStrikeStep attacker) ∧
      (¬game.Engages effects firstStrikeStep plan attacker card →
        record.strikeBacks = []) := by
  rw [exchange]
  split
  · next hgone =>
    refine ⟨_, rfl, ?_, fun _ => rfl⟩
    intro hengages
    rw [hengages.there] at hgone
    cases hgone
  · next hthere =>
    rw [hcard]
    simp only
    split
    · next hidle =>
      refine ⟨_, rfl, ?_, fun _ => rfl⟩
      rintro ⟨-, hstrikes, hunprevented, hpositive, -⟩
      rw [hstrikes, hunprevented] at hidle
      simp [Int32.not_le.mpr hpositive] at hidle
    · next hbusy =>
      have hready : game.dealsDamageThisStep effects firstStrikeStep
          attacker = true ∧ card.preventAllCombatDamageThisTurn = false ∧
          0 < game.combatPower effects attacker card := by
        simpa [and_assoc] using hbusy
      obtain ⟨hstrikes, hunprevented, hpositive⟩ := hready
      have hengages (hunstopped : ∀ assignments,
          lookup plan attacker = some assignments →
          ¬game.TrampleStopped effects attacker
            (game.combatPower effects attacker card) assignments) :
          game.Engages effects firstStrikeStep plan attacker card :=
        ⟨by simpa using hthere, hstrikes, hunprevented, hpositive, hunstopped⟩
      split
      · split
        · next assignments hplan =>
          obtain ⟨record, hrecord, hall, hnone⟩ :=
            game.exchangePlanned_strikeBacks effects firstStrikeStep attacker
              (game.combatPower effects attacker card) assignments hpresent
          refine ⟨record, hrecord, ?_, ?_⟩
          · intro hengages
            exact hall (hengages.unstopped assignments hplan)
          · intro hnot
            apply hnone
            by_contra hunstopped
            apply hnot
            apply hengages
            intro other hother
            obtain rfl := Option.some.inj (hplan.symm.trans hother)
            exact hunstopped
        · next hplan =>
          obtain ⟨record, hrecord, hall⟩ :=
            game.exchangeSimple_strikeBacks effects firstStrikeStep attacker
              (game.combatPower effects attacker card) hpresent
          refine ⟨record, hrecord, fun _ => hall, ?_⟩
          intro hnot
          apply absurd _ hnot
          apply hengages
          intro assignments hsome
          rw [hplan] at hsome
          cases hsome
      · next hfree =>
        -- An unblocked attacker has no blockers to strike back.
        have hblockers : game.combat.getBlockers attacker = [] := by
          simpa [CombatState.isBlocked] using hfree
        obtain ⟨record, hrecord, hnone⟩ :=
          game.strikePlayer_strikeBacks attacker
            (game.combatPower effects attacker card)
        refine ⟨record, hrecord, ?_, fun _ => hnone⟩
        intro _
        rw [hnone, strikeBacksOf, hblockers, List.filterMap_nil]

end Exchange

section Pass

variable {game : GameState}

theorem SameBoard.combatPresent {other : GameState}
    (hsame : game.SameBoard other) (hpresent : game.CombatPresent) :
    other.CombatPresent := by
  constructor
  · intro attacker hattacker
    rw [hsame.combat] at hattacker
    rw [hsame.getCard]
    exact hpresent.attackers attacker hattacker
  · intro attacker blocker hblocker
    rw [hsame.combat] at hblocker
    rw [hsame.getCard]
    exact hpresent.blockers attacker blocker hblocker

/-- The second pass does not fail. -/
theorem exchangeAll_ok (plan : DamageAssignmentPlan)
    (hpresent : game.CombatPresent) {attackers : List CardId}
    (hattackers : ∀ attacker ∈ attackers,
      attacker ∈ game.combat.attackerIds) :
    ∃ record, (exchangeAll effects firstStrikeStep plan game
      attackers).2 = .ok record := by
  induction attackers generalizing game with
  | nil => exact ⟨{}, rfl⟩
  | cons attacker rest ih =>
      obtain ⟨hattacker, hrest⟩ := List.forall_mem_cons.mp hattackers
      obtain ⟨card, hcard⟩ :=
        Option.isSome_iff_exists.mp (hpresent.attackers attacker hattacker)
      obtain ⟨record, hrecord, -⟩ := game.exchange_strikeBacks effects
        firstStrikeStep plan hcard (hpresent.blockers attacker)
      have hsame := game.exchange_sameBoard effects firstStrikeStep plan
        attacker
      generalize hfirst : game.exchange effects firstStrikeStep plan attacker =
        exchanged at hrecord hsame
      obtain ⟨next, result⟩ := exchanged
      cases hrecord
      obtain ⟨others, hothers⟩ :=
        ih (hsame.combatPresent hpresent) (by rwa [hsame.combat])
      exact ⟨record.append others,
        (exchangeAll_cons_ok effects firstStrikeStep plan).mpr
          ⟨next, record, others, hfirst, hothers, rfl⟩⟩

end Pass

/-- A declared blocker deals damage in the step, and no prevention effect
applies to it or to its attacker. -/
structure CanStrikeBack (game : GameState) (attacker blocker : CardId)
    (card : Card) : Prop where
  found : game.getCard blocker = some card
  declared : blocker ∈ game.combat.getBlockers attacker
  there : game.zones.battlefield.contains blocker = true
  attackerThere : game.zones.battlefield.contains attacker = true
  strikes : game.dealsDamageThisStep effects firstStrikeStep blocker = true
  positive : 0 < game.combatPower effects blocker card
  unprevented : card.preventAllCombatDamageThisTurn = false
  attackerUnprevented : game.combatDamagePrevented attacker = false
  uncoloured : game.isColorPreventedByAura attacker blocker = false

/-- The damage step deals this much from the blocker to the attacker. -/
def StrikesBack (game : GameState)
    (attackerController blockerController : DamageController)
    (recordedPlan : Option DamageAssignmentPlan) (blocker attacker : CardId)
    (amount : Int32) : Prop :=
  ∃ planned plan dealt record,
    game.damagePlan effects attackerController blockerController
      recordedPlan = some (planned, .ok plan) ∧
    exchangeAll effects firstStrikeStep plan planned
      planned.combat.attackerIds = (dealt, .ok record) ∧
    ∃ hit ∈ record.strikeBacks, hit.source = blocker ∧
      hit.target = attacker ∧ hit.amount = amount

theorem CanStrikeBack.strikeBackOf {game : GameState}
    {attacker blocker : CardId} {card : Card}
    (hready : game.CanStrikeBack effects firstStrikeStep attacker blocker
      card) :
    game.strikeBackOf effects firstStrikeStep attacker blocker =
      some ⟨blocker, attacker, game.combatPower effects blocker card,
        game.hasKeywordWithEffects effects blocker .deathtouch⟩ := by
  rw [GameState.strikeBackOf, hready.found, Option.bind_some, hready.there,
    hready.strikes, hready.unprevented, hready.attackerUnprevented,
    if_neg (by decide), if_neg (by decide), if_pos hready.positive,
    hready.uncoloured, if_neg (by decide)]

/-- A blocker deals its damage back exactly when its attacker deals damage in
the step, has positive power, and has not all of its trample damage stopped by
shields as the attackers before it left them. -/
theorem strikes_back_iff {game planned : GameState}
    {attackerController blockerController : DamageController}
    {recordedPlan : Option DamageAssignmentPlan} {plan : DamageAssignmentPlan}
    (hplan : game.damagePlan effects attackerController blockerController
      recordedPlan = some (planned, .ok plan))
    (hpresent : planned.CombatPresent) (hsorted : planned.combat.InOrder)
    {before after : List CardId} {attacker blocker : CardId}
    (hattackers : planned.combat.attackerIds = before ++ attacker :: after)
    {attackerCard card : Card}
    (hattacker : planned.getCard attacker = some attackerCard)
    (hready : planned.CanStrikeBack effects firstStrikeStep attacker blocker
      card) :
    game.StrikesBack effects firstStrikeStep attackerController
        blockerController recordedPlan blocker attacker
        (planned.combatPower effects blocker card) ↔
      planned.dealsDamageThisStep effects firstStrikeStep attacker = true ∧
      0 < planned.combatPower effects attacker attackerCard ∧
      ∀ assignments, lookup plan attacker = some assignments →
        ¬(exchangeAll effects firstStrikeStep plan planned
          before).1.TrampleStopped effects attacker
            (planned.combatPower effects attacker attackerCard)
            assignments := by
  have hnot : attacker ∉ before ++ after := by
    have hnodup : planned.combat.attackerIds.Nodup :=
      Sorted.nodup_keys hsorted.attackers
    rw [hattackers] at hnodup
    exact (List.nodup_cons.mp (List.nodup_middle.mp hnodup)).1
  obtain ⟨record, hrecord⟩ := exchangeAll_ok effects firstStrikeStep plan
    hpresent (fun _ hmem => hmem)
  rw [hattackers] at hrecord
  obtain ⟨earlier, own, later, hearlier, hlater, hown, hparts⟩ :=
    exchangeAll_split effects firstStrikeStep plan hrecord
  -- A hit on this attacker is from its own turn.
  have hiff (hit : CreatureHit) (htarget : hit.target = attacker) :
      hit ∈ record.strikeBacks ↔ hit ∈ own.strikeBacks := by
    have hbefore : hit ∉ earlier.strikeBacks := by
      intro hmem
      have htaken := (hearlier.strikeBacks hit hmem).1
      rw [htarget] at htaken
      exact hnot (List.mem_append_left _ htaken)
    have hafter : hit ∉ later.strikeBacks := by
      intro hmem
      have htaken := (hlater.strikeBacks hit hmem).1
      rw [htarget] at htaken
      exact hnot (List.mem_append_right _ htaken)
    simp only [hparts, DamageRecord.append, List.mem_append, hbefore, hafter,
      false_or, or_false]
  have hsame := planned.exchangeAll_sameBoard effects firstStrikeStep plan
    before
  generalize (exchangeAll effects firstStrikeStep plan planned before).1 =
    reached at hown hsame
  have hreached := hsame.combatPresent hpresent
  obtain ⟨own', hown', hall, hnone⟩ := reached.exchange_strikeBacks effects
    firstStrikeStep plan ((hsame.getCard attacker).trans hattacker)
    (hreached.blockers attacker)
  obtain rfl := Except.ok.inj (hown.symm.trans hown')
  rw [hsame.strikeBacksOf] at hall
  -- The attacker's own requirements read the same after the earlier turns.
  have hengages : reached.Engages effects firstStrikeStep plan attacker
      attackerCard ↔
      planned.dealsDamageThisStep effects firstStrikeStep attacker = true ∧
      0 < planned.combatPower effects attacker attackerCard ∧
      ∀ assignments, lookup plan attacker = some assignments →
        ¬reached.TrampleStopped effects attacker
          (planned.combatPower effects attacker attackerCard)
          assignments := by
    constructor
    · rintro ⟨-, hstrikes, -, hpositive, hunstopped⟩
      rw [hsame.dealsDamageThisStep] at hstrikes
      rw [hsame.combatPower] at hpositive hunstopped
      exact ⟨hstrikes, hpositive, hunstopped⟩
    · rintro ⟨hstrikes, hpositive, hunstopped⟩
      have hprevented := hready.attackerUnprevented
      rw [combatDamagePrevented, hattacker] at hprevented
      refine ⟨?_, ?_, hprevented, ?_, ?_⟩
      · rw [hsame.zones]
        exact hready.attackerThere
      · rw [hsame.dealsDamageThisStep]
        exact hstrikes
      · rw [hsame.combatPower]
        exact hpositive
      · rw [hsame.combatPower]
        exact hunstopped
  rw [← hengages]
  constructor
  · rintro ⟨planned', plan', dealt, record', hplan', hrecord', hit, hmem, -,
      htarget, -⟩
    obtain ⟨rfl, hsameplan⟩ :=
      Prod.mk.inj (Option.some.inj (hplan.symm.trans hplan'))
    obtain rfl := Except.ok.inj hsameplan
    rw [← hattackers, hrecord'] at hrecord
    obtain rfl := Except.ok.inj hrecord
    by_contra hnot
    have hmem := (hiff hit htarget).mp hmem
    rw [hnone hnot] at hmem
    cases hmem
  · intro hready'
    rw [← hattackers] at hrecord
    generalize hpass : exchangeAll effects firstStrikeStep plan planned
      planned.combat.attackerIds = pass at hrecord
    obtain ⟨dealt, result⟩ := pass
    cases hrecord
    let hit : CreatureHit :=
      ⟨blocker, attacker, planned.combatPower effects blocker card,
        planned.hasKeywordWithEffects effects blocker .deathtouch⟩
    refine ⟨planned, plan, dealt, record, hplan, hpass, hit, ?_, rfl, rfl,
      rfl⟩
    rw [hiff _ rfl, hall hready']
    exact List.mem_filterMap.mpr ⟨blocker, hready.declared,
      hready.strikeBackOf effects firstStrikeStep⟩

/-- Static abilities that do nothing, as on a board without any. -/
def noEffects : StaticEffects where
  calculateCdaPt _ _ := some none
  opalescencePt _ _ := none
  calculateModifyptEffects _ _ := some (0, 0)
  otherSelectorApplies _ _ _ _ := false
  countCardsMatchingFilter _ _ _ _ := 0

/-- A controller that takes the first option, as by default. -/
def firstOption (player : PlayerId) : DamageController where
  playerId := player
  chooseBlockerForLethalDamage _ _ killable _ :=
    match killable with
    | (blocker, _) :: _ => .ok blocker
    | [] => .error "No killable blockers provided"
  chooseBlockerForRemainingDamage _ _ blockers _ :=
    match blockers with
    | blocker :: _ => .ok blocker
    | [] => .error "No remaining blockers provided"

/-- A creature with power and toughness two. -/
def bear (id : Nat) (controller : PlayerId) (keywords : List Keyword) : Card where
  id := ⟨id⟩
  owner := controller
  controller := controller
  basePower := some 2
  baseToughness := some 2
  types := [.creature]
  keywords := { keywords := keywords }
  definition := { cache := { isCreature := true } }

/-- One attacker and one blocker, each with power and toughness two. -/
def singleBlock (blockerKeywords : List Keyword) : GameState where
  cards := ⟨[some (bear 0 ⟨0⟩ []), some (bear 1 ⟨1⟩ blockerKeywords)]⟩
  players := [{ id := ⟨0⟩ }, { id := ⟨1⟩ }]
  zones := { battlefield := [⟨0⟩, ⟨1⟩] }
  turn := { activePlayer := ⟨0⟩ }
  combat :=
    { attackers := [(⟨0⟩, ⟨1⟩)]
      blockers := [(⟨1⟩, [⟨0⟩])]
      attackerBlockers := [(⟨0⟩, [⟨1⟩])]
      combatActive := true }

theorem singleBlock_present (keywords : List Keyword) :
    (singleBlock keywords).CombatPresent := by
  constructor
  · intro attacker hattacker
    obtain rfl := List.mem_singleton.mp hattacker
    rfl
  · intro attacker blocker hblocker
    by_cases hattacker : (⟨0⟩ : CardId) = attacker
    · subst hattacker
      obtain rfl := List.mem_singleton.mp hblocker
      rfl
    · have hnone : (singleBlock keywords).combat.getBlockers attacker = [] := by
        simp [CombatState.getBlockers, singleBlock, lookup, hattacker]
      rw [hnone] at hblocker
      cases hblocker

theorem strikes_back_bears :
    (singleBlock []).StrikesBack noEffects false (firstOption ⟨0⟩)
      (firstOption ⟨1⟩) none ⟨1⟩ ⟨0⟩ 2 := by
  have hsorted : (singleBlock []).combat.InOrder :=
    ⟨List.pairwise_singleton _ _, List.pairwise_singleton _ _,
      List.pairwise_singleton _ _⟩
  have hattackers : (singleBlock []).combat.attackerIds = [] ++ ⟨0⟩ :: [] := rfl
  have hattacker : (singleBlock []).getCard ⟨0⟩ = some (bear 0 ⟨0⟩ []) := rfl
  have hready : (singleBlock []).CanStrikeBack noEffects false ⟨0⟩ ⟨1⟩
      (bear 1 ⟨1⟩ []) :=
    ⟨rfl, by decide, by decide, by decide, by decide, by decide, rfl,
      by decide, by decide⟩
  apply (strikes_back_iff noEffects false rfl (singleBlock_present []) hsorted
    hattackers hattacker hready).mpr
  refine ⟨by decide, by decide, ?_⟩
  intro assignments hplan
  cases hplan

/-- A blocker with first strike deals no damage to an attacker without it: the
attacker's turn ends before the blockers strike back. -/
theorem firstStrike_blocker_silent :
    (singleBlock [.firstStrike]).CanStrikeBack noEffects true ⟨0⟩ ⟨1⟩
        (bear 1 ⟨1⟩ [.firstStrike]) ∧
      ¬(singleBlock [.firstStrike]).StrikesBack noEffects true
        (firstOption ⟨0⟩) (firstOption ⟨1⟩) none ⟨1⟩ ⟨0⟩ 2 := by
  refine ⟨⟨rfl, by decide, by decide, by decide, by decide, by decide, rfl,
    by decide, by decide⟩, ?_⟩
  rintro ⟨planned, plan, dealt, record, hplan, hpass, hit, hmem, -⟩
  obtain ⟨rfl, hsame⟩ := Prod.mk.inj (Option.some.inj hplan)
  obtain rfl := Except.ok.inj hsame
  obtain ⟨-, hrecord⟩ := Prod.mk.inj hpass
  obtain rfl := Except.ok.inj hrecord
  cases hmem

end GameState

end DeepScry
