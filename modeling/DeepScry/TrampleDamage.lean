/-
The damage of an attacker with trample, when nothing is prevented: it follows
the assignment of the plan, or goes through the blockers in order.
-/
import DeepScry.DamageChoices
import DeepScry.LethalDamage

namespace DeepScry

open MaximalPick DamageAssignment

namespace GameState

/-- No player has a shield against the damage of a source. -/
def NoShields (game : GameState) : Prop :=
  ∀ player ∈ game.players, player.sourcePreventionShields = []

section Shields

variable {game : GameState} (hshields : game.NoShields)

include hshields

theorem applySourcePreventionShields_noShields (target : PlayerId)
    (source : Option CardId) (amount : Int32) :
    game.applySourcePreventionShields target source amount = (game, amount) := by
  rw [applySourcePreventionShields.eq_def]
  split
  · rfl
  · split
    · rfl
    · split
      · rfl
      · next player hplayer =>
        rw [hshields player (List.mem_of_find?_eq_some hplayer)]
        rfl

theorem hitPlayer_noShields (attacker : CardId) (player : PlayerId)
    (amount : Int32) :
    game.hitPlayer attacker player amount =
      if amount ≤ 0 then (game, none)
      else (game.message, some ⟨attacker, player, amount⟩) := by
  rw [hitPlayer, applySourcePreventionShields_noShields hshields]

theorem hitPlayer_logger (attacker : CardId) (player : PlayerId)
    (amount : Int32) :
    ∃ logger, (game.hitPlayer attacker player amount).1 =
      { game with logger := logger } := by
  rw [hitPlayer_noShields hshields]
  split
  · exact ⟨game.logger, rfl⟩
  · exact ⟨_, rfl⟩

end Shields

section Logger

variable (effects : StaticEffects) (firstStrikeStep : Bool) (game : GameState)
  (attacker : CardId)

theorem finishExchange_logger (record : DamageRecord) :
    ∃ logger, (game.finishExchange effects firstStrikeStep attacker
      record).1 = { game with logger := logger } := by
  obtain ⟨logger, hstruck⟩ := game.strikeBack_frame effects firstStrikeStep
    attacker (game.combat.getBlockers attacker)
  refine ⟨logger, ?_⟩
  rw [finishExchange, ← hstruck]
  generalize strikeBack effects firstStrikeStep attacker game _ = struck
  rcases struck with ⟨struckGame, _ | _⟩ <;> rfl

theorem exchangePlanned_logger (hshields : game.NoShields) (power : Int32)
    (assignments : Assignment) :
    ∃ logger, (game.exchangePlanned effects firstStrikeStep attacker power
      assignments).1 = { game with logger := logger } := by
  obtain ⟨logger, hdealt⟩ := game.dealAssigned_frame attacker
    (game.hasKeywordWithEffects effects attacker .deathtouch) power
    assignments
  rw [exchangePlanned]
  generalize dealAssigned attacker _ game power assignments = dealt at hdealt
  obtain ⟨dealtGame, left, hits⟩ := dealt
  simp only at hdealt
  subst hdealt
  simp only
  split
  · split
    · next player _ =>
      have hlogged := @hitPlayer_logger { game with logger := logger }
        hshields attacker player left
      generalize hitPlayer _ attacker player left = hit at hlogged
      obtain ⟨logger', hlogged⟩ := hlogged
      rcases hit with ⟨hitGame, _ | playerHit⟩
      · exact ⟨logger', hlogged⟩
      · simp only at hlogged
        subst hlogged
        exact finishExchange_logger effects firstStrikeStep _ attacker _
    · exact finishExchange_logger effects firstStrikeStep _ attacker _
  · exact finishExchange_logger effects firstStrikeStep _ attacker _

theorem exchangeSimple_logger (power : Int32) :
    ∃ logger, (game.exchangeSimple effects firstStrikeStep attacker
      power).1 = { game with logger := logger } := by
  obtain ⟨logger, hdealt⟩ := game.dealInOrder_frame attacker
    (game.hasKeywordWithEffects effects attacker .deathtouch)
    (game.hasKeywordWithEffects effects attacker .trample)
    ((game.combat.getBlockers attacker).length == 1) power
    (game.combat.getBlockers attacker)
  rw [exchangeSimple]
  generalize dealInOrder attacker _ _ _ game power _ = dealt at hdealt
  obtain ⟨dealtGame, result⟩ := dealt
  simp only at hdealt
  subst hdealt
  rcases result with e | ⟨left, hits⟩
  · exact ⟨logger, rfl⟩
  · simp only
    split
    · split
      · exact finishExchange_logger effects firstStrikeStep _ attacker _
      · exact finishExchange_logger effects firstStrikeStep _ attacker _
    · exact finishExchange_logger effects firstStrikeStep _ attacker _

theorem exchange_logger (hshields : game.NoShields)
    (plan : DamageAssignmentPlan) :
    ∃ logger, (game.exchange effects firstStrikeStep plan attacker).1 =
      { game with logger := logger } := by
  rw [exchange]
  split
  · exact ⟨game.logger, rfl⟩
  · split
    · exact ⟨game.logger, rfl⟩
    · simp only
      split
      · exact ⟨game.logger, rfl⟩
      · split
        · split
          · exact game.exchangePlanned_logger effects firstStrikeStep attacker
              hshields _ _
          · exact game.exchangeSimple_logger effects firstStrikeStep attacker _
        · rw [strikePlayer]
          split
          · exact hitPlayer_logger hshields attacker _ _
          · exact ⟨game.logger, rfl⟩

theorem exchangeAll_noShields (hshields : game.NoShields)
    (plan : DamageAssignmentPlan) (attackers : List CardId) :
    (exchangeAll effects firstStrikeStep plan game attackers).1.NoShields := by
  induction attackers generalizing game with
  | nil => exact hshields
  | cons attacker rest ih =>
      obtain ⟨logger, hlogged⟩ := game.exchange_logger effects
        firstStrikeStep attacker hshields plan
      rw [exchangeAll]
      generalize game.exchange effects firstStrikeStep plan attacker =
        exchanged at hlogged
      obtain ⟨next, result⟩ := exchanged
      simp only at hlogged
      subst hlogged
      rcases result with e | record
      · exact hshields
      · have hrest := ih { game with logger := logger } hshields
        simp only
        generalize exchangeAll effects firstStrikeStep plan _ rest = passed
          at hrest
        rcases passed with ⟨last, _ | _⟩
        · exact hrest
        · exact hrest

end Logger

section Deal

variable (game : GameState) (attacker : CardId) (deathtouch : Bool)

/-- Where no aura protects a blocker, the assigned damage is dealt. -/
theorem dealAssigned_spec {remaining : Int32} {assignments : Assignment}
    (huncoloured : ∀ entry ∈ assignments,
      game.isColorPreventedByAura entry.1 attacker = false)
    (hnonneg : ∀ entry ∈ assignments, 0 ≤ entry.2.toInt)
    (hfits : total (amounts assignments) ≤ remaining.toInt) :
    (dealAssigned attacker deathtouch game remaining
        assignments).2.1.toInt =
        remaining.toInt - total (amounts assignments) ∧
      (∀ id, damageTo (dealAssigned attacker deathtouch game remaining
        assignments).2.2 id = weightOf (amounts assignments) id) ∧
      total (hitAmounts (dealAssigned attacker deathtouch game remaining
        assignments).2.2) = total (amounts assignments) := by
  induction assignments generalizing game remaining with
  | nil => exact ⟨(sub_zero _).symm, fun _ => rfl, rfl⟩
  | cons entry rest ih =>
      obtain ⟨blocker, damage⟩ := entry
      obtain ⟨hblocker, hcolours⟩ := List.forall_mem_cons.mp huncoloured
      obtain ⟨hdamage, hrest⟩ := List.forall_mem_cons.mp hnonneg
      have htotal : 0 ≤ total (amounts rest) := by
        apply total_nonneg
        intro item hitem
        obtain ⟨entry, hentry, rfl⟩ := List.mem_map.mp hitem
        exact hrest entry hentry
      rw [amounts, List.map_cons, ← amounts, total_cons] at hfits
      simp only at hblocker hdamage hfits
      rw [amounts, List.map_cons, ← amounts, total_cons, dealAssigned]
      simp only [weightOf_cons]
      split
      · have hleft := toInt_sub_of_le hdamage
          (show damage.toInt ≤ remaining.toInt by omega)
        obtain ⟨hlast, hweights, hsum⟩ := ih game.message
          (by
            intro entry hentry
            rw [game.sameBoard_message.isColorPreventedByAura]
            exact hcolours entry hentry) hrest
          (show total (amounts rest) ≤ (remaining - damage).toInt by omega)
        rw [hblocker, if_neg Bool.false_ne_true]
        refine ⟨hlast.trans (by omega), ?_, ?_⟩
        · intro id
          rw [damageTo_cons, hweights]
        · rw [hitAmounts, List.map_cons, ← hitAmounts, total_cons, hsum]
      · next hzero =>
        have hzero : damage.toInt = 0 := by
          have hle := Int32.le_iff_toInt_le.mp (Int32.not_lt.mp hzero)
          exact le_antisymm hle hdamage
        obtain ⟨hlast, hweights, hsum⟩ := ih game hcolours hrest
          (show total (amounts rest) ≤ remaining.toInt by omega)
        refine ⟨by omega, ?_, by omega⟩
        intro id
        rw [hweights, hzero]
        simp

/-- The damage that kills by the current toughness, if any does. -/
def currentLethal (game : GameState) (deathtouch : Bool) (id : CardId) :
    Option Int32 :=
  (game.getCard id).bind fun card =>
    let lethal : Int8 :=
      if deathtouch && 0 < card.currentToughness then 1
      else card.currentToughness
    if 0 < lethal then some lethal.toInt32 else none

/-- What an attacker without a plan goes by. -/
def currentInfo (game : GameState) (deathtouch : Bool)
    (blockers : List CardId) : List (CardId × Option Int32) :=
  blockers.map fun id => (id, game.currentLethal deathtouch id)

theorem currentInfo_pos (blockers : List CardId) :
    ∀ item ∈ needs (game.currentInfo deathtouch blockers), 0 < item.2 := by
  intro item hitem
  obtain ⟨lethal, hmem, hneed⟩ := mem_needs.mp hitem
  obtain ⟨id, -, hid⟩ := List.mem_map.mp hmem
  obtain ⟨card, -, hlethal⟩ :=
    Option.bind_eq_some_iff.mp (Prod.mk.inj hid).2
  simp only at hlethal
  generalize (if (deathtouch && decide (0 < card.currentToughness)) = true
    then (1 : Int8) else card.currentToughness) = amount at hlethal
  split at hlethal
  · next hpositive =>
    have hint := Int8.lt_iff_toInt_lt.mp hpositive
    rw [hneed, ← Option.some.inj hlethal, Int8.toInt_toInt32]
    exact hint
  · cases hlethal

theorem SameBoard.currentInfo {other : GameState}
    (hsame : game.SameBoard other) (blockers : List CardId) :
    other.currentInfo deathtouch blockers =
      game.currentInfo deathtouch blockers := by
  simp only [GameState.currentInfo, currentLethal, hsame.getCard]

/-- With nothing left, nothing is dealt. -/
theorem nothing_dealt {remaining : Int32} (hremaining : 0 ≤ remaining.toInt)
    (hnone : remaining ≤ 0) (blockers : List CardId) :
    (game, (.ok (remaining, []) : Except MtgError (Int32 × List CreatureHit))).2 =
        .ok ((assignInOrder remaining
          (game.currentInfo deathtouch blockers)).2, []) ∧
      (∀ id, damageTo [] id = weightOf (amounts (assignInOrder remaining
        (game.currentInfo deathtouch blockers)).1) id) ∧
      total (hitAmounts []) = total (amounts (assignInOrder remaining
        (game.currentInfo deathtouch blockers)).1) := by
  obtain ⟨hleft, htotal, hnonneg, -⟩ := assignInOrder_spec hremaining
    (game.currentInfo_pos deathtouch blockers)
  generalize assignInOrder remaining (game.currentInfo deathtouch blockers) =
    assigned at hleft htotal hnonneg
  have hzero := Int32.le_iff_toInt_le.mp hnone
  have hneeds : 0 ≤ total (needs (game.currentInfo deathtouch blockers)) :=
    total_nonneg fun item hitem =>
      (game.currentInfo_pos deathtouch blockers item hitem).le
  have hzero' : (0 : Int32).toInt = 0 := rfl
  have hamounts : ∀ item ∈ amounts assigned.1, 0 ≤ item.2 := by
    intro item hitem
    obtain ⟨entry, hentry, rfl⟩ := List.mem_map.mp hitem
    exact hnonneg entry hentry
  have hnothing : total (amounts assigned.1) = 0 := by omega
  refine ⟨?_, ?_, hnothing.symm⟩
  · have hsame : remaining = assigned.2 := Int32.toInt_inj.mp (by omega)
    rw [← hsame]
  · intro id
    have hle := weightOf_le_total hamounts id
    rw [hnothing] at hle
    exact le_antisymm (weightOf_nonneg hamounts id) hle

/-- Without a plan, damage with trample goes through the blockers in order. -/
theorem dealInOrder_spec (alone : Bool) {remaining : Int32}
    {blockers : List CardId} (hremaining : 0 ≤ remaining.toInt)
    (hpresent : ∀ blocker ∈ blockers, (game.getCard blocker).isSome = true)
    (huncoloured : ∀ blocker ∈ blockers,
      game.isColorPreventedByAura blocker attacker = false) :
    ∃ hits, (dealInOrder attacker deathtouch true alone game remaining
        blockers).2 = .ok ((assignInOrder remaining
          (game.currentInfo deathtouch blockers)).2, hits) ∧
      (∀ id, damageTo hits id = weightOf (amounts (assignInOrder remaining
        (game.currentInfo deathtouch blockers)).1) id) ∧
      total (hitAmounts hits) = total (amounts (assignInOrder remaining
        (game.currentInfo deathtouch blockers)).1) := by
  induction blockers generalizing game remaining with
  | nil => exact ⟨[], rfl, fun _ => rfl, rfl⟩
  | cons blocker rest ih =>
      obtain ⟨hblocker, hrest⟩ := List.forall_mem_cons.mp hpresent
      obtain ⟨hcolour, hcolours⟩ := List.forall_mem_cons.mp huncoloured
      obtain ⟨card, hcard⟩ := Option.isSome_iff_exists.mp hblocker
      have hinfo : game.currentInfo deathtouch (blocker :: rest) =
          (blocker, game.currentLethal deathtouch blocker) ::
            game.currentInfo deathtouch rest := rfl
      rw [dealInOrder]
      split
      · next hnone =>
        exact ⟨[], game.nothing_dealt deathtouch hremaining hnone _⟩
      · next hsome =>
        rw [hcard]
        simp only [Bool.not_true, Bool.and_false, Bool.false_eq_true, if_false]
        rw [hinfo, currentLethal, hcard, Option.bind_some]
        simp only
        generalize (if (deathtouch && decide (0 < card.currentToughness)) = true
          then (1 : Int8) else card.currentToughness) = lethal
        have hdamage := toInt_min remaining lethal.toInt32
        have hpositive := Int32.lt_iff_toInt_lt.mp (Int32.not_le.mp hsome)
        have hzero : (0 : Int32).toInt = 0 := rfl
        rw [Int8.toInt_toInt32] at hdamage
        by_cases hlethal : 0 < lethal
        · have hint := Int8.lt_iff_toInt_lt.mp hlethal
          have hzero' : (0 : Int8).toInt = 0 := rfl
          have hmin : 0 < min remaining lethal.toInt32 :=
            Int32.lt_iff_toInt_lt.mpr (by omega)
          have hleft := toInt_sub_of_le
            (show 0 ≤ (min remaining lethal.toInt32).toInt by omega)
            (show (min remaining lethal.toInt32).toInt ≤ remaining.toInt by
              omega)
          obtain ⟨hits, hdealt, hweights, htotal⟩ := ih game.message
            (show 0 ≤ (remaining - min remaining lethal.toInt32).toInt by
              omega) hrest (by
              intro other hother
              rw [game.sameBoard_message.isColorPreventedByAura]
              exact hcolours other hother)
          rw [game.sameBoard_message.currentInfo] at hdealt hweights htotal
          rw [if_pos hmin, hcolour, if_neg Bool.false_ne_true, if_pos hlethal,
            assignInOrder]
          generalize dealInOrder attacker deathtouch true alone game.message
            (remaining - min remaining lethal.toInt32) rest = later at hdealt
          obtain ⟨laterGame, result⟩ := later
          simp only at hdealt
          subst hdealt
          refine ⟨_, rfl, ?_, ?_⟩
          · intro id
            rw [damageTo_cons, hweights]
            exact (weightOf_cons (blocker, (min remaining
              lethal.toInt32).toInt) _ id).symm
          · rw [hitAmounts, List.map_cons, ← hitAmounts, total_cons, htotal]
            exact (total_cons (blocker, (min remaining
              lethal.toInt32).toInt) _).symm
        · have hint := Int8.le_iff_toInt_le.mp (Int8.not_lt.mp hlethal)
          have hzero' : (0 : Int8).toInt = 0 := rfl
          have hmin : ¬0 < min remaining lethal.toInt32 := by
            intro h
            have h := Int32.lt_iff_toInt_lt.mp h
            omega
          rw [if_neg hmin, if_neg hlethal, assignInOrder]
          exact ih game hremaining hrest hcolours

end Deal

/-- An attacker deals its power by an assignment, and the rest to a player. -/
structure Dealt (record : DamageRecord) (power : Int)
    (assigned : List (CardId × Int)) : Prop where
  toBlockers : ∀ id, damageTo record.toBlockers id = weightOf assigned id
  blockerTotal : total (hitAmounts record.toBlockers) = total assigned
  playerTotal : (record.toPlayers.map fun hit => hit.amount.toInt).sum =
    power - total assigned
  reaches : record.toPlayers ≠ [] ↔ total assigned < power

section Exchange

variable (effects : StaticEffects) (firstStrikeStep : Bool)
  {game : GameState} {attacker : CardId} {player : PlayerId}

variable (game player) in
/-- What follows the damage to blockers deals the rest to the player. -/
theorem finishExchange_dealt {hits : List CreatureHit} {power left : Int32}
    {assigned : List (CardId × Int)}
    (hpresent : ∀ blocker ∈ game.combat.getBlockers attacker,
      (game.getCard blocker).isSome = true)
    (hweights : ∀ id, damageTo hits id = weightOf assigned id)
    (htotal : total (hitAmounts hits) = total assigned)
    (hleft : left.toInt = power.toInt - total assigned)
    (hnonneg : 0 ≤ left.toInt) :
    ∃ own, (game.finishExchange effects firstStrikeStep attacker
        { toBlockers := hits
          toPlayers := if 0 < left then [⟨attacker, player, left⟩] else []
          }).2 = .ok own ∧ Dealt own power.toInt assigned := by
  have hzero : (0 : Int32).toInt = 0 := rfl
  refine ⟨_, game.finishExchange_eq effects firstStrikeStep attacker _
    hpresent, ⟨hweights, htotal, ?_, ?_⟩⟩
  · by_cases hpositive : 0 < left
    · rw [if_pos hpositive, List.map_singleton, List.sum_singleton, hleft]
    · have hnone := Int32.le_iff_toInt_le.mp (Int32.not_lt.mp hpositive)
      rw [if_neg hpositive, List.map_nil, List.sum_nil]
      omega
  · by_cases hpositive : 0 < left
    · have hsome := Int32.lt_iff_toInt_lt.mp hpositive
      rw [if_pos hpositive]
      exact ⟨fun _ => by omega, fun _ => List.cons_ne_nil _ _⟩
    · have hnone := Int32.le_iff_toInt_le.mp (Int32.not_lt.mp hpositive)
      rw [if_neg hpositive]
      exact ⟨fun hne => absurd rfl hne, fun hlt => by omega⟩

theorem exchangePlanned_dealt (hshields : game.NoShields)
    (hplayer : game.combat.getDefendingPlayer attacker = some player)
    (htrample : game.hasKeywordWithEffects effects attacker .trample = true)
    (hpresent : ∀ blocker ∈ game.combat.getBlockers attacker,
      (game.getCard blocker).isSome = true) {power : Int32}
    {assignments : Assignment}
    (huncoloured : ∀ entry ∈ assignments,
      game.isColorPreventedByAura entry.1 attacker = false)
    (hnonneg : ∀ entry ∈ assignments, 0 ≤ entry.2.toInt)
    (hfits : total (amounts assignments) ≤ power.toInt) :
    ∃ own, (game.exchangePlanned effects firstStrikeStep attacker power
        assignments).2 = .ok own ∧
      Dealt own power.toInt (amounts assignments) := by
  obtain ⟨hleft, hweights, htotal⟩ := game.dealAssigned_spec attacker
    (game.hasKeywordWithEffects effects attacker .deathtouch) huncoloured
    hnonneg hfits
  obtain ⟨logger, hdealt⟩ := game.dealAssigned_frame attacker
    (game.hasKeywordWithEffects effects attacker .deathtouch) power
    assignments
  rw [exchangePlanned, htrample]
  generalize dealAssigned attacker _ game power assignments = dealt
    at hdealt hleft hweights htotal
  obtain ⟨dealtGame, left, hits⟩ := dealt
  simp only at hdealt hleft hweights htotal
  subst hdealt
  simp only [Bool.true_and, decide_eq_true_eq]
  have hnonneg : 0 ≤ left.toInt := by omega
  by_cases hpositive : 0 < left
  · have hhit := @hitPlayer_noShields { game with logger := logger }
      hshields attacker player left
    rw [if_neg (Int32.not_le.mpr hpositive)] at hhit
    rw [if_pos hpositive, hplayer]
    simp only
    rw [hhit]
    have hdone := finishExchange_dealt effects firstStrikeStep
      { game with logger := logger }.message player hpresent hweights htotal hleft hnonneg
    rw [if_pos hpositive] at hdone
    exact hdone
  · rw [if_neg hpositive]
    have hdone := finishExchange_dealt effects firstStrikeStep
      { game with logger := logger } player hpresent hweights htotal hleft hnonneg
    rw [if_neg hpositive] at hdone
    exact hdone

theorem exchangeSimple_dealt
    (hplayer : game.combat.getDefendingPlayer attacker = some player)
    (htrample : game.hasKeywordWithEffects effects attacker .trample = true)
    (hpresent : ∀ blocker ∈ game.combat.getBlockers attacker,
      (game.getCard blocker).isSome = true)
    (huncoloured : ∀ blocker ∈ game.combat.getBlockers attacker,
      game.isColorPreventedByAura blocker attacker = false) {power : Int32}
    (hpower : 0 ≤ power.toInt) :
    ∃ own, (game.exchangeSimple effects firstStrikeStep attacker power).2 =
        .ok own ∧
      Dealt own power.toInt (amounts (assignInOrder power (game.currentInfo
        (game.hasKeywordWithEffects effects attacker .deathtouch)
        (game.combat.getBlockers attacker))).1) := by
  have hinfo := game.currentInfo_pos
    (game.hasKeywordWithEffects effects attacker .deathtouch)
    (game.combat.getBlockers attacker)
  obtain ⟨hleft, hsum, -, -⟩ := assignInOrder_spec hpower hinfo
  obtain ⟨hits, hok, hweights, htotal⟩ := game.dealInOrder_spec attacker
    (game.hasKeywordWithEffects effects attacker .deathtouch)
    ((game.combat.getBlockers attacker).length == 1) hpower hpresent
    huncoloured
  obtain ⟨logger, hdealt⟩ := game.dealInOrder_frame attacker
    (game.hasKeywordWithEffects effects attacker .deathtouch) true
    ((game.combat.getBlockers attacker).length == 1) power
    (game.combat.getBlockers attacker)
  generalize assignInOrder power _ = assigned
    at hleft hsum hok hweights htotal ⊢
  obtain ⟨assignment, left⟩ := assigned
  simp only at hleft hsum hok hweights htotal
  rw [exchangeSimple, htrample]
  generalize dealInOrder attacker _ _ _ game power _ = dealt at hdealt hok
  obtain ⟨dealtGame, result⟩ := dealt
  simp only at hdealt hok
  subst hdealt hok
  simp only [Bool.true_and, decide_eq_true_eq]
  have hnonneg : 0 ≤ left.toInt := by omega
  have hleft' : left.toInt = power.toInt - total (amounts assignment) := by
    omega
  by_cases hpositive : 0 < left
  · rw [if_pos hpositive, hplayer]
    have hdone := finishExchange_dealt effects firstStrikeStep
      { game with logger := logger }.message player hpresent hweights htotal hleft' hnonneg
    rw [if_pos hpositive] at hdone
    exact hdone
  · rw [if_neg hpositive]
    have hdone := finishExchange_dealt effects firstStrikeStep
      { game with logger := logger } player hpresent hweights htotal hleft' hnonneg
    rw [if_neg hpositive] at hdone
    exact hdone

end Exchange

end GameState

end DeepScry
