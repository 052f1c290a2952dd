/-
Prevention of combat damage: shields of players, auras on creatures and
creatures whose combat damage is prevented, over the turns of a damage step.
-/
import DeepScry.BlockerReach

namespace DeepScry

open SortedMap MaximalPick DamageAssignment

namespace DamagePreventionShield

/-- The shield matches the source and has something left. -/
def stops (shield : DamagePreventionShield) (source : CardId)
    (sourceIsColor : Color → Bool) : Bool :=
  shield.source.matches source sourceIsColor && !shield.isSpent

variable (source : CardId) (sourceIsColor : Color → Bool)

theorem apply_le (shield : DamagePreventionShield) (amount : UInt32) :
    (shield.apply source amount sourceIsColor).1.toNat ≤ amount.toNat := by
  rw [apply]
  split
  · exact Nat.zero_le _
  · split
    · exact le_refl _
    · exact le_refl _
    · next points _ =>
      have hmin : min amount points = if amount ≤ points then amount
        else points := rfl
      simp only
      rw [hmin]
      split
      · exact le_refl _
      · next hlt =>
        exact (UInt32.lt_iff_toNat_lt.mp (UInt32.not_le.mp hlt)).le

/-- A shield prevents something exactly when it stops the source. -/
theorem apply_pos_iff (shield : DamagePreventionShield) {amount : UInt32}
    (hamount : 0 < amount.toNat) :
    0 < (shield.apply source amount sourceIsColor).1.toNat ↔
      shield.stops source sourceIsColor = true := by
  have hne : amount ≠ 0 := by
    rintro rfl
    exact absurd hamount (by decide)
  rw [apply, stops]
  cases shield.source.matches source sourceIsColor with
  | false => simp [hne]
  | true =>
      simp only [hne, decide_false, Bool.not_true, Bool.or_false,
        Bool.false_eq_true, if_false, Bool.true_and, Bool.not_eq_true']
      rw [isSpent]
      cases hscope : shield.scope with
      | allThisTurn => simpa using hamount
      | nextEvent => simpa using hamount
      | nextPoints points =>
          have hmin : min amount points = if amount ≤ points then amount
            else points := rfl
          have hzero : points = 0 ↔ points.toNat = 0 :=
            ⟨fun h => by rw [h]; rfl, fun h => UInt32.toNat_inj.mp h⟩
          simp only [beq_eq_false_iff_ne, ne_eq,
            PreventionScope.nextPoints.injEq, hzero]
          rw [hmin]
          split
          · next hle =>
            have hle := UInt32.le_iff_toNat_le.mp hle
            omega
          · omega

theorem applyAll_le (shields : List DamagePreventionShield)
    (amount : UInt32) :
    (applyAll source sourceIsColor amount shields).1.toNat ≤
      amount.toNat := by
  induction shields generalizing amount with
  | nil => exact le_refl _
  | cons shield rest ih =>
      have hprevented := apply_le source sourceIsColor shield amount
      rw [applyAll]
      split
      · exact le_refl _
      · have hrest := ih (amount -
          (shield.apply source amount sourceIsColor).1)
        rw [UInt32.toNat_sub_of_le _ _ (UInt32.le_iff_toNat_le.mpr
          hprevented)] at hrest
        exact le_trans hrest (Nat.sub_le _ _)

/-- All of the damage gets through exactly when no shield stops it. -/
theorem applyAll_eq_iff (shields : List DamagePreventionShield)
    {amount : UInt32} (hamount : 0 < amount.toNat) :
    (applyAll source sourceIsColor amount shields).1 = amount ↔
      ∀ shield ∈ shields, shield.stops source sourceIsColor = false := by
  induction shields with
  | nil => exact ⟨(fun _ _ hmem => nomatch hmem), fun _ => rfl⟩
  | cons shield rest ih =>
      have hne : amount ≠ 0 := by
        rintro rfl
        exact absurd hamount (by decide)
      have hprevented := apply_le source sourceIsColor shield amount
      have hpositive := apply_pos_iff source sourceIsColor shield hamount
      have hleft := UInt32.toNat_sub_of_le amount
        (shield.apply source amount sourceIsColor).1
        (UInt32.le_iff_toNat_le.mpr hprevented)
      rw [applyAll, if_neg hne]
      simp only [List.forall_mem_cons]
      cases hstops : shield.stops source sourceIsColor with
      | true =>
          have hpositive := hpositive.mpr hstops
          have hrest := applyAll_le source sourceIsColor rest
            (amount - (shield.apply source amount sourceIsColor).1)
          constructor
          · intro heq
            rw [heq] at hrest
            omega
          · rintro ⟨hfalse, -⟩
            cases hfalse
      | false =>
          have hzero : (shield.apply source amount sourceIsColor).1 = 0 := by
            apply UInt32.toNat_inj.mp
            by_contra hne
            have hstops' := hpositive.mp (Nat.pos_of_ne_zero hne)
            rw [hstops] at hstops'
            cases hstops'
          rw [hzero, UInt32.sub_zero, ih]
          exact ⟨fun h => ⟨rfl, h⟩, fun h => h.2⟩

end DamagePreventionShield

namespace GameState

section Shields

variable (game : GameState) (player : PlayerId) (attacker : CardId)

/-- A shield of the player stops damage of the attacker. -/
def shielded : Bool :=
  (game.getPlayer player).any fun p =>
    p.sourcePreventionShields.any fun shield =>
      shield.stops attacker (game.colorsOf attacker).contains

theorem applyShields_eq_iff {amount : Int32} (hamount : 0 < amount) :
    (game.applySourcePreventionShields player (some attacker) amount).2 =
        amount ↔ game.shielded player attacker = false := by
  rw [applySourcePreventionShields.eq_def, shielded]
  simp only
  rw [if_neg (Int32.not_le.mpr hamount)]
  cases game.getPlayer player with
  | none => simp
  | some p =>
      have hpositive : 0 < amount.toUInt32.toNat := by
        rw [Nat.pos_iff_ne_zero]
        intro hzero
        have hword : amount.toUInt32 = 0 := UInt32.toNat_inj.mp hzero
        have hsame : amount = 0 := by
          rw [← Int32.toInt32_toUInt32 amount, hword]
          rfl
        rw [hsame] at hamount
        exact absurd hamount (by decide)
      have hall := DamagePreventionShield.applyAll_eq_iff attacker
        (game.colorsOf attacker).contains p.sourcePreventionShields hpositive
      simp only [Option.any_some]
      split
      · next hnone =>
        have hnone := List.isEmpty_iff.mp hnone
        simp [hnone]
      · simp only [List.any_eq_false, Bool.not_eq_true]
        rw [← hall]
        constructor
        · intro heq
          have hword := congrArg Int32.toUInt32 heq
          rwa [UInt32.toUInt32_toInt32] at hword
        · intro heq
          rw [heq]
          exact Int32.toInt32_toUInt32 amount

/-- The player is dealt all of it exactly when no shield stops it. -/
theorem hitPlayer_eq_iff {amount : Int32} (hamount : 0 < amount) :
    (game.hitPlayer attacker player amount).2 =
        some ⟨attacker, player, amount⟩ ↔
      game.shielded player attacker = false := by
  rw [← game.applyShields_eq_iff player attacker hamount, hitPlayer]
  simp only
  split
  · next hnone =>
    constructor
    · intro h
      cases h
    · intro h
      rw [h] at hnone
      exact absurd hamount (Int32.not_lt.mpr hnone)
  · simp

end Shields

section Turns

variable (effects : StaticEffects) (firstStrikeStep : Bool)
  (plan : DamageAssignmentPlan)

/-- What an attacker's turn has for the defending player, before any
shield. -/
def turnDamage (game : GameState) (attacker : CardId) :
    Option (PlayerId × Int32) :=
  (game.strikingPower effects firstStrikeStep attacker).bind
    (game.playerDamage effects plan attacker)

/-- Prevention works alike in whatever way a turn deals its damage: what a
player would be dealt meets the shields of the player, the power that an aura
keeps off a creature is spent, and no creature whose combat damage is prevented
deals or is dealt any. -/
structure PreventsUniformly (game : GameState) (attacker : CardId)
    (record : DamageRecord) : Prop where
  shields : record.toPlayers =
    (game.turnDamage effects firstStrikeStep plan attacker).toList.filterMap
      fun damage => (game.hitPlayer attacker damage.1 damage.2).2
  spared : ∀ hit ∈ record.toBlockers ++ record.strikeBacks,
    game.isColorPreventedByAura hit.target hit.source = false
  auras : ∀ power player amount,
    game.strikingPower effects firstStrikeStep attacker = some power →
      game.playerDamage effects plan attacker power = some (player, amount) →
        amount.toInt + total (amounts (game.assigned effects plan attacker
          power)) ≤ power.toInt
  flags : ∀ hit ∈ record.toBlockers ++ record.strikeBacks,
    game.combatDamagePrevented hit.source = false ∧
      game.combatDamagePrevented hit.target = false
  playerFlags : ∀ hit ∈ record.toPlayers,
    game.combatDamagePrevented hit.source = false

/-- The blockers do not take all of the power of an attacker with trample. -/
def TramplesOver (game : GameState) (attacker : CardId) (power : Int32) :
    Prop :=
  game.hasKeywordWithEffects effects attacker .trample = true ∧
    game.toll (game.hasKeywordWithEffects effects attacker .deathtouch)
      (game.combat.getBlockers attacker) < power.toInt

/-- The turn stays away from the cases in which prevention is left out. -/
structure AvoidsGaps (game : GameState) (attacker : CardId) : Prop where
  /-- Without a plan, no shield stands against damage that tramples over. -/
  shields : ∀ power player,
    game.strikingPower effects firstStrikeStep attacker = some power →
      game.unshielded plan attacker = true →
      game.TramplesOver effects attacker power →
      game.combat.getDefendingPlayer attacker = some player →
        game.shielded player attacker = false
  /-- Under a plan and with trample, no aura keeps off assigned damage. -/
  auras : ∀ power player assignments,
    game.strikingPower effects firstStrikeStep attacker = some power →
      game.combat.isBlocked attacker = true →
      lookup plan attacker = some assignments →
      game.hasKeywordWithEffects effects attacker .trample = true →
      game.combat.getDefendingPlayer attacker = some player →
        ∀ entry ∈ assignments, 0 < entry.2 →
          game.isColorPreventedByAura entry.1 attacker = false
  /-- No creature to which all combat damage is prevented is in for some. -/
  flags : ∀ power,
    game.strikingPower effects firstStrikeStep attacker = some power →
      ∀ blocker, game.InFor effects plan attacker power blocker →
        game.isColorPreventedByAura blocker attacker = false →
          game.combatDamagePrevented blocker = false

variable {game : GameState} {attacker : CardId}

theorem mem_hitsOf {deathtouch : Bool} {assigned : Assignment}
    {hit : CreatureHit} :
    hit ∈ game.hitsOf attacker deathtouch assigned ↔
      ∃ entry ∈ assigned, game.isColorPreventedByAura entry.1 attacker = false ∧
        hit = ⟨attacker, entry.1, entry.2, deathtouch⟩ := by
  rw [hitsOf, List.mem_map]
  constructor
  · rintro ⟨entry, hentry, rfl⟩
    obtain ⟨hmem, huncoloured⟩ := List.mem_filter.mp hentry
    exact ⟨entry, hmem, by simpa using huncoloured, rfl⟩
  · rintro ⟨entry, hmem, huncoloured, rfl⟩
    exact ⟨entry, List.mem_filter.mpr ⟨hmem, by simpa using huncoloured⟩, rfl⟩

/-- Nothing of a striking attacker is prevented by a flag of its own. -/
theorem unflagged_of_striking {power : Int32}
    (hpower : game.strikingPower effects firstStrikeStep attacker =
      some power) : game.combatDamagePrevented attacker = false := by
  rw [strikingPower] at hpower
  split at hpower
  · cases hpower
  · obtain ⟨card, hcard, hstrikes⟩ := Option.bind_eq_some_iff.mp hpower
    split at hstrikes
    · cases hstrikes
    · next hbusy =>
      simp only [Bool.or_eq_true, not_or, Bool.not_eq_true] at hbusy
      rw [combatDamagePrevented, hcard]
      exact hbusy.1.2

/-- A creature that strikes back meets no prevention. -/
theorem strikeBack_unprevented {hit : CreatureHit}
    (hhit : hit ∈ game.strikeBacksOf effects firstStrikeStep attacker) :
    hit.target = attacker ∧
      game.combatDamagePrevented hit.source = false ∧
      game.combatDamagePrevented attacker = false ∧
      game.isColorPreventedByAura attacker hit.source = false := by
  obtain ⟨blocker, -, hback⟩ := List.mem_filterMap.mp hhit
  rw [strikeBackOf] at hback
  obtain ⟨card, hcard, hback⟩ := Option.bind_eq_some_iff.mp hback
  split at hback
  · cases hback
  · split at hback
    · cases hback
    · next hbusy =>
      simp only [Bool.or_eq_true, not_or, Bool.not_eq_true] at hbusy
      split at hback
      · split at hback
        · cases hback
        · next huncoloured =>
          cases hback
          refine ⟨rfl, ?_, hbusy.2, by simpa using huncoloured⟩
          rw [combatDamagePrevented, hcard]
          exact hbusy.1.2
      · cases hback

/-- What a turn has for a player is positive. -/
theorem playerDamage_pos {power amount : Int32} {player : PlayerId}
    (hpower : 0 < power)
    (hdamage : game.playerDamage effects plan attacker power =
      some (player, amount)) : 0 < amount := by
  rw [playerDamage] at hdamage
  split at hdamage
  · next hreaches =>
    obtain ⟨_, -, heq⟩ := Option.map_eq_some_iff.mp hdamage
    obtain ⟨-, rfl⟩ := Prod.mk.inj heq
    rw [reachesPlayer] at hreaches
    cases hblocked : game.combat.isBlocked attacker with
    | false =>
        rw [powerLeft, hblocked, if_neg Bool.false_ne_true]
        exact hpower
    | true =>
        rw [hblocked, Bool.not_true, Bool.false_or, Bool.and_eq_true]
          at hreaches
        exact of_decide_eq_true hreaches.2
  · cases hdamage

/-- The entries of an assignment are protected or not. -/
theorem total_partition (assigned : Assignment) (keep : CardId × Int32 → Bool) :
    total (amounts assigned) =
      total (amounts (assigned.filter keep)) +
        total (amounts (assigned.filter fun entry => !keep entry)) := by
  induction assigned with
  | nil => rfl
  | cons entry rest ih =>
      obtain ⟨blocker, damage⟩ := entry
      rw [List.filter_cons, List.filter_cons, amounts_cons, ih]
      cases keep (blocker, damage) with
      | true =>
          simp only [if_true, Bool.not_true, Bool.false_eq_true, if_false]
          rw [amounts_cons]
          omega
      | false =>
          simp only [if_true, Bool.not_false, Bool.false_eq_true, if_false]
          rw [amounts_cons]
          omega

section Turn

variable {power : Int32} {record : DamageRecord}
  (hpower : game.strikingPower effects firstStrikeStep attacker = some power)

include hpower

/-- Without a plan, a turn has damage for the player that tramples over. -/
theorem playerDamage_isSome_iff
    (hdone : (game.exchange effects firstStrikeStep plan attacker).2 =
      .ok record) (hunshielded : game.unshielded plan attacker = true)
    (player : PlayerId) :
    (∃ amount, game.playerDamage effects plan attacker power =
        some (player, amount)) ↔
      game.TramplesOver effects attacker power ∧
        game.combat.getDefendingPlayer attacker = some player := by
  rw [unshielded, Bool.and_eq_true, Option.isNone_iff_eq_none] at hunshielded
  obtain ⟨hblocked, hplan⟩ := hunshielded
  have hleft := game.powerLeft_pos_iff attacker effects firstStrikeStep hpower
    hblocked hplan hdone
  rw [playerDamage, reachesPlayer, hblocked, TramplesOver]
  cases htrample : game.hasKeywordWithEffects effects attacker .trample with
  | false => simp
  | true => simp [hleft htrample]

/-- The shields are met exactly when none is passed by. -/
theorem TurnRecord.shields_iff
    (hdone : (game.exchange effects firstStrikeStep plan attacker).2 =
      .ok record) :
    record.toPlayers =
        (game.turnDamage effects firstStrikeStep plan attacker
          ).toList.filterMap (fun damage =>
            (game.hitPlayer attacker damage.1 damage.2).2) ↔
      ∀ player, game.unshielded plan attacker = true →
        game.TramplesOver effects attacker power →
        game.combat.getDefendingPlayer attacker = some player →
          game.shielded player attacker = false := by
  have hpositive := game.strikingPower_pos effects firstStrikeStep attacker
    hpower
  have hturn := game.exchange_turnRecord effects firstStrikeStep attacker
    hpower hdone
  have hpasses := playerDamage_isSome_iff effects firstStrikeStep plan hpower
    hdone
  rw [hturn.toPlayers, playerHits, turnDamage, hpower, Option.bind_some]
  cases hdamage : game.playerDamage effects plan attacker power with
  | none =>
      simp only [hdamage, reduceCtorEq, exists_false, false_iff] at hpasses
      constructor
      · intro _ player hunshielded hover hplayer
        exact absurd ⟨hover, hplayer⟩ (hpasses hunshielded player)
      · intro _
        rfl
  | some damage =>
      obtain ⟨player, amount⟩ := damage
      have hiff := game.hitPlayer_eq_iff player attacker
        (playerDamage_pos effects plan hpositive hdamage)
      simp only [Option.toList_some, List.filterMap_cons, List.filterMap_nil]
      cases hunshielded : game.unshielded plan attacker with
      | false =>
          rw [if_neg Bool.false_ne_true]
          constructor
          · intro _ _ h
            cases h
          · intro _
            cases (game.hitPlayer attacker player amount).2 <;> rfl
      | true =>
          rw [if_pos rfl]
          constructor
          · intro heq other _ hover hother
            obtain ⟨rest, hsome⟩ := (hpasses hunshielded other).mpr
              ⟨hover, hother⟩
            obtain ⟨rfl, rfl⟩ :=
              Prod.mk.inj (Option.some.inj (hdamage.symm.trans hsome))
            apply hiff.mp
            cases hhit : (game.hitPlayer attacker player amount).2 with
            | none =>
                rw [hhit] at heq
                cases heq
            | some hit =>
                rw [hhit] at heq
                rw [(List.cons.inj heq).1]
          · intro hall
            obtain ⟨hover, hplayer⟩ := (hpasses hunshielded player).mp
              ⟨amount, hdamage⟩
            rw [hiff.mpr (hall player rfl hover hplayer)]

/-- Damage for the player is on top of what costs power. -/
theorem covered_of_unplanned
    (hfits : game.FitsPower effects firstStrikeStep plan)
    (hfree : game.combat.isBlocked attacker = true →
      lookup plan attacker = none) {player : PlayerId} {amount : Int32}
    (hdamage : game.playerDamage effects plan attacker power =
      some (player, amount)) :
    amount.toInt + total (amounts (game.assigned effects plan attacker
      power)) ≤ power.toInt := by
  cases hblocked : game.combat.isBlocked attacker with
  | false =>
      rw [playerDamage, powerLeft, hblocked, if_neg Bool.false_ne_true]
        at hdamage
      rw [game.assigned_of_unblocked effects plan attacker power hblocked]
      split at hdamage
      · obtain ⟨_, -, heq⟩ := Option.map_eq_some_iff.mp hdamage
        obtain ⟨-, rfl⟩ := Prod.mk.inj heq
        exact (add_zero _).le
      · cases hdamage
  | true =>
      have hspent := spend_toInt (game.assigned_pos effects plan attacker power)
        (hfits.assigned_fits effects firstStrikeStep hpower)
      rw [playerDamage_of_blocked effects power hblocked,
        powerLeft_of_unplanned effects power hblocked (hfree hblocked)]
        at hdamage
      split at hdamage
      · obtain ⟨_, -, heq⟩ := Option.map_eq_some_iff.mp hdamage
        obtain ⟨-, rfl⟩ := Prod.mk.inj heq
        omega
      · cases hdamage

/-- Under a plan, the power is divided among what is dealt, what an aura keeps
off and what is left. -/
theorem powerLeft_planned_eq
    (hfits : game.FitsPower effects firstStrikeStep plan)
    (hblocked : game.combat.isBlocked attacker = true)
    {assignments : Assignment}
    (hplan : lookup plan attacker = some assignments) :
    (game.powerLeft effects plan attacker power).toInt +
        total (amounts (game.assigned effects plan attacker power)) =
      power.toInt +
        total (amounts ((game.assigned effects plan attacker power).filter
          fun entry => game.isColorPreventedByAura entry.1 attacker)) := by
  have hwithin := hfits.assigned_fits effects firstStrikeStep hpower
  have hpos := game.assigned_pos effects plan attacker power
  have hparts := total_partition (game.assigned effects plan attacker power)
    (fun entry => !game.isColorPreventedByAura entry.1 attacker)
  have hlost : 0 ≤ total (amounts ((game.assigned effects plan attacker
      power).filter fun entry => game.isColorPreventedByAura entry.1
        attacker)) :=
    amounts_nonneg fun entry hentry => hpos entry (List.mem_of_mem_filter
      hentry)
  simp only [Bool.not_not] at hparts
  rw [powerLeft_of_planned effects power hblocked hplan,
    spend_toInt (fun entry hentry => hpos entry (List.mem_of_mem_filter
      hentry)) (by omega)]
  omega

/-- What is prevented by an aura is spent, unless trample takes it on. -/
theorem auras_iff
    (hfits : game.FitsPower effects firstStrikeStep plan) :
    (∀ player amount,
        game.playerDamage effects plan attacker power =
          some (player, amount) →
            amount.toInt + total (amounts (game.assigned effects plan attacker
              power)) ≤ power.toInt) ↔
      ∀ player assignments, game.combat.isBlocked attacker = true →
        lookup plan attacker = some assignments →
        game.hasKeywordWithEffects effects attacker .trample = true →
        game.combat.getDefendingPlayer attacker = some player →
          ∀ entry ∈ assignments, 0 < entry.2 →
            game.isColorPreventedByAura entry.1 attacker = false := by
  have hwithin := hfits.assigned_fits effects firstStrikeStep hpower
  have hpos := game.assigned_pos effects plan attacker power
  by_cases hplanned : game.combat.isBlocked attacker = true ∧
      (lookup plan attacker).isSome = true
  · obtain ⟨hblocked, hplanned⟩ := hplanned
    obtain ⟨assignments, hplan⟩ := Option.isSome_iff_exists.mp hplanned
    have hassigned := assigned_of_planned effects power hblocked hplan
    have hdivided := powerLeft_planned_eq effects firstStrikeStep plan hpower
      hfits hblocked hplan
    rw [playerDamage_of_blocked effects power hblocked]
    generalize hlost : (game.assigned effects plan attacker power).filter
      (fun entry => game.isColorPreventedByAura entry.1 attacker) = lost
      at hdivided
    have hlostPos : ∀ entry ∈ lost, 0 < entry.2 := by
      intro entry hentry
      rw [← hlost] at hentry
      exact hpos entry (List.mem_of_mem_filter hentry)
    constructor
    · intro hcovered player others _ hothers htrample hplayer entry hentry
        hdamage
      obtain rfl := Option.some.inj (hplan.symm.trans hothers)
      by_contra hcoloured
      -- The prevented damage is left over, and reaches the player.
      have hmem : entry ∈ lost := by
        rw [← hlost, hassigned]
        exact List.mem_filter.mpr ⟨List.mem_filter.mpr ⟨hentry,
          decide_eq_true hdamage⟩, by simpa using hcoloured⟩
      have hnonneg := amounts_nonneg hlostPos
      have hnonzero : total (amounts lost) ≠ 0 := by
        intro hzero
        rw [(amounts_eq_zero_iff hlostPos).mp hzero] at hmem
        cases hmem
      have hmore : 0 < game.powerLeft effects plan attacker power := by
        apply Int32.lt_iff_toInt_lt.mpr
        have hzero : (0 : Int32).toInt = 0 := rfl
        omega
      have hall := hcovered player
        (game.powerLeft effects plan attacker power) (by
          rw [htrample, decide_eq_true hmore, hplayer]
          rfl)
      omega
    · intro hnone player amount hdamage
      split at hdamage
      · next htrample =>
        obtain ⟨other, hother, heq⟩ := Option.map_eq_some_iff.mp hdamage
        obtain ⟨-, rfl⟩ := Prod.mk.inj heq
        have htrample := (Bool.and_eq_true_iff.mp htrample).1
        have hempty : lost = [] := by
          rw [← hlost, List.filter_eq_nil_iff, hassigned]
          intro entry hentry
          obtain ⟨hmem, hdamage⟩ := List.mem_filter.mp hentry
          rw [hnone other assignments hblocked hplan htrample hother entry
            hmem (of_decide_eq_true hdamage)]
          exact Bool.false_ne_true
        rw [hempty] at hdivided
        have hzero : total (amounts []) = 0 := rfl
        omega
      · cases hdamage
  · have hfree (hblocked : game.combat.isBlocked attacker = true) :
        lookup plan attacker = none := by
      simpa [hblocked] using hplanned
    constructor
    · intro _ player assignments hblocked hplan
      rw [hfree hblocked] at hplan
      cases hplan
    · intro _ player amount hdamage
      exact covered_of_unplanned effects firstStrikeStep plan hpower hfits hfree
        hdamage

/-- No creature with prevented damage takes part exactly when none is in for
damage. -/
theorem TurnRecord.flags_iff
    (hdone : (game.exchange effects firstStrikeStep plan attacker).2 =
      .ok record) :
    (∀ hit ∈ record.toBlockers ++ record.strikeBacks,
        game.combatDamagePrevented hit.source = false ∧
          game.combatDamagePrevented hit.target = false) ↔
      ∀ blocker, game.InFor effects plan attacker power blocker →
        game.isColorPreventedByAura blocker attacker = false →
          game.combatDamagePrevented blocker = false := by
  have hown := unflagged_of_striking effects firstStrikeStep hpower
  have hturn := game.exchange_turnRecord effects firstStrikeStep attacker
    hpower hdone
  rw [← game.forall_assigned_iff attacker effects firstStrikeStep hpower hdone
    fun blocker => game.isColorPreventedByAura blocker attacker = false →
      game.combatDamagePrevented blocker = false]
  constructor
  · intro hall entry hentry huncoloured
    refine (hall ⟨attacker, entry.1, entry.2,
      game.hasKeywordWithEffects effects attacker .deathtouch⟩ ?_).2
    rw [hturn.toBlockers]
    exact List.mem_append_left _
      (mem_hitsOf.mpr ⟨entry, hentry, huncoloured, rfl⟩)
  · intro hall hit hhit
    rcases List.mem_append.mp hhit with hhit | hhit
    · rw [hturn.toBlockers] at hhit
      obtain ⟨entry, hentry, huncoloured, rfl⟩ := mem_hitsOf.mp hhit
      exact ⟨hown, hall entry hentry huncoloured⟩
    · obtain ⟨htarget, hsource, hattacker, -⟩ := strikeBack_unprevented effects
        firstStrikeStep (hturn.strikeBacks hit hhit)
      rw [htarget]
      exact ⟨hsource, hattacker⟩

omit hpower in
theorem TurnRecord.spared
    (hturn : game.TurnRecord effects firstStrikeStep plan attacker power
      record) :
    ∀ hit ∈ record.toBlockers ++ record.strikeBacks,
      game.isColorPreventedByAura hit.target hit.source = false := by
  intro hit hhit
  rcases List.mem_append.mp hhit with hhit | hhit
  · rw [hturn.toBlockers] at hhit
    obtain ⟨entry, -, huncoloured, rfl⟩ := mem_hitsOf.mp hhit
    exact huncoloured
  · obtain ⟨htarget, -, -, huncoloured⟩ := strikeBack_unprevented effects
      firstStrikeStep (hturn.strikeBacks hit hhit)
    rw [htarget]
    exact huncoloured

omit hpower in
theorem playerHits_source :
    ∀ hit ∈ game.playerHits effects plan attacker power,
      hit.source = attacker := by
  intro hit hhit
  rw [playerHits] at hhit
  split at hhit
  · cases hhit
  · next player amount _ =>
    split at hhit
    · obtain rfl := List.mem_singleton.mp hhit
      rfl
    · exact game.source_of_hitPlayer attacker player amount hit
        (Option.mem_toList.mp hhit)

end Turn

/-- One turn prevents uniformly exactly when it avoids the gaps. -/
theorem exchange_prevents_iff {record : DamageRecord}
    (hfits : game.FitsPower effects firstStrikeStep plan)
    (hdone : (game.exchange effects firstStrikeStep plan attacker).2 =
      .ok record) :
    game.PreventsUniformly effects firstStrikeStep plan attacker record ↔
      game.AvoidsGaps effects firstStrikeStep plan attacker := by
  cases hpower : game.strikingPower effects firstStrikeStep attacker with
  | none =>
      have hnothing : game.turnDamage effects firstStrikeStep plan attacker =
          none := by
        rw [turnDamage, hpower, Option.bind_none]
      obtain rfl := game.exchange_of_idle effects firstStrikeStep attacker
        hpower hdone
      constructor
      · intro _
        refine ⟨?_, ?_, ?_⟩
        · intro power player hsome
          rw [hpower] at hsome
          cases hsome
        · intro power player assignments hsome
          rw [hpower] at hsome
          cases hsome
        · intro power hsome
          rw [hpower] at hsome
          cases hsome
      · intro _
        refine ⟨by rw [hnothing]; rfl, (fun _ hmem => nomatch hmem), ?_,
          (fun _ hmem => nomatch hmem), fun _ hmem => nomatch hmem⟩
        intro power player amount hsome
        rw [hpower] at hsome
        cases hsome
  | some power =>
      have hturn := game.exchange_turnRecord effects firstStrikeStep attacker
        hpower hdone
      have hshields := TurnRecord.shields_iff effects firstStrikeStep plan
        hpower hdone
      have hauras := auras_iff effects firstStrikeStep plan hpower hfits
      have hflags := TurnRecord.flags_iff effects firstStrikeStep plan hpower
        hdone
      constructor
      · intro h
        refine ⟨?_, ?_, ?_⟩
        · intro other player hother
          obtain rfl := Option.some.inj (hpower.symm.trans hother)
          exact hshields.mp h.shields player
        · intro other player assignments hother
          obtain rfl := Option.some.inj (hpower.symm.trans hother)
          exact hauras.mp (fun player amount => h.auras power player amount
            hpower) player assignments
        · intro other hother
          obtain rfl := Option.some.inj (hpower.symm.trans hother)
          exact hflags.mp h.flags
      · intro h
        refine ⟨hshields.mpr fun player => h.shields power player hpower,
          hturn.spared effects firstStrikeStep plan, ?_,
          hflags.mpr (h.flags power hpower), ?_⟩
        · intro other player amount hother
          obtain rfl := Option.some.inj (hpower.symm.trans hother)
          exact hauras.mpr (fun player assignments => h.auras power player
            assignments hpower) player amount
        · intro hit hhit
          rw [hturn.toPlayers] at hhit
          rw [playerHits_source effects plan hit hhit]
          exact unflagged_of_striking effects firstStrikeStep hpower

theorem SameBoard.fitsPower {game other : GameState}
    (hsame : game.SameBoard other)
    (hfits : game.FitsPower effects firstStrikeStep plan) :
    other.FitsPower effects firstStrikeStep plan := by
  intro attacker power assignments hpower hplan
  rw [hsame.strikingPower] at hpower
  exact hfits attacker power assignments hpower hplan

/-- Prevention is uniform in the turns of a damage step exactly when each turn
avoids the gaps: no shield passed by, no aura against assigned damage of a
planned attacker with trample, and no damage assigned to a creature to which it
is prevented. -/
theorem prevention_uniform_iff
    (hfits : game.FitsPower effects firstStrikeStep plan) :
    (∀ attacker reached record,
        game.TakesTurn effects firstStrikeStep plan attacker reached record →
          reached.PreventsUniformly effects firstStrikeStep plan attacker
            record) ↔
      ∀ attacker reached record,
        game.TakesTurn effects firstStrikeStep plan attacker reached record →
          reached.AvoidsGaps effects firstStrikeStep plan attacker := by
  have hturn {attacker : CardId} {reached : GameState} {record : DamageRecord}
      (hturn : game.TakesTurn effects firstStrikeStep plan attacker reached
        record) :=
    exchange_prevents_iff effects firstStrikeStep plan
      ((hturn.sameBoard effects firstStrikeStep plan).fitsPower effects
        firstStrikeStep plan hfits) hturn.done
  constructor
  · intro h attacker reached record htakes
    exact (hturn htakes).mp (h attacker reached record htakes)
  · intro h attacker reached record htakes
    exact (hturn htakes).mpr (h attacker reached record htakes)

end Turns

/-- One attacker, blocked by some of the other cards. -/
def blockedBy (attacker : Card) (others : List Card) (blockers : List CardId)
    (shields : List DamagePreventionShield) : GameState where
  cards := ⟨(attacker :: others).map some⟩
  players := [{ id := ⟨0⟩ }, { id := ⟨1⟩, sourcePreventionShields := shields }]
  zones := { battlefield := (attacker :: others).map fun card => card.id }
  turn := { activePlayer := ⟨0⟩ }
  combat :=
    { attackers := [(⟨0⟩, ⟨1⟩)]
      blockers := blockers.map fun blocker => (blocker, [⟨0⟩])
      attackerBlockers := [(⟨0⟩, blockers)]
      combatActive := true }

/-- A red attacker with trample and power four. -/
def redTrampler : Card :=
  { bear 0 ⟨0⟩ [.trample] with
    basePower := some 4
    colors := [.red] }

/-- A red damage shield protects the player behind a single blocker. -/
def shieldedBlock : GameState :=
  blockedBy redTrampler [bear 1 ⟨1⟩ []] [⟨1⟩] [⟨.color .red, .allThisTurn⟩]

/-- The first of two blockers is protected from red. -/
def wardedBlock : GameState :=
  blockedBy redTrampler
    [bear 1 ⟨1⟩ [], bear 2 ⟨1⟩ [],
      { id := ⟨3⟩
        owner := ⟨1⟩
        controller := ⟨1⟩
        attachedTo := some ⟨1⟩
        chosenColor := some .red
        staticAbilities := [.preventDamageToEnchantedByChosenColor]
        definition := { cache := { isAura := true } } }] [⟨1⟩, ⟨2⟩] []

/-- All combat damage of and to the blocker is prevented. -/
def mazedBlock : GameState :=
  blockedBy (bear 0 ⟨0⟩ [])
    [{ bear 1 ⟨1⟩ [] with preventAllCombatDamageThisTurn := true }] [⟨1⟩] []

theorem prevention_uniform_warded :
    (∀ attacker reached record,
        wardedBlock.TakesTurn noEffects false
          [(⟨0⟩, [(⟨1⟩, 2), (⟨2⟩, 2)])] attacker reached record →
          reached.PreventsUniformly noEffects false
            [(⟨0⟩, [(⟨1⟩, 2), (⟨2⟩, 2)])] attacker record) ↔
      ∀ attacker reached record,
        wardedBlock.TakesTurn noEffects false
          [(⟨0⟩, [(⟨1⟩, 2), (⟨2⟩, 2)])] attacker reached record →
          reached.AvoidsGaps noEffects false
            [(⟨0⟩, [(⟨1⟩, 2), (⟨2⟩, 2)])] attacker := by
  apply prevention_uniform_iff
  intro attacker power assignments hpower hplan
  obtain ⟨rfl, rfl⟩ :=
    Prod.mk.inj (List.mem_singleton.mp (mem_of_lookup hplan))
  have hfour : wardedBlock.strikingPower noEffects false ⟨0⟩ = some 4 := rfl
  obtain rfl := Option.some.inj (hpower.symm.trans hfour)
  decide

/-- The lone attacker takes its turn at once. -/
theorem takesTurn_lone {effects : StaticEffects} {firstStrikeStep : Bool}
    {plan : DamageAssignmentPlan} {game : GameState} {attacker : CardId}
    {record : DamageRecord}
    (hattackers : game.combat.attackerIds = [attacker])
    (hdone : (game.exchange effects firstStrikeStep plan attacker).2 =
      .ok record) :
    game.TakesTurn effects firstStrikeStep plan attacker game record :=
  ⟨⟨[], [], {}, hattackers, rfl⟩, hdone⟩

/-- The shield is passed by, the damage that the aura prevents tramples over,
and the creature with prevented damage is dealt some. -/
theorem prevention_gaps :
    (shieldedBlock.damagePlan noEffects (firstOption ⟨0⟩) (firstOption ⟨1⟩)
        none = .ok shieldedBlock [] ∧
      ¬ ∀ attacker reached record,
        shieldedBlock.TakesTurn noEffects false [] attacker reached record →
          reached.PreventsUniformly noEffects false [] attacker record) ∧
    (wardedBlock.damagePlan noEffects (firstOption ⟨0⟩) (firstOption ⟨1⟩)
        none = .ok wardedBlock [(⟨0⟩, [(⟨1⟩, 2), (⟨2⟩, 2)])] ∧
      ¬ ∀ attacker reached record,
        wardedBlock.TakesTurn noEffects false [(⟨0⟩, [(⟨1⟩, 2), (⟨2⟩, 2)])]
          attacker reached record →
          reached.PreventsUniformly noEffects false
            [(⟨0⟩, [(⟨1⟩, 2), (⟨2⟩, 2)])] attacker record) ∧
    mazedBlock.damagePlan noEffects (firstOption ⟨0⟩) (firstOption ⟨1⟩)
        none = .ok mazedBlock [] ∧
      ¬ ∀ attacker reached record,
        mazedBlock.TakesTurn noEffects false [] attacker reached record →
          reached.PreventsUniformly noEffects false [] attacker record := by
  refine ⟨⟨rfl, ?_⟩, ⟨rfl, ?_⟩, rfl, ?_⟩
  · intro h
    have hdone : (shieldedBlock.exchange noEffects false [] ⟨0⟩).2 =
        .ok { toBlockers := [⟨⟨0⟩, ⟨1⟩, 2, false⟩]
              toPlayers := [⟨⟨0⟩, ⟨1⟩, 2⟩]
              strikeBacks := [⟨⟨1⟩, ⟨0⟩, 2, false⟩] } := rfl
    have hshields := (h _ _ _ (takesTurn_lone rfl hdone)).shields
    revert hshields
    decide
  · intro h
    have hdone : (wardedBlock.exchange noEffects false
        [(⟨0⟩, [(⟨1⟩, 2), (⟨2⟩, 2)])] ⟨0⟩).2 =
        .ok { toBlockers := [⟨⟨0⟩, ⟨2⟩, 2, false⟩]
              toPlayers := [⟨⟨0⟩, ⟨1⟩, 2⟩]
              strikeBacks := [⟨⟨1⟩, ⟨0⟩, 2, false⟩, ⟨⟨2⟩, ⟨0⟩, 2, false⟩] } :=
      rfl
    have hauras := (h _ _ _ (takesTurn_lone rfl hdone)).auras 4 ⟨1⟩ 2 rfl rfl
    revert hauras
    decide
  · intro h
    have hdone : (mazedBlock.exchange noEffects false [] ⟨0⟩).2 =
        .ok { toBlockers := [⟨⟨0⟩, ⟨1⟩, 2, false⟩] } := rfl
    have hflags := (h _ _ _ (takesTurn_lone rfl hdone)).flags
    revert hflags
    decide

end GameState

end DeepScry
