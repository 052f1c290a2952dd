/-
Combat damage and creatures that have left the battlefield since they were
declared: the combat maps keep them, and the damage to blockers does not ask.
-/
import DeepScry.UniformPrevention

namespace DeepScry

open SortedMap MaximalPick DamageAssignment

/-- The part of a record that is about creatures on the battlefield. -/
def DamageRecord.onlyPresent (record : DamageRecord) (game : GameState) :
    DamageRecord :=
  let present (hits : List CreatureHit) : List CreatureHit :=
    hits.filter fun hit => game.zones.battlefield.contains hit.target
  { record with
    toBlockers := present record.toBlockers
    strikeBacks := present record.strikeBacks
    boosts := present record.boosts }

namespace GameState

variable (effects : StaticEffects) (firstStrikeStep : Bool)
  (plan : DamageAssignmentPlan)

/-- None of the blockers of an attacker is on the battlefield any more. -/
def BlockersLeft (game : GameState) (attacker : CardId) : Prop :=
  ∀ blocker ∈ game.combat.getBlockers attacker,
    game.zones.battlefield.contains blocker = false

/-- A blocked attacker with trample and a player to attack, that deals damage
in the step, all of whose blockers have left. -/
structure TramplesAlone (game : GameState) (attacker : CardId) (power : Int32)
    (player : PlayerId) : Prop where
  declared : attacker ∈ game.combat.attackerIds
  strikes : game.strikingPower effects firstStrikeStep attacker = some power
  blocked : game.combat.isBlocked attacker = true
  trample : game.hasKeywordWithEffects effects attacker .trample = true
  defender : game.combat.getDefendingPlayer attacker = some player
  alone : game.BlockersLeft attacker

/-- The damage of the step goes to creatures that are still there, and all of
it to the player where no blocker is. -/
structure DamagesOnlyPresent (game : GameState) (dealt : DamageRecord) :
    Prop where
  present : ∀ hit ∈ dealt.creatureHits,
    game.zones.battlefield.contains hit.target = true
  counted : dealt.damageDealtByCreature =
    (dealt.onlyPresent game).damageDealtByCreature
  trample : ∀ attacker power player,
    game.TramplesAlone effects firstStrikeStep attacker power player →
      game.playerDamage effects plan attacker power = some (player, power)

/-- No blocker that has left is in for damage, an aura apart, and with trample
none is when all have left, or an aura keeps planned damage off it. -/
structure AvoidsDeparted (game : GameState) : Prop where
  present : ∀ attacker ∈ game.combat.attackerIds, ∀ power,
    game.strikingPower effects firstStrikeStep attacker = some power →
      ∀ blocker, game.InFor effects plan attacker power blocker →
        game.isColorPreventedByAura blocker attacker = false →
          game.zones.battlefield.contains blocker = true
  trample : ∀ attacker power player,
    game.TramplesAlone effects firstStrikeStep attacker power player →
      ∀ blocker, game.InFor effects plan attacker power blocker →
        (lookup plan attacker).isSome = true ∧
          game.isColorPreventedByAura blocker attacker = true

section Present

variable {game : GameState}

theorem DamagesOnlyPresent.counted_of {dealt : DamageRecord}
    (hpresent : ∀ hit ∈ dealt.creatureHits,
      game.zones.battlefield.contains hit.target = true) :
    dealt.onlyPresent game = dealt := by
  have hall {hits : List CreatureHit}
      (hhits : ∀ hit ∈ hits, hit ∈ dealt.creatureHits) :
      (hits.filter fun hit =>
        game.zones.battlefield.contains hit.target) = hits := by
    rw [List.filter_eq_self]
    intro hit hmem
    exact hpresent hit (hhits hit hmem)
  have hblockers := hall fun hit (hmem : hit ∈ dealt.toBlockers) =>
    List.mem_append_left _ (List.mem_append_left _ hmem)
  have hback := hall fun hit (hmem : hit ∈ dealt.strikeBacks) =>
    List.mem_append_left _ (List.mem_append_right _ hmem)
  have hboosts := hall fun hit (hmem : hit ∈ dealt.boosts) =>
    List.mem_append_right _ hmem
  rw [DamageRecord.onlyPresent]
  simp only [hblockers, hback, hboosts]

/-- Increases are for creatures on the battlefield only. -/
theorem creatureBoosts_present (record : DamageRecord) :
    ∀ hit ∈ game.creatureBoosts record,
      game.zones.battlefield.contains hit.target = true := by
  intro hit hmem
  obtain ⟨⟨target, sources⟩, -, hhit⟩ := List.mem_flatMap.mp hmem
  dsimp at hhit
  split at hhit
  · next hthere =>
    split at hhit
    · obtain ⟨source, -, hboost⟩ := List.mem_filterMap.mp hhit
      split at hboost
      · rw [← Option.some.inj hboost]
        exact hthere
      · cases hboost
    · cases hhit
  · cases hhit

/-- An attacker that strikes is on the battlefield. -/
theorem there_of_striking {attacker : CardId}
    (hstrikes : (game.strikingPower effects firstStrikeStep
      attacker).isSome = true) :
    game.zones.battlefield.contains attacker = true := by
  rw [strikingPower] at hstrikes
  split at hstrikes
  · cases hstrikes
  · next hthere => simpa using hthere

variable {passed : GameState} {record : DamageRecord}

/-- The creatures that are dealt damage are there exactly when those are that
are in for damage that no aura keeps off. -/
theorem present_iff
    (hpass : exchangeAll effects firstStrikeStep plan game
      game.combat.attackerIds = (passed, .ok record)) :
    (∀ hit ∈ (passed.applyBoosts record).2.creatureHits,
        game.zones.battlefield.contains hit.target = true) ↔
      ∀ attacker ∈ game.combat.attackerIds, ∀ power,
        game.strikingPower effects firstStrikeStep attacker = some power →
          ∀ blocker, game.InFor effects plan attacker power blocker →
            game.isColorPreventedByAura blocker attacker = false →
              game.zones.battlefield.contains blocker = true := by
  have hdone : (exchangeAll effects firstStrikeStep plan game
      game.combat.attackerIds).2 = .ok record := by rw [hpass]
  have hsame := game.exchangeAll_sameBoard effects firstStrikeStep plan
    game.combat.attackerIds
  rw [hpass] at hsame
  have hblockers := exchangeAll_toBlockers effects firstStrikeStep plan hdone
  have hbacks := exchangeAll_strikeBack_mem effects firstStrikeStep plan hdone
  have hsourced := exchangeAll_sourced effects firstStrikeStep plan hdone
  have hinFor {attacker : CardId} (hattacker : attacker ∈
      game.combat.attackerIds) {power : Int32} (hpower : game.strikingPower
        effects firstStrikeStep attacker = some power) :=
    forall_assigned_of_pass effects firstStrikeStep plan hdone hattacker hpower
      fun blocker => game.isColorPreventedByAura blocker attacker = false →
        game.zones.battlefield.contains blocker = true
  rw [DamageRecord.creatureHits, applyBoosts, hsourced.boosts]
  simp only [List.nil_append, List.mem_append]
  constructor
  · intro hall attacker hattacker power hpower
    rw [← hinFor hattacker hpower]
    intro entry hentry huncoloured
    refine hall ⟨attacker, entry.1, entry.2,
      game.hasKeywordWithEffects effects attacker .deathtouch⟩
        (Or.inl (Or.inl ?_))
    rw [hblockers]
    refine List.mem_flatMap.mpr ⟨attacker, hattacker, ?_⟩
    rw [turnHits, hpower]
    exact mem_hitsOf.mpr ⟨entry, hentry, huncoloured, rfl⟩
  · rintro hall hit ((hmem | hmem) | hmem)
    · rw [hblockers] at hmem
      obtain ⟨attacker, hattacker, hhit⟩ := List.mem_flatMap.mp hmem
      rw [turnHits] at hhit
      split at hhit
      · next power hpower =>
        obtain ⟨entry, hentry, huncoloured, rfl⟩ := mem_hitsOf.mp hhit
        exact (hinFor hattacker hpower).mpr (hall attacker hattacker power
          hpower) entry hentry huncoloured
      · cases hhit
    · obtain ⟨attacker, -, hstrikes, hback⟩ := hbacks hit hmem
      rw [(strikeBack_unprevented effects firstStrikeStep hback).1]
      exact there_of_striking effects firstStrikeStep hstrikes
    · rw [← hsame.zones]
      exact creatureBoosts_present record hit hmem

/-- An attacker keeps all of its power exactly when nothing it assigns costs
any. -/
theorem powerLeft_eq_iff {attacker : CardId} {power : Int32}
    (hfits : game.FitsPower effects firstStrikeStep plan)
    (hpower : game.strikingPower effects firstStrikeStep attacker = some power)
    (hblocked : game.combat.isBlocked attacker = true) :
    game.powerLeft effects plan attacker power = power ↔
      ∀ entry ∈ game.assigned effects plan attacker power,
        (lookup plan attacker).isSome = true ∧
          game.isColorPreventedByAura entry.1 attacker = true := by
  have hwithin := hfits.assigned_fits effects firstStrikeStep hpower
  have hpos := game.assigned_pos effects plan attacker power
  -- What is charged for leaves the power untouched only if it is nothing.
  have hcharged {charged : Assignment}
      (hsub : ∀ entry ∈ charged, 0 < entry.2)
      (hle : total (amounts charged) ≤ power.toInt) :
      spend power charged = power ↔ charged = [] := by
    have hspent := spend_toInt hsub hle
    rw [← amounts_eq_zero_iff hsub, ← Int32.toInt_inj]
    omega
  cases hplan : lookup plan attacker with
  | none =>
      rw [powerLeft_of_unplanned effects power hblocked hplan,
        hcharged hpos hwithin]
      simp only [Option.isSome_none, Bool.false_eq_true, false_and]
      exact List.eq_nil_iff_forall_not_mem
  | some assignments =>
      have hkept : ∀ entry ∈ (game.assigned effects plan attacker power).filter
          (fun entry => !game.isColorPreventedByAura entry.1 attacker),
          0 < entry.2 := by
        intro entry hentry
        exact hpos entry (List.mem_of_mem_filter hentry)
      have hfewer := total_filter_le
        (fun entry hentry =>
          (Int32.lt_iff_toInt_lt.mp (hpos entry hentry)).le)
        (fun entry => !game.isColorPreventedByAura entry.1 attacker)
      rw [powerLeft_of_planned effects power hblocked hplan,
        hcharged hkept (le_trans hfewer hwithin), List.filter_eq_nil_iff]
      simp

/-- With trample and no blocker left, all of the power goes to the player
exactly when no blocker is in for damage that costs power. -/
theorem TramplesAlone.playerDamage_iff {attacker : CardId} {power : Int32}
    {player : PlayerId} (hfits : game.FitsPower effects firstStrikeStep plan)
    (hdone : (exchangeAll effects firstStrikeStep plan game
      game.combat.attackerIds).2 = .ok record)
    (halone : game.TramplesAlone effects firstStrikeStep attacker power
      player) :
    game.playerDamage effects plan attacker power = some (player, power) ↔
      ∀ blocker, game.InFor effects plan attacker power blocker →
        (lookup plan attacker).isSome = true ∧
          game.isColorPreventedByAura blocker attacker = true := by
  rw [← forall_assigned_of_pass effects firstStrikeStep plan hdone
    halone.declared halone.strikes fun blocker =>
      (lookup plan attacker).isSome = true ∧
        game.isColorPreventedByAura blocker attacker = true,
    ← powerLeft_eq_iff effects firstStrikeStep plan hfits halone.strikes
    halone.blocked]
  have hpositive := game.strikingPower_pos effects firstStrikeStep attacker
    halone.strikes
  rw [playerDamage_of_blocked effects power halone.blocked, halone.trample,
    halone.defender]
  constructor
  · intro hdamage
    split at hdamage
    · exact (Prod.mk.inj (Option.some.inj hdamage)).2
    · cases hdamage
  · intro hleft
    rw [hleft, decide_eq_true hpositive]
    rfl

/-- Damage goes only to creatures that are still there exactly when no blocker
that has left is in for damage, an aura apart, and none that would cost power
of an attacker with trample all of whose blockers have left. -/
theorem damages_only_present_iff
    (hfits : game.FitsPower effects firstStrikeStep plan)
    (hpass : exchangeAll effects firstStrikeStep plan game
      game.combat.attackerIds = (passed, .ok record)) :
    game.DamagesOnlyPresent effects firstStrikeStep plan
        (passed.applyBoosts record).2 ↔
      game.AvoidsDeparted effects firstStrikeStep plan := by
  have hpresent := present_iff effects firstStrikeStep plan hpass
  have hdone : (exchangeAll effects firstStrikeStep plan game
      game.combat.attackerIds).2 = .ok record := by rw [hpass]
  constructor
  · intro h
    refine ⟨hpresent.mp h.present, ?_⟩
    intro attacker power player halone
    exact (halone.playerDamage_iff effects firstStrikeStep plan hfits hdone).mp
      (h.trample attacker power player halone)
  · intro h
    have hhits := hpresent.mpr h.present
    refine ⟨hhits, ?_, ?_⟩
    · rw [DamagesOnlyPresent.counted_of hhits]
    · intro attacker power player halone
      exact (halone.playerDamage_iff effects firstStrikeStep plan hfits
        hdone).mpr (h.trample attacker power player halone)

end Present

/-- A red attacker with trample and power four, whose blocker has left. -/
def departedBlock : GameState :=
  { blockedBy redTrampler [bear 1 ⟨1⟩ []] [⟨1⟩] [] with
    zones := { battlefield := [⟨0⟩] } }

/-- What the turn of its attacker deals. -/
def departedDamage : DamageRecord where
  toBlockers := [⟨⟨0⟩, ⟨1⟩, 2, false⟩]
  toPlayers := [⟨⟨0⟩, ⟨1⟩, 2⟩]

theorem damages_only_present_departed :
    departedBlock.DamagesOnlyPresent noEffects false []
        ((exchangeAll noEffects false [] departedBlock
          departedBlock.combat.attackerIds).1.applyBoosts departedDamage).2 ↔
      departedBlock.AvoidsDeparted noEffects false [] := by
  apply damages_only_present_iff
  · intro attacker power assignments _ hplan
    cases hplan
  · rfl

/-- The blocker that left is dealt two damage, and the player gets only the
rest. -/
theorem departed_blocker_damaged :
    departedBlock.damagePlan noEffects (firstOption ⟨0⟩) (firstOption ⟨1⟩)
        none = .ok departedBlock [] ∧
      ∃ passed record,
        exchangeAll noEffects false [] departedBlock
            departedBlock.combat.attackerIds = (passed, .ok record) ∧
          ¬ departedBlock.DamagesOnlyPresent noEffects false []
            (passed.applyBoosts record).2 := by
  refine ⟨rfl, _, _, rfl, ?_⟩
  intro h
  have hpresent := h.present
  revert hpresent
  decide

end GameState

end DeepScry
