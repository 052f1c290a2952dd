/-
Whether trample damage is legal: the defending player is dealt damage only
when every blocker was assigned lethal damage, and the power is dealt in full.
-/
import DeepScry.TrampleAssignment

namespace DeepScry

open SortedMap MaximalPick DamageAssignment

/-- What the attacker deals to blockers. -/
def DamageRecord.toBlockersBy (record : DamageRecord) (attacker : CardId) :
    List CreatureHit :=
  record.toBlockers.filter fun hit => hit.source == attacker

/-- What the attacker deals to players. -/
def DamageRecord.toPlayersBy (record : DamageRecord) (attacker : CardId) :
    List PlayerHit :=
  record.toPlayers.filter fun hit => hit.source == attacker

/-- Only one attacker's damage is looked at. -/
theorem DamageRecord.only_own {before after : List CardId} {attacker : CardId}
    {earlier own later : DamageRecord} (hearlier : earlier.Sourced before)
    (hown : own.Sourced [attacker]) (hlater : later.Sourced after)
    (hnot : attacker ∉ before ++ after) :
    (earlier.append (own.append later)).toBlockersBy attacker =
        own.toBlockers ∧
      (earlier.append (own.append later)).toPlayersBy attacker =
        own.toPlayers := by
  rw [List.mem_append, not_or] at hnot
  constructor
  · have hbefore : earlier.toBlockers.filter
        (fun hit => hit.source == attacker) = [] := by
      apply List.filter_eq_nil_iff.mpr
      intro hit hmem heq
      exact hnot.1 (beq_iff_eq.mp heq ▸ (hearlier.toBlockers hit hmem).1)
    have hafter : later.toBlockers.filter
        (fun hit => hit.source == attacker) = [] := by
      apply List.filter_eq_nil_iff.mpr
      intro hit hmem heq
      exact hnot.2 (beq_iff_eq.mp heq ▸ (hlater.toBlockers hit hmem).1)
    have hall : own.toBlockers.filter (fun hit => hit.source == attacker) =
        own.toBlockers := by
      apply List.filter_eq_self.mpr
      intro hit hmem
      exact beq_iff_eq.mpr
        (List.mem_singleton.mp (hown.toBlockers hit hmem).1)
    simp only [toBlockersBy, append, List.filter_append, hbefore, hafter, hall,
      List.nil_append, List.append_nil]
  · have hbefore : earlier.toPlayers.filter
        (fun hit => hit.source == attacker) = [] := by
      apply List.filter_eq_nil_iff.mpr
      intro hit hmem heq
      exact hnot.1 (beq_iff_eq.mp heq ▸ hearlier.toPlayers hit hmem)
    have hafter : later.toPlayers.filter
        (fun hit => hit.source == attacker) = [] := by
      apply List.filter_eq_nil_iff.mpr
      intro hit hmem heq
      exact hnot.2 (beq_iff_eq.mp heq ▸ hlater.toPlayers hit hmem)
    have hall : own.toPlayers.filter (fun hit => hit.source == attacker) =
        own.toPlayers := by
      apply List.filter_eq_self.mpr
      intro hit hmem
      exact beq_iff_eq.mpr (List.mem_singleton.mp (hown.toPlayers hit hmem))
    simp only [toPlayersBy, append, List.filter_append, hbefore, hafter, hall,
      List.nil_append, List.append_nil]

namespace GameState

variable (effects : StaticEffects) (firstStrikeStep : Bool)

/-- An attacker with trample and several blockers deals damage in the step,
and nothing prevents it. -/
structure Tramples (game : GameState) (attacker : CardId) (card : Card) :
    Prop where
  found : game.getCard attacker = some card
  declared : attacker ∈ game.combat.attackerIds
  there : game.zones.battlefield.contains attacker = true
  strikes : game.dealsDamageThisStep effects firstStrikeStep attacker = true
  tramples : game.hasKeywordWithEffects effects attacker .trample = true
  several : 1 < (game.combat.getBlockers attacker).length
  distinct : (game.combat.getBlockers attacker).Nodup
  blockersThere : ∀ blocker ∈ game.combat.getBlockers attacker,
    game.zones.battlefield.contains blocker = true
  unprevented : card.preventAllCombatDamageThisTurn = false
  uncoloured : ∀ blocker ∈ game.combat.getBlockers attacker,
    game.isColorPreventedByAura blocker attacker = false

/-- Damage reaches a player only when every blocker is dealt what it needs,
and the damage comes to the power of the attacker. -/
structure TrampleLegal (game : GameState) (attacker : CardId) (card : Card)
    (record : DamageRecord) : Prop where
  lethalFirst : record.toPlayersBy attacker ≠ [] →
    ∀ blocker ∈ game.combat.getBlockers attacker,
      game.damageNeeded effects attacker blocker ≤
        damageTo (record.toBlockersBy attacker) blocker
  whole : total (hitAmounts (record.toBlockersBy attacker)) +
      ((record.toPlayersBy attacker).map fun hit => hit.amount.toInt).sum =
    (game.combatPower effects attacker card).toInt

/-- For all answers drawn from the offered options, the step goes through and
the trample damage is legal. -/
def TramplesLegally (game : GameState) (attacker : CardId) (card : Card) :
    Prop :=
  ∀ attackerController blockerController : DamageController,
    attackerController.Legal → blockerController.Legal →
    ∃ plan passed record,
      game.damagePlan effects attackerController blockerController none =
        .ok game plan ∧
      exchangeAll effects firstStrikeStep plan game game.combat.attackerIds =
        (passed, .ok record) ∧
      game.TrampleLegal effects attacker card record

variable {effects firstStrikeStep} {game : GameState} {attacker : CardId}
  {card : Card}

/-- A declared attacker attacks a player. -/
theorem exists_defendingPlayer (hdeclared : attacker ∈ game.combat.attackerIds) :
    ∃ player, game.combat.getDefendingPlayer attacker = some player := by
  obtain ⟨entry, hentry, hkey⟩ := List.mem_map.mp hdeclared
  rw [CombatState.getDefendingPlayer, lookup]
  have hfound : (game.combat.attackers.find? fun entry =>
      entry.1 == attacker).isSome = true :=
    List.find?_isSome.mpr ⟨entry, hentry, beq_iff_eq.mpr hkey⟩
  obtain ⟨found, hfound⟩ := Option.isSome_iff_exists.mp hfound
  exact ⟨found.2, by rw [hfound]; rfl⟩

theorem SameBoard.tramples {other : GameState} (hsame : game.SameBoard other)
    (htramples : game.Tramples effects firstStrikeStep attacker card) :
    other.Tramples effects firstStrikeStep attacker card := by
  constructor
  · rw [hsame.getCard]
    exact htramples.found
  · rw [hsame.combat]
    exact htramples.declared
  · rw [hsame.zones]
    exact htramples.there
  · rw [hsame.dealsDamageThisStep]
    exact htramples.strikes
  · rw [hsame.hasKeywordWithEffects]
    exact htramples.tramples
  · rw [hsame.combat]
    exact htramples.several
  · rw [hsame.combat]
    exact htramples.distinct
  · rw [hsame.combat, hsame.zones]
    exact htramples.blockersThere
  · exact htramples.unprevented
  · rw [hsame.combat]
    intro blocker hblocker
    rw [hsame.isColorPreventedByAura]
    exact htramples.uncoloured blocker hblocker

theorem SameBoard.assignedBy {other : GameState} (hsame : game.SameBoard other)
    (power : Int32) (entry : Option Assignment) :
    other.assignedBy effects attacker power entry =
      game.assignedBy effects attacker power entry := by
  cases entry with
  | none =>
      simp only [GameState.assignedBy, currentBlockerInfo, hsame.currentInfo,
        hsame.hasKeywordWithEffects, hsame.combat]
  | some assignment => rfl

/-- The turn of the attacker deals its damage by its entry in the plan. -/
theorem Tramples.exchange_dealt
    (htramples : game.Tramples effects firstStrikeStep attacker card)
    (hshields : game.NoShields)
    (hpresent : ∀ blocker ∈ game.combat.getBlockers attacker,
      (game.getCard blocker).isSome = true)
    (hpower : 0 < (game.combatPower effects attacker card).toInt)
    (plan : DamageAssignmentPlan)
    (hplan : ∀ assignment, lookup plan attacker = some assignment →
      (∀ entry ∈ assignment, entry.1 ∈ game.combat.getBlockers attacker ∧
        0 ≤ entry.2.toInt) ∧
      total (amounts assignment) ≤
        (game.combatPower effects attacker card).toInt) :
    ∃ own, (game.exchange effects firstStrikeStep plan attacker).2 =
        .ok own ∧
      Dealt own (game.combatPower effects attacker card).toInt
        (game.assignedBy effects attacker
          (game.combatPower effects attacker card)
          (lookup plan attacker)) := by
  obtain ⟨player, hplayer⟩ := exists_defendingPlayer htramples.declared
  have hblocked : game.combat.isBlocked attacker = true := by
    have hseveral := htramples.several
    rw [CombatState.isBlocked]
    cases hblockers : game.combat.getBlockers attacker with
    | nil =>
        rw [hblockers] at hseveral
        exact absurd hseveral (Nat.not_lt_zero _)
    | cons _ _ => rfl
  have hready : ¬game.combatPower effects attacker card ≤ 0 :=
    Int32.not_le.mpr (Int32.lt_iff_toInt_lt.mpr hpower)
  rw [exchange, htramples.there, htramples.found]
  simp only [Bool.not_true, Bool.false_eq_true, if_false, htramples.strikes,
    htramples.unprevented, Bool.or_self, Bool.false_or, decide_eq_true_eq,
    hready, hblocked, if_true]
  cases hentry : lookup plan attacker with
  | none =>
      exact exchangeSimple_dealt effects firstStrikeStep hplayer
        htramples.tramples hpresent htramples.uncoloured hpower.le
  | some assignment =>
      obtain ⟨hentries, hfits⟩ := hplan assignment hentry
      apply exchangePlanned_dealt effects firstStrikeStep hshields hplayer
        htramples.tramples hpresent _ _ hfits
      · intro entry hmem
        exact htramples.uncoloured entry.1 (hentries entry hmem).1
      · intro entry hmem
        exact (hentries entry hmem).2

section Pass

variable (effects firstStrikeStep)

/-- In the second pass the attacker's own turn decides what it deals. -/
theorem exchangeAll_own (hpresent : game.CombatPresent)
    (hsorted : game.combat.InOrder) (hshields : game.NoShields)
    (hdeclared : attacker ∈ game.combat.attackerIds)
    (plan : DamageAssignmentPlan) :
    ∃ passed record reached own,
      exchangeAll effects firstStrikeStep plan game game.combat.attackerIds =
        (passed, .ok record) ∧
      game.SameBoard reached ∧ reached.NoShields ∧
      (reached.exchange effects firstStrikeStep plan attacker).2 = .ok own ∧
      record.toBlockersBy attacker = own.toBlockers ∧
      record.toPlayersBy attacker = own.toPlayers := by
  obtain ⟨before, after, hattackers⟩ := List.append_of_mem hdeclared
  have hnot : attacker ∉ before ++ after := by
    have hnodup : game.combat.attackerIds.Nodup :=
      Sorted.nodup_keys hsorted.attackers
    rw [hattackers] at hnodup
    exact (List.nodup_cons.mp (List.nodup_middle.mp hnodup)).1
  obtain ⟨record, hrecord⟩ := exchangeAll_ok effects firstStrikeStep plan
    hpresent (fun _ hmem => hmem)
  have hsplit := hrecord
  rw [hattackers] at hsplit
  obtain ⟨earlier, own, later, hearlier, hlater, hown, hparts⟩ :=
    exchangeAll_split effects firstStrikeStep plan hsplit
  obtain ⟨hblockers, hplayers⟩ := DamageRecord.only_own hearlier
    (exchange_sourced _ attacker effects firstStrikeStep plan hown) hlater hnot
  generalize hpass : exchangeAll effects firstStrikeStep plan game
    game.combat.attackerIds = pass at hrecord
  obtain ⟨passed, result⟩ := pass
  simp only at hrecord
  subst hrecord hparts
  exact ⟨passed, _, _, own, rfl,
    game.exchangeAll_sameBoard effects firstStrikeStep plan before,
    game.exchangeAll_noShields effects firstStrikeStep hshields plan before,
    hown, hblockers, hplayers⟩

variable {effects firstStrikeStep}

/-- A pass is legal when the assignment of the attacker is. -/
theorem Tramples.pass (hpresent : game.CombatPresent)
    (hsorted : game.combat.InOrder) (hshields : game.NoShields)
    (htramples : game.Tramples effects firstStrikeStep attacker card)
    (hpower : 0 < (game.combatPower effects attacker card).toInt)
    (plan : DamageAssignmentPlan)
    (hplan : ∀ assignment, lookup plan attacker = some assignment →
      (∀ entry ∈ assignment, entry.1 ∈ game.combat.getBlockers attacker ∧
        0 ≤ entry.2.toInt) ∧
      total (amounts assignment) ≤
        (game.combatPower effects attacker card).toInt) :
    ∃ passed record,
      exchangeAll effects firstStrikeStep plan game game.combat.attackerIds =
        (passed, .ok record) ∧
      (game.TrampleLegal effects attacker card record ↔
        LegalAssignment (game.combatPower effects attacker card).toInt
          (game.damageNeeded effects attacker)
          (game.combat.getBlockers attacker)
          (game.assignedBy effects attacker
            (game.combatPower effects attacker card)
            (lookup plan attacker))) := by
  obtain ⟨passed, record, reached, own, hpass, hsame, hshields', hown,
    hblockers, hplayers⟩ := exchangeAll_own effects firstStrikeStep hpresent
      hsorted hshields htramples.declared plan
  refine ⟨passed, record, hpass, ?_⟩
  have hpower' := hsame.combatPower effects attacker card
  have hpresent' := (hsame.combatPresent hpresent).blockers attacker
  obtain ⟨own', hown', hdealt⟩ :=
    (hsame.tramples htramples).exchange_dealt hshields' hpresent'
      (by rwa [hpower']) plan (by
        rw [hpower', hsame.combat]
        exact hplan)
  obtain rfl := Except.ok.inj (hown.symm.trans hown')
  rw [hpower', hsame.assignedBy] at hdealt
  constructor
  · intro hlegal hless blocker hblocker
    have hneeded := hlegal.lethalFirst
      (by rw [hplayers]; exact hdealt.reaches.mpr hless) blocker hblocker
    rwa [hblockers, hdealt.toBlockers] at hneeded
  · intro hlegal
    constructor
    · rw [hplayers, hblockers]
      intro hreaches blocker hblocker
      rw [hdealt.toBlockers]
      exact hlegal (hdealt.reaches.mp hreaches) blocker hblocker
    · rw [hplayers, hblockers, hdealt.blockerTotal, hdealt.playerTotal]
      omega

/-- Without power an attacker deals nothing. -/
theorem Tramples.pass_weak (hpresent : game.CombatPresent)
    (hsorted : game.combat.InOrder) (hshields : game.NoShields)
    (htramples : game.Tramples effects firstStrikeStep attacker card)
    (hpower : (game.combatPower effects attacker card).toInt ≤ 0)
    (plan : DamageAssignmentPlan) :
    ∃ passed record,
      exchangeAll effects firstStrikeStep plan game game.combat.attackerIds =
        (passed, .ok record) ∧
      (game.TrampleLegal effects attacker card record ↔
        (game.combatPower effects attacker card).toInt = 0) := by
  obtain ⟨passed, record, reached, own, hpass, hsame, -, hown, hblockers,
    hplayers⟩ := exchangeAll_own effects firstStrikeStep hpresent hsorted
      hshields htramples.declared plan
  refine ⟨passed, record, hpass, ?_⟩
  have hready : game.combatPower effects attacker card ≤ 0 :=
    Int32.le_iff_toInt_le.mpr hpower
  have hnothing : own = {} := by
    rw [exchange, hsame.zones, htramples.there, hsame.getCard,
      htramples.found] at hown
    simp only [Bool.not_true, Bool.false_eq_true, if_false,
      hsame.combatPower, hready, decide_true, Bool.or_true, if_true] at hown
    exact (Except.ok.inj hown).symm
  subst hnothing
  constructor
  · intro hlegal
    have hwhole := hlegal.whole
    rw [hblockers, hplayers] at hwhole
    exact hwhole.symm
  · intro hzero
    constructor
    · rw [hplayers]
      intro hreaches
      exact absurd rfl hreaches
    · rw [hblockers, hplayers, hzero]
      rfl

/-- What legal controllers make of an attacker with trample. -/
theorem Tramples.outcome (hpresent : game.CombatPresent)
    (hsorted : game.combat.InOrder) (hshields : game.NoShields)
    (htramples : game.Tramples effects firstStrikeStep attacker card)
    (hpower : 0 < (game.combatPower effects attacker card).toInt)
    {attackerController blockerController : DamageController}
    (hattacker : attackerController.Legal)
    (hblocker : blockerController.Legal) :
    ∃ plan passed record assignment,
      game.damagePlan effects attackerController blockerController none =
        .ok game plan ∧
      exchangeAll effects firstStrikeStep plan game game.combat.attackerIds =
        (passed, .ok record) ∧
      game.smartDamageAssignment effects attacker
        (game.combat.getBlockers attacker)
        (if card.owner = attackerController.playerId then attackerController
          else blockerController) = .ok game assignment ∧
      game.AssignmentOf effects attacker
        (game.combatPower effects attacker card) assignment ∧
      (game.TrampleLegal effects attacker card record ↔
        LegalAssignment (game.combatPower effects attacker card).toInt
          (game.damageNeeded effects attacker)
          (game.combat.getBlockers attacker)
          (game.assignedBy effects attacker
            (game.combatPower effects attacker card)
            (planEntry assignment))) := by
  obtain ⟨plan, hplan, -, hentries⟩ := planDamage_ok effects hattacker hblocker
    hpresent.attackers (Sorted.nodup_keys hsorted.attackers)
  obtain ⟨assignment, hassigned, hentry⟩ := hentries attacker
    htramples.declared card htramples.found htramples.several
  have hchooser : DamageController.Legal
      (if card.owner = attackerController.playerId then attackerController
        else blockerController) := by
    split
    · exact hattacker
    · exact hblocker
  obtain ⟨assignment', hassigned', hof⟩ := smartDamageAssignment_of effects
    hchooser htramples.found htramples.tramples hpower.le
  obtain rfl : assignment' = assignment := by
    rw [hassigned] at hassigned'
    exact (Except.ok.inj (Prod.mk.inj (Option.some.inj hassigned')).2).symm
  have hwithin := hof.within hpower.le
  obtain ⟨passed, record, hpass, hlegal⟩ := htramples.pass hpresent hsorted
    hshields hpower plan (by
      intro other hother
      rw [hentry, planEntry] at hother
      split at hother
      · cases hother
      · obtain rfl := Option.some.inj hother
        exact hwithin)
  rw [hentry] at hlegal
  exact ⟨plan, passed, record, assignment', hplan, hpass, hassigned, hof,
    hlegal⟩

/-- A controller that prefers some blockers makes a legal assignment too. -/
theorem Tramples.legal_preferring (hpresent : game.CombatPresent)
    (hsorted : game.combat.InOrder) (hshields : game.NoShields)
    (htramples : game.Tramples effects firstStrikeStep attacker card)
    (hall : game.TramplesLegally effects firstStrikeStep attacker card)
    (hpower : 0 < (game.combatPower effects attacker card).toInt)
    (wanted : List CardId) :
    ∃ assignment, game.smartDamageAssignment effects attacker
        (game.combat.getBlockers attacker) (preferring wanted ⟨0⟩) =
        .ok game assignment ∧
      game.AssignmentOf effects attacker
        (game.combatPower effects attacker card) assignment ∧
      LegalAssignment (game.combatPower effects attacker card).toInt
        (game.damageNeeded effects attacker)
        (game.combat.getBlockers attacker)
        (game.assignedBy effects attacker
          (game.combatPower effects attacker card)
          (planEntry assignment)) := by
  have hcontroller := preferring_legal wanted ⟨0⟩
  obtain ⟨plan, passed, record, assignment, hplan, hpass, hassigned, hof,
    hiff⟩ := htramples.outcome hpresent hsorted hshields hpower
      hcontroller hcontroller
  obtain ⟨plan', passed', record', hplan', hpass', hlegal⟩ :=
    hall _ _ hcontroller hcontroller
  rw [hplan] at hplan'
  obtain rfl := Except.ok.inj (Prod.mk.inj (Option.some.inj hplan')).2
  rw [hpass] at hpass'
  obtain rfl := Except.ok.inj (Prod.mk.inj hpass').2
  rw [ite_self] at hassigned
  exact ⟨assignment, hassigned, hof, hiff.mp hlegal⟩

/-- If the trample damage is legal for all answers, the state is safe. -/
theorem Tramples.safe_of_legal (hpresent : game.CombatPresent)
    (hsorted : game.combat.InOrder) (hshields : game.NoShields)
    (htramples : game.Tramples effects firstStrikeStep attacker card)
    (hall : game.TramplesLegally effects firstStrikeStep attacker card) :
    game.TrampleSafe effects attacker
      (game.combatPower effects attacker card) := by
  have hdistinct := htramples.distinct
  rcases lt_or_ge 0 (game.combatPower effects attacker card).toInt with
    hpower | hpower
  · refine ⟨hpower.le, Or.inr ?_⟩
    obtain ⟨assignment, -, hof, hlegal⟩ :=
      htramples.legal_preferring hpresent hsorted hshields hall hpower []
    rw [hof.legal_iff hpower hdistinct] at hlegal
    split
    · next hle =>
      rwa [if_pos hle] at hlegal
    · next hmore =>
      rw [if_neg hmore] at hlegal
      split
      · next hnone =>
        rwa [if_pos hnone] at hlegal
      · next hsome =>
        intro picked hmax
        obtain ⟨chosen, hchosen, hof, hlegal⟩ :=
          htramples.legal_preferring hpresent hsorted hshields hall hpower
            (picked.map Prod.fst)
        obtain ⟨chosen', hchosen', htotal⟩ :=
          smartDamageAssignment_preferring effects ⟨0⟩ htramples.found
            htramples.tramples hpower.le hdistinct hmore hmax
        rw [hchosen] at hchosen'
        obtain rfl := Except.ok.inj (Prod.mk.inj (Option.some.inj hchosen')).2
        rw [hof.legal_iff hpower hdistinct, if_neg hmore, if_neg hsome]
          at hlegal
        exact htotal.symm.trans hlegal
  · have hcontroller := preferring_legal [] ⟨0⟩
    obtain ⟨plan, passed, record, -, hpass, hlegal⟩ :=
      hall _ _ hcontroller hcontroller
    obtain ⟨passed', record', hpass', hiff⟩ :=
      htramples.pass_weak hpresent hsorted hshields hpower plan
    rw [hpass] at hpass'
    obtain rfl := Except.ok.inj (Prod.mk.inj hpass').2
    have hzero := hiff.mp hlegal
    exact ⟨hzero.ge, Or.inl hzero⟩

theorem Tramples.legal_of_safe (hpresent : game.CombatPresent)
    (hsorted : game.combat.InOrder) (hshields : game.NoShields)
    (htramples : game.Tramples effects firstStrikeStep attacker card)
    (hsafe : game.TrampleSafe effects attacker
      (game.combatPower effects attacker card)) :
    game.TramplesLegally effects firstStrikeStep attacker card := by
  intro attackerController blockerController hattacker hblocker
  obtain ⟨hnonneg, hsafe⟩ := hsafe
  have hdistinct := htramples.distinct
  by_cases hzero : (game.combatPower effects attacker card).toInt = 0
  · obtain ⟨plan, hplan, -, -⟩ := planDamage_ok effects hattacker hblocker
      hpresent.attackers (Sorted.nodup_keys hsorted.attackers)
    obtain ⟨passed, record, hpass, hiff⟩ :=
      htramples.pass_weak hpresent hsorted hshields hzero.le plan
    exact ⟨plan, passed, record, hplan, hpass, hiff.mpr hzero⟩
  · have hpower := lt_of_le_of_ne hnonneg (Ne.symm hzero)
    obtain ⟨plan, passed, record, assignment, hplan, hpass, -, hof, hiff⟩ :=
      htramples.outcome hpresent hsorted hshields hpower hattacker hblocker
    refine ⟨plan, passed, record, hplan, hpass, hiff.mpr ?_⟩
    have hsafe := hsafe.resolve_left hzero
    have hmax := hof
    rw [hof.legal_iff hpower hdistinct]
    rw [AssignmentOf] at hmax
    split at hsafe
    · next hle =>
      rwa [if_pos hle]
    · next hmore =>
      rw [if_neg hmore]
      split at hsafe
      · next hnone =>
        rwa [if_pos hnone]
      · next hsome =>
        rw [if_neg hsome]
        rw [if_neg hmore] at hmax
        exact hsafe _ hmax

/-- For every sequence of legal answers the trample damage is legal exactly
when the state before the step makes it safe. -/
theorem trample_legal_iff (hpresent : game.CombatPresent)
    (hsorted : game.combat.InOrder) (hshields : game.NoShields)
    (htramples : game.Tramples effects firstStrikeStep attacker card) :
    game.TramplesLegally effects firstStrikeStep attacker card ↔
      game.TrampleSafe effects attacker
        (game.combatPower effects attacker card) :=
  ⟨htramples.safe_of_legal hpresent hsorted hshields,
    htramples.legal_of_safe hpresent hsorted hshields⟩

end Pass

/-- An attacker with trample, blocked by two bears. -/
def doubleBlock (power : Int8) : GameState where
  cards := ⟨[some { bear 0 ⟨0⟩ [.trample] with basePower := some power },
    some (bear 1 ⟨1⟩ []), some (bear 2 ⟨1⟩ [])]⟩
  players := [{ id := ⟨0⟩ }, { id := ⟨1⟩ }]
  zones := { battlefield := [⟨0⟩, ⟨1⟩, ⟨2⟩] }
  turn := { activePlayer := ⟨0⟩ }
  combat :=
    { attackers := [(⟨0⟩, ⟨1⟩)]
      blockers := [(⟨1⟩, [⟨0⟩]), (⟨2⟩, [⟨0⟩])]
      attackerBlockers := [(⟨0⟩, [⟨1⟩, ⟨2⟩])]
      combatActive := true }

/-- The attacker of `doubleBlock`. -/
def trampler (power : Int8) : Card :=
  { bear 0 ⟨0⟩ [.trample] with basePower := some power }

theorem doubleBlock_present (power : Int8) :
    (doubleBlock power).CombatPresent := by
  constructor
  · intro attacker hattacker
    obtain rfl := List.mem_singleton.mp hattacker
    rfl
  · intro attacker blocker hblocker
    by_cases hattacker : (⟨0⟩ : CardId) = attacker
    · subst hattacker
      rcases List.mem_cons.mp hblocker with rfl | hblocker
      · rfl
      · obtain rfl := List.mem_singleton.mp hblocker
        rfl
    · have hnone : (doubleBlock power).combat.getBlockers attacker = [] := by
        simp [CombatState.getBlockers, doubleBlock, lookup, hattacker]
      rw [hnone] at hblocker
      cases hblocker

theorem doubleBlock_inOrder (power : Int8) :
    (doubleBlock power).combat.InOrder :=
  ⟨List.pairwise_singleton _ _, List.pairwise_pair.mpr (of_decide_eq_true rfl),
    List.pairwise_singleton _ _⟩

theorem doubleBlock_noShields (power : Int8) :
    (doubleBlock power).NoShields := by
  intro player hplayer
  rcases List.mem_cons.mp hplayer with rfl | hplayer
  · rfl
  · obtain rfl := List.mem_singleton.mp hplayer
    rfl

theorem doubleBlock_tramples (power : Int8) :
    (doubleBlock power).Tramples noEffects false ⟨0⟩ (trampler power) :=
  ⟨rfl, List.mem_singleton_self _, rfl, rfl, rfl, of_decide_eq_true rfl,
    of_decide_eq_true rfl, of_decide_eq_true rfl, rfl, fun _ _ => rfl⟩

/-- With power four both bears get their two damage, and nothing is left. -/
theorem doubleBlock_legal :
    (doubleBlock 4).TramplesLegally noEffects false ⟨0⟩ (trampler 4) :=
  (trample_legal_iff (doubleBlock_present 4) (doubleBlock_inOrder 4)
    (doubleBlock_noShields 4) (doubleBlock_tramples 4)).mpr
      ⟨by decide, Or.inr (by
        rw [if_pos (by decide), if_neg (by decide)]
        exact Or.inl (by decide))⟩

/-- With power three, one damage goes to the player while the second bear is
dealt none. -/
theorem doubleBlock_illegal :
    (doubleBlock 3).Tramples noEffects false ⟨0⟩ (trampler 3) ∧
      ¬(doubleBlock 3).TramplesLegally noEffects false ⟨0⟩ (trampler 3) := by
  refine ⟨doubleBlock_tramples 3, ?_⟩
  intro hall
  have hsafe := (doubleBlock_tramples 3).safe_of_legal (doubleBlock_present 3)
    (doubleBlock_inOrder 3) (doubleBlock_noShields 3) hall
  have hneeds : needs ((doubleBlock 3).blockerInfo noEffects ⟨0⟩) =
      [(⟨1⟩, 2), (⟨2⟩, 2)] := by decide
  have hmax : Maximal 3 (needs ((doubleBlock 3).blockerInfo noEffects ⟨0⟩))
      [(⟨1⟩, 2)] := by
    rw [hneeds]
    exact ⟨by decide, by decide, by decide, by decide⟩
  have hsafe := hsafe.2.resolve_left (by decide)
  rw [if_neg (by decide), if_neg (by decide)] at hsafe
  have htotal := hsafe _ hmax
  revert htotal
  decide

end GameState

end DeepScry
