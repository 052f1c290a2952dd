/-
The first pass assigns no more damage than the power of the attacker, whatever
its controllers answer.
-/
import DeepScry.CombatTurn
import DeepScry.TrampleAssignment

namespace DeepScry

open SortedMap MaximalPick DamageAssignment

namespace DamageAssignment

/-- The assignment takes nothing back, and is within the budget. -/
def Within (budget : Int) (assignment : Assignment) : Prop :=
  (∀ entry ∈ assignment, 0 ≤ entry.2.toInt) ∧
    total (amounts assignment) ≤ budget

theorem amounts_append (assignment other : Assignment) :
    total (amounts (assignment ++ other)) =
      total (amounts assignment) + total (amounts other) := by
  rw [amounts, List.map_append, ← amounts, ← amounts, total, List.map_append,
    List.sum_append, total, total]

theorem total_amounts_nonneg {assignment : Assignment}
    (hnonneg : ∀ entry ∈ assignment, 0 ≤ entry.2.toInt) :
    0 ≤ total (amounts assignment) := by
  apply total_nonneg
  intro item hitem
  obtain ⟨entry, hentry, rfl⟩ := List.mem_map.mp hitem
  exact hnonneg entry hentry

theorem Within.nil {budget : Int} (hbudget : 0 ≤ budget) : Within budget [] :=
  ⟨(fun _ hmem => nomatch hmem), hbudget⟩

/-- Another entry, for a larger budget. -/
theorem Within.concat {budget : Int} {result : Assignment} (blocker : CardId)
    {damage : Int32} (hresult : Within budget result)
    (hdamage : 0 ≤ damage.toInt) :
    Within (budget + damage.toInt) (result ++ [(blocker, damage)]) := by
  obtain ⟨hnonneg, htotal⟩ := hresult
  constructor
  · intro entry hentry
    rcases List.mem_append.mp hentry with hentry | hentry
    · exact hnonneg entry hentry
    · obtain rfl := List.mem_singleton.mp hentry
      exact hdamage
  · have hlast : total (amounts [(blocker, damage)]) = damage.toInt :=
      add_zero _
    rw [amounts_append, hlast]
    omega

/-- Dropping entries keeps it within. -/
theorem total_filter_le {assignment : Assignment}
    (hnonneg : ∀ entry ∈ assignment, 0 ≤ entry.2.toInt)
    (keep : CardId × Int32 → Bool) :
    total (amounts (assignment.filter keep)) ≤ total (amounts assignment) := by
  induction assignment with
  | nil => exact le_refl _
  | cons entry rest ih =>
      obtain ⟨blocker, damage⟩ := entry
      obtain ⟨hfirst, hrest⟩ := List.forall_mem_cons.mp hnonneg
      have hfirst : 0 ≤ damage.toInt := hfirst
      have hlater := ih hrest
      rw [List.filter_cons, GameState.amounts_cons]
      split
      · rw [GameState.amounts_cons]
        omega
      · omega

/-- What remains goes onto the last blocker. -/
theorem within_addToLast {budget : Int} {extra : Int32} {assigned : Assignment}
    (hassigned : Within (budget - extra.toInt) assigned)
    (hextra : 0 ≤ extra.toInt) (hbudget : budget < 2 ^ 31) :
    Within budget (addToLast extra assigned) := by
  induction assigned generalizing budget with
  | nil =>
      obtain ⟨-, htotal⟩ := hassigned
      exact Within.nil (le_trans (by exact hextra) (sub_nonneg.mp htotal))
  | cons entry rest ih =>
      obtain ⟨blocker, damage⟩ := entry
      obtain ⟨hnonneg, htotal⟩ := hassigned
      obtain ⟨hfirst, hrest⟩ := List.forall_mem_cons.mp hnonneg
      have hfirst : 0 ≤ damage.toInt := hfirst
      rw [GameState.amounts_cons] at htotal
      have hothers := total_amounts_nonneg hrest
      rcases rest with _ | ⟨next, others⟩
      · have hnone : total (amounts []) = 0 := rfl
        have hsum : (damage + extra).toInt = damage.toInt + extra.toInt := by
          rw [Int32.toInt_add]
          exact Int.bmod_eq_of_le_mul_two (by omega) (by omega)
        constructor
        · intro entry hentry
          obtain rfl := List.mem_singleton.mp hentry
          rw [hsum]
          omega
        · rw [addToLast, GameState.amounts_cons, hsum]
          omega
      · obtain ⟨hlater, hsum⟩ := @ih (budget - damage.toInt)
          ⟨hrest, by omega⟩ (by omega)
        rw [addToLast]
        constructor
        · intro entry hentry
          rcases List.mem_cons.mp hentry with rfl | hentry
          · exact hfirst
          · exact hlater entry hentry
        · rw [GameState.amounts_cons]
          omega
        · simp

/-- When every blocker is killed, no more than the power is assigned. -/
theorem within_assignAll {power : Int32} (hpower : 0 ≤ power.toInt)
    (hasTrample : Bool) {blockers : List (CardId × Option Int32)}
    (hpositive : ∀ item ∈ needs blockers, 0 < item.2) :
    Within power.toInt (assignAll power hasTrample blockers) := by
  have hsorted : ∀ item ∈ needs (blockers.insertionSort Before),
      0 < item.2 := by
    intro item hitem
    exact hpositive item ((needs_perm
      (List.perm_insertionSort Before blockers)).mem_iff.mp hitem)
  obtain ⟨hleft, htotal, hnonneg, -⟩ := assignInOrder_spec hpower hsorted
  have hbound := power.toInt_lt
  rw [assignAll]
  simp only
  generalize assignInOrder power (blockers.insertionSort Before) = assigned
    at hleft htotal hnonneg ⊢
  obtain ⟨assignment, left⟩ := assigned
  simp only at hleft htotal hnonneg ⊢
  split
  · apply within_addToLast ⟨hnonneg, ?_⟩ (by omega) hbound
    omega
  · exact ⟨hnonneg, by omega⟩

end DamageAssignment

namespace GameState

section Plan

variable {game : GameState} {controller : DamageController}

/-- Whatever the controller answers, the assignment stays within what was
assigned and what remained. -/
theorem chooseAssignment_within (attacker : CardId) (owner : PlayerId)
    (hasTrample : Bool) {remaining : Int32}
    {blockers : List (CardId × Option Int32)} {result assignment : Assignment}
    {next : GameState} {budget : Int} (hremaining : 0 ≤ remaining.toInt)
    (hpositive : ∀ item ∈ needs blockers, 0 < item.2)
    (hresult : Within (budget - remaining.toInt) result)
    (hdone : game.chooseAssignment controller attacker owner hasTrample
      remaining blockers result = .ok next assignment) :
    Within budget assignment := by
  induction hlength : blockers.length using Nat.strong_induction_on
    generalizing blockers remaining result with
  | h n ih =>
      subst hlength
      have hbudget : 0 ≤ budget := by
        have htotal := total_amounts_nonneg hresult.1
        have hle := hresult.2
        omega
      have hstop : Within budget result :=
        ⟨hresult.1, le_trans hresult.2 (by omega)⟩
      -- One more entry for a blocker that can be killed.
      have hstep {blocker : CardId} {lethal : Int32}
          (hmem : (blocker, lethal) ∈ killableWith remaining blockers)
          (hmore : game.chooseAssignment controller attacker owner hasTrample
            (remaining - lethal) (without blockers blocker)
            (result ++ [(blocker, lethal)]) = .ok next assignment) :
          Within budget assignment := by
        obtain ⟨hneed, hleft, hnonneg⟩ := step_toInt hpositive hmem
        have hlethal := hpositive _ hneed
        simp only at hleft hnonneg hlethal
        have hlonger := hresult.concat blocker hlethal.le
        have hsame : budget - remaining.toInt + lethal.toInt =
            budget - (remaining - lethal).toInt := by omega
        rw [hsame] at hlonger
        exact ih _ (length_without_of_killable hmem) hnonneg
          (needs_without_pos hpositive blocker) hlonger hmore rfl
      -- An answer either leads on or ends the assignment.
      have hanswer {answer : ChoiceResult CardId}
          {following : CardId → Outcome Assignment}
          (hwith : game.withAnswer owner answer following =
            .ok next assignment)
          (hfollow : ∀ id, following id = .ok next assignment →
            Within budget assignment) : Within budget assignment := by
        cases answer with
        | ok id => exact hfollow id hwith
        | undoRequest n =>
            cases hwith
            exact Within.nil hbudget
        | exitGame => cases hwith
        | error message => cases hwith
        | needInput => cases hwith
      rw [chooseAssignment] at hdone
      split at hdone
      · cases hdone
        exact hstop
      · split at hdone
        · split at hdone
          · cases hdone
            exact hstop
          · apply hanswer hdone
            intro id hid
            cases hid
            have hlast := hresult.concat id hremaining
            rw [sub_add_cancel] at hlast
            exact hlast
        · next blocker lethal hkillable =>
          apply hstep _ hdone
          rw [hkillable]
          exact List.mem_singleton_self _
        · next first second others hkillable =>
          apply hanswer hdone
          intro id hid
          split at hid
          · next chosen lethal hchosen =>
            apply hstep _ hid
            rw [hkillable]
            exact mem_of_find hchosen
          · cases hid

variable (effects : StaticEffects)

theorem smartDamageAssignment_within {attacker : CardId} {card : Card}
    {next : GameState} {assignment : Assignment}
    (hcard : game.getCard attacker = some card)
    (hpower : 0 ≤ (game.combatPower effects attacker card).toInt)
    (hdone : game.smartDamageAssignment effects attacker
      (game.combat.getBlockers attacker) controller = .ok next assignment) :
    Within (game.combatPower effects attacker card).toInt assignment := by
  rw [smartDamageAssignment, hcard] at hdone
  simp only at hdone
  rw [← blockerInfo] at hdone
  split at hdone
  · cases hdone
    exact within_assignAll hpower _ blockerInfo_pos
  · apply game.chooseAssignment_within attacker card.owner _ hpower
      blockerInfo_pos _ hdone
    rw [sub_self]
    exact Within.nil le_rfl

/-- Each entry of the plan is an assignment that the first pass made. -/
theorem planDamage_within
    {attackerController blockerController : DamageController}
    (hattacker : attackerController.NeverUndoes)
    (hblocker : blockerController.NeverUndoes) {attackers : List CardId}
    {next : GameState} {plan : DamageAssignmentPlan}
    (hdone : planDamage effects attackerController blockerController game
      attackers = .ok next plan) :
    ∀ entry ∈ plan, ∀ card, game.getCard entry.1 = some card →
      0 ≤ (game.combatPower effects entry.1 card).toInt →
        Within (game.combatPower effects entry.1 card).toInt entry.2 := by
  induction attackers generalizing next plan with
  | nil =>
      cases hdone
      intro entry hmem
      cases hmem
  | cons attacker rest ih =>
      rw [planDamage] at hdone
      simp only at hdone
      split at hdone
      · split at hdone
        · cases hdone
        · next card hcard =>
          have hcontroller : DamageController.NeverUndoes
              (if card.owner = attackerController.playerId then
                attackerController else blockerController) := by
            split
            · exact hattacker
            · exact hblocker
          have hkeeps := game.keeps_smartDamageAssignment effects hcontroller
            attacker (game.combat.getBlockers attacker)
          obtain ⟨middle, assignment, hassigned, hfollow⟩ :=
            Outcome.andThen_eq_ok.mp hdone
          obtain rfl := hkeeps middle _ hassigned
          obtain ⟨last, others, hothers, hplan⟩ :=
            Outcome.andThen_eq_ok.mp hfollow
          have hlater := ih hothers
          cases hplan
          split
          · exact hlater
          · intro entry hmem
            rcases List.mem_cons.mp hmem with rfl | hmem
            · intro other hother hpower
              exact smartDamageAssignment_within effects hother hpower
                hassigned
            · exact hlater entry hmem
      · exact ih hdone

/-- Without undo requests, the plan of the first pass is within the power of
each attacker. -/
theorem damagePlan_fitsPower (firstStrikeStep : Bool)
    {attackerController blockerController : DamageController}
    (hattacker : attackerController.NeverUndoes)
    (hblocker : blockerController.NeverUndoes) {planned : GameState}
    {plan : DamageAssignmentPlan}
    (hdone : game.damagePlan effects attackerController blockerController
      none = .ok planned plan) :
    planned.FitsPower effects firstStrikeStep plan := by
  rw [damagePlan] at hdone
  obtain rfl := game.keeps_planDamage effects hattacker hblocker
    game.combat.attackerIds planned _ hdone
  intro attacker power assignments hpower hplan
  have hpositive := (Int32.lt_iff_toInt_lt.mp
    (planned.strikingPower_pos effects firstStrikeStep attacker hpower)).le
  rw [strikingPower] at hpower
  split at hpower
  · cases hpower
  · obtain ⟨card, hcard, hstrikes⟩ := Option.bind_eq_some_iff.mp hpower
    split at hstrikes
    · cases hstrikes
    · cases hstrikes
      obtain ⟨hnonneg, htotal⟩ := planDamage_within effects hattacker hblocker
        hdone _ (mem_of_lookup hplan) card hcard hpositive
      exact le_trans (total_filter_le hnonneg _) htotal

end Plan

end GameState

end DeepScry
