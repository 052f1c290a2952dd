/-
The assignments of an attacker with trample: which ones legal answers lead to,
and which of them give every blocker what it needs before the player.
-/
import DeepScry.TrampleDamage

namespace DeepScry

open SortedMap MaximalPick DamageAssignment

/-- An assignment that leaves some power gives every blocker what it needs. -/
def LegalAssignment (power : Int) (need : CardId → Int)
    (blockers : List CardId) (assigned : List (CardId × Int)) : Prop :=
  total assigned < power →
    ∀ blocker ∈ blockers, need blocker ≤ weightOf assigned blocker

/-- Assigning in order is legal: nothing is left, or what counts as lethal is
what each blocker needs. -/
def InOrderSafe (power : Int) (need : CardId → Int)
    (info : List (CardId × Option Int32)) : Prop :=
  power ≤ total (needs info) ∨
    ∀ blocker ∈ info.map Prod.fst, need blocker ≤ weightOf (needs info) blocker

theorem legal_iff_inOrderSafe (need : CardId → Int) {power : Int32}
    {info sorted : List (CardId × Option Int32)}
    (hpower : 0 ≤ power.toInt)
    (hpositive : ∀ item ∈ needs info, 0 < item.2)
    (hperm : sorted.Perm info) :
    LegalAssignment power.toInt need (info.map Prod.fst)
        (amounts (assignInOrder power sorted).1) ↔
      InOrderSafe power.toInt need info := by
  have hneeds := needs_perm hperm
  obtain ⟨hleft, htotal, -, hall⟩ := assignInOrder_spec hpower
    (fun item hitem => hpositive item (hneeds.mem_iff.mp hitem))
  rw [total_perm hneeds] at hleft
  rw [LegalAssignment, InOrderSafe]
  by_cases hmore : total (needs info) < power.toInt
  · rw [hall (by omega)]
    have hsame (blocker : CardId) := weightOf_perm hneeds blocker
    simp only [hsame, total_perm hneeds, hmore, not_le.mpr hmore,
      true_implies, false_or]
  · constructor
    · intro _
      exact Or.inl (not_lt.mp hmore)
    · intro _ hsome
      omega

/-- A maximal selection is legal only when it uses up the power, since some
blocker is left out. -/
theorem Maximal.legal_iff {power : Int} {need : CardId → Int}
    {items picked : List (CardId × Int)} {blockers : List CardId}
    (hmax : Maximal power items picked)
    (hnodup : (items.map Prod.fst).Nodup)
    (hneed : ∀ item ∈ items, 0 < item.2 ∧ need item.1 = item.2 ∧
      item.1 ∈ blockers)
    (hmore : power < total items) :
    LegalAssignment power need blockers picked ↔ total picked = power := by
  constructor
  · intro hlegal
    by_contra hne
    have hless := lt_of_le_of_ne hmax.within hne
    obtain ⟨item, hitem, hnot⟩ := hmax.exists_left_out hnodup hmore
    obtain ⟨hpositive, hsame, hmem⟩ := hneed item hitem
    have hle := hlegal hless item.1 hmem
    rw [weightOf_of_not_mem hnot, hsame] at hle
    omega
  · intro htotal hless
    omega

namespace GameState

section Safe

variable (effects : StaticEffects) (game : GameState) (attacker : CardId)

/-- The damage that trample has to assign to a blocker first: 1 with
deathtouch, else its effective toughness. -/
def damageNeeded (blocker : CardId) : Int :=
  if game.hasKeywordWithEffects effects attacker .deathtouch then 1
  else
    ((game.getCard blocker).map fun card =>
      (game.combatToughness effects blocker card).toInt).getD 0

/-- The blockers of an attacker with their lethal damage. -/
def blockerInfo : List (CardId × Option Int32) :=
  (game.combat.getBlockers attacker).map fun id =>
    (id, game.calculateLethalDamage effects id
      (game.hasKeywordWithEffects effects attacker .deathtouch))

/-- The blockers of an attacker by their current toughness. -/
def currentBlockerInfo : List (CardId × Option Int32) :=
  game.currentInfo (game.hasKeywordWithEffects effects attacker .deathtouch)
    (game.combat.getBlockers attacker)

/-- Whatever is chosen, the trample damage is legal. -/
def TrampleSafe (power : Int32) : Prop :=
  let info := game.blockerInfo effects attacker
  let need := game.damageNeeded effects attacker
  0 ≤ power.toInt ∧
    (power.toInt = 0 ∨
      if totalLethalNeeded info ≤ power then
        if needs info = [] then
          InOrderSafe power.toInt need (game.currentBlockerInfo effects attacker)
        else InOrderSafe power.toInt need info
      else if killableWith power info = [] then
        InOrderSafe power.toInt need (game.currentBlockerInfo effects attacker)
      else
        ∀ picked, Maximal power.toInt (needs info) picked →
          total picked = power.toInt)

/-- An assignment that legal answers lead to. -/
def AssignmentOf (power : Int32) (assignment : Assignment) : Prop :=
  let info := game.blockerInfo effects attacker
  if totalLethalNeeded info ≤ power then
    assignment = (assignInOrder power (info.insertionSort Before)).1
  else Maximal power.toInt (needs info) (amounts assignment)

/-- What the attacker deals by its entry in the plan, or without one. -/
def assignedBy (power : Int32) : Option Assignment → List (CardId × Int)
  | some assignment => amounts assignment
  | none =>
      amounts (assignInOrder power
        (game.currentBlockerInfo effects attacker)).1

/-- An empty assignment makes no entry in the plan. -/
def planEntry (assignment : Assignment) : Option Assignment :=
  if assignment.isEmpty then none else some assignment

variable {effects game attacker}

theorem calculateLethalDamage_spec {blocker : CardId} {deathtouch : Bool}
    {lethal : Int32}
    (hlethal : game.calculateLethalDamage effects blocker deathtouch =
      some lethal) :
    ∃ card, game.getCard blocker = some card ∧ 0 < lethal.toInt ∧
      lethal = if deathtouch then 1
        else game.combatToughness effects blocker card := by
  rw [calculateLethalDamage] at hlethal
  split at hlethal
  · cases hlethal
  · next card hcard =>
    split at hlethal
    · cases hlethal
    · simp only at hlethal
      rw [← combatToughness] at hlethal
      split at hlethal
      · cases hlethal
      · next hpositive =>
        have hpositive := Int32.lt_iff_toInt_lt.mp (Int32.not_le.mp hpositive)
        refine ⟨card, hcard, ?_⟩
        split at hlethal
        · next htouch =>
          obtain rfl := Option.some.inj hlethal
          exact ⟨by decide, (if_pos htouch).symm⟩
        · next htouch =>
          obtain rfl := Option.some.inj hlethal
          exact ⟨hpositive, (if_neg htouch).symm⟩

theorem blockerInfo_keys :
    (game.blockerInfo effects attacker).map Prod.fst =
      game.combat.getBlockers attacker := by
  rw [blockerInfo, List.map_map]
  exact List.map_id _

theorem currentBlockerInfo_keys :
    (game.currentBlockerInfo effects attacker).map Prod.fst =
      game.combat.getBlockers attacker := by
  rw [currentBlockerInfo, currentInfo, List.map_map]
  exact List.map_id _

theorem currentBlockerInfo_pos :
    ∀ item ∈ needs (game.currentBlockerInfo effects attacker), 0 < item.2 :=
  game.currentInfo_pos _ _

/-- A blocker that damage can kill needs its lethal damage. -/
theorem need_of_mem_blockerInfo :
    ∀ item ∈ needs (game.blockerInfo effects attacker), 0 < item.2 ∧
      game.damageNeeded effects attacker item.1 = item.2 ∧
      item.1 ∈ game.combat.getBlockers attacker := by
  intro item hitem
  obtain ⟨lethal, hmem, hneed⟩ := mem_needs.mp hitem
  obtain ⟨id, hid, hentry⟩ := List.mem_map.mp hmem
  obtain ⟨rfl, hlethal⟩ := Prod.mk.inj hentry
  obtain ⟨card, hcard, hpositive, hvalue⟩ :=
    calculateLethalDamage_spec hlethal
  refine ⟨hneed ▸ hpositive, ?_, hid⟩
  rw [hneed, hvalue, damageNeeded, hcard]
  split
  · rfl
  · rfl

theorem blockerInfo_pos :
    ∀ item ∈ needs (game.blockerInfo effects attacker), 0 < item.2 :=
  fun item hitem => (need_of_mem_blockerInfo item hitem).1

theorem sorted_perm (info : List (CardId × Option Int32)) :
    (info.insertionSort Before).Perm info :=
  List.perm_insertionSort Before info

/-- An assignment that legal answers lead to stays within the power and within
the blockers. -/
theorem AssignmentOf.within {power : Int32} {assignment : Assignment}
    (hof : game.AssignmentOf effects attacker power assignment)
    (hpower : 0 ≤ power.toInt) :
    (∀ entry ∈ assignment, entry.1 ∈ game.combat.getBlockers attacker ∧
        0 ≤ entry.2.toInt) ∧
      total (amounts assignment) ≤ power.toInt := by
  rw [AssignmentOf] at hof
  split at hof
  · have hneeds := needs_perm (sorted_perm (game.blockerInfo effects attacker))
    obtain ⟨hleft, htotal, hnonneg, -⟩ := assignInOrder_spec hpower
      (fun item hitem => blockerInfo_pos item (hneeds.mem_iff.mp hitem))
    rw [← hof] at htotal hnonneg
    refine ⟨?_, by omega⟩
    intro entry hentry
    refine ⟨?_, hnonneg entry hentry⟩
    have hkey : entry.1 ∈ assignment.map Prod.fst :=
      List.mem_map.mpr ⟨entry, hentry, rfl⟩
    rw [hof, assignInOrder_keys] at hkey
    obtain ⟨item, hitem, hsame⟩ := List.mem_map.mp hkey
    rw [← hsame]
    exact (need_of_mem_blockerInfo item (hneeds.mem_iff.mp hitem)).2.2
  · refine ⟨?_, hof.within⟩
    intro entry hentry
    have hitem : (entry.1, entry.2.toInt) ∈ amounts assignment :=
      List.mem_map.mpr ⟨entry, hentry, rfl⟩
    obtain ⟨hpositive, -, hmem⟩ :=
      need_of_mem_blockerInfo _ (hof.subset hitem)
    exact ⟨hmem, hpositive.le⟩

theorem toInt_foldl_add (amounts : List Int32) (start : Int32) :
    (amounts.foldl (· + ·) start).toInt =
      (start.toInt + (amounts.map Int32.toInt).sum).bmod (2 ^ 32) := by
  induction amounts generalizing start with
  | nil =>
      have hlow := start.le_toInt
      have hhigh := start.toInt_lt
      rw [List.map_nil, List.sum_nil, add_zero, List.foldl_nil,
        Int.bmod_eq_of_le_mul_two (by omega) (by omega)]
  | cons amount rest ih =>
      rw [List.foldl_cons, ih, Int32.toInt_add, Int.bmod_add_bmod,
        List.map_cons, List.sum_cons, add_assoc]

theorem total_needs_eq (info : List (CardId × Option Int32)) :
    total (needs info) = ((info.filterMap Prod.snd).map Int32.toInt).sum := by
  induction info with
  | nil => rfl
  | cons entry rest ih =>
      obtain ⟨id, _ | lethal⟩ := entry
      · rw [needs_cons_none, ih]
        rfl
      · rw [needs_cons_some, total_cons, ih]
        rfl

/-- Even where the sum of the lethal damages wraps around, more than the power
is more than the power. -/
theorem total_needs_of_lt {power : Int32}
    {info : List (CardId × Option Int32)}
    (hpositive : ∀ item ∈ needs info, 0 < item.2)
    (hmore : power < totalLethalNeeded info) :
    power.toInt < total (needs info) := by
  have hless := Int32.lt_iff_toInt_lt.mp hmore
  have hsum : (totalLethalNeeded info).toInt =
      (total (needs info)).bmod (2 ^ 32) := by
    rw [totalLethalNeeded, toInt_foldl_add, total_needs_eq,
      show (0 : Int32).toInt = 0 from rfl, zero_add]
  have hnonneg : 0 ≤ total (needs info) :=
    total_nonneg fun item hitem => (hpositive item hitem).le
  by_cases hfits : total (needs info) < 2 ^ 31
  · rw [Int.bmod_eq_of_le_mul_two (by omega) (by omega)] at hsum
    omega
  · have hbound := power.toInt_lt
    omega

/-- The maximal selections are the same for no blocker that can be killed. -/
theorem maximal_nil_iff {power : Int32} {info : List (CardId × Option Int32)}
    {assignment : Assignment}
    (hpositive : ∀ item ∈ needs info, 0 < item.2)
    (hmax : Maximal power.toInt (needs info) (amounts assignment)) :
    assignment = [] ↔ killableWith power info = [] := by
  constructor
  · rintro rfl
    apply List.eq_nil_iff_forall_not_mem.mpr
    rintro ⟨blocker, lethal⟩ hmem
    obtain ⟨hinfo, hle⟩ := mem_killableWith.mp hmem
    have hless := hmax.maximal (blocker, lethal.toInt)
      (mem_needs.mpr ⟨lethal, hinfo, rfl⟩) List.not_mem_nil
    have hle := Int32.le_iff_toInt_le.mp hle
    rw [amounts, List.map_nil, total, List.map_nil, List.sum_nil, zero_add]
      at hless
    exact absurd hle (not_le.mpr hless)
  · intro hnone
    rcases assignment with _ | ⟨entry, rest⟩
    · rfl
    · have hmem : (entry.1, entry.2.toInt) ∈ needs info :=
        hmax.subset List.mem_cons_self
      have hless := lt_of_killableWith_nil hnone _ hmem
      have hwithin := hmax.within
      have hrest : 0 ≤ total (amounts rest) := by
        apply total_nonneg
        intro item hitem
        exact (hpositive item (hmax.subset (List.mem_cons_of_mem _ hitem))).le
      rw [amounts, List.map_cons, ← amounts, total_cons] at hwithin
      simp only at hless hwithin
      omega

/-- Whether what the attacker assigns is legal, by the way it is assigned. -/
theorem AssignmentOf.legal_iff {power : Int32} {assignment : Assignment}
    (hof : game.AssignmentOf effects attacker power assignment)
    (hpower : 0 < power.toInt)
    (hnodup : (game.combat.getBlockers attacker).Nodup) :
    LegalAssignment power.toInt (game.damageNeeded effects attacker)
        (game.combat.getBlockers attacker)
        (game.assignedBy effects attacker power (planEntry assignment)) ↔
      if totalLethalNeeded (game.blockerInfo effects attacker) ≤ power then
        if needs (game.blockerInfo effects attacker) = [] then
          InOrderSafe power.toInt (game.damageNeeded effects attacker)
            (game.currentBlockerInfo effects attacker)
        else
          InOrderSafe power.toInt (game.damageNeeded effects attacker)
            (game.blockerInfo effects attacker)
      else if killableWith power (game.blockerInfo effects attacker) = [] then
        InOrderSafe power.toInt (game.damageNeeded effects attacker)
          (game.currentBlockerInfo effects attacker)
      else total (amounts assignment) = power.toInt := by
  have hinOrder := legal_iff_inOrderSafe
    (game.damageNeeded effects attacker) hpower.le currentBlockerInfo_pos
    (List.Perm.refl (game.currentBlockerInfo effects attacker))
  rw [currentBlockerInfo_keys] at hinOrder
  have hplan := legal_iff_inOrderSafe
    (game.damageNeeded effects attacker) hpower.le
    blockerInfo_pos (sorted_perm (game.blockerInfo effects attacker))
  rw [blockerInfo_keys] at hplan
  rw [AssignmentOf] at hof
  split at hof
  · next hle =>
    rw [if_pos hle]
    have hkeys := assignInOrder_keys power
      ((game.blockerInfo effects attacker).insertionSort Before)
    rw [← hof] at hkeys hplan
    have hperm := needs_perm (sorted_perm (game.blockerInfo effects attacker))
    split
    · next hnone =>
      rw [hnone, List.perm_nil] at hperm
      rw [hperm, List.map_nil, List.map_eq_nil_iff] at hkeys
      rw [hkeys]
      exact hinOrder
    · next hsome =>
      have hnonempty : assignment ≠ [] := by
        rintro rfl
        rw [List.map_nil, eq_comm, List.map_eq_nil_iff] at hkeys
        rw [hkeys, List.nil_perm] at hperm
        exact hsome hperm
      rw [planEntry, if_neg (by simpa using hnonempty)]
      exact hplan
  · next hmore =>
    rw [if_neg hmore]
    have hiff := maximal_nil_iff blockerInfo_pos hof
    split
    · next hnone =>
      rw [hiff.mpr hnone]
      exact hinOrder
    · next hsome =>
      rw [planEntry, if_neg (by simpa using fun hnil => hsome (hiff.mp hnil))]
      exact Maximal.legal_iff hof
        (needs_keys_nodup (by rwa [blockerInfo_keys]))
        need_of_mem_blockerInfo
        (total_needs_of_lt blockerInfo_pos (Int32.not_le.mp hmore))

end Safe

section Plan

variable (effects : StaticEffects) {game : GameState} {attacker : CardId}
  {controller : DamageController} {card : Card}

theorem smartDamageAssignment_ok (hlegal : controller.Legal)
    (hcard : game.getCard attacker = some card) (blockers : List CardId) :
    ∃ assignment, game.smartDamageAssignment effects attacker blockers
      controller = .ok game assignment := by
  rw [smartDamageAssignment, hcard]
  simp only
  split
  · exact ⟨_, rfl⟩
  · exact chooseAssignment_ok hlegal []

/-- With trample, legal answers lead to an assignment of the given form. -/
theorem smartDamageAssignment_of (hlegal : controller.Legal)
    (hcard : game.getCard attacker = some card)
    (htrample : game.hasKeywordWithEffects effects attacker .trample = true)
    (hpower : 0 ≤ (game.combatPower effects attacker card).toInt) :
    ∃ assignment, game.smartDamageAssignment effects attacker
        (game.combat.getBlockers attacker) controller = .ok game assignment ∧
      game.AssignmentOf effects attacker
        (game.combatPower effects attacker card) assignment := by
  rw [smartDamageAssignment, hcard]
  simp only
  rw [← blockerInfo, htrample]
  split
  · next hle =>
    refine ⟨_, rfl, ?_⟩
    rw [AssignmentOf, if_pos hle, assignAll]
    rfl
  · next hmore =>
    obtain ⟨picked, hpicked, hmax⟩ := chooseAssignment_maximal game attacker
      card.owner hlegal hpower blockerInfo_pos []
    refine ⟨picked, hpicked, ?_⟩
    rw [AssignmentOf, if_neg hmore]
    exact hmax

/-- A maximal selection is what the controller that prefers it assigns. -/
theorem smartDamageAssignment_preferring (player : PlayerId)
    (hcard : game.getCard attacker = some card)
    (htrample : game.hasKeywordWithEffects effects attacker .trample = true)
    (hpower : 0 ≤ (game.combatPower effects attacker card).toInt)
    (hnodup : (game.combat.getBlockers attacker).Nodup)
    (hmore : ¬totalLethalNeeded (game.blockerInfo effects attacker) ≤
      game.combatPower effects attacker card)
    {goal : List (CardId × Int)}
    (hgoal : Maximal (game.combatPower effects attacker card).toInt
      (needs (game.blockerInfo effects attacker)) goal) :
    ∃ assignment, game.smartDamageAssignment effects attacker
        (game.combat.getBlockers attacker)
        (preferring (goal.map Prod.fst) player) = .ok game assignment ∧
      total (amounts assignment) = total goal := by
  rw [smartDamageAssignment, hcard]
  simp only
  rw [← blockerInfo, htrample, if_neg hmore]
  obtain ⟨picked, hpicked, htotal⟩ := chooseAssignment_preferring game attacker
    card.owner player hpower blockerInfo_pos
    (needs_keys_nodup (by rwa [blockerInfo_keys])) hgoal
    (fun _ _ => Iff.rfl) []
  exact ⟨picked, hpicked, htotal⟩

/-- With legal controllers the first pass goes through, and makes an entry for
each attacker with several blockers. -/
theorem planDamage_ok {attackerController blockerController : DamageController}
    (hattacker : attackerController.Legal) (hblocker : blockerController.Legal)
    {attackers : List CardId}
    (hpresent : ∀ attacker ∈ attackers, (game.getCard attacker).isSome = true)
    (hnodup : attackers.Nodup) :
    ∃ plan, planDamage effects attackerController blockerController game
        attackers = .ok game plan ∧
      (∀ attacker ∉ attackers, lookup plan attacker = none) ∧
      ∀ attacker ∈ attackers, ∀ card, game.getCard attacker = some card →
        1 < (game.combat.getBlockers attacker).length →
          ∃ assignment, game.smartDamageAssignment effects attacker
              (game.combat.getBlockers attacker)
              (if card.owner = attackerController.playerId then
                attackerController else blockerController) =
                .ok game assignment ∧
            lookup plan attacker = planEntry assignment := by
  induction attackers with
  | nil =>
      exact ⟨[], rfl, fun _ _ => rfl, (fun _ hmem => nomatch hmem)⟩
  | cons first rest ih =>
      obtain ⟨hfirst, hrest⟩ := List.forall_mem_cons.mp hpresent
      obtain ⟨hnot, hnodup⟩ := List.nodup_cons.mp hnodup
      obtain ⟨plan, hplan, hnone, hentries⟩ := ih hrest hnodup
      obtain ⟨firstCard, hfirstCard⟩ := Option.isSome_iff_exists.mp hfirst
      rw [planDamage]
      simp only
      split
      · rw [hfirstCard]
        simp only
        have hlegal : DamageController.Legal
            (if firstCard.owner = attackerController.playerId then
              attackerController else blockerController) := by
          split
          · exact hattacker
          · exact hblocker
        obtain ⟨assignment, hassigned⟩ := smartDamageAssignment_ok effects
          hlegal hfirstCard (game.combat.getBlockers first)
        have hlookup (other : CardId) :
            lookup (if assignment.isEmpty then plan
              else (first, assignment) :: plan) other =
              if other = first then planEntry assignment
              else lookup plan other := by
          rw [planEntry]
          split
          · split
            · next heq => rw [heq, hnone first hnot]
            · rfl
          · rw [lookup, lookup_cons]
            by_cases heq : first = other
            · rw [if_pos heq, if_pos heq.symm]
            · rw [if_neg heq, if_neg (Ne.symm heq)]
              rfl
        refine ⟨_, Outcome.andThen_eq_ok.mpr ⟨_, _, hassigned,
          Outcome.andThen_eq_ok.mpr ⟨_, _, hplan, rfl⟩⟩, ?_, ?_⟩
        · intro other hother
          rw [List.mem_cons, not_or] at hother
          rw [hlookup, if_neg hother.1, hnone other hother.2]
        · intro other hother card hcard hseveral
          rw [hlookup]
          by_cases heq : other = first
          · subst heq
            obtain rfl := Option.some.inj (hfirstCard.symm.trans hcard)
            rw [if_pos rfl]
            exact ⟨assignment, hassigned, rfl⟩
          · rw [if_neg heq]
            exact hentries other (List.mem_of_ne_of_mem heq hother) card hcard
              hseveral
      · next hfew =>
        refine ⟨plan, hplan, ?_, ?_⟩
        · intro other hother
          exact hnone other fun hmem => hother (List.mem_cons_of_mem _ hmem)
        · intro other hother card hcard hseveral
          rcases List.mem_cons.mp hother with rfl | hother
          · exact absurd hseveral hfew
          · exact hentries other hother card hcard hseveral

end Plan

end GameState

end DeepScry
