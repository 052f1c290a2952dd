/-
Which damage assignments the answers of a controller lead to: a fixed order,
or blockers picked until the remaining power kills no other one.
-/
import DeepScry.CombatFrame
import DeepScry.MaximalPick
import Mathlib.Algebra.Order.Group.Int

namespace DeepScry

open MaximalPick

/-- Every answer picks one of the options. -/
structure DamageController.Legal (controller : DamageController) : Prop where
  lethal : ∀ game attacker options remaining, options ≠ [] →
    ∃ option ∈ options, controller.chooseBlockerForLethalDamage game attacker
      options remaining = .ok option.1
  remaining : ∀ game attacker blockers remaining, blockers ≠ [] →
    ∃ blocker ∈ blockers, controller.chooseBlockerForRemainingDamage game
      attacker blockers remaining = .ok blocker

section Arithmetic

/-- Taking away a part does not overflow. -/
theorem toInt_sub_of_le {amount part : Int32} (hpart : 0 ≤ part.toInt)
    (hle : part.toInt ≤ amount.toInt) :
    (amount - part).toInt = amount.toInt - part.toInt := by
  have hbound := amount.toInt_lt
  rw [Int32.toInt_sub]
  exact Int.bmod_eq_of_le_mul_two (by omega) (by omega)

theorem toInt_min (amount other : Int32) :
    (min amount other).toInt = min amount.toInt other.toInt := by
  have hmin : min amount other = if amount ≤ other then amount else other := rfl
  have hle := @Int32.le_iff_toInt_le amount other
  rw [hmin]
  split
  · next h => rw [min_eq_left (hle.mp h)]
  · next h => rw [min_eq_right (not_le.mp fun h' => h (hle.mpr h')).le]

end Arithmetic

namespace DamageAssignment

/-- The damage of an assignment. -/
def amounts (assignment : Assignment) : List (CardId × Int) :=
  assignment.map fun entry => (entry.1, entry.2.toInt)

/-- The lethal damage of the blockers that damage can kill. -/
def needs (blockers : List (CardId × Option Int32)) : List (CardId × Int) :=
  blockers.filterMap fun entry =>
    entry.2.map fun lethal => (entry.1, lethal.toInt)

theorem mem_needs {blockers : List (CardId × Option Int32)}
    {item : CardId × Int} :
    item ∈ needs blockers ↔
      ∃ lethal, (item.1, some lethal) ∈ blockers ∧ item.2 = lethal.toInt := by
  rw [needs, List.mem_filterMap]
  constructor
  · rintro ⟨⟨id, need⟩, hmem, hitem⟩
    obtain ⟨lethal, rfl, rfl⟩ := Option.map_eq_some_iff.mp hitem
    exact ⟨lethal, hmem, rfl⟩
  · rintro ⟨lethal, hmem, hitem⟩
    refine ⟨_, hmem, ?_⟩
    rw [Option.map_some, ← hitem]

theorem needs_cons_none (id : CardId)
    (rest : List (CardId × Option Int32)) :
    needs ((id, none) :: rest) = needs rest :=
  List.filterMap_cons_none rfl

theorem needs_cons_some (id : CardId) (lethal : Int32)
    (rest : List (CardId × Option Int32)) :
    needs ((id, some lethal) :: rest) = (id, lethal.toInt) :: needs rest :=
  List.filterMap_cons_some rfl

theorem needs_keys_sublist (blockers : List (CardId × Option Int32)) :
    ((needs blockers).map Prod.fst).Sublist (blockers.map Prod.fst) := by
  induction blockers with
  | nil => exact List.Sublist.refl _
  | cons entry rest ih =>
      obtain ⟨id, _ | lethal⟩ := entry
      · rw [needs_cons_none]
        exact ih.cons _
      · rw [needs_cons_some]
        exact ih.cons_cons _

theorem needs_keys_nodup {blockers : List (CardId × Option Int32)}
    (hnodup : (blockers.map Prod.fst).Nodup) :
    ((needs blockers).map Prod.fst).Nodup :=
  hnodup.sublist (needs_keys_sublist blockers)

theorem needs_without (blockers : List (CardId × Option Int32))
    (id : CardId) : needs (without blockers id) = others (needs blockers) id := by
  induction blockers with
  | nil => rfl
  | cons entry rest ih =>
      obtain ⟨other, need⟩ := entry
      rw [without] at ih
      by_cases hkey : other = id
      · rw [without, List.filter_cons_of_neg (by simpa using hkey), ih]
        rcases need with _ | lethal
        · rw [needs_cons_none]
        · rw [needs_cons_some, others, others,
            List.filter_cons_of_neg (by simpa using hkey)]
      · rw [without, List.filter_cons_of_pos (by simpa using hkey)]
        rcases need with _ | lethal
        · rw [needs_cons_none, needs_cons_none, ih]
        · rw [needs_cons_some, needs_cons_some, ih, others, others,
            List.filter_cons_of_pos (by simpa using hkey)]

/-- Assigning in order gives each blocker its lethal damage as long as there is
some left, and what remains is the power less all of it. -/
theorem assignInOrder_spec {remaining : Int32}
    {blockers : List (CardId × Option Int32)} (hremaining : 0 ≤ remaining.toInt)
    (hpositive : ∀ item ∈ needs blockers, 0 < item.2) :
    (assignInOrder remaining blockers).2.toInt =
        max 0 (remaining.toInt - total (needs blockers)) ∧
      total (amounts (assignInOrder remaining blockers).1) =
        remaining.toInt - (assignInOrder remaining blockers).2.toInt ∧
      (∀ entry ∈ (assignInOrder remaining blockers).1, 0 ≤ entry.2.toInt) ∧
      (0 < (assignInOrder remaining blockers).2.toInt →
        amounts (assignInOrder remaining blockers).1 = needs blockers) := by
  induction blockers generalizing remaining with
  | nil =>
      refine ⟨?_, (sub_self _).symm, (fun _ hmem => nomatch hmem),
        fun _ => rfl⟩
      rw [assignInOrder, needs, List.filterMap_nil, total, List.map_nil,
        List.sum_nil, sub_zero, max_eq_right hremaining]
  | cons entry rest ih =>
      obtain ⟨id, _ | lethal⟩ := entry
      · rw [needs_cons_none] at hpositive ⊢
        exact ih hremaining hpositive
      · rw [needs_cons_some] at hpositive ⊢
        obtain ⟨hlethal, hrest⟩ := List.forall_mem_cons.mp hpositive
        have hdamage := toInt_min remaining lethal
        have hleft : (remaining - min remaining lethal).toInt =
            remaining.toInt - (min remaining lethal).toInt :=
          toInt_sub_of_le (by omega) (by omega)
        obtain ⟨hlast, htotal, hnonneg, hall⟩ :=
          @ih (remaining - min remaining lethal) (by omega) hrest
        have hneeds : 0 ≤ total (needs rest) :=
          total_nonneg fun item hitem => (hrest item hitem).le
        rw [assignInOrder]
        simp only
        rw [amounts, List.map_cons, ← amounts, total_cons, total_cons]
        simp only at hlethal ⊢
        refine ⟨by omega, by omega, ?_, ?_⟩
        · intro entry hentry
          rcases List.mem_cons.mp hentry with rfl | hentry
          · simp only
            omega
          · exact hnonneg entry hentry
        · intro hpos
          rw [hall hpos]
          have hfull : (min remaining lethal).toInt = lethal.toInt := by omega
          rw [hfull]

/-- Each blocker that damage can kill gets an entry, and no other one. -/
theorem assignInOrder_keys (remaining : Int32)
    (blockers : List (CardId × Option Int32)) :
    (assignInOrder remaining blockers).1.map Prod.fst =
      (needs blockers).map Prod.fst := by
  induction blockers generalizing remaining with
  | nil => rfl
  | cons entry rest ih =>
      obtain ⟨id, _ | lethal⟩ := entry
      · rw [needs_cons_none]
        exact ih remaining
      · rw [needs_cons_some, assignInOrder]
        simp only [List.map_cons]
        rw [ih]

theorem needs_perm {blockers other : List (CardId × Option Int32)}
    (hperm : blockers.Perm other) : (needs blockers).Perm (needs other) :=
  hperm.filterMap _

theorem mem_killableWith {remaining : Int32}
    {blockers : List (CardId × Option Int32)} {blocker : CardId}
    {lethal : Int32} :
    (blocker, lethal) ∈ killableWith remaining blockers ↔
      (blocker, some lethal) ∈ blockers ∧ lethal ≤ remaining := by
  constructor
  · exact mem_of_mem_killableWith
  · rintro ⟨hmem, hle⟩
    refine List.mem_filterMap.mpr ⟨_, hmem, ?_⟩
    exact if_pos hle

/-- When nothing can be killed, every need is beyond the power. -/
theorem lt_of_killableWith_nil {remaining : Int32}
    {blockers : List (CardId × Option Int32)}
    (hnone : killableWith remaining blockers = []) :
    ∀ item ∈ needs blockers, remaining.toInt < item.2 := by
  intro item hitem
  obtain ⟨lethal, hmem, hneed⟩ := mem_needs.mp hitem
  by_contra hle
  have hkill : (item.1, lethal) ∈ killableWith remaining blockers :=
    mem_killableWith.mpr ⟨hmem, Int32.le_iff_toInt_le.mpr (by omega)⟩
  rw [hnone] at hkill
  cases hkill

end DamageAssignment

namespace GameState

open DamageAssignment

section Choice

variable {game : GameState} {controller : DamageController}
  {attacker : CardId} {owner : PlayerId} {hasTrample : Bool}
  {remaining : Int32} {blockers : List (CardId × Option Int32)}

/-- With trample, the choices end when nothing more can be killed. -/
theorem chooseAssignment_stop (result : Assignment)
    (hnone : remaining ≤ 0 ∨ killableWith remaining blockers = []) :
    game.chooseAssignment controller attacker owner true remaining blockers
      result = .ok game result := by
  rw [chooseAssignment]
  split
  · rfl
  · next hpositive =>
    have hnone := hnone.resolve_left hpositive
    split
    · rw [Bool.or_true, if_pos rfl]
    · next h =>
      rw [hnone] at h
      cases h
    · next h =>
      rw [hnone] at h
      cases h

variable (game attacker owner hasTrample) in
/-- A legal controller picks one of the blockers that can be killed. -/
theorem chooseAssignment_step (hlegal : controller.Legal)
    (hpositive : 0 < remaining)
    (hsome : killableWith remaining blockers ≠ []) :
    ∃ entry ∈ killableWith remaining blockers,
      (∀ result, game.chooseAssignment controller attacker owner hasTrample
          remaining blockers result =
        game.chooseAssignment controller attacker owner hasTrample
          (remaining - entry.2) (without blockers entry.1)
          (result ++ [entry])) ∧
      (killableWith remaining blockers = [entry] ∨
        controller.chooseBlockerForLethalDamage game attacker
          (killableWith remaining blockers) remaining = .ok entry.1) := by
  generalize hkillable : killableWith remaining blockers = killable
    at hsome
  rcases killable with _ | ⟨first, _ | ⟨second, others⟩⟩
  · exact absurd rfl hsome
  · refine ⟨first, List.mem_singleton_self _, ?_, Or.inl rfl⟩
    intro result
    rw [chooseAssignment, if_neg (Int32.not_le.mpr hpositive)]
    split
    · next h =>
      rw [hkillable] at h
      cases h
    · next blocker lethal h =>
      rw [hkillable] at h
      obtain ⟨rfl, -⟩ := List.cons.inj h
      rfl
    · next h =>
      rw [hkillable] at h
      cases h
  · obtain ⟨option, hoption, hanswer⟩ := hlegal.lethal game attacker
      (first :: second :: others) remaining (List.cons_ne_nil _ _)
    have hfound : ((first :: second :: others).find? fun entry =>
        entry.1 == option.1).isSome = true :=
      List.find?_isSome.mpr ⟨option, hoption, beq_self_eq_true _⟩
    obtain ⟨⟨chosen, lethal⟩, hchosen⟩ := Option.isSome_iff_exists.mp hfound
    refine ⟨(option.1, lethal), mem_of_find hchosen, ?_, Or.inr hanswer⟩
    intro result
    rw [chooseAssignment, if_neg (Int32.not_le.mpr hpositive)]
    split
    · next h =>
      rw [hkillable] at h
      cases h
    · next h =>
      rw [hkillable] at h
      cases h
    · next first' second' others' h =>
      rw [hkillable] at h
      obtain ⟨rfl, hrest⟩ := List.cons.inj h
      obtain ⟨rfl, rfl⟩ := List.cons.inj hrest
      rw [hanswer, withAnswer]
      split
      · next chosen' lethal' hchosen' =>
        obtain ⟨rfl, rfl⟩ :=
          Prod.mk.inj (Option.some.inj (hchosen.symm.trans hchosen'))
        rfl
      · next hnone =>
        rw [hchosen] at hnone
        cases hnone

theorem step_toInt {entry : CardId × Int32}
    (hpositive : ∀ item ∈ needs blockers, 0 < item.2)
    (hentry : entry ∈ killableWith remaining blockers) :
    (entry.1, entry.2.toInt) ∈ needs blockers ∧
      (remaining - entry.2).toInt = remaining.toInt - entry.2.toInt ∧
      0 ≤ (remaining - entry.2).toInt := by
  obtain ⟨hmem, hle⟩ := mem_killableWith.mp hentry
  have hneed : (entry.1, entry.2.toInt) ∈ needs blockers :=
    mem_needs.mpr ⟨entry.2, hmem, rfl⟩
  have hle := Int32.le_iff_toInt_le.mp hle
  have hlethal := hpositive _ hneed
  have hleft := toInt_sub_of_le hlethal.le hle
  exact ⟨hneed, hleft, by omega⟩

theorem needs_without_pos (hpositive : ∀ item ∈ needs blockers, 0 < item.2)
    (id : CardId) : ∀ item ∈ needs (without blockers id), 0 < item.2 := by
  rw [needs_without]
  intro item hitem
  exact hpositive item (mem_others.mp hitem).1

/-- With legal answers an assignment is reached. -/
theorem chooseAssignment_ok (hlegal : controller.Legal)
    (result : Assignment) :
    ∃ assignment, game.chooseAssignment controller attacker owner hasTrample
      remaining blockers result = .ok game assignment := by
  induction hlength : blockers.length using Nat.strong_induction_on
    generalizing blockers remaining result with
  | h n ih =>
      subst hlength
      by_cases hpositive : 0 < remaining
      · by_cases hsome : killableWith remaining blockers = []
        · rw [chooseAssignment, if_neg (Int32.not_le.mpr hpositive)]
          split
          · split
            · exact ⟨_, rfl⟩
            · next hblockers =>
              have hblockers : blockers.map Prod.fst ≠ [] := by
                rintro hnil
                rw [List.map_eq_nil_iff.mp hnil] at hblockers
                exact hblockers rfl
              obtain ⟨blocker, -, hanswer⟩ := hlegal.remaining game attacker
                (blockers.map Prod.fst) remaining hblockers
              rw [hanswer]
              exact ⟨_, rfl⟩
          · next h =>
            rw [hsome] at h
            cases h
          · next h =>
            rw [hsome] at h
            cases h
        · obtain ⟨entry, hentry, hstep, -⟩ :=
            chooseAssignment_step game attacker owner hasTrample hlegal
              hpositive hsome
          rw [hstep]
          exact ih _ (length_without_of_killable hentry) _ rfl
      · rw [chooseAssignment, if_pos (Int32.not_lt.mp hpositive)]
        exact ⟨_, rfl⟩

variable (game attacker owner) in
/-- With trample, legal answers pick blockers until none of the others can be
killed any more. -/
theorem chooseAssignment_maximal (hlegal : controller.Legal)
    (hremaining : 0 ≤ remaining.toInt)
    (hpositive : ∀ item ∈ needs blockers, 0 < item.2) (result : Assignment) :
    ∃ picked, game.chooseAssignment controller attacker owner true remaining
        blockers result = .ok game (result ++ picked) ∧
      Maximal remaining.toInt (needs blockers) (amounts picked) := by
  induction hlength : blockers.length using Nat.strong_induction_on
    generalizing blockers remaining result with
  | h n ih =>
      subst hlength
      by_cases hsome : killableWith remaining blockers = []
      · refine ⟨[], ?_, Maximal.nil hremaining (lt_of_killableWith_nil hsome)⟩
        rw [chooseAssignment_stop result (Or.inr hsome), List.append_nil]
      · by_cases hleft : 0 < remaining
        · obtain ⟨entry, hentry, hstep, -⟩ :=
            chooseAssignment_step game attacker owner true hlegal hleft hsome
          obtain ⟨hneed, hint, hnonneg⟩ := step_toInt hpositive hentry
          obtain ⟨picked, hpicked, hmax⟩ := ih _
            (length_without_of_killable hentry) hnonneg
            (needs_without_pos hpositive entry.1) (result ++ [entry]) rfl
          refine ⟨entry :: picked, ?_, ?_⟩
          · rw [hstep, hpicked, List.append_assoc, List.singleton_append]
          · rw [hint, needs_without] at hmax
            exact hmax.cons hneed
        · have hzero := Int32.le_iff_toInt_le.mp (Int32.not_lt.mp hleft)
          refine ⟨[], ?_, Maximal.nil hremaining ?_⟩
          · rw [chooseAssignment_stop result (Or.inl (Int32.not_lt.mp hleft)),
              List.append_nil]
          · intro item hitem
            exact hzero.trans_lt (hpositive item hitem)

end Choice

/-- Takes a blocker from the list if it can, else the first option. -/
def preferring (wanted : List CardId) (player : PlayerId) :
    DamageController where
  playerId := player
  chooseBlockerForLethalDamage _ _ options _ :=
    match options.find? fun option => wanted.contains option.1 with
    | some option => .ok option.1
    | none =>
        match options with
        | option :: _ => .ok option.1
        | [] => .error "No killable blockers provided"
  chooseBlockerForRemainingDamage _ _ blockers _ :=
    match blockers with
    | blocker :: _ => .ok blocker
    | [] => .error "No remaining blockers provided"

theorem preferring_legal (wanted : List CardId) (player : PlayerId) :
    (preferring wanted player).Legal := by
  constructor
  · intro game attacker options remaining hoptions
    rw [preferring]
    simp only
    split
    · next option hfound =>
      exact ⟨option, List.mem_of_find?_eq_some hfound, rfl⟩
    · rcases options with _ | ⟨option, others⟩
      · exact absurd rfl hoptions
      · exact ⟨option, List.mem_cons_self, rfl⟩
  · intro game attacker blockers remaining hblockers
    rcases blockers with _ | ⟨blocker, others⟩
    · exact absurd rfl hblockers
    · exact ⟨blocker, List.mem_cons_self, rfl⟩

section Preferring

variable (game : GameState) (attacker : CardId) (owner player : PlayerId)
  {wanted : List CardId}

/-- Where a wanted blocker can be killed, a wanted one is picked. -/
theorem mem_wanted_of_picked {remaining : Int32} {killable : Assignment}
    {option entry : CardId × Int32} (hoption : option ∈ killable)
    (hwanted : option.1 ∈ wanted)
    (hpick : killable = [entry] ∨
      (preferring wanted player).chooseBlockerForLethalDamage game attacker
        killable remaining = .ok entry.1) : entry.1 ∈ wanted := by
  rcases hpick with hsingle | hanswer
  · rw [hsingle] at hoption
    rwa [← List.mem_singleton.mp hoption]
  · rw [preferring] at hanswer
    simp only at hanswer
    split at hanswer
    · next found hfound =>
      have htaken := List.find?_some hfound
      rw [← ChoiceResult.ok.inj hanswer]
      exact List.contains_iff_mem.mp htaken
    · next hnone =>
      exact absurd (List.contains_iff_mem.mpr hwanted)
        (List.find?_eq_none.mp hnone option hoption)

/-- Every maximal selection is reached by the controller that prefers it. -/
theorem chooseAssignment_preferring {remaining : Int32}
    {blockers : List (CardId × Option Int32)}
    (hremaining : 0 ≤ remaining.toInt)
    (hpositive : ∀ item ∈ needs blockers, 0 < item.2)
    (hnodup : ((needs blockers).map Prod.fst).Nodup)
    {goal : List (CardId × Int)}
    (hgoal : Maximal remaining.toInt (needs blockers) goal)
    (hwanted : ∀ item ∈ needs blockers,
      item.1 ∈ wanted ↔ item.1 ∈ goal.map Prod.fst)
    (result : Assignment) :
    ∃ picked, game.chooseAssignment (preferring wanted player) attacker owner
        true remaining blockers result = .ok game (result ++ picked) ∧
      total (amounts picked) = total goal := by
  induction hlength : blockers.length using Nat.strong_induction_on
    generalizing blockers remaining result goal with
  | h n ih =>
      subst hlength
      have hstop (hrest : goal = []) :
          remaining ≤ 0 ∨ killableWith remaining blockers = [] := by
        right
        apply List.eq_nil_iff_forall_not_mem.mpr
        rintro ⟨blocker, lethal⟩ hmem
        obtain ⟨hneed, hint, hnonneg⟩ := step_toInt hpositive hmem
        have hless := hgoal.maximal _ hneed (by rw [hrest]; exact List.not_mem_nil)
        rw [hrest, total, List.map_nil, List.sum_nil, zero_add] at hless
        omega
      rcases hcase : goal with _ | ⟨first, goalRest⟩
      · refine ⟨[], ?_, rfl⟩
        rw [chooseAssignment_stop result (hstop hcase), List.append_nil]
      · rw [← hcase]
        -- The first wanted blocker can be killed, so a wanted one is picked.
        have hfirst : first ∈ goal := hcase ▸ List.mem_cons_self
        obtain ⟨lethal, hinfo, hneed⟩ := mem_needs.mp (hgoal.subset hfirst)
        have hfits : first.2 ≤ remaining.toInt := by
          have htotal := total_eq_add_others hgoal.nodup hfirst
          have hothers : 0 ≤ total (others goal first.1) :=
            total_nonneg fun item hitem =>
              (hpositive item (hgoal.subset (mem_others.mp hitem).1)).le
          have hwithin := hgoal.within
          omega
        have hkill : (first.1, lethal) ∈ killableWith remaining blockers :=
          mem_killableWith.mpr ⟨hinfo, Int32.le_iff_toInt_le.mpr (by omega)⟩
        have hleft : 0 < remaining := by
          apply Int32.lt_iff_toInt_lt.mpr
          exact (hpositive first (hgoal.subset hfirst)).trans_le hfits
        obtain ⟨entry, hentry, hstep, hpick⟩ :=
          chooseAssignment_step game attacker owner true
            (preferring_legal wanted player) hleft (List.ne_nil_of_mem hkill)
        obtain ⟨hneed', hint, hnonneg⟩ := step_toInt hpositive hentry
        have hprefers : entry.1 ∈ wanted := by
          apply mem_wanted_of_picked game attacker player hkill _ hpick
          exact (hwanted first (hgoal.subset hfirst)).mpr
            (List.mem_map.mpr ⟨first, hfirst, rfl⟩)
        obtain ⟨item, hitem, hkey⟩ :=
          List.mem_map.mp ((hwanted _ hneed').mp hprefers)
        obtain rfl : item = (entry.1, entry.2.toInt) :=
          List.inj_on_of_nodup_map hnodup (hgoal.subset hitem) hneed' hkey
        have hrest := hgoal.others hitem
        rw [← needs_without, ← hint] at hrest
        obtain ⟨picked, hpicked, htotal⟩ := ih _
          (length_without_of_killable hentry) hnonneg
          (needs_without_pos hpositive entry.1) (by
            rw [needs_without]
            exact hnodup.sublist (List.filter_sublist.map Prod.fst)) hrest (by
            rw [needs_without]
            intro other hother
            obtain ⟨hother, hkey⟩ := mem_others.mp hother
            rw [hwanted other hother]
            exact mem_keys_others_iff hkey) (result ++ [entry]) rfl
        refine ⟨entry :: picked, ?_, ?_⟩
        · rw [hstep, hpicked, List.append_assoc, List.singleton_append]
        · rw [amounts, List.map_cons, ← amounts, total_cons, htotal,
            total_eq_add_others hgoal.nodup hitem]

end Preferring

end GameState

end DeepScry
