/-
A scan from the end of a list back to the first mark.  It finds everything that
was added since an earlier scan just when nothing to be found lies before a
mark.
-/
import Mathlib.Data.List.DropRight
import Mathlib.Data.List.Pairwise

namespace DeepScry

namespace BackScan

variable {α β : Type}

/-- What the scan finds before it comes to an element it does not keep, oldest
first. -/
def scan (keep : α → Bool) (find : α → Option β) (l : List α) : List β :=
  (l.rtakeWhile keep).filterMap find

variable {keep : α → Bool} {find : α → Option β}

theorem filterMap_concat (l : List α) (a : α) :
    (l ++ [a]).filterMap find = l.filterMap find ++ (find a).toList := by
  rw [List.filterMap_append]
  cases hfind : find a with
  | none => rw [List.filterMap_cons_none hfind]; rfl
  | some b => rw [List.filterMap_cons_some hfind]; rfl

theorem scan_concat (l : List α) (a : α) :
    scan keep find (l ++ [a]) =
      if keep a then scan keep find l ++ (find a).toList else [] := by
  rw [scan, List.rtakeWhile_concat]
  split
  · exact filterMap_concat _ _
  · rfl

/-- A scan stops within what was added last, or goes on to the rest. -/
theorem scan_append (old new : List α) :
    scan keep find (old ++ new) =
      if new.all keep then scan keep find old ++ new.filterMap find
      else scan keep find new := by
  induction new using List.reverseRecOn with
  | nil => simp
  | append_singleton new a ih =>
      rw [← List.append_assoc, scan_concat, scan_concat, ih, List.all_append,
        filterMap_concat]
      cases hkeep : keep a with
      | false => simp [hkeep]
      | true =>
          cases hall : new.all keep with
          | false => simp [hkeep]
          | true => simp [hkeep]

/-- Nothing is kept, nothing is found. -/
theorem scan_eq_nil {l : List α} (hnone : ∀ a ∈ l, keep a = false) :
    scan keep find l = [] := by
  have hlast : l.rtakeWhile keep = [] := by
    rw [List.rtakeWhile_eq_nil_iff]
    intro hl
    rw [hnone _ (List.getLast_mem hl)]
    exact Bool.false_ne_true
  rw [scan, hlast, List.filterMap_nil]

/-- The scan finds everything just when nothing to be found is followed by an
element it does not keep. -/
theorem scan_eq_filterMap_iff {l : List α}
    (hkeep : ∀ a ∈ l, (find a).isSome = true → keep a = true) :
    scan keep find l = l.filterMap find ↔
      l.Pairwise fun a later => (find a).isSome = true → keep later = true := by
  induction l using List.reverseRecOn with
  | nil => exact iff_of_true rfl .nil
  | append_singleton l a ih =>
      have hkeepRest : ∀ found ∈ l, (find found).isSome = true →
          keep found = true := fun found hfound =>
        hkeep found (List.mem_append_left _ hfound)
      rw [scan_concat, filterMap_concat, List.pairwise_append]
      cases hmark : keep a with
      | true =>
          rw [if_pos rfl, List.append_left_inj, ih hkeepRest]
          constructor
          · intro hpairs
            refine ⟨hpairs, List.pairwise_singleton _ _, ?_⟩
            intro found _ later hlater _
            rw [List.mem_singleton.mp hlater, hmark]
          · exact fun hpairs => hpairs.1
      | false =>
          have hnone : find a = none := by
            rw [← Option.not_isSome_iff_eq_none]
            intro hsome
            have hkept := hkeep a (List.mem_append_right _ List.mem_cons_self)
              hsome
            exact Bool.false_ne_true (hmark ▸ hkept)
          rw [if_neg Bool.false_ne_true, hnone, Option.toList_none,
            List.append_nil]
          constructor
          · intro hempty
            have hfound : ∀ found ∈ l, find found = none :=
              List.filterMap_eq_nil_iff.mp hempty.symm
            have hpairs (later : α) : ∀ found ∈ l,
                (find found).isSome = true → keep later = true := by
              intro found hmem hsome
              rw [hfound found hmem] at hsome
              cases hsome
            refine ⟨?_, List.pairwise_singleton _ _, ?_⟩
            · exact List.pairwise_of_forall_mem_list fun found hmem later _ =>
                hpairs later found hmem
            · exact fun found hmem later _ => hpairs later found hmem
          · rintro ⟨-, -, hlast⟩
            symm
            rw [List.filterMap_eq_nil_iff]
            intro found hmem
            rw [← Option.not_isSome_iff_eq_none]
            intro hsome
            have hkept := hlast found hmem a List.mem_cons_self hsome
            exact Bool.false_ne_true (hmark ▸ hkept)

/-- Nothing is left of what was scanned before: then the scan finds all that
was added since, under the same condition. -/
theorem scan_append_eq_iff {old new : List α}
    (hkeep : ∀ a ∈ new, (find a).isSome = true → keep a = true)
    (hold : scan keep find old = []) :
    scan keep find (old ++ new) = new.filterMap find ↔
      new.Pairwise fun a later =>
        (find a).isSome = true → keep later = true := by
  rw [← scan_eq_filterMap_iff hkeep, scan_append]
  cases hall : new.all keep with
  | true =>
      have hself : scan keep find new = new.filterMap find := by
        rw [scan, List.rtakeWhile_eq_self_iff.mpr (List.all_eq_true.mp hall)]
      rw [if_pos rfl, hold, List.nil_append]
      exact iff_of_true rfl hself
  | false => rw [if_neg Bool.false_ne_true]

end BackScan

end DeepScry
