/-
A reader of a sorted log that grows.  The reader keeps a cursor, and each read
takes the entries from the cursor up to a bound.
-/
import Mathlib.Order.WithBot
import DeepScry.SortedMap

namespace LogReader

open SortedMap

universe u v

variable {K : Type u} {V : Type v} [LinearOrder K]

/-- The entries up to a cursor; before the first read it is `⊥`. -/
def upTo (cursor : WithBot K) (log : List (K × V)) : List (K × V) :=
  log.filter fun entry => decide ((entry.1 : WithBot K) ≤ cursor)

/-- The entries behind the cursor, up to the bound. -/
def window (cursor bound : WithBot K) (log : List (K × V)) : List (K × V) :=
  log.filter fun entry =>
    decide (cursor < entry.1) && decide ((entry.1 : WithBot K) ≤ bound)

variable {log : List (K × V)} {cursor bound : WithBot K}

theorem mem_upTo {entry : K × V} :
    entry ∈ upTo cursor log ↔ entry ∈ log ∧ (entry.1 : WithBot K) ≤ cursor := by
  rw [upTo, List.mem_filter, decide_eq_true_iff]

theorem mem_window {entry : K × V} :
    entry ∈ window cursor bound log ↔
      entry ∈ log ∧ cursor < entry.1 ∧ (entry.1 : WithBot K) ≤ bound := by
  rw [window, List.mem_filter, Bool.and_eq_true, decide_eq_true_iff,
    decide_eq_true_iff]

theorem Sorted.upTo (hsorted : Sorted log) (cursor : WithBot K) :
    Sorted (upTo cursor log) :=
  hsorted.filter _

/-- A read continues what was read before. -/
theorem upTo_append_window (hsorted : Sorted log) :
    upTo cursor log ++ window cursor bound log = upTo (max cursor bound) log := by
  induction log with
  | nil => rfl
  | cons head rest ih =>
      obtain ⟨hhead, hrest⟩ := List.pairwise_cons.mp hsorted
      have ih := ih hrest
      rw [upTo, window, upTo] at ih
      rw [upTo, window, upTo, List.filter_cons, List.filter_cons,
        List.filter_cons]
      by_cases hread : (head.1 : WithBot K) ≤ cursor
      · simp [hread, not_lt.mpr hread, ih]
      · -- Nothing behind the head was read either.
        have hnone : rest.filter
            (fun entry => decide ((entry.1 : WithBot K) ≤ cursor)) = [] := by
          apply List.filter_eq_nil_iff.mpr
          intro entry hentry hle
          have hlt := WithBot.coe_lt_coe.mpr (hhead entry hentry)
          exact hread (hlt.le.trans (of_decide_eq_true hle))
        rw [hnone, List.nil_append] at ih
        simp [hread, not_le.mp hread, hnone, ih]

/-- A new entry behind the cursor was not read. -/
theorem upTo_insert {k : K} (hbeyond : cursor < k) (v : V) :
    upTo cursor (insert k v log) = upTo cursor log := by
  induction log with
  | nil => simp [upTo, SortedMap.insert, not_le.mpr hbeyond]
  | cons head rest ih =>
      rw [upTo, upTo] at ih
      rw [SortedMap.insert]
      split
      · simp [upTo, not_le.mpr hbeyond]
      · split
        · next heq => simp [upTo, ← heq, not_le.mpr hbeyond]
        · rw [upTo, upTo, List.filter_cons, List.filter_cons, ih]

/-- Each entry up to the cursor was read once. -/
theorem count_upTo (hsorted : Sorted log) {entry : K × V}
    (hmem : entry ∈ log) (hle : (entry.1 : WithBot K) ≤ cursor) :
    ((upTo cursor log).map Prod.fst).count entry.1 = 1 := by
  apply List.count_eq_one_of_mem (SortedMap.Sorted.nodup_keys
    (Sorted.upTo hsorted _))
  exact List.mem_map_of_mem (mem_upTo.mpr ⟨hmem, hle⟩)

/-- What was read is the beginning of the log. -/
theorem upTo_initial (hsorted : Sorted log) (cursor : WithBot K) :
    upTo cursor log <+: log := by
  induction log with
  | nil => exact List.prefix_rfl
  | cons head rest ih =>
      obtain ⟨hhead, hrest⟩ := List.pairwise_cons.mp hsorted
      rw [upTo, List.filter_cons]
      by_cases hread : (head.1 : WithBot K) ≤ cursor
      · rw [if_pos (decide_eq_true hread)]
        exact List.cons_prefix_cons.mpr ⟨rfl, ih hrest⟩
      · rw [if_neg fun hle => hread (of_decide_eq_true hle)]
        have hnone : rest.filter
            (fun entry => decide ((entry.1 : WithBot K) ≤ cursor)) = [] := by
          apply List.filter_eq_nil_iff.mpr
          intro entry hentry hle
          have hlt := WithBot.coe_lt_coe.mpr (hhead entry hentry)
          exact hread (hlt.le.trans (of_decide_eq_true hle))
        rw [hnone]
        exact List.nil_prefix

/-- The next entry is all there is up to its key. -/
theorem window_of_find? (hsorted : Sorted log) {entry : K × V}
    (hfind : log.find? (fun entry => decide (cursor < entry.1)) =
      some entry) : window cursor entry.1 log = [entry] := by
  induction log with
  | nil => cases hfind
  | cons head rest ih =>
      obtain ⟨hhead, hrest⟩ := List.pairwise_cons.mp hsorted
      rw [List.find?_cons] at hfind
      rw [window, List.filter_cons]
      by_cases hnext : cursor < head.1
      · rw [decide_eq_true hnext] at hfind
        cases hfind
        have hnone : window cursor entry.1 rest = [] := by
          apply List.filter_eq_nil_iff.mpr
          intro other hother hwindow
          rw [Bool.and_eq_true, decide_eq_true_iff, decide_eq_true_iff]
            at hwindow
          exact (WithBot.coe_le_coe.mp hwindow.2).not_gt (hhead other hother)
        rw [window] at hnone
        rw [if_pos, hnone]
        rw [decide_eq_true hnext, decide_eq_true (le_refl _)]
        rfl
      · rw [decide_eq_false hnext] at hfind
        rw [if_neg]
        · exact ih hrest hfind
        · rw [Bool.and_eq_true]
          exact fun hboth => hnext (of_decide_eq_true hboth.1)

/-- With no entry behind the cursor, all were read. -/
theorem upTo_of_find?_none
    (hfind : log.find? (fun entry => decide (cursor < entry.1)) = none) :
    upTo cursor log = log := by
  rw [upTo, List.filter_eq_self]
  intro entry hentry
  have hnot := List.find?_eq_none.mp hfind entry hentry
  exact decide_eq_true (not_lt.mp fun hlt => hnot (decide_eq_true hlt))

/-- What the reader has applied, and what was within a bound when it read. -/
structure Reads (log : List (K × V)) (cursor : WithBot K)
    (applied due : List (K × V)) : Prop where
  applied : applied = upTo cursor log
  due : ∀ entry ∈ due, entry ∈ log ∧ (entry.1 : WithBot K) ≤ cursor

namespace Reads

variable {applied due : List (K × V)}

/-- A reader that starts in front of all entries. -/
theorem start (hbeyond : ∀ entry ∈ log, cursor < entry.1) :
    Reads log cursor [] [] := by
  constructor
  · symm
    apply List.filter_eq_nil_iff.mpr
    intro entry hmem hle
    exact (hbeyond entry hmem).not_ge (of_decide_eq_true hle)
  · intro entry hmem
    cases hmem

theorem read (hreads : Reads log cursor applied due) (hsorted : Sorted log)
    (bound : WithBot K) :
    Reads log (max cursor bound) (applied ++ window cursor bound log)
      (due ++ upTo bound log) := by
  constructor
  · rw [hreads.applied, upTo_append_window hsorted]
  · intro entry hmem
    rcases List.mem_append.mp hmem with hold | hnew
    · obtain ⟨hlog, hle⟩ := hreads.due entry hold
      exact ⟨hlog, hle.trans (le_max_left _ _)⟩
    · obtain ⟨hlog, hle⟩ := mem_upTo.mp hnew
      exact ⟨hlog, hle.trans (le_max_right _ _)⟩

/-- A read that finds nothing may leave the cursor where it is. -/
theorem idle (hreads : Reads log cursor applied due) (hsorted : Sorted log)
    (bound : WithBot K) (hwindow : window cursor bound log = []) :
    Reads log cursor applied (due ++ upTo bound log) := by
  have hmoved := hreads.read hsorted bound
  rw [hwindow, List.append_nil] at hmoved
  refine ⟨hreads.applied, fun entry hmem => ?_⟩
  have hread := mem_upTo.mpr (hmoved.due entry hmem)
  rw [← hmoved.applied, hreads.applied] at hread
  exact mem_upTo.mp hread

theorem insert (hreads : Reads log cursor applied due) {k : K}
    (hbeyond : cursor < k) (v : V)
    (hkept : ∀ entry ∈ log, entry ∈ SortedMap.insert k v log) :
    Reads (SortedMap.insert k v log) cursor applied due := by
  constructor
  · rw [upTo_insert hbeyond, hreads.applied]
  · intro entry hmem
    obtain ⟨hlog, hle⟩ := hreads.due entry hmem
    exact ⟨hkept entry hlog, hle⟩

theorem sorted (hreads : Reads log cursor applied due)
    (hsorted : Sorted log) : Sorted applied := by
  rw [hreads.applied]
  exact Sorted.upTo hsorted cursor

/-- What was within a bound is applied once. -/
theorem once (hreads : Reads log cursor applied due) (hsorted : Sorted log)
    {entry : K × V} (hmem : entry ∈ due) :
    entry ∈ applied ∧ (applied.map Prod.fst).count entry.1 = 1 := by
  obtain ⟨hlog, hle⟩ := hreads.due entry hmem
  rw [hreads.applied]
  exact ⟨mem_upTo.mpr ⟨hlog, hle⟩, count_upTo hsorted hlog hle⟩

end Reads

end LogReader
