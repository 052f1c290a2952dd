/-
The append-only log of the network layer: entries keyed by the action count at
which they apply.
-/
import DeepScry.LogReader

namespace DeepScry

/-- Entries in strictly ascending order of their action counts. -/
structure ActionLog (T : Type) where
  entries : List (Nat × T)
  ascending : SortedMap.Sorted entries

namespace ActionLog

variable {T : Type}

def new : ActionLog T :=
  ⟨[], .nil⟩

/-- The entry at exactly this action count. -/
def get (log : ActionLog T) (actionCount : Nat) : Option T :=
  SortedMap.lookup log.entries actionCount

/-- Put an entry in its place, whatever the order of arrival.  A second entry
at one action count panics. -/
def insertSorted (log : ActionLog T) (actionCount : Nat) (entry : T) :
    Option (ActionLog T) :=
  match log.get actionCount with
  | some _ => none
  | none =>
      some ⟨SortedMap.insert actionCount entry log.entries,
        log.ascending.insert actionCount entry⟩

/-- Append an entry.  An action count that is not above the last one panics. -/
def push (log : ActionLog T) (actionCount : Nat) (entry : T) :
    Option (ActionLog T) :=
  if hlast : ∀ last ∈ log.entries.getLast?, last.1 < actionCount then
    some ⟨log.entries ++ [(actionCount, entry)],
      log.ascending.concat hlast⟩
  else none

/-- The highest action count in the log. -/
def frontier (log : ActionLog T) : Option Nat :=
  log.entries.getLast?.map Prod.fst

variable {log log' : ActionLog T} {actionCount : Nat} {entry : T}

theorem get_eq_some_iff :
    log.get actionCount = some entry ↔ (actionCount, entry) ∈ log.entries :=
  log.ascending.lookup_eq_some_iff

/-- What the insertion changes. -/
theorem insertSorted_eq_some
    (hinsert : log.insertSorted actionCount entry = some log') :
    log'.entries = SortedMap.insert actionCount entry log.entries := by
  rw [insertSorted] at hinsert
  split at hinsert
  · cases hinsert
  · cases hinsert
    rfl

theorem mem_of_insertSorted
    (hinsert : log.insertSorted actionCount entry = some log') :
    (actionCount, entry) ∈ log'.entries := by
  rw [← get_eq_some_iff, get, insertSorted_eq_some hinsert,
    SortedMap.lookup_insert, if_pos rfl]

theorem subset_of_insertSorted
    (hinsert : log.insertSorted actionCount entry = some log')
    {old : Nat × T} (hmem : old ∈ log.entries) : old ∈ log'.entries := by
  have hget := get_eq_some_iff.mpr hmem
  rw [insertSorted] at hinsert
  split at hinsert
  · cases hinsert
  · next hnew =>
    cases hinsert
    rw [← SortedMap.Sorted.lookup_eq_some_iff (log.ascending.insert _ _),
      SortedMap.lookup_insert, if_neg]
    · exact hget
    · rintro rfl
      rw [hget] at hnew
      cases hnew

theorem le_frontier {old : Nat × T} (hmem : old ∈ log.entries) :
    old.1 ≤ log.frontier.getD 0 := by
  obtain ⟨init, last, hentries⟩ :=
    List.eq_nil_or_concat' log.entries |>.resolve_left (List.ne_nil_of_mem hmem)
  have hsorted := log.ascending
  rw [frontier, hentries, List.getLast?_concat]
  rw [hentries] at hmem hsorted
  rcases List.mem_append.mp hmem with hinit | hlast
  · have hlt := (List.pairwise_append.mp hsorted).2.2 old hinit last
      (List.mem_singleton.mpr rfl)
    exact hlt.le
  · rw [List.mem_singleton.mp hlast]
    exact le_refl last.1

/-- The frontier only moves forward. -/
theorem frontier_mono (hsubset : ∀ old ∈ log.entries, old ∈ log'.entries) :
    log.frontier.getD 0 ≤ log'.frontier.getD 0 := by
  cases hlast : log.entries.getLast? with
  | none =>
      rw [frontier, hlast]
      exact Nat.zero_le _
  | some last =>
      have hle := le_frontier (hsubset last (List.mem_of_getLast? hlast))
      rw [frontier, hlast]
      exact hle

end ActionLog

end DeepScry
