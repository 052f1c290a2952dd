/-
A log of keyed writes, read back by the newest entry of each key, and when it
tells the values that a state holds.
-/
import Mathlib.Logic.Function.Basic

namespace DeepScry

namespace KeyedLog

variable {K V : Type} [DecidableEq K]

/-- The value of the newest entry of each key. -/
def newest (entries : List (K × V)) : K → Option V :=
  entries.foldl (fun current entry =>
    Function.update current entry.1 (some entry.2)) fun _ => none

theorem newest_append_singleton (entries : List (K × V)) (key : K)
    (value : V) :
    newest (entries ++ [(key, value)]) =
      Function.update (newest entries) key (some value) := by
  rw [newest, List.foldl_append]
  rfl

/-- Write the value of a key, if the state holds the key. -/
def overwrite (state : K → Option V) (key : K) (value : V) : K → Option V :=
  Function.update state key ((state key).map fun _ => value)

theorem overwrite_overwrite (state : K → Option V) (key : K)
    (first second : V) :
    overwrite (overwrite state key first) key second =
      overwrite state key second := by
  simp [overwrite, Function.comp_def]

/-- Writes of one value can be made in any order. -/
theorem overwrite_comm (state : K → Option V) (key other : K) (value : V) :
    overwrite (overwrite state key value) other value =
      overwrite (overwrite state other value) key value := by
  by_cases hother : key = other
  · rw [hother]
  · simp only [overwrite]
    rw [Function.update_of_ne hother, Function.update_of_ne (Ne.symm hother),
      Function.update_comm hother]

theorem foldl_overwrite_comm (keys : List K) (state : K → Option V) (key : K)
    (value : V) :
    keys.foldl (fun current other => overwrite current other value)
        (overwrite state key value) =
      overwrite (keys.foldl
        (fun current other => overwrite current other value) state) key
          value := by
  induction keys generalizing state with
  | nil => rfl
  | cons other rest ih =>
      rw [List.foldl_cons, List.foldl_cons, overwrite_comm, ih]

/-- The log, with a value for the keys it does not mention, tells every value
that the state holds. -/
def Tells (default : V) (entries : List (K × V)) (state : K → Option V) :
    Prop :=
  ∀ key value, state key = some value →
    (newest entries key).getD default = value

variable {default : V} {entries : List (K × V)} {state : K → Option V}

theorem tells_update_iff {other : K → Option V} (htells : Tells default entries state)
    (key : K) (hother : ∀ k, k ≠ key → other k = state k) :
    Tells default entries other ↔
      ∀ value, other key = some value →
        (newest entries key).getD default = value := by
  constructor
  · exact fun hafter => hafter key
  · intro hkey k value hvalue
    by_cases hk : k = key
    · subst hk
      exact hkey value hvalue
    · rw [hother k hk] at hvalue
      exact htells k value hvalue

/-- A write that is not logged goes unnoticed just if it changes nothing. -/
theorem tells_overwrite_iff (htells : Tells default entries state) (key : K)
    (value : V) :
    Tells default entries (overwrite state key value) ↔
      ∀ held, state key = some held → held = value := by
  rw [tells_update_iff htells key fun k hk => Function.update_of_ne hk _ _]
  rw [overwrite, Function.update_self]
  cases hheld : state key with
  | none => simp
  | some held =>
      rw [htells key held hheld]
      simp

/-- A new key is told just if the log happens to hold its value. -/
theorem tells_insert_iff (htells : Tells default entries state) (key : K)
    (value : V) :
    Tells default entries (Function.update state key (some value)) ↔
      (newest entries key).getD default = value := by
  rw [tells_update_iff htells key fun k hk => Function.update_of_ne hk _ _]
  simp

/-- A log entry tells the write of its own value and no other. -/
theorem tells_append_overwrite_iff (htells : Tells default entries state)
    (key : K) (logged value : V) :
    Tells default (entries ++ [(key, logged)]) (overwrite state key value) ↔
      (state key = none ∨ logged = value) := by
  have hold : Tells default (entries ++ [(key, logged)])
      (Function.update state key none) := by
    intro k held hheld
    by_cases hk : k = key
    · subst hk
      simp at hheld
    · rw [Function.update_of_ne hk] at hheld
      rw [newest_append_singleton, Function.update_of_ne hk]
      exact htells k held hheld
  rw [tells_update_iff hold key, newest_append_singleton, overwrite,
    Function.update_self, Function.update_self]
  · cases state key with
    | none => simp
    | some held => simp
  · intro k hk
    rw [overwrite, Function.update_of_ne hk, Function.update_of_ne hk]

end KeyedLog

end DeepScry
