/-
Sweeps: a pass over some keys that rewrites the value of each key in turn.  As
long as no write depends on another one, the pass writes all of them at once.
-/
import Mathlib.Data.List.Basic

namespace DeepScry

/-- While the invariant holds, the step for an allowed key rewrites the value
of this key alone, and a second time changes nothing more. -/
structure Sweep {S K V : Type} [DecidableEq K] (get : S → K → Option V)
    (step : S → K → S) (write : K → V → V) (Allowed : K → Prop)
    (Inv : S → Prop) : Prop where
  keeps : ∀ state key, Allowed key → Inv state → Inv (step state key)
  writes : ∀ state key, Allowed key → Inv state → ∀ other,
    get (step state key) other =
      if other = key then (get state other).map (write other)
      else get state other
  settles : ∀ key value, write key (write key value) = write key value

namespace Sweep

variable {S K V : Type}

/-- A pass that finds nothing to write does nothing. -/
theorem foldl_eq_self {step : S → K → S} {state : S} {keys : List K}
    (hstill : ∀ key ∈ keys, step state key = state) :
    keys.foldl step state = state := by
  induction keys with
  | nil => rfl
  | cons key keys ih =>
      rw [List.foldl_cons, hstill key List.mem_cons_self]
      exact ih fun other hother => hstill other (List.mem_cons_of_mem key hother)

variable [DecidableEq K] {get : S → K → Option V} {step : S → K → S}
  {write : K → V → V} {Allowed : K → Prop} {Inv : S → Prop} {state : S}

theorem foldl_keeps (hsweep : Sweep get step write Allowed Inv)
    (hinv : Inv state) {keys : List K} (hkeys : ∀ key ∈ keys, Allowed key) :
    Inv (keys.foldl step state) := by
  induction keys generalizing state with
  | nil => exact hinv
  | cons key keys ih =>
      rw [List.forall_mem_cons] at hkeys
      exact ih (hsweep.keeps state key hkeys.1 hinv) hkeys.2

/-- The pass as one simultaneous write. -/
theorem get_foldl (hsweep : Sweep get step write Allowed Inv)
    (hinv : Inv state) {keys : List K} (hkeys : ∀ key ∈ keys, Allowed key)
    (key : K) :
    get (keys.foldl step state) key =
      if key ∈ keys then (get state key).map (write key)
      else get state key := by
  induction keys generalizing state with
  | nil => simp
  | cons first keys ih =>
      rw [List.forall_mem_cons] at hkeys
      rw [List.foldl_cons, ih (hsweep.keeps state first hkeys.1 hinv) hkeys.2,
        hsweep.writes state first hkeys.1 hinv]
      by_cases hfirst : key = first
      · subst hfirst
        have htwice : write key ∘ write key = write key :=
          funext fun value => hsweep.settles key value
        simp [htwice]
      · simp [hfirst]

/-- A pass does nothing exactly when every value is settled. -/
theorem foldl_eq_self_iff (hsweep : Sweep get step write Allowed Inv)
    (hinv : Inv state) {keys : List K} (hkeys : ∀ key ∈ keys, Allowed key)
    (hstill : ∀ key, (∀ value, get state key = some value →
      write key value = value) → step state key = state) :
    keys.foldl step state = state ↔
      ∀ key ∈ keys, ∀ value, get state key = some value →
        write key value = value := by
  constructor
  · intro hsame key hkey value hvalue
    have hget := hsweep.get_foldl hinv hkeys key
    rw [hsame, if_pos hkey, hvalue] at hget
    exact (Option.some.inj hget).symm
  · intro hsettled
    apply foldl_eq_self
    intro key hkey
    exact hstill key (hsettled key hkey)

end Sweep

end DeepScry
