/-
Undo logs over an arbitrary state.  A history pairs every log entry, newest
first, with the state before it.  When each entry takes the state back to the
one before it, up to a relation that undoing respects, so do several.
-/
import Mathlib.Data.List.Basic

namespace UndoHistory

universe u v

variable {S : Type u} {E : Type v}

/-- Undo a list of entries, newest first. -/
def undoAll (undo : E → S → S) (entries : List E) (state : S) : S :=
  entries.foldl (fun state entry => undo entry state) state

variable {undo : E → S → S} {R : S → S → Prop} {Inv : S → Prop}

theorem undoAll_append (entries rest : List E) (state : S) :
    undoAll undo (entries ++ rest) state =
      undoAll undo rest (undoAll undo entries state) := by
  simp [undoAll]

/-- Every entry of the history leads from the state after it back to the state
before it, up to `R`. -/
inductive Recorded (undo : E → S → S) (R : S → S → Prop) (Inv : S → Prop) :
    S → List (E × S) → Prop where
  | nil {state : S} (hinv : Inv state) : Recorded undo R Inv state []
  | cons {state before : S} {entry : E} {rest : List (E × S)}
      (hinv : Inv state) (hback : R (undo entry state) before)
      (hrest : Recorded undo R Inv before rest) :
      Recorded undo R Inv state ((entry, before) :: rest)

theorem Recorded.inv {state : S} {history : List (E × S)}
    (hrec : Recorded undo R Inv state history) : Inv state := by
  cases hrec with
  | nil hinv => exact hinv
  | cons hinv _ _ => exact hinv

/-- Undoing respects the relation on states that satisfy the invariant. -/
structure Respects (undo : E → S → S) (R : S → S → Prop) (Inv : S → Prop) :
    Prop where
  refl : ∀ state, R state state
  trans : ∀ {s t u}, R s t → R t u → R s u
  inv : ∀ {s t}, R s t → Inv t → Inv s
  undo : ∀ (entry : E) {s t}, Inv t → R s t → R (undo entry s) (undo entry t)

/-- A related state has the same history. -/
theorem Recorded.congr (hR : Respects undo R Inv) {state other : S}
    {history : List (E × S)} (hrec : Recorded undo R Inv state history)
    (hother : R other state) : Recorded undo R Inv other history := by
  cases hrec with
  | nil hinv => exact .nil (hR.inv hother hinv)
  | cons hinv hback hrest =>
      exact .cons (hR.inv hother hinv)
        (hR.trans (hR.undo _ hinv hother) hback) hrest

/-- Undoing the newest entry keeps the rest of the history. -/
theorem Recorded.undo_head (hR : Respects undo R Inv) {state before : S}
    {entry : E} {rest : List (E × S)}
    (hrec : Recorded undo R Inv state ((entry, before) :: rest)) :
    Recorded undo R Inv (undo entry state) rest := by
  cases hrec with
  | cons _ hback hrest => exact hrest.congr hR hback

/-- Undoing the newest `k + 1` entries leads back to the state before the
oldest of them. -/
theorem Recorded.undoAll (hR : Respects undo R Inv) {state : S}
    {history : List (E × S)} (hrec : Recorded undo R Inv state history)
    (k : Nat) (hk : k < history.length) :
    R (undoAll undo ((history.take (k + 1)).map Prod.fst) state)
      (history.get ⟨k, hk⟩).2 := by
  induction k generalizing state history with
  | zero =>
      cases hrec with
      | nil _ => simp at hk
      | cons _ hback _ => simpa [UndoHistory.undoAll] using hback
  | succ k ih =>
      cases history with
      | nil => simp at hk
      | cons head rest =>
          obtain ⟨entry, before⟩ := head
          have hrest := hrec.undo_head hR
          have hk' : k < rest.length := by simpa using hk
          simpa [UndoHistory.undoAll] using ih hrest hk'

/-- Equality is always respected. -/
theorem respects_eq (undo : E → S → S) :
    Respects undo Eq fun _ => True where
  refl _ := rfl
  trans := Eq.trans
  inv _ hinv := hinv
  undo _ _ _ _ heq := congrArg _ heq

end UndoHistory
