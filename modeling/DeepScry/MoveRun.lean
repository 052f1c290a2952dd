/-
Runs of a deterministic machine, move by move: what holds in every state of a
run, and what holds of every move.
-/
import Mathlib.Logic.Basic

namespace DeepScry

/-- A machine with the moves that are possible in each state. -/
structure Machine (S M : Type*) where
  enabled : S → M → Prop
  perform : S → M → S

namespace Machine

variable {S M : Type*} (machine : Machine S M)

/-- Every move is possible when it is made. -/
def Runs : S → List M → Prop
  | _, [] => True
  | s, move :: rest =>
      machine.enabled s move ∧ Runs (machine.perform s move) rest

/-- The property holds in every state of the run. -/
def Always (P : S → Prop) : S → List M → Prop
  | s, [] => P s
  | s, move :: rest => P s ∧ Always P (machine.perform s move) rest

/-- The condition holds of every move, where it is made. -/
def EachMove (C : S → M → Prop) : S → List M → Prop
  | _, [] => True
  | s, move :: rest => C s move ∧ EachMove C (machine.perform s move) rest

variable {machine} {P Inv : S → Prop} {C : S → M → Prop}

theorem Always.head {s : S} {moves : List M}
    (halways : machine.Always P s moves) : P s := by
  cases moves with
  | nil => exact halways
  | cons move rest => exact halways.1

/-- In the state that the run ends in. -/
theorem Always.last {s : S} {moves : List M}
    (halways : machine.Always P s moves) : P (moves.foldl machine.perform s) := by
  induction moves generalizing s with
  | nil => exact halways
  | cons move rest ih => exact ih halways.2

/-- A condition on the move alone. -/
theorem eachMove_iff_forall (machine : Machine S M) {C : M → Prop} {s : S}
    {moves : List M} : machine.EachMove (fun _ => C) s moves ↔ ∀ move ∈ moves, C move := by
  induction moves generalizing s with
  | nil => exact iff_of_true trivial fun _ hmove => nomatch hmove
  | cons move rest ih => rw [EachMove, ih, List.forall_mem_cons]

/-- Where every move is possible, every list of moves is a run. -/
theorem runs_of_enabled (machine : Machine S M)
    (henabled : ∀ s move, machine.enabled s move) (s : S)
    (moves : List M) : machine.Runs s moves := by
  induction moves generalizing s with
  | nil => trivial
  | cons move rest ih => exact ⟨henabled s move, ih _⟩

/-- A move that meets the condition keeps the invariant, one that does not
breaks the property: the property holds throughout exactly if every move meets
the condition. -/
theorem always_iff_eachMove (holds : ∀ s, Inv s → P s)
    (keeps : ∀ s move, Inv s → machine.enabled s move → C s move →
      Inv (machine.perform s move))
    (breaks : ∀ s move, Inv s → machine.enabled s move → ¬ C s move →
      ¬ P (machine.perform s move))
    {s : S} (hinv : Inv s) {moves : List M} (hruns : machine.Runs s moves) :
    machine.Always P s moves ↔ machine.EachMove C s moves := by
  induction moves generalizing s with
  | nil => exact iff_of_true (holds s hinv) trivial
  | cons move rest ih =>
      obtain ⟨henabled, hrest⟩ := hruns
      constructor
      · rintro ⟨-, halways⟩
        have hcond : C s move := by
          apply Classical.byContradiction
          intro hnot
          exact breaks s move hinv henabled hnot halways.head
        have hkept := keeps s move hinv henabled hcond
        exact ⟨hcond, (ih hkept hrest).mp halways⟩
      · rintro ⟨hcond, heach⟩
        have hkept := keeps s move hinv henabled hcond
        exact ⟨holds s hinv, (ih hkept hrest).mpr heach⟩

end Machine

end DeepScry
