/-
Identifiers and the small enumerations shared by the whole engine.
-/
import Mathlib.Order.Defs.LinearOrder

namespace DeepScry

/-- The index of a card in the entity store. -/
@[ext]
structure CardId where
  raw : Nat
deriving DecidableEq, Repr

structure PlayerId where
  raw : Nat
deriving DecidableEq

/-- Cards are ordered by their ids. -/
instance : LinearOrder CardId where
  le card other := card.raw ≤ other.raw
  le_refl card := Nat.le_refl card.raw
  le_trans _ _ _ := Nat.le_trans
  le_antisymm _ _ hle hge := CardId.ext (Nat.le_antisymm hle hge)
  le_total card other := Nat.le_total card.raw other.raw
  toDecidableLE card other := inferInstanceAs (Decidable (card.raw ≤ other.raw))
  toDecidableEq := inferInstance

/-- Players are ordered by their ids. -/
instance : LinearOrder PlayerId where
  le player other := player.raw ≤ other.raw
  le_refl player := Nat.le_refl player.raw
  le_trans _ _ _ := Nat.le_trans
  le_antisymm player other hle hge := by
    cases player
    cases other
    exact congrArg PlayerId.mk (Nat.le_antisymm hle hge)
  le_total player other := Nat.le_total player.raw other.raw
  toDecidableLE player other :=
    inferInstanceAs (Decidable (player.raw ≤ other.raw))
  toDecidableEq := inferInstance

inductive Zone where
  | library
  | hand
  | battlefield
  | graveyard
  | exile
  | stack
  | command
deriving DecidableEq

/-- Counter kinds; the ones no modelled function looks at share a constructor
that keeps their discriminant. -/
inductive CounterType where
  | p1p1
  | m1m1
  | finality
  | loyalty
  | level
  | other (discriminant : Nat)
deriving DecidableEq

/-- The answer of a controller, or a request to do something else. -/
inductive ChoiceResult (α : Type) where
  | ok (value : α)
  | undoRequest (n : Nat)
  | exitGame
  | error (message : String)
  | needInput
deriving DecidableEq

end DeepScry
