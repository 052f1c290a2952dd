/-
The sparse store of game entities: slot `i` holds the entity with id `i`, or
nothing.
-/
import DeepScry.Types
import Mathlib.Data.List.Basic
import Mathlib.Data.List.DropRight

namespace DeepScry

structure EntityStore (α : Type) where
  entities : List (Option α) := []

namespace EntityStore

variable {α : Type}

/-- `try_get`. -/
def tryGet (store : EntityStore α) (id : Nat) : Option α :=
  (store.entities[id]?).join

/-- The marker ids that `get` refuses. -/
def isSentinel (id : Nat) : Bool :=
  id == 4294967295 || id == 4294967294 || id == 4294967292

/-- `get`: no marker id is looked up. -/
def get (store : EntityStore α) (id : Nat) : Option α :=
  if isSentinel id then none else store.tryGet id

/-- Write through `get_mut`; nothing happens when the slot is empty. -/
def modify (store : EntityStore α) (id : Nat) (f : α → α) : EntityStore α :=
  ⟨store.entities.modify id (Option.map f)⟩

/-- `clear`: empty the slot. -/
def clear (store : EntityStore α) (id : Nat) : EntityStore α :=
  ⟨store.entities.modify id fun _ => none⟩

/-- `clear_and_truncate`: empty the slot, then drop trailing empty slots. -/
def clearAndTruncate (store : EntityStore α) (id : Nat) : EntityStore α :=
  ⟨(store.clear id).entities.rdropWhile Option.isNone⟩

/-- Write to every entity. -/
def modifyAll (store : EntityStore α) (f : α → α) : EntityStore α :=
  ⟨store.entities.map (Option.map f)⟩

theorem tryGet_modify (store : EntityStore α) (id other : Nat) (f : α → α) :
    (store.modify id f).tryGet other =
      if id = other then (store.tryGet other).map f
      else store.tryGet other := by
  rw [modify, tryGet, List.getElem?_modify]
  split
  · next heq =>
    subst heq
    rw [tryGet]
    cases store.entities[id]? with
    | none => rfl
    | some slot => rfl
  · next hne =>
    rw [tryGet]
    cases store.entities[other]? with
    | none => rfl
    | some slot => rfl

@[simp]
theorem tryGet_modify_self (store : EntityStore α) (id : Nat) (f : α → α) :
    (store.modify id f).tryGet id = (store.tryGet id).map f := by
  rw [tryGet_modify, if_pos rfl]

theorem tryGet_modify_ne (store : EntityStore α) {id other : Nat}
    (hne : id ≠ other) (f : α → α) :
    (store.modify id f).tryGet other = store.tryGet other := by
  rw [tryGet_modify, if_neg hne]

/-- Only the entity in the slot decides what a write does. -/
theorem modify_congr {store : EntityStore α} {id : Nat} {f g : α → α}
    (hfg : ∀ a, store.tryGet id = some a → f a = g a) :
    store.modify id f = store.modify id g := by
  have hentities : store.entities.modify id (Option.map f) =
      store.entities.modify id (Option.map g) := by
    apply List.ext_getElem?
    intro i
    rw [List.getElem?_modify, List.getElem?_modify]
    by_cases hid : id = i
    · subst hid
      simp only [↓reduceIte]
      cases hslot : store.entities[id]? with
      | none => rfl
      | some slot =>
          cases slot with
          | none => rfl
          | some a =>
              have ha : store.tryGet id = some a := by
                rw [tryGet, hslot]
                rfl
              simp [hfg a ha]
    · simp only [if_neg hid]
  rw [modify, modify, hentities]

/-- The same, with the entity at hand. -/
theorem modify_congr_of_tryGet {store : EntityStore α} {id : Nat} {a : α}
    {f g : α → α} (ha : store.tryGet id = some a) (hfg : f a = g a) :
    store.modify id f = store.modify id g := by
  apply modify_congr
  intro b hb
  rw [ha] at hb
  rw [← Option.some.inj hb, hfg]

theorem modify_id (store : EntityStore α) (id : Nat) :
    store.modify id (fun a => a) = store := by
  have hentities :
      store.entities.modify id (Option.map fun a => a) = store.entities := by
    apply List.ext_getElem?
    intro i
    rw [List.getElem?_modify]
    cases store.entities[i]? <;> simp
  rw [modify, hentities]

/-- A write that the entity does not notice is none. -/
theorem modify_eq_self {store : EntityStore α} {id : Nat} {f : α → α}
    (hf : ∀ a, store.tryGet id = some a → f a = a) :
    store.modify id f = store := by
  rw [modify_congr hf, modify_id]

/-- The same, with the entity at hand. -/
theorem modify_eq_self_of_tryGet {store : EntityStore α} {id : Nat} {a : α}
    {f : α → α} (ha : store.tryGet id = some a) (hf : f a = a) :
    store.modify id f = store := by
  rw [modify_congr_of_tryGet (g := fun a => a) ha hf, modify_id]

/-- A write to an empty slot does nothing. -/
theorem modify_of_tryGet_eq_none {store : EntityStore α} {id : Nat}
    (hnone : store.tryGet id = none) (f : α → α) :
    store.modify id f = store := by
  apply modify_eq_self
  intro a ha
  rw [hnone] at ha
  cases ha

/-- Two writes to one slot compose. -/
theorem modify_modify (store : EntityStore α) (id : Nat) (f g : α → α) :
    (store.modify id f).modify id g = store.modify id (g ∘ f) := by
  have hentities :
      (store.entities.modify id (Option.map f)).modify id (Option.map g) =
        store.entities.modify id (Option.map (g ∘ f)) := by
    apply List.ext_getElem?
    intro i
    rw [List.getElem?_modify, List.getElem?_modify, List.getElem?_modify]
    cases store.entities[i]? with
    | none => rfl
    | some slot => by_cases hid : id = i <;> simp [hid]
  rw [modify, modify, modify, hentities]

end EntityStore

end DeepScry
