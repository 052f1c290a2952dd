/-
Minting an entity and taking it back: the store is as before exactly when its
last slot was not an empty, reserved one.
-/
import DeepScry.DelayedFiring

namespace DeepScry

namespace EntityStore

variable {α : Type}

/-- `reserve_range`: the slots up to the end of the range exist. -/
def reserveRange (store : EntityStore α) (start count : UInt32) :
    EntityStore α :=
  ⟨store.entities ++
    List.replicate ((start + count).toNat - store.entities.length) none⟩

/-- No reserved slot is left empty at the end. -/
def Trimmed (store : EntityStore α) : Prop :=
  ∀ slot, store.entities.getLast? = some slot → slot.isSome

theorem rdropWhile_append_replicate_none (slots : List (Option α))
    (count : Nat) :
    (slots ++ List.replicate count none).rdropWhile Option.isNone =
      slots.rdropWhile Option.isNone := by
  induction count with
  | zero => simp
  | succ count ih =>
      rw [List.replicate_succ', ← List.append_assoc,
        List.rdropWhile_concat_pos _ _ _ rfl, ih]

theorem trimmed_iff {store : EntityStore α} :
    store.Trimmed ↔
      store.entities.rdropWhile Option.isNone = store.entities := by
  rw [Trimmed, List.rdropWhile_eq_self_iff]
  rcases List.eq_nil_or_concat' store.entities with hnil | ⟨slots, slot, hlast⟩
  · simp [hnil]
  · simp [hlast, Option.isSome_iff_ne_none]

/-- The slot of a fresh entity exists once the store has grown, and is
empty. -/
theorem getElem?_grown {store : EntityStore α} {id : Nat}
    (hfresh : store.tryGet id = none) :
    (store.entities ++ List.replicate (id + 1 - store.entities.length)
      none)[id]? = some none := by
  rcases Nat.lt_or_ge id store.entities.length with hlt | hge
  · rw [List.getElem?_append_left hlt]
    rw [tryGet, List.getElem?_eq_getElem hlt] at hfresh
    rw [List.getElem?_eq_getElem hlt]
    exact congrArg some hfresh
  · rw [List.getElem?_append_right hge, List.getElem?_replicate_of_lt (by omega)]

/-- Taking back a fresh entity drops all empty slots at the end. -/
theorem clearAndTruncate_of_insert {store inserted : EntityStore α} {id : Nat}
    {entity : α} (hinsert : store.insert id entity = some inserted) :
    inserted.clearAndTruncate id =
      ⟨store.entities.rdropWhile Option.isNone⟩ := by
  rw [insert] at hinsert
  split at hinsert
  · cases hinsert
  · next hfresh =>
    cases hinsert
    have hslot := getElem?_grown hfresh
    have hlt := (List.getElem?_eq_some_iff.mp hslot).1
    rw [clearAndTruncate, clear,
      ← rdropWhile_append_replicate_none store.entities
        (id + 1 - store.entities.length)]
    congr 2
    apply List.ext_getElem?
    intro i
    rw [List.getElem?_modify, List.getElem?_set]
    by_cases hid : id = i
    · subst hid
      simp [hslot]
      omega
    · simp [hid]

theorem Trimmed.clearAndTruncate (store : EntityStore α) (id : Nat) :
    (store.clearAndTruncate id).Trimmed := by
  rw [trimmed_iff]
  exact List.rdropWhile_idempotent _ _

theorem Trimmed.insert {store inserted : EntityStore α}
    (htrimmed : store.Trimmed) {id : Nat} {entity : α}
    (hinsert : store.insert id entity = some inserted) :
    inserted.Trimmed := by
  rw [EntityStore.insert] at hinsert
  split at hinsert
  · cases hinsert
  · cases hinsert
    intro slot hslot
    rw [List.getLast?_eq_getElem?, List.getElem?_set, List.length_set,
      List.length_append, List.length_replicate] at hslot
    by_cases hlast : id + 1 < store.entities.length
    · rw [Nat.sub_eq_zero_of_le hlast.le, List.replicate_zero,
        List.append_nil, if_neg (by omega)] at hslot
      apply htrimmed
      rw [List.getLast?_eq_getElem?]
      exact hslot
    · rw [if_pos (by omega), if_pos (by omega)] at hslot
      cases hslot
      rfl

/-- Minting at a fresh id and taking the entity back restores the store exactly
when no reserved slot was empty at its end. -/
theorem insert_clearAndTruncate_iff {store : EntityStore α} {id : Nat}
    (hfresh : store.tryGet id = none) (entity : α) :
    (store.insert id entity).map (fun inserted =>
        inserted.clearAndTruncate id) = some store ↔ store.Trimmed := by
  have hinsert : ∃ inserted, store.insert id entity = some inserted := by
    rw [EntityStore.insert, hfresh]
    exact ⟨_, rfl⟩
  obtain ⟨inserted, hinsert⟩ := hinsert
  rw [hinsert, Option.map_some, clearAndTruncate_of_insert hinsert,
    Option.some_inj, trimmed_iff]
  exact ⟨congrArg entities, congrArg mk⟩

end EntityStore

/-- The writes that change which slots a store has. -/
inductive StoreOp (α : Type) where
  | insert (id : Nat) (entity : α)
  | reserveRange (start count : UInt32)
  | clearAndTruncate (id : Nat)

namespace StoreOp

variable {α : Type}

/-- An insertion into an occupied slot panics. -/
def perform (store : EntityStore α) : StoreOp α → Option (EntityStore α)
  | .insert id entity => store.insert id entity
  | .reserveRange start count => some (store.reserveRange start count)
  | .clearAndTruncate id => some (store.clearAndTruncate id)

/-- A reservation finds its slots there already. -/
def Fits (store : EntityStore α) : StoreOp α → Prop
  | .reserveRange start count => (start + count).toNat ≤ store.entities.length
  | _ => True

theorem Fits.trimmed {op : StoreOp α} {store after : EntityStore α}
    (hfits : op.Fits store) (htrimmed : store.Trimmed)
    (hperform : op.perform store = some after) : after.Trimmed := by
  cases op with
  | insert id entity => exact htrimmed.insert hperform
  | reserveRange start count =>
      cases hperform
      rw [EntityStore.reserveRange, Nat.sub_eq_zero_of_le hfits,
        List.replicate_zero, List.append_nil]
      exact htrimmed
  | clearAndTruncate id =>
      cases hperform
      exact EntityStore.Trimmed.clearAndTruncate store id

end StoreOp

/-- The stores that allowed writes lead to, from the empty one. -/
inductive StoreReaches {α : Type}
    (Allowed : EntityStore α → StoreOp α → Prop) : EntityStore α → Prop where
  | start : StoreReaches Allowed {}
  | step {store after : EntityStore α} (hreaches : StoreReaches Allowed store)
      (op : StoreOp α) (hallowed : Allowed store op)
      (hperform : op.perform store = some after) : StoreReaches Allowed after

namespace StoreReaches

variable {α : Type}

theorem trimmed {store : EntityStore α}
    (hreaches : StoreReaches (fun store op => op.Fits store) store) :
    store.Trimmed := by
  induction hreaches with
  | start =>
      intro slot hslot
      cases hslot
  | step _ op hallowed hperform ih => exact hallowed.trimmed ih hperform

/-- In every store that is reached, a mint is undone exactly when the last slot
is occupied; without a reservation that adds slots it always is. -/
theorem mint_undone_iff :
    (∀ store : EntityStore α, StoreReaches (fun _ _ => True) store →
      ∀ id entity, store.tryGet id = none →
        ((store.insert id entity).map (fun inserted =>
          inserted.clearAndTruncate id) = some store ↔ store.Trimmed)) ∧
    ∀ store : EntityStore α,
      StoreReaches (fun store op => op.Fits store) store →
        ∀ id entity, store.tryGet id = none →
          (store.insert id entity).map (fun inserted =>
            inserted.clearAndTruncate id) = some store := by
  constructor
  · intro store _ id entity hfresh
    exact EntityStore.insert_clearAndTruncate_iff hfresh entity
  · intro store hreaches id entity hfresh
    exact (EntityStore.insert_clearAndTruncate_iff hfresh entity).mpr
      hreaches.trimmed

end StoreReaches

/-- One entity in slot 1; slot 0 is empty. -/
def sparseStore : EntityStore Nat := ⟨[none, some 7]⟩

theorem sparseStore_reached :
    StoreReaches (fun store op => op.Fits store) sparseStore :=
  .step .start (.insert 1 7) trivial rfl

theorem sparseStore_mint_undone :
    (sparseStore.insert 0 9).map (fun inserted =>
      inserted.clearAndTruncate 0) = some sparseStore :=
  StoreReaches.mint_undone_iff.2 sparseStore sparseStore_reached 0 9 rfl

/-- Three reserved slots; the undo of a mint in the second drops them all. -/
theorem reserved_slots_dropped :
    ∃ store : EntityStore Nat, StoreReaches (fun _ _ => True) store ∧
      store.tryGet 1 = none ∧
      (store.insert 1 9).map (fun inserted =>
        inserted.clearAndTruncate 1) ≠ some store := by
  refine ⟨_, .step .start (.reserveRange 0 3) trivial rfl, rfl, ?_⟩
  intro hrestored
  have hlength := congrArg (Option.map fun store => store.entities.length)
    hrestored
  exact absurd hlength (by decide)

end DeepScry
