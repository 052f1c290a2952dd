/-
Putting a moved card back: when the zones after the undo of a move are the
zones before it.
-/
import Mathlib
import DeepScry.Zones

namespace DeepScry

/-- A card can go to the other end of its copies, and only of these. -/
theorem append_eq_cons_iff {id : CardId} (cards : List CardId) :
    cards ++ [id] = id :: cards ↔ ∀ other ∈ cards, other = id := by
  induction cards with
  | nil => simp
  | cons other rest ih =>
      rw [List.cons_append, List.cons.injEq, List.forall_mem_cons]
      constructor
      · rintro ⟨hother, hrest⟩
        rw [hother] at hrest
        exact ⟨hother, ih.mp hrest⟩
      · rintro ⟨hother, hrest⟩
        rw [hother]
        exact ⟨rfl, ih.mpr hrest⟩

/-- Appended and taken out again: unchanged exactly when no other card lies
behind the first copy. -/
theorem erase_append_self_iff {id : CardId} (cards : List CardId) :
    (cards ++ [id]).erase id = cards ↔
      ∀ other ∈ cards.dropWhile (· != id), other = id := by
  induction cards with
  | nil => simp
  | cons other rest ih =>
      by_cases hother : other = id
      · subst hother
        rw [List.cons_append, List.erase_cons_head, append_eq_cons_iff,
          List.dropWhile_cons_of_neg (by simp), List.forall_mem_cons]
        simp
      · rw [List.cons_append, List.erase_cons_tail (by simpa using hother),
          List.cons.injEq, List.dropWhile_cons_of_pos (by simpa using hother)]
        simpa using ih

/-- A card put into a list stands in front of `behind` exactly when it was put
there and nothing else moved. -/
theorem insertIdx_eq_iff {id : CardId} {before : List CardId}
    (hbefore : id ∉ before) (behind moved : List CardId) {position : Nat}
    (hposition : position ≤ before.length) :
    (before ++ moved).insertIdx position id = before ++ id :: behind ↔
      position = before.length ∧ moved = behind := by
  induction before generalizing position with
  | nil =>
      have hzero : position = 0 := Nat.le_zero.mp hposition
      subst hzero
      simp
  | cons first rest ih =>
      rw [List.mem_cons, not_or] at hbefore
      cases position with
      | zero => simp [hbefore.1]
      | succ position =>
          have hle : position ≤ rest.length := Nat.le_of_succ_le_succ hposition
          rw [List.cons_append, List.insertIdx_succ_cons, List.cons_append,
            List.cons.injEq, ih hbefore.2 hle]
          simp

theorem addAt_eq_iff {id : CardId} {before : List CardId}
    (hbefore : id ∉ before) (behind moved : List CardId) {position : Nat}
    (hposition : position ≤ before.length) :
    addAt (before ++ moved) id position = before ++ id :: behind ↔
      position = before.length ∧ moved = behind := by
  have hclamp : min position (before ++ moved).length = position := by
    rw [List.length_append]
    omega
  rw [addAt, hclamp, insertIdx_eq_iff hbefore behind moved hposition]
namespace Zones

/-- The cards of the destination before the card arrives. -/
def destination (zones : Zones) (id : CardId) (fromZone toZone : Zone)
    (owner : PlayerId) : List CardId :=
  ((zones.modify fromZone owner fun cards => cards.erase id).cardsIn toZone
    owner).getD []

/-- A card found in a zone stands behind cards that are not its copies. -/
theorem split_of_holds {zones : Zones} {zone : Zone} {owner : PlayerId}
    {id : CardId} (hholds : zones.holds zone owner id = true) :
    ∃ before behind, id ∉ before ∧
      zones.cardsIn zone owner = some (before ++ id :: behind) ∧
      zones.positionOf zone owner id = some before.length := by
  rw [holds] at hholds
  cases hcards : zones.cardsIn zone owner with
  | none => simp [hcards] at hholds
  | some cards =>
      rw [hcards, Option.any_some, List.contains_iff_mem] at hholds
      obtain ⟨before, behind, rfl, hbefore⟩ := List.eq_append_cons_of_mem hholds
      refine ⟨before, behind, hbefore, rfl, ?_⟩
      rw [positionOf, hcards, Option.bind_some, List.idxOf?_eq_some_iff]
      have hlength : before.length < (before ++ id :: behind).length := by
        simp
      refine ⟨hlength, by simp, fun j hj heq => hbefore ?_⟩
      rw [List.getElem_append_left hj] at heq
      exact heq ▸ List.getElem_mem hj

theorem cardsIn_isSome {zones : Zones} {owner : PlayerId}
    (howner : (zones.getPlayerZones owner).isSome = true) (zone : Zone) :
    ∃ cards, zones.cardsIn zone owner = some cards := by
  obtain ⟨own, hown⟩ := Option.isSome_iff_exists.mp howner
  apply Option.isSome_iff_exists.mp
  cases zone <;> simp [cardsIn, hown, PlayerZones.getZone]

/-- When a move is put back exactly: the saved position fits, and the card
joined no zone with other cards behind a copy of it. -/
theorem putBack_eq_iff {zones : Zones} {fromZone toZone : Zone}
    {owner : PlayerId} {id : CardId}
    (howner : (zones.getPlayerZones owner).isSome = true)
    (hholds : zones.holds fromZone owner id = true) :
    (zones.afterMove id fromZone toZone owner).putBack id fromZone toZone owner
        ((zones.positionOf fromZone owner id).map UInt32.ofNat) = zones ↔
      (∀ position, zones.positionOf fromZone owner id = some position →
        position < 2 ^ 32) ∧
      ∀ other ∈ (zones.destination id fromZone toZone owner).dropWhile
        (· != id), other = id := by
  obtain ⟨before, behind, hbefore, hcards, hposition⟩ := split_of_holds hholds
  have hremoved : (before ++ id :: behind).erase id = before ++ behind := by
    rw [List.erase_append_right _ hbefore, List.erase_cons_head]
  have hsaved : (UInt32.ofNat before.length).toNat ≤ before.length := by
    rw [UInt32.toNat_ofNat']
    exact Nat.mod_le _ _
  have hfits : (UInt32.ofNat before.length).toNat = before.length ↔
      before.length < 2 ^ 32 := by
    rw [UInt32.toNat_ofNat']
    exact ⟨fun heq => heq ▸ Nat.mod_lt _ (by decide), Nat.mod_eq_of_lt⟩
  rw [hposition, afterMove, putBack, modify_modify]
  simp only [Option.map_some, Option.some.injEq, forall_eq']
  rw [← hfits]
  by_cases hzone : fromZone = toZone
  · subst hzone
    have hdestination : zones.destination id fromZone fromZone owner =
        before ++ behind := by
      rw [destination, cardsIn_modify, hcards, Option.map_some, hremoved]
      rfl
    have hskip : (before ++ behind).dropWhile (· != id) =
        behind.dropWhile (· != id) := by
      rw [List.dropWhile_append_of_pos]
      intro other hother
      simpa using fun heq : other = id => hbefore (heq ▸ hother)
    rw [modify_modify, modify_modify, modify_eq_self_iff, hdestination, hskip,
      ← erase_append_self_iff behind]
    simp only [hcards, Option.some.injEq, forall_eq', Function.comp_apply,
      hremoved]
    rw [List.append_assoc, List.erase_append_right _ hbefore,
      addAt_eq_iff hbefore behind _ hsaved]
  · obtain ⟨arrived, harrived⟩ := cardsIn_isSome howner toZone
    have hdestination : zones.destination id fromZone toZone owner =
        arrived := by
      rw [destination, cardsIn_modify_ne _ hzone, harrived]
      rfl
    -- The two zones are put back independently of each other.
    rw [hdestination, ← erase_append_self_iff arrived, modify_comm _ hzone,
      modify_modify]
    constructor
    · intro heq
      have hfrom := congrArg (fun z => z.cardsIn fromZone owner) heq
      have hto := congrArg (fun z => z.cardsIn toZone owner) heq
      simp only [cardsIn_modify, cardsIn_modify_ne _ hzone,
        cardsIn_modify_ne _ (Ne.symm hzone), hcards, harrived,
        Option.map_some, Option.some.injEq, Function.comp_apply,
        hremoved] at hfrom hto
      exact ⟨((addAt_eq_iff hbefore behind behind hsaved).mp hfrom).1, hto⟩
    · rintro ⟨hback, hleft⟩
      have hto : zones.modify toZone owner
          ((fun cards => cards.erase id) ∘ fun cards => cards ++ [id]) =
            zones := by
        rw [modify_eq_self_iff, harrived]
        simpa using hleft
      have hfrom : zones.modify fromZone owner
          ((fun cards => addAt cards id (UInt32.ofNat before.length).toNat) ∘
            fun cards => cards.erase id) = zones := by
        rw [modify_eq_self_iff, hcards]
        simp only [Option.some.injEq, forall_eq', Function.comp_apply,
          hremoved]
        exact (addAt_eq_iff hbefore behind behind hsaved).mpr ⟨hback, rfl⟩
      rw [hto, hfrom]

theorem isSome_getPlayerZones_modify (zones : Zones) (zone : Zone)
    (owner player : PlayerId) (f : List CardId → List CardId) :
    ((zones.modify zone owner f).getPlayerZones player).isSome =
      (zones.getPlayerZones player).isSome := by
  have hplayer (g : PlayerZones → PlayerZones) :
      ((zones.modifyPlayerZones owner g).getPlayerZones player).isSome =
        (zones.getPlayerZones player).isSome := by
    by_cases howner : owner = player
    · rw [howner, getPlayerZones_modifyPlayerZones, Option.isSome_map]
    · rw [getPlayerZones_modifyPlayerZones_ne _ howner]
  cases zone <;> first | rfl | exact hplayer _

/-- The card is found where it was moved to. -/
theorem holds_afterMove {zones : Zones} {owner : PlayerId}
    (howner : (zones.getPlayerZones owner).isSome = true) (id : CardId)
    (fromZone toZone : Zone) :
    (zones.afterMove id fromZone toZone owner).holds toZone owner id =
      true := by
  have hremoved : ((zones.modify fromZone owner fun cards =>
      cards.erase id).getPlayerZones owner).isSome = true := by
    rw [isSome_getPlayerZones_modify, howner]
  obtain ⟨cards, hcards⟩ := cardsIn_isSome hremoved toZone
  rw [afterMove, holds, cardsIn_modify, hcards]
  simp

end Zones

end DeepScry
