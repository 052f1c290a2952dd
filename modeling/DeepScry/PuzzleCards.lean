/-
The card of a puzzle entry: its counters, its tapped flag, and what it keeps of
the printed card.
-/
import DeepScry.Counters
import DeepScry.Puzzle

namespace DeepScry

namespace Puzzle

/-- The counters a modifier lists, and those of a whole entry. -/
def CardModifier.counts : CardModifier → List (CounterType × Int32)
  | .counters counts => counts
  | _ => []

def CardDefinition.counts (entry : CardDefinition) :
    List (CounterType × Int32) :=
  entry.modifiers.flatMap CardModifier.counts

/-- How many counters of a kind the entry lists. -/
def total (counts : List (CounterType × Int32)) (kind : CounterType) : Nat :=
  ((counts.filter fun count => count.1 == kind).map fun count =>
    count.2.toInt.toNat).sum

/-- What is left of given totals when plus and minus counters cancel. -/
def cancel (totals : CounterType → Nat) : CounterType → Nat
  | .p1p1 => totals .p1p1 - totals .m1m1
  | .m1m1 => totals .m1m1 - totals .p1p1
  | kind => totals kind

/-- The counters of an entry, with the printed loyalty where it names none. -/
def counterTotals (definition : DeepScry.CardDefinition)
    (entry : CardDefinition) (kind : CounterType) : Nat :=
  if kind = .loyalty ∧ entry.hasExplicitLoyalty = false then
    (definition.loyalty.map UInt8.toNat).getD 0
  else total entry.counts kind

section Counters

variable {card : Card} {totals : CounterType → Nat}

/-- The counters of a card are given totals, cancelled. -/
def Counted (card : Card) (totals : CounterType → Nat) : Prop :=
  ∀ kind, (card.getCounter kind).toNat = cancel totals kind

theorem sub_min8_toNat (count plus minus : UInt8)
    (hle : count = plus ∨ count = minus) :
    (count - min plus minus).toNat =
      count.toNat - min plus.toNat minus.toNat := by
  rw [UInt8.toNat_sub_of_le, Saturating.min8_toNat]
  rw [UInt8.le_iff_toNat_le, Saturating.min8_toNat]
  rcases hle with rfl | rfl
  · exact Nat.min_le_left _ _
  · exact Nat.min_le_right _ _

theorem Counted.addEntry (hcard : Counted card totals) (kind : CounterType)
    {amount : UInt8} (hfits : totals kind + amount.toNat ≤ 255)
    (other : CounterType) :
    (counterCount (DeepScry.addEntry kind amount card.counters) other).toNat =
      cancel totals other + if other = kind then amount.toNat else 0 := by
  have hother := hcard other
  rw [counterCount_addEntry]
  split
  · next heq =>
    subst heq
    have hle : cancel totals other ≤ totals other := by
      cases other <;> simp only [cancel] <;> omega
    change (Saturating.add8 (card.getCounter other) amount).toNat = _
    rw [Saturating.add8_toNat, hother]
    omega
  · exact hother

theorem Counted.addCounter (hcard : Counted card totals) (kind : CounterType)
    {amount : UInt8} (hfits : totals kind + amount.toNat ≤ 255) :
    Counted (card.addCounter kind amount)
      (Function.update totals kind (totals kind + amount.toNat)) := by
  rw [Card.addCounter_eq]
  by_cases hzero : amount = 0
  · rw [if_pos hzero, hzero, UInt8.toNat_zero, Nat.add_zero,
      Function.update_eq_self]
    exact hcard
  · rw [if_neg hzero]
    have hadded := hcard.addEntry kind hfits
    have hplus := hadded .p1p1
    have hminus := hadded .m1m1
    intro other
    change (counterCount (annihilate _) other).toNat = _
    rw [counterCount_annihilate]
    by_cases hpair : other = .p1p1 ∨ other = .m1m1
    · have hcount : counterCount (DeepScry.addEntry kind amount
          card.counters) other = counterCount (DeepScry.addEntry kind amount
            card.counters) .p1p1 ∨
          counterCount (DeepScry.addEntry kind amount card.counters) other =
            counterCount (DeepScry.addEntry kind amount card.counters)
              .m1m1 := by
        rcases hpair with rfl | rfl
        · exact .inl rfl
        · exact .inr rfl
      rw [if_pos hpair, sub_min8_toNat _ _ _ hcount, hplus, hminus, hadded]
      rcases hpair with rfl | rfl <;>
        simp only [cancel, Function.update_apply] <;>
        by_cases hp : CounterType.p1p1 = kind <;>
        by_cases hm : CounterType.m1m1 = kind <;>
        simp only [hp, hm, ↓reduceIte] <;> omega
    · rw [if_neg hpair, hadded]
      rw [not_or] at hpair
      have hkept (totals : CounterType → Nat) :
          cancel totals other = totals other := by
        cases other <;> first | rfl | exact absurd rfl hpair.1 |
          exact absurd rfl hpair.2
      rw [hkept, hkept, Function.update_apply]
      split
      · next heq => rw [heq]
      · exact Nat.add_zero _

theorem total_cons (count : CounterType × Int32)
    (counts : List (CounterType × Int32)) (kind : CounterType) :
    total (count :: counts) kind =
      (if kind = count.1 then count.2.toInt.toNat else 0) +
        total counts kind := by
  rw [total, List.filter_cons]
  by_cases heq : count.1 = kind
  · rw [if_pos (beq_iff_eq.mpr heq), if_pos heq.symm, List.map_cons,
      List.sum_cons]
    rfl
  · rw [if_neg (fun hsame => heq (beq_iff_eq.mp hsame)),
      if_neg (fun hsame => heq hsame.symm), Nat.zero_add]
    rfl

theorem total_append (counts others : List (CounterType × Int32))
    (kind : CounterType) :
    total (counts ++ others) kind = total counts kind + total others kind := by
  rw [total, List.filter_append, List.map_append, List.sum_append]
  rfl

/-- The cast of a count that fits a byte. -/
theorem toUInt8_toNat {count : Int32} (hpos : 0 < count)
    (hfits : count.toInt.toNat ≤ 255) :
    count.toUInt32.toUInt8.toNat = count.toInt.toNat := by
  have hnonneg : 0 < count.toInt := Int32.lt_iff_toInt_lt.mp hpos
  have hcast : count.toInt = (count.toUInt32.toNat : Int) := by
    change count.toBitVec.toInt = (count.toBitVec.toNat : Int)
    have hcond := BitVec.toInt_eq_toNat_cond count.toBitVec
    change 0 < count.toBitVec.toInt at hnonneg
    split at hcond
    · exact hcond
    · have hlt := count.toBitVec.isLt
      omega
  rw [UInt32.toNat_toUInt8]
  omega

theorem Counted.addCounts {counts : List (CounterType × Int32)}
    (hcard : Counted card totals)
    (hfits : ∀ kind, totals kind + total counts kind ≤ 255) :
    Counted (counts.foldl addCount card)
      fun kind => totals kind + total counts kind := by
  induction counts generalizing card totals with
  | nil => exact hcard
  | cons count rest ih =>
      have hhere := hfits count.1
      rw [total_cons, if_pos rfl] at hhere
      have hone : Counted (addCount card count)
          (Function.update totals count.1
            (totals count.1 + count.2.toInt.toNat)) := by
        rw [addCount]
        split
        · next hpos =>
          have hbyte := toUInt8_toNat hpos (by omega)
          rw [← hbyte]
          apply hcard.addCounter
          omega
        · next hpos =>
          have hnone : count.2.toInt.toNat = 0 := by
            rw [Int32.lt_iff_toInt_lt] at hpos
            exact Int.toNat_eq_zero.mpr (Int.not_lt.mp hpos)
          rw [hnone, Nat.add_zero, Function.update_eq_self]
          exact hcard
      have hupdate (kind : CounterType) :
          Function.update totals count.1
              (totals count.1 + count.2.toInt.toNat) kind + total rest kind =
            totals kind + total (count :: rest) kind := by
        rw [total_cons, Function.update_apply]
        split
        · next heq =>
          rw [heq]
          omega
        · omega
      have hall := ih hone fun kind => (hupdate kind).symm ▸ hfits kind
      rw [funext hupdate] at hall
      exact hall

/-- All modifiers of an entry together add what the entry lists. -/
theorem Counted.applyModifiers {modifiers : List CardModifier}
    (hcard : Counted card totals)
    (hfits : ∀ kind, totals kind +
      total (modifiers.flatMap CardModifier.counts) kind ≤ 255) :
    Counted (modifiers.foldl applyModifier card) fun kind =>
      totals kind + total (modifiers.flatMap CardModifier.counts) kind := by
  induction modifiers generalizing card totals with
  | nil => exact hcard
  | cons modifier rest ih =>
      rw [List.flatMap_cons] at hfits ⊢
      simp only [total_append, ← Nat.add_assoc] at hfits ⊢
      refine ih ?_ hfits
      cases modifier with
      | counters counts =>
          exact hcard.addCounts fun kind =>
            Nat.le_trans (Nat.le_add_right _ _) (hfits kind)
      | chosenColor colors =>
          rw [applyModifier]
          split <;> exact hcard
      | namedCard names =>
          rw [applyModifier]
          split <;> exact hcard
      | _ => exact hcard

theorem total_loyalty {entry : CardDefinition}
    (hnone : entry.hasExplicitLoyalty = false) :
    total entry.counts .loyalty = 0 := by
  rw [CardDefinition.hasExplicitLoyalty, List.any_eq_false] at hnone
  have hfilter : (entry.counts.filter fun count => count.1 == .loyalty) =
      [] := by
    rw [List.filter_eq_nil_iff]
    intro count hcount hloyalty
    obtain ⟨modifier, hmodifier, hmem⟩ := List.mem_flatMap.mp hcount
    have hsilent := hnone modifier hmodifier
    cases modifier <;>
      first
      | exact hsilent (List.any_eq_true.mpr ⟨count, hmem, hloyalty⟩)
      | cases hmem
  rw [total, hfilter]
  rfl

/-- The counters of the card of an entry. -/
theorem counted_cardOf (db : CardDatabase)
    (definition : DeepScry.CardDefinition) {entry : CardDefinition}
    (hfits : ∀ kind, total entry.counts kind ≤ 255) (id : CardId)
    (owner : PlayerId) :
    Counted (db.cardOf definition entry id owner)
      (counterTotals definition entry) := by
  have hnew : Counted (db.instantiate definition id owner) fun _ => 0 := by
    intro kind
    cases kind <;> rfl
  have hfits' (kind : CounterType) : 0 + total entry.counts kind ≤ 255 :=
    (Nat.zero_add _).symm ▸ hfits kind
  have hown := hnew.applyModifiers hfits'
  simp only [Nat.zero_add] at hown
  change Counted _ (total entry.counts) at hown
  rw [CardDatabase.cardOf]
  split
  · next hexplicit =>
    have hsame : counterTotals definition entry = total entry.counts := by
      funext kind
      rw [counterTotals, if_neg]
      rintro ⟨-, himplicit⟩
      rw [hexplicit] at himplicit
      cases himplicit
    rw [hsame]
    exact hown
  · next himplicit =>
    have hnone := total_loyalty (Bool.not_eq_true _ ▸ himplicit)
    rw [Bool.not_eq_true] at himplicit
    cases hloyalty : definition.loyalty with
    | none =>
        have hsame : counterTotals definition entry = total entry.counts := by
          funext kind
          rw [counterTotals, hloyalty]
          split
          · next hkind => exact hkind.1 ▸ hnone.symm
          · rfl
        rw [hsame]
        exact hown
    | some loyalty =>
        have hsame : counterTotals definition entry =
            Function.update (total entry.counts) .loyalty
              (total entry.counts .loyalty + loyalty.toNat) := by
          funext kind
          rw [counterTotals, hloyalty, hnone, Function.update_apply,
            Nat.zero_add]
          simp only [himplicit, and_true]
          rfl
        rw [hsame]
        apply hown.addCounter
        have hlt := loyalty.toNat_lt
        omega

end Counters

section Making

/-- A card apart from what the first pass writes. -/
def bare (card : Card) : Card :=
  { card with
    tapped := false
    counters := []
    chosenColor := none
    chosenName := none }

theorem bare_addCounter (card : Card) (kind : CounterType) (amount : UInt8) :
    bare (card.addCounter kind amount) = bare card := by
  rw [Card.addCounter_eq]
  split <;> rfl

theorem bare_addCounts (counts : List (CounterType × Int32)) (card : Card) :
    bare (counts.foldl addCount card) = bare card := by
  induction counts generalizing card with
  | nil => rfl
  | cons count rest ih =>
      rw [List.foldl_cons, ih, addCount]
      split
      · exact bare_addCounter card _ _
      · rfl

theorem bare_applyModifiers (modifiers : List CardModifier) (card : Card) :
    bare (modifiers.foldl applyModifier card) = bare card := by
  induction modifiers generalizing card with
  | nil => rfl
  | cons modifier rest ih =>
      rw [List.foldl_cons, ih]
      cases modifier with
      | counters counts => exact bare_addCounts counts card
      | chosenColor colors =>
          rw [applyModifier]
          split <;> rfl
      | namedCard names =>
          rw [applyModifier]
          split <;> rfl
      | _ => rfl

variable (db : CardDatabase) (definition : DeepScry.CardDefinition)
  (entry : CardDefinition) (id : CardId) (owner : PlayerId)

theorem bare_cardOf :
    bare (db.cardOf definition entry id owner) =
      bare (db.instantiate definition id owner) := by
  rw [CardDatabase.cardOf]
  split
  · exact bare_applyModifiers entry.modifiers _
  · split
    · rw [bare_addCounter]
      exact bare_applyModifiers entry.modifiers _
    · exact bare_applyModifiers entry.modifiers _

theorem tapped_addCounter (card : Card) (kind : CounterType)
    (amount : UInt8) : (card.addCounter kind amount).tapped = card.tapped := by
  rw [Card.addCounter_eq]
  split <;> rfl

theorem tapped_addCounts (counts : List (CounterType × Int32)) (card : Card) :
    (counts.foldl addCount card).tapped = card.tapped := by
  induction counts generalizing card with
  | nil => rfl
  | cons count rest ih =>
      rw [List.foldl_cons, ih, addCount]
      split
      · exact tapped_addCounter card _ _
      · rfl

theorem tapped_applyModifiers (modifiers : List CardModifier) (card : Card) :
    (modifiers.foldl applyModifier card).tapped =
      (card.tapped || modifiers.contains .tapped) := by
  induction modifiers generalizing card with
  | nil => exact (Bool.or_false _).symm
  | cons modifier rest ih =>
      rw [List.foldl_cons, ih, List.contains_cons]
      cases modifier with
      | tapped =>
          rw [applyModifier, Bool.true_or, BEq.rfl, Bool.true_or, Bool.or_true]
      | counters counts =>
          change ((counts.foldl addCount card).tapped || _) = _
          rw [tapped_addCounts]
          rfl
      | chosenColor colors =>
          rw [applyModifier]
          split <;> rfl
      | namedCard names =>
          rw [applyModifier]
          split <;> rfl
      | _ => rfl

theorem tapped_cardOf :
    (db.cardOf definition entry id owner).tapped =
      entry.modifiers.contains .tapped := by
  have hfolded := tapped_applyModifiers entry.modifiers
    (db.instantiate definition id owner)
  change _ = (false || _) at hfolded
  rw [Bool.false_or] at hfolded
  rw [CardDatabase.cardOf]
  split
  · exact hfolded
  · split
    · rw [tapped_addCounter]
      exact hfolded
    · exact hfolded

theorem isCreature_addSubtypes (subtypes : List String) (cache : CardCache) :
    (subtypes.foldl CardCache.addSubtype cache).isCreature =
      cache.isCreature := by
  induction subtypes generalizing cache with
  | nil => rfl
  | cons subtype rest ih => exact ih _

/-- Only creatures are summoning sick; the flag agrees with the types. -/
theorem isCreature_instantiate :
    (db.instantiate definition id owner).isCreature =
      definition.types.contains .creature := by
  have hsubtypes : ((({} : CardCache).updateFromTypes
      definition.types).updateFromSubtypes definition.subtypes
        definition.name).isCreature = definition.types.contains .creature := by
    rw [CardCache.updateFromSubtypes]
    split <;> exact isCreature_addSubtypes definition.subtypes _
  exact hsubtypes

end Making

end Puzzle

end DeepScry
