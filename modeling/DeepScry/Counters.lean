/-
Counters of a card: what adding to one kind does to the counts of all kinds.
-/
import DeepScry.Card
import DeepScry.Saturating

namespace DeepScry

variable {counters : List (CounterType × UInt8)}

theorem counterCount_eq (counters : List (CounterType × UInt8))
    (kind : CounterType) :
    counterCount counters kind =
      ((counters.find? fun entry => entry.1 == kind).map Prod.snd).getD 0 := by
  rw [counterCount]
  cases counters.find? fun entry => entry.1 == kind with
  | none => rfl
  | some entry => rfl

theorem counterCount_of_none {kind : CounterType}
    (hnone : (counters.any fun entry => entry.1 == kind) = false) :
    counterCount counters kind = 0 := by
  have hfind : counters.find? (fun entry => entry.1 == kind) = none := by
    rw [List.find?_eq_none]
    rw [List.any_eq_false] at hnone
    exact hnone
  rw [counterCount_eq, hfind]
  rfl

/-- The counts after one of them is set. -/
theorem counterCount_setCount (counters : List (CounterType × UInt8))
    (kind other : CounterType) (count : UInt8) :
    counterCount (setCount kind count counters) other =
      if other = kind then
        if counters.any fun entry => entry.1 == kind then count else 0
      else counterCount counters other := by
  rw [setCount]
  split
  · next hzero =>
    subst hzero
    rw [ite_self]
    induction counters with
    | nil => simp [counterCount]
    | cons entry rest ih =>
        rw [List.filter_cons]
        by_cases hentry : entry.1 = kind
        · rw [if_neg (by simp [hentry]), ih]
          split
          · rfl
          · next hne =>
            rw [counterCount_eq, counterCount_eq, List.find?_cons_of_neg]
            rw [hentry, beq_iff_eq]
            exact fun heq => hne heq.symm
        · rw [if_pos (by simp [hentry])]
          by_cases hother : entry.1 = other
          · have hne : other ≠ kind := fun heq => hentry (hother.trans heq)
            rw [counterCount_eq, counterCount_eq, if_neg hne,
              List.find?_cons_of_pos (by simp [hother]),
              List.find?_cons_of_pos (by simp [hother])]
          · rw [counterCount_eq, counterCount_eq (entry :: rest),
              List.find?_cons_of_neg (by simp [hother]),
              List.find?_cons_of_neg (by simp [hother]), ← counterCount_eq,
              ← counterCount_eq, ih]
  · split
    · next heq =>
      subst heq
      rw [counterCount_eq, FirstMatch.find?_modifyFirst]
      · cases hfind : counters.find? fun entry => entry.1 == other with
        | none =>
            rw [List.find?_eq_none] at hfind
            rw [if_neg]
            · rfl
            · rw [List.any_eq_true]
              rintro ⟨entry, hmem, hentry⟩
              exact hfind entry hmem hentry
        | some entry =>
            have hentry := List.find?_some hfind
            rw [if_pos]
            · rfl
            · rw [List.any_eq_true]
              exact ⟨entry, List.mem_of_find?_eq_some hfind, hentry⟩
      · intro entry
        rfl
    · next hne =>
      rw [counterCount_eq, counterCount_eq,
        FirstMatch.find?_modifyFirst_of_disjoint]
      intro entry hentry
      rw [beq_iff_eq] at hentry
      have hfalse : (entry.1 == other) = false := by
        rw [hentry, beq_eq_false_iff_ne]
        exact fun heq => hne heq.symm
      exact ⟨hfalse, hfalse⟩

/-- Add to the entry of a kind, or make one. -/
def addEntry (kind : CounterType) (amount : UInt8)
    (counters : List (CounterType × UInt8)) : List (CounterType × UInt8) :=
  if counters.any fun entry => entry.1 == kind then
    setCount kind (Saturating.add8 (counterCount counters kind) amount)
      counters
  else counters ++ [(kind, amount)]

/-- Take away pairs of plus and minus counters. -/
def annihilate (counters : List (CounterType × UInt8)) :
    List (CounterType × UInt8) :=
  if 0 < counterCount counters .p1p1 && 0 < counterCount counters .m1m1 then
    setCount .m1m1 (counterCount counters .m1m1 -
        min (counterCount counters .p1p1) (counterCount counters .m1m1))
      (setCount .p1p1 (counterCount counters .p1p1 -
        min (counterCount counters .p1p1) (counterCount counters .m1m1))
        counters)
  else counters

theorem Card.addCounter_eq (card : Card) (kind : CounterType)
    (amount : UInt8) :
    card.addCounter kind amount =
      if amount = 0 then card
      else { card with
        counters := annihilate (addEntry kind amount card.counters) } := rfl

theorem zero_add8 (amount : UInt8) : Saturating.add8 0 amount = amount := by
  apply UInt8.toNat.inj
  rw [Saturating.add8_toNat, UInt8.toNat_zero]
  have hlt := amount.toNat_lt
  omega

theorem counterCount_addEntry (counters : List (CounterType × UInt8))
    (kind other : CounterType) (amount : UInt8) :
    counterCount (addEntry kind amount counters) other =
      if other = kind then
        Saturating.add8 (counterCount counters kind) amount
      else counterCount counters other := by
  rw [addEntry]
  split
  · next hany => rw [counterCount_setCount, if_pos hany]
  · next hany =>
    rw [Bool.not_eq_true] at hany
    rw [counterCount_eq, List.find?_append, List.find?_singleton]
    by_cases heq : other = kind
    · subst heq
      have hfind :
          counters.find? (fun entry => entry.1 == other) = none := by
        rw [List.find?_eq_none]
        rw [List.any_eq_false] at hany
        exact hany
      rw [counterCount_of_none hany, zero_add8, hfind, if_pos BEq.rfl,
        if_pos rfl]
      rfl
    · rw [if_neg, if_neg heq, Option.or_none, ← counterCount_eq]
      rw [beq_iff_eq]
      exact fun hkind => heq hkind.symm

theorem any_of_counterCount_pos {kind : CounterType}
    (hpos : 0 < counterCount counters kind) :
    (counters.any fun entry => entry.1 == kind) = true := by
  rw [← Bool.not_eq_false]
  intro hnone
  rw [counterCount_of_none hnone] at hpos
  exact absurd hpos (by decide)

theorem sub_min8_of_zero {a b c : UInt8} (hzero : a = 0 ∨ b = 0) :
    c - min a b = c := by
  have hmin : min a b = 0 := by
    apply UInt8.toNat.inj
    rw [Saturating.min8_toNat, UInt8.toNat_zero]
    rcases hzero with rfl | rfl
    · exact Nat.zero_min _
    · exact Nat.min_zero _
  rw [hmin, UInt8.sub_zero]

/-- Either count loses the smaller one of the two. -/
theorem counterCount_annihilate (counters : List (CounterType × UInt8))
    (kind : CounterType) :
    counterCount (annihilate counters) kind =
      if kind = .p1p1 ∨ kind = .m1m1 then counterCount counters kind -
        min (counterCount counters .p1p1) (counterCount counters .m1m1)
      else counterCount counters kind := by
  rw [annihilate]
  split
  · next hpair =>
    rw [Bool.and_eq_true, decide_eq_true_eq, decide_eq_true_eq] at hpair
    have hkept (count : UInt8) :
        counterCount (setCount .p1p1 count counters) .m1m1 =
          counterCount counters .m1m1 := by
      rw [counterCount_setCount, if_neg (by decide)]
    by_cases hminus : kind = .m1m1
    · subst hminus
      rw [counterCount_setCount, if_pos rfl,
        if_pos (any_of_counterCount_pos ((hkept _).symm ▸ hpair.2)),
        if_pos (.inr rfl)]
    · rw [counterCount_setCount, if_neg hminus, counterCount_setCount]
      by_cases hplus : kind = .p1p1
      · subst hplus
        rw [if_pos rfl, if_pos (any_of_counterCount_pos hpair.1),
          if_pos (.inl rfl)]
      · rw [if_neg hplus, if_neg (not_or.mpr ⟨hplus, hminus⟩)]
  · next hpair =>
    rw [Bool.and_eq_true, decide_eq_true_eq, decide_eq_true_eq, not_and_or,
      UInt8.not_lt, UInt8.not_lt, UInt8.le_zero_iff, UInt8.le_zero_iff]
      at hpair
    rw [sub_min8_of_zero hpair, ite_self]

theorem setCount_counterCount {kind : CounterType}
    (hpos : 0 < counterCount counters kind) :
    setCount kind (counterCount counters kind) counters = counters := by
  have hne : counterCount counters kind ≠ 0 := by
    intro hzero
    rw [hzero] at hpos
    exact absurd hpos (by decide)
  rw [setCount, if_neg hne]
  clear hpos hne
  induction counters with
  | nil => rfl
  | cons entry rest ih =>
      by_cases hentry : entry.1 = kind
      · rw [FirstMatch.modifyFirst_cons_of_pos _ (by simp [hentry]),
          counterCount_eq, List.find?_cons_of_pos (by simp [hentry])]
        rfl
      · rw [FirstMatch.modifyFirst_cons_of_neg _ (by simp [hentry]),
          counterCount_eq, List.find?_cons_of_neg (by simp [hentry]),
          ← counterCount_eq, ih]

theorem add8_eq_self_iff {a b : UInt8} :
    Saturating.add8 a b = a ↔ b = 0 ∨ a = 255 := by
  rw [← UInt8.toNat_inj, ← UInt8.toNat_inj, ← UInt8.toNat_inj,
    Saturating.add8_toNat]
  have ha := a.toNat_lt
  have hb := b.toNat_lt
  change _ ↔ b.toNat = 0 ∨ a.toNat = 255
  omega

theorem sub_min8_eq_self_iff {a b : UInt8} :
    a - min a b = a ↔ a = 0 ∨ b = 0 := by
  constructor
  · intro hsub
    have hle : min a b ≤ a := by
      rw [UInt8.le_iff_toNat_le, Saturating.min8_toNat]
      exact Nat.min_le_left _ _
    rw [← UInt8.toNat_inj, UInt8.toNat_sub_of_le _ _ hle,
      Saturating.min8_toNat] at hsub
    rw [← UInt8.toNat_inj, ← UInt8.toNat_inj]
    change a.toNat = 0 ∨ b.toNat = 0
    omega
  · exact sub_min8_of_zero

/-- When adding to a kind that does not cancel changes nothing. -/
theorem Card.addCounter_eq_self_iff {card : Card} {kind : CounterType}
    {amount : UInt8} (hplus : kind ≠ .p1p1) (hminus : kind ≠ .m1m1) :
    card.addCounter kind amount = card ↔
      amount = 0 ∨ card.getCounter kind = 255 ∧
        (card.getCounter .p1p1 = 0 ∨ card.getCounter .m1m1 = 0) := by
  rw [Card.addCounter_eq]
  by_cases hzero : amount = 0
  · rw [if_pos hzero]
    exact iff_of_true rfl (.inl hzero)
  · rw [if_neg hzero]
    have hadded (other : CounterType) :=
      counterCount_addEntry card.counters kind other amount
    constructor
    · intro hsame
      have hcounters : annihilate (addEntry kind amount card.counters) =
          card.counters := congrArg (fun card => card.counters) hsame
      have hcount (other : CounterType) :=
        congrArg (counterCount · other) hcounters
      have hkind := hcount kind
      have hpair := hcount .p1p1
      rw [counterCount_annihilate, if_neg (not_or.mpr ⟨hplus, hminus⟩),
        hadded, if_pos rfl, add8_eq_self_iff] at hkind
      rw [counterCount_annihilate, if_pos (.inl rfl), hadded, hadded,
        if_neg hplus.symm, if_neg hminus.symm, sub_min8_eq_self_iff] at hpair
      exact .inr ⟨hkind.resolve_left hzero, hpair⟩
    · rintro (hamount | ⟨hfull, hpair⟩)
      · exact absurd hamount hzero
      · change counterCount card.counters kind = 255 at hfull
        have hpos : 0 < counterCount card.counters kind := by
          rw [hfull]
          decide
        have hentry : addEntry kind amount card.counters = card.counters := by
          rw [addEntry, if_pos (any_of_counterCount_pos hpos),
            add8_eq_self_iff.mpr (.inr hfull)]
          exact setCount_counterCount hpos
        have hcancel : annihilate card.counters = card.counters := by
          rw [annihilate, if_neg]
          rw [Bool.and_eq_true, decide_eq_true_eq, decide_eq_true_eq]
          rintro ⟨hp, hm⟩
          rcases hpair with hnone | hnone
          · exact absurd (hnone ▸ hp : (0 : UInt8) < 0) (by decide)
          · exact absurd (hnone ▸ hm : (0 : UInt8) < 0) (by decide)
        rw [hentry, hcancel]

end DeepScry
