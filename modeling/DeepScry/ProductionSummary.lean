/-
The mana production summed up from the abilities of a card: when it is an upper
bound of what each of them adds.
-/
import DeepScry.Effects

namespace DeepScry

namespace ManaColors

theorem contains_empty (color : ManaColor) : empty.contains color = false := by
  cases color <;> rfl

theorem contains_insert (set : ManaColors) (color other : ManaColor) :
    (set.insert color).contains other =
      (set.contains other || decide (color = other)) := by
  have hor : (set.bits ||| colorToBit color) &&& colorToBit other =
      (set.bits &&& colorToBit other) |||
        (colorToBit color &&& colorToBit other) := by
    rw [← UInt8.toBitVec_inj]
    simp [BitVec.and_or_distrib_right]
  rw [contains, contains, insert, hor]
  by_cases heq : color = other
  · subst heq
    have hbit : colorToBit color ≠ 0 := by
      cases color <;> decide
    simp [hbit]
  · have hbit : colorToBit color &&& colorToBit other = 0 := by
      cases color <;> cases other <;> first | rfl | exact absurd rfl heq
    simp [hbit, heq]

theorem contains_foldl_insert (colors : List ManaColor) (set : ManaColors)
    (color : ManaColor) :
    (colors.foldl insert set).contains color = true ↔
      set.contains color = true ∨ color ∈ colors := by
  induction colors generalizing set with
  | nil => simp
  | cons head rest ih =>
      simp only [List.foldl_cons, ih, contains_insert, Bool.or_eq_true,
        decide_eq_true_eq, List.mem_cons]
      rw [or_assoc, eq_comm (a := head)]

theorem isEmpty_iff {set : ManaColors} :
    set.isEmpty = true ↔ ∀ color, set.contains color = false := by
  constructor
  · intro hempty color
    rw [isEmpty, beq_iff_eq] at hempty
    simp [contains, hempty]
  · intro hnone
    by_contra hsome
    rw [Bool.not_eq_true] at hsome
    obtain ⟨color, hcolor⟩ := exists_contains_of_not_isEmpty hsome
    simp [hnone color] at hcolor

end ManaColors

theorem max8_toNat (a b : UInt8) :
    (max a b).toNat = max a.toNat b.toNat := by
  change (if a ≤ b then b else a).toNat = _
  split
  · next hle =>
    rw [UInt8.le_iff_toNat_le] at hle
    omega
  · next hgt =>
    rw [UInt8.le_iff_toNat_le] at hgt
    omega

theorem le_max8 {amount a b : UInt8} (hle : amount ≤ a ∨ amount ≤ b) :
    amount ≤ max a b := by
  simp only [UInt8.le_iff_toNat_le, max8_toNat] at hle ⊢
  omega

theorem le_foldl_max8 {amounts : List UInt8} {bound amount : UInt8}
    (hmem : amount ≤ bound ∨ amount ∈ amounts) :
    amount ≤ amounts.foldl max bound := by
  induction amounts generalizing bound with
  | nil => simpa using hmem
  | cons head rest ih =>
      apply ih
      rcases hmem with hle | hmem
      · exact .inl (le_max8 (.inl hle))
      · rcases List.mem_cons.mp hmem with rfl | hmem
        · exact .inl (le_max8 (.inr (UInt8.le_refl _)))
        · exact .inr hmem

/-- The mana of an `AddMana` effect. -/
def Effect.manaAdded : Effect → Option ManaCost
  | addMana _ mana _ _ => some mana
  | _ => none

/-- What the mana abilities of a list add, one entry an effect. -/
def manaOffered (abilities : List ActivatedAbility) : List ManaCost :=
  (abilities.filter ActivatedAbility.isManaAbility).flatMap fun ability =>
    ability.effects.filterMap Effect.manaAdded

/-- Some effect of a mana ability can add this kind of mana. -/
def Offers (abilities : List ActivatedAbility) (color : Color) : Prop :=
  ∃ mana ∈ manaOffered abilities, 0 < mana.amountOf color

namespace ManaAbilityScan

/-- What a scan knows of the mana that it has read. -/
structure Knows (scan : ManaAbilityScan) (manas : List ManaCost) : Prop where
  colors : ∀ color, scan.colors.contains color = true ↔
    ∃ mana ∈ manas, hasColor mana color = true
  colorless : scan.producesColorless = true ↔
    ∃ mana ∈ manas, 0 < mana.colorless
  any : scan.producesAny = true ↔
    ∃ mana ∈ manas, ManaColor.all.all (hasColor mana) = true
  amount : ∀ mana ∈ manas, ∀ color, mana.amountOf color ≤ scan.maxAmount

variable {scan : ManaAbilityScan} {manas : List ManaCost}

theorem knows_nil : Knows {} [] := by
  constructor <;> simp [ManaColors.contains_empty]

theorem Knows.addEffect (hknows : scan.Knows manas) (effect : Effect) :
    (scan.addEffect effect).Knows (manas ++ effect.manaAdded.toList) := by
  cases effect with
  | addMana player mana chosen var =>
      constructor
      · intro color
        simp [ManaAbilityScan.addEffect, Effect.manaAdded,
          ManaColors.contains_foldl_insert, hknows.colors,
          ManaColor.mem_all, or_and_right, exists_or]
      · simp [ManaAbilityScan.addEffect, Effect.manaAdded,
          hknows.colorless, or_and_right, exists_or]
      · simp [ManaAbilityScan.addEffect, Effect.manaAdded, hknows.any,
          or_and_right, exists_or]
      · intro other hmem color
        apply le_max8
        simp only [Effect.manaAdded, Option.toList_some, List.mem_append,
          List.mem_singleton] at hmem
        rcases hmem with hmem | rfl
        · exact .inl (hknows.amount other hmem color)
        · right
          apply le_foldl_max8
          right
          exact List.mem_map_of_mem (by cases color <;> decide)
  | _ => simpa [ManaAbilityScan.addEffect, Effect.manaAdded] using hknows

theorem Knows.addEffects (hknows : scan.Knows manas)
    (effects : List Effect) :
    (effects.foldl ManaAbilityScan.addEffect scan).Knows
      (manas ++ effects.filterMap Effect.manaAdded) := by
  induction effects generalizing scan manas with
  | nil => simpa using hknows
  | cons effect rest ih =>
      have hrest := ih (hknows.addEffect effect)
      rw [List.foldl_cons, List.filterMap_cons]
      cases hadded : effect.manaAdded <;> simpa [hadded] using hrest

theorem Knows.addAbility (hknows : scan.Knows manas)
    (ability : ActivatedAbility) :
    (scan.addAbility ability).Knows (manas ++ manaOffered [ability]) := by
  rw [ManaAbilityScan.addAbility]
  split
  · next hmana =>
    have hsame : manaOffered [ability] =
        ability.effects.filterMap Effect.manaAdded := by
      simp [manaOffered, hmana]
    rw [hsame]
    apply Knows.addEffects
    exact ⟨hknows.colors, hknows.colorless, hknows.any, hknows.amount⟩
  · next hmana =>
    have hnone : manaOffered [ability] = [] := by
      simp [manaOffered, hmana]
    rw [hnone, List.append_nil]
    split
    · exact hknows
    · exact ⟨hknows.colors, hknows.colorless, hknows.any, hknows.amount⟩

theorem Knows.addAbilities (hknows : scan.Knows manas)
    (abilities : List ActivatedAbility) :
    (abilities.foldl ManaAbilityScan.addAbility scan).Knows
      (manas ++ manaOffered abilities) := by
  induction abilities generalizing scan manas with
  | nil => simpa [manaOffered] using hknows
  | cons ability rest ih =>
      have hrest := ih (hknows.addAbility ability)
      have hsplit : manaOffered (ability :: rest) =
          manaOffered [ability] ++ manaOffered rest := by
        rw [manaOffered, manaOffered, manaOffered, ← List.flatMap_append,
          ← List.filter_append]
        rfl
      rw [List.foldl_cons, hsplit, ← List.append_assoc]
      exact hrest

end ManaAbilityScan

namespace ManaProduction

theorem makes_ofColors (colors : ManaColors) (color : Color) :
    (ofColors colors).makes color =
      colors.iter.any fun c => color == c.toColor := by
  rw [ofColors]
  split
  · next c hiter => simp [ManaProductionKind.makes, hiter]
  · rfl

variable (abilities : List ActivatedAbility)

/-- The scan of all abilities. -/
def scanned : ManaAbilityScan :=
  abilities.foldl ManaAbilityScan.addAbility {}

theorem scanned_knows : (scanned abilities).Knows (manaOffered abilities) :=
  ManaAbilityScan.knows_nil.addAbilities abilities

theorem contains_scanned_iff (color : ManaColor) :
    (scanned abilities).colors.contains color = true ↔
      Offers abilities color.toColor := by
  simp [(scanned_knows abilities).colors, Offers,
    ManaAbilityScan.hasColor]

theorem offers_of_producesAny
    (hany : (scanned abilities).producesAny = true) (color : ManaColor) :
    Offers abilities color.toColor := by
  obtain ⟨mana, hmem, hall⟩ := (scanned_knows abilities).any.mp hany
  rw [List.all_eq_true] at hall
  have hcolor := hall color (ManaColor.mem_all color)
  rw [ManaAbilityScan.hasColor, decide_eq_true_eq] at hcolor
  exact ⟨mana, hmem, hcolor⟩

theorem scanned_isEmpty_iff :
    (scanned abilities).colors.isEmpty = true ↔
      ∀ color : ManaColor, ¬Offers abilities color.toColor := by
  simp [ManaColors.isEmpty_iff, ← contains_scanned_iff]

theorem deriveFromAbilities_eq :
    deriveFromAbilities abilities =
      let production kind : ManaProduction :=
        { kind := kind
          amount := max (scanned abilities).maxAmount 1
          sideCost := (scanned abilities).sideCost }
      if (scanned abilities).producesAny then production .anyColor
      else if (scanned abilities).colors.isEmpty then
        if (scanned abilities).producesColorless then production .colorless
        else default
      else production (ofColors (scanned abilities).colors) := rfl

/-- The shapes of the summary: any colour, the colours read, colourless, or
nothing. -/
theorem deriveFromAbilities_cases :
    (deriveFromAbilities abilities).amount =
        max (scanned abilities).maxAmount 1 ∧
      ((scanned abilities).producesAny = true ∧
          (deriveFromAbilities abilities).kind = .anyColor ∨
        (∃ color : ManaColor, Offers abilities color.toColor) ∧
          (deriveFromAbilities abilities).kind =
            ofColors (scanned abilities).colors ∨
        (∀ color : ManaColor, ¬Offers abilities color.toColor) ∧
          Offers abilities .colorless ∧
          (deriveFromAbilities abilities).kind = .colorless) ∨
    (∀ color, ¬Offers abilities color) ∧
      deriveFromAbilities abilities = default := by
  have hcolorless : (scanned abilities).producesColorless = true ↔
      Offers abilities .colorless := (scanned_knows abilities).colorless
  rw [deriveFromAbilities_eq]
  by_cases hany : (scanned abilities).producesAny = true
  · left
    simp [hany]
  · by_cases hempty : (scanned abilities).colors.isEmpty = true
    · have hnone := (scanned_isEmpty_iff abilities).mp hempty
      by_cases hless : (scanned abilities).producesColorless = true
      · left
        simp [hany, hempty, hless, hnone,
          hcolorless.mp hless]
      · right
        constructor
        · intro color
          cases color with
          | colorless => exact mt hcolorless.mpr hless
          | white => exact hnone .white
          | blue => exact hnone .blue
          | black => exact hnone .black
          | red => exact hnone .red
          | green => exact hnone .green
        · simp [hany, hempty, hless]
    · have hsome : ∃ color : ManaColor,
          Offers abilities color.toColor := by
        rw [scanned_isEmpty_iff] at hempty
        simpa using hempty
      left
      simp [hany, hempty, hsome]

/-- The summary can make whatever a mana ability of the list can add, as much
of it, and makes nothing where no ability adds anything. -/
structure BoundsAbilities (production : ManaProduction) : Prop where
  covers : ∀ mana ∈ manaOffered abilities, ∀ color,
    0 < mana.amountOf color →
      production.kind.makes color = true ∧
        mana.amountOf color ≤ production.amount
  nothing : (∀ color, ¬Offers abilities color) →
    production.producesMana = false

variable {abilities}

theorem eq_colorless_or_toColor (color : Color) :
    color = .colorless ∨ ∃ c : ManaColor, color = c.toColor := by
  cases color with
  | colorless => exact .inl rfl
  | white => exact .inr ⟨.white, rfl⟩
  | blue => exact .inr ⟨.blue, rfl⟩
  | black => exact .inr ⟨.black, rfl⟩
  | red => exact .inr ⟨.red, rfl⟩
  | green => exact .inr ⟨.green, rfl⟩

theorem makes_color_of_offers {c : ManaColor}
    (hoffers : Offers abilities c.toColor) :
    (deriveFromAbilities abilities).kind.makes c.toColor = true := by
  rcases deriveFromAbilities_cases abilities with
    ⟨-, ⟨-, hkind⟩ | ⟨-, hkind⟩ | ⟨hnone, -⟩⟩ | ⟨hnone, -⟩
  · rw [hkind, ManaProductionKind.makes, bne_iff_ne]
    exact c.toColor_ne_colorless
  · rw [hkind, makes_ofColors, List.any_eq_true]
    refine ⟨c, ?_, BEq.rfl⟩
    rw [ManaColors.mem_iter, contains_scanned_iff]
    exact hoffers
  · exact absurd hoffers (hnone c)
  · exact absurd hoffers (hnone c.toColor)

/-- Colourless mana is dropped next to any colour. -/
theorem makes_colorless_iff (hoffers : Offers abilities .colorless) :
    (deriveFromAbilities abilities).kind.makes .colorless = true ↔
      ∀ c : ManaColor, ¬Offers abilities c.toColor := by
  rcases deriveFromAbilities_cases abilities with
    ⟨-, ⟨hany, hkind⟩ | ⟨⟨c, hc⟩, hkind⟩ | ⟨hnone, -, hkind⟩⟩ | ⟨hnone, -⟩
  · apply iff_of_false
    · simp [hkind, ManaProductionKind.makes]
    · intro hnone
      exact hnone .white (offers_of_producesAny abilities hany .white)
  · apply iff_of_false
    · rw [hkind, makes_ofColors, List.any_eq_true]
      rintro ⟨d, -, hd⟩
      rw [beq_iff_eq] at hd
      exact d.toColor_ne_colorless hd.symm
    · intro hnone
      exact hnone c hc
  · apply iff_of_true _ hnone
    simp [hkind, ManaProductionKind.makes]
  · exact absurd hoffers (hnone .colorless)

/-- The amount is enough for each effect. -/
theorem amountOf_le_amount {mana : ManaCost}
    (hmem : mana ∈ manaOffered abilities) {color : Color}
    (hpos : 0 < mana.amountOf color) :
    mana.amountOf color ≤ (deriveFromAbilities abilities).amount := by
  rcases deriveFromAbilities_cases abilities with ⟨hamount, -⟩ | ⟨hnone, -⟩
  · rw [hamount]
    exact le_max8 (.inl ((scanned_knows abilities).amount mana hmem color))
  · exact absurd ⟨mana, hmem, hpos⟩ (hnone color)

/-- The summary bounds the abilities exactly when none of them adds colourless
mana, or none of them a colour. -/
theorem deriveFromAbilities_bounds_iff (abilities : List ActivatedAbility) :
    BoundsAbilities abilities (deriveFromAbilities abilities) ↔
      (Offers abilities .colorless →
        ∀ c : ManaColor, ¬Offers abilities c.toColor) := by
  constructor
  · intro hbounds hoffers
    rw [← makes_colorless_iff hoffers]
    obtain ⟨mana, hmem, hpos⟩ := hoffers
    exact (hbounds.covers mana hmem .colorless hpos).1
  · intro hunmixed
    constructor
    · intro mana hmem color hpos
      refine ⟨?_, amountOf_le_amount hmem hpos⟩
      have hoffers : Offers abilities color := ⟨mana, hmem, hpos⟩
      rcases eq_colorless_or_toColor color with rfl | ⟨c, rfl⟩
      · exact (makes_colorless_iff hoffers).mpr (hunmixed hoffers)
      · exact makes_color_of_offers hoffers
    · intro hnone
      rcases deriveFromAbilities_cases abilities with
        ⟨-, ⟨hany, -⟩ | ⟨⟨c, hc⟩, -⟩ | ⟨-, hoffers, -⟩⟩ | ⟨-, hdefault⟩
      · exact absurd (offers_of_producesAny abilities hany .white)
          (hnone _)
      · exact absurd hc (hnone _)
      · exact absurd hoffers (hnone _)
      · rw [hdefault]
        rfl

/-- A land that adds {C} with one ability and {W} with the other. -/
def painland : List ActivatedAbility :=
  [{ cost := .tap
     effects := [.addMana ⟨0⟩ { colorless := 1 } false none]
     isManaAbility := true },
   { cost := .tap
     effects := [.addMana ⟨0⟩ { white := 1 } false none]
     isManaAbility := true }]

theorem painland_not_bounded :
    ¬BoundsAbilities painland (deriveFromAbilities painland) := by
  intro hbounds
  have hcovers := hbounds.covers { colorless := 1 } (by decide) .colorless
    (by decide)
  exact absurd hcovers.1 (by decide)

end ManaProduction

end DeepScry
