/-
The mana of several components: when the cost that is read from all of their
symbols at once has what they have together.
-/
import DeepScry.CostPieces

namespace TextLines

/-- The separators are passed over. -/
theorem filter_join {sep : Char} {keep : Char → Bool}
    (hsep : keep sep = false) (texts : List (List Char)) :
    (join sep texts).filter keep = texts.flatMap (·.filter keep) := by
  induction texts with
  | nil => rfl
  | cons text texts ih =>
      cases texts with
      | nil => rw [join_singleton, List.flatMap_singleton]
      | cons next texts =>
          rw [join_cons text (List.cons_ne_nil next texts),
            List.filter_append, List.filter_cons_of_neg (by simp [hsep]), ih]
          rfl

theorem count_join {sep symbol : Char} (hsep : symbol ≠ sep)
    (texts : List (List Char)) :
    (join sep texts).count symbol =
      (texts.map (·.count symbol)).sum := by
  induction texts with
  | nil => rfl
  | cons text texts ih =>
      cases texts with
      | nil => simp [join_singleton]
      | cons next texts =>
          rw [join_cons text (List.cons_ne_nil next texts),
            List.count_append, List.count_cons_of_ne hsep.symm, ih]
          rfl

/-- What is read as a number is the value of its digits. -/
theorem foldlM_addDigit {digits : List Char} {value result : Nat}
    (hread : digits.foldlM addDigit value = some result)
    (hvalue : value < 256) :
    result = Nat.ofDigitChars 10 digits value ∧ result < 256 := by
  induction digits generalizing value with
  | nil =>
      rw [List.foldlM_nil] at hread
      rw [Nat.ofDigitChars_nil, ← Option.some.inj hread]
      exact ⟨rfl, hvalue⟩
  | cons c digits ih =>
      rw [List.foldlM_cons] at hread
      obtain ⟨next, hnext, hread⟩ := Option.bind_eq_some_iff.mp hread
      simp only [addDigit, Option.ite_none_right_eq_some,
        Option.some.injEq] at hnext
      obtain ⟨-, hfits, rfl⟩ := hnext
      rw [Nat.ofDigitChars_cons, Nat.mul_comm 10 value]
      exact ih hread hfits

/-- Numbers written one after the other are worth their sum, and more than
that when there are two of them. -/
theorem sum_le_ofDigitChars (numbers : List UInt8) :
    (numbers.map UInt8.toNat).sum ≤
      Nat.ofDigitChars 10 (numbers.flatMap showU8) 0 := by
  induction numbers with
  | nil => exact Nat.zero_le _
  | cons n numbers ih =>
      rw [List.flatMap_cons, Nat.ofDigitChars_append, showU8,
        Nat.ofDigitChars_ten_toDigits, Nat.ofDigitChars_eq_ofDigitChars_zero,
        List.map_cons, List.sum_cons]
      exact Nat.add_le_add
        (Nat.le_mul_of_pos_left _ (Nat.pow_pos (by decide))) ih

theorem sum_lt_ofDigitChars {n : UInt8} (hn : 0 < n) (next : UInt8)
    (numbers : List UInt8) :
    ((n :: next :: numbers).map UInt8.toNat).sum <
      Nat.ofDigitChars 10 ((n :: next :: numbers).flatMap showU8) 0 := by
  have hrest := sum_le_ofDigitChars (next :: numbers)
  have hlength : 0 < ((next :: numbers).flatMap showU8).length := by
    rw [List.flatMap_cons, List.length_append]
    exact Nat.add_pos_left
      (List.length_pos_iff.mpr (showU8_spec next).2.2) _
  have hpower : 10 ≤ 10 ^ ((next :: numbers).flatMap showU8).length :=
    Nat.le_self_pow hlength.ne' 10
  have hpositive : 0 < n.toNat := UInt8.lt_iff_toNat_lt.mp hn
  have hlarge : n.toNat <
      10 ^ ((next :: numbers).flatMap showU8).length * n.toNat :=
    calc n.toNat < 10 * n.toNat := by omega
      _ ≤ _ := Nat.mul_le_mul_right _ hpower
  rw [List.flatMap_cons, Nat.ofDigitChars_append, showU8,
    Nat.ofDigitChars_ten_toDigits, Nat.ofDigitChars_eq_ofDigitChars_zero,
    List.map_cons, List.sum_cons]
  exact Nat.add_lt_add_of_lt_of_le hlarge hrest

/-- Numbers written one after the other are read as their sum when there is
one of them at most. -/
theorem parseU8_flatMap_iff {numbers : List UInt8}
    (hpositive : ∀ n ∈ numbers, 0 < n) :
    ((parseU8 (numbers.flatMap showU8)).getD 0).toNat =
        (numbers.map UInt8.toNat).sum ↔
      numbers.length ≤ 1 := by
  match numbers, hpositive with
  | [], _ => exact iff_of_true rfl (Nat.zero_le 1)
  | [n], _ =>
      rw [List.flatMap_singleton, (showU8_spec n).1]
      simp
  | n :: next :: numbers, hpositive =>
      refine iff_of_false ?_ (by simp)
      have hn := hpositive n List.mem_cons_self
      have hlarge := sum_lt_ofDigitChars hn next numbers
      have hhead : ((n :: next :: numbers).flatMap showU8).head? ≠
          some '+' := by
        intro hplus
        obtain ⟨m, -, hmem⟩ := List.mem_flatMap.mp
          (List.mem_of_mem_head? hplus)
        exact absurd (List.all_eq_true.mp (showU8_spec m).2.1 _ hmem)
          (by decide)
      have hne : ((n :: next :: numbers).flatMap showU8).isEmpty = false := by
        simp [(showU8_spec n).2.2]
      have hsum : 0 < ((n :: next :: numbers).map UInt8.toNat).sum := by
        have hvalue : 0 < n.toNat := UInt8.lt_iff_toNat_lt.mp hn
        rw [List.map_cons, List.sum_cons]
        omega
      rw [parseU8, if_neg hhead, hne, if_neg Bool.false_ne_true]
      cases hread : ((n :: next :: numbers).flatMap showU8).foldlM
          addDigit 0 with
      | none => exact fun heq => absurd heq.symm hsum.ne'
      | some result =>
          obtain ⟨hresult, hfits⟩ := foldlM_addDigit hread (by decide)
          rw [Option.map_some, Option.getD_some,
            UInt8.toNat_ofNat_of_lt' hfits, hresult]
          exact hlarge.ne'

end TextLines

namespace DeepScry

open TextLines

namespace ManaCost

/-- What a mana cost asks for, kind by kind. -/
def kinds : List (ManaCost → UInt8) :=
  [generic, white, blue, black, red, green, colorless, xCount]

end ManaCost

/-- The mana cost of a cost that is nothing but mana. -/
def Cost.manaPart? : Cost → Option ManaCost
  | .mana manaCost => some manaCost
  | _ => none

/-- How much of a kind of mana the costs ask for together. -/
def sumOf (kind : ManaCost → UInt8) (costs : List Cost) : Nat :=
  ((costs.filterMap Cost.manaPart?).map fun m => (kind m).toNat).sum

theorem sumOf_mana (kind : ManaCost → UInt8) (manaCost : ManaCost)
    (costs : List Cost) :
    sumOf kind (.mana manaCost :: costs) =
      (kind manaCost).toNat + sumOf kind costs := rfl

theorem sumOf_other (kind : ManaCost → UInt8) {cost : Cost}
    (hother : cost.manaPart? = none) (costs : List Cost) :
    sumOf kind (cost :: costs) = sumOf kind costs := by
  rw [sumOf, List.filterMap_cons_none hother, sumOf]

namespace CostComponent

variable {parseCounter : List Char → Option CounterType}

def number? : CostComponent parseCounter → Option UInt8
  | number n _ => some n
  | _ => none

def color? : CostComponent parseCounter → Option ManaColor
  | symbol color => some color
  | _ => none

/-- How much mana a component asks for. -/
def manaAmount : CostComponent parseCounter → Nat
  | number n _ => n.toNat
  | symbol _ => 1
  | _ => 0

section Mana

variable (components : List (CostComponent parseCounter))

def manaTotal : Nat := (components.map manaAmount).sum

/-- One number at most, and fewer than 256 symbols of each colour. -/
def ManaFits : Prop :=
  (components.filterMap number?).length ≤ 1 ∧
    ∀ color, (components.filterMap color?).count color < 256

def manaTexts : List (List Char) := (components.filter isMana).map text

/-- The mana of all components, read at once. -/
def readMana : ManaCost :=
  ManaCost.fromString (String.ofList (join ' ' (manaTexts components)))

theorem numbers_positive : ∀ n ∈ components.filterMap number?, 0 < n := by
  intro n hn
  obtain ⟨component, -, hnumber⟩ := List.mem_filterMap.mp hn
  cases component <;> cases hnumber
  assumption

theorem filter_isDigit_showU8 (n : UInt8) :
    (showU8 n).filter Char.isDigit = showU8 n :=
  List.filter_eq_self.mpr fun _ hc => mem_showU8 hc

theorem manaTexts_number (n : UInt8) (hpositive : 0 < n) :
    manaTexts (number n hpositive :: components) =
      showU8 n :: manaTexts components := rfl

theorem manaTexts_symbol (color : ManaColor) :
    manaTexts (symbol color :: components) =
      [color.letter] :: manaTexts components := rfl

/-- The digits are those of the numbers. -/
theorem digits_manaTexts :
    (join ' ' (manaTexts components)).filter Char.isDigit =
      (components.filterMap number?).flatMap showU8 := by
  rw [filter_join (by decide)]
  induction components with
  | nil => rfl
  | cons component components ih =>
      cases component with
      | number n hpositive =>
          change _ = showU8 n ++ (components.filterMap number?).flatMap showU8
          rw [manaTexts_number, List.flatMap_cons, filter_isDigit_showU8, ih]
      | symbol color =>
          have hletter : [color.letter].filter Char.isDigit = [] := by
            cases color <;> rfl
          rw [manaTexts_symbol, List.flatMap_cons, hletter]
          exact ih
      | _ => exact ih

/-- The other characters are the letters of the colours. -/
theorem count_manaTexts {c : Char} (hdigit : c.isDigit = false)
    (hspace : c ≠ ' ') :
    (join ' ' (manaTexts components)).count c =
      ((components.filterMap color?).map ManaColor.letter).count c := by
  rw [count_join hspace]
  induction components with
  | nil => rfl
  | cons component components ih =>
      cases component with
      | number n hpositive =>
          have hnot : (showU8 n).count c = 0 := by
            rw [List.count_eq_zero]
            intro hmem
            exact absurd (hdigit.symm.trans (mem_showU8 hmem))
              Bool.false_ne_true
          rw [manaTexts_number, List.map_cons, List.sum_cons, hnot,
            Nat.zero_add]
          exact ih
      | symbol color =>
          change _ = ([color.letter] ++ _).count c
          rw [manaTexts_symbol, List.map_cons, List.sum_cons, ih,
            List.count_append]
      | _ => exact ih

theorem letter_injective : Function.Injective ManaColor.letter := by
  intro color other hsame
  cases color <;> cases other <;> first | rfl | cases hsame

theorem count_letter (color : ManaColor) :
    (join ' ' (manaTexts components)).count color.letter =
      (components.filterMap color?).count color := by
  rw [count_manaTexts, List.count_map_of_injective _ _ letter_injective]
  · cases color <;> rfl
  · cases color <;> decide

theorem count_other {c : Char} (hdigit : c.isDigit = false)
    (hspace : c ≠ ' ') (hother : ∀ color : ManaColor, color.letter ≠ c) :
    (join ' ' (manaTexts components)).count c = 0 := by
  rw [count_manaTexts components hdigit hspace, List.count_eq_zero]
  intro hmem
  obtain ⟨color, -, hcolor⟩ := List.mem_map.mp hmem
  exact hother color hcolor

theorem readMana_eq :
    readMana components =
      { generic :=
          (parseU8 ((components.filterMap number?).flatMap showU8)).getD 0
        white := UInt8.ofNat ((components.filterMap color?).count .white)
        blue := UInt8.ofNat ((components.filterMap color?).count .blue)
        black := UInt8.ofNat ((components.filterMap color?).count .black)
        red := UInt8.ofNat ((components.filterMap color?).count .red)
        green := UInt8.ofNat ((components.filterMap color?).count .green) } := by
  have hC := count_other components (c := 'C') (by decide) (by decide)
    (by rintro ⟨⟩ <;> decide)
  have hX := count_other components (c := 'X') (by decide) (by decide)
    (by rintro ⟨⟩ <;> decide)
  rw [readMana, ManaCost.fromString_eq, String.toList_ofList,
    digits_manaTexts]
  simp only [ManaCost.withSymbols, ← count_letter, hC, hX,
    ManaColor.letter]
  simp

theorem filterMap_number (n : UInt8) (hpositive : 0 < n) :
    (number n hpositive :: components).filterMap number? =
      n :: components.filterMap number? := rfl

theorem filterMap_symbol (color : ManaColor) :
    (symbol color :: components).filterMap color? =
      color :: components.filterMap color? := rfl

/-- The costs of the components ask for the numbers and the colours. -/
theorem sumOf_eq (kind : ManaCost → UInt8) (amount : UInt8 → Nat)
    (share : ManaColor → Nat)
    (hnumber : ∀ n, (kind { generic := n }).toNat = amount n)
    (hsymbol : ∀ color, (kind color.cost).toNat = share color) :
    sumOf kind (components.map cost) =
      ((components.filterMap number?).map amount).sum +
        ((components.filterMap color?).map share).sum := by
  induction components with
  | nil => rfl
  | cons component components ih =>
      cases component with
      | number n hpositive =>
          rw [filterMap_number, List.map_cons, List.map_cons, cost,
            sumOf_mana, ih, hnumber, List.sum_cons, Nat.add_assoc]
          rfl
      | symbol color =>
          rw [filterMap_symbol, List.map_cons, List.map_cons, cost,
            sumOf_mana, ih, hsymbol, List.sum_cons, Nat.add_left_comm]
          rfl
      | subCounter amount name counterType hname hplain =>
          refine (sumOf_other kind ?_ _).trans ih
          rw [cost]
          split <;> rfl
      | _ => exact ih

theorem sum_map_eq_count (colors : List ManaColor) (color : ManaColor) :
    (colors.map fun other => if other = color then 1 else 0).sum =
      colors.count color := by
  induction colors with
  | nil => rfl
  | cons other colors ih =>
      rw [List.map_cons, List.sum_cons, ih, List.count_cons, Nat.add_comm]
      simp

theorem sumOf_generic :
    sumOf ManaCost.generic (components.map cost) =
      ((components.filterMap number?).map UInt8.toNat).sum := by
  rw [sumOf_eq components _ UInt8.toNat (fun _ => 0) (fun _ => rfl)
    (by rintro ⟨⟩ <;> rfl)]
  simp

theorem sumOf_color (kind : ManaCost → UInt8) (color : ManaColor)
    (hnumber : ∀ n, (kind { generic := n }).toNat = 0)
    (hsymbol : ∀ other : ManaColor,
      (kind other.cost).toNat = if other = color then 1 else 0) :
    sumOf kind (components.map cost) =
      (components.filterMap color?).count color := by
  rw [sumOf_eq components kind (fun _ => 0) _ hnumber hsymbol,
    sum_map_eq_count]
  simp

theorem sumOf_none (kind : ManaCost → UInt8)
    (hnumber : ∀ n, (kind { generic := n }).toNat = 0)
    (hsymbol : ∀ other : ManaColor, (kind other.cost).toNat = 0) :
    sumOf kind (components.map cost) = 0 := by
  rw [sumOf_eq components kind (fun _ => 0) (fun _ => 0) hnumber hsymbol]
  simp

/-- The kinds of mana of the components. -/
theorem sumOf_kinds :
    ManaCost.kinds.map (sumOf · (components.map cost)) =
      [((components.filterMap number?).map UInt8.toNat).sum,
        (components.filterMap color?).count .white,
        (components.filterMap color?).count .blue,
        (components.filterMap color?).count .black,
        (components.filterMap color?).count .red,
        (components.filterMap color?).count .green, 0, 0] := by
  simp only [ManaCost.kinds, List.map_cons, List.map_nil, sumOf_generic]
  rw [sumOf_color components _ .white (fun _ => rfl) (by rintro ⟨⟩ <;> rfl),
    sumOf_color components _ .blue (fun _ => rfl) (by rintro ⟨⟩ <;> rfl),
    sumOf_color components _ .black (fun _ => rfl) (by rintro ⟨⟩ <;> rfl),
    sumOf_color components _ .red (fun _ => rfl) (by rintro ⟨⟩ <;> rfl),
    sumOf_color components _ .green (fun _ => rfl) (by rintro ⟨⟩ <;> rfl),
    sumOf_none components _ (fun _ => rfl) (by rintro ⟨⟩ <;> rfl),
    sumOf_none components _ (fun _ => rfl) (by rintro ⟨⟩ <;> rfl)]

/-- Read at once, the mana is that of the components when it fits. -/
theorem readMana_iff :
    (∀ kind ∈ ManaCost.kinds,
        (kind (readMana components)).toNat =
          sumOf kind (components.map cost)) ↔
      ManaFits components := by
  have hcount (color : ManaColor) :
      (UInt8.ofNat ((components.filterMap color?).count color)).toNat =
          (components.filterMap color?).count color ↔
        (components.filterMap color?).count color < 256 := by
    rw [UInt8.toNat_ofNat']
    exact Nat.mod_eq_iff_lt (by decide)
  rw [← List.map_inj_left, sumOf_kinds, readMana_eq]
  simp only [ManaCost.kinds, List.map_cons, List.map_nil, List.cons.injEq,
    parseU8_flatMap_iff (numbers_positive components), hcount, ManaFits]
  constructor
  · rintro ⟨hnumber, hwhite, hblue, hblack, hred, hgreen, -⟩
    refine ⟨hnumber, ?_⟩
    rintro ⟨⟩ <;> assumption
  · rintro ⟨hnumber, hcolors⟩
    exact ⟨hnumber, hcolors _, hcolors _, hcolors _, hcolors _, hcolors _,
      rfl, rfl, trivial⟩

theorem length_eq_counts (colors : List ManaColor) :
    colors.length =
      colors.count .white + colors.count .blue + colors.count .black +
        colors.count .red + colors.count .green := by
  induction colors with
  | nil => rfl
  | cons color colors ih =>
      cases color <;> simp [ih] <;> omega

theorem manaTotal_eq :
    manaTotal components =
      ((components.filterMap number?).map UInt8.toNat).sum +
        (components.filterMap color?).length := by
  induction components with
  | nil => rfl
  | cons component components ih =>
      have htotal : manaTotal (component :: components) =
          component.manaAmount + manaTotal components := List.sum_cons
      rw [htotal, ih]
      cases component with
      | number n hpositive =>
          rw [filterMap_number, List.map_cons, List.sum_cons, Nat.add_assoc]
          rfl
      | symbol color =>
          rw [filterMap_symbol, List.length_cons, manaAmount,
            Nat.add_left_comm, Nat.add_comm 1]
          rfl
      | _ => exact Nat.zero_add _

/-- The mana counts for something unless its total is lost in a byte. -/
theorem cmc_readMana (hfits : ManaFits components) :
    0 < (readMana components).cmc ↔ manaTotal components % 256 ≠ 0 := by
  have hkinds := List.map_inj_left.mpr ((readMana_iff components).mpr hfits)
  rw [sumOf_kinds] at hkinds
  simp only [ManaCost.kinds, List.map_cons, List.map_nil, List.cons.injEq]
    at hkinds
  obtain ⟨hgeneric, hwhite, hblue, hblack, hred, hgreen, hcolorless, -⟩ :=
    hkinds
  have hcmc : (readMana components).cmc.toNat =
      manaTotal components % 256 := by
    rw [manaTotal_eq, length_eq_counts, ← hgeneric, ← hwhite, ← hblue,
      ← hblack, ← hred, ← hgreen]
    simp only [ManaCost.cmc, UInt8.toNat_add, hcolorless]
    omega
  rw [← hcmc, UInt8.lt_iff_toNat_lt]
  exact Nat.pos_iff_ne_zero

end Mana

end CostComponent

end DeepScry
