/-
Lower case of text.  The tables of the Unicode standard are a parameter, with
what is known of them; the rule for a final sigma is not in the tables.
-/
import DeepScry.TextLines

namespace LetterCase

open TextLines

/-- The Unicode tables that lower case needs. -/
structure CaseTables where
  lower : Char → List Char
  cased : Char → Bool
  caseIgnorable : Char → Bool
  ascii : ∀ c, c.toNat < 128 → lower c = [c.toLower]
  sigma : lower 'Σ' = ['σ']
  whitespace : ∀ c, isWhitespace c = true → lower c = [c]
  /-- Lower case has no other lower case. -/
  fixed : ∀ c, ∀ d ∈ lower c, lower d = [d]
  /-- Only letters are the lower case of another character. -/
  letter : ∀ c, ∀ d ∈ lower c,
    isWhitespace d = true ∨ (d.toNat < 128 ∧ d.isLower = false) → d = c

theorem toLower_cases (c : Char) :
    c.toLower = c ∨ (c.isAlpha = true ∧ c.toLower.isLower = true) := by
  rw [Char.toLower]
  split
  · next hupper =>
    right
    simp [Char.isAlpha, Char.isUpper, Char.isLower,
      UInt32.le_iff_toNat_le] at hupper ⊢
    omega
  · exact .inl rfl

theorem toLower_eq_self_of_isLower {c : Char} (hlower : c.isLower = true) :
    c.toLower = c := by
  simp [Char.isLower, UInt32.le_iff_toNat_le] at hlower
  rw [Char.toLower, dif_neg]
  simp [UInt32.le_iff_toNat_le]
  omega

theorem isWhitespace_of_isAlpha {c : Char} (halpha : c.isAlpha = true) :
    isWhitespace c = false := by
  simp [Char.isAlpha, Char.isUpper, Char.isLower,
    UInt32.le_iff_toNat_le] at halpha
  have hrange : 65 ≤ c.toNat ∧ c.toNat ≤ 122 := by
    have hval : c.val.toNat = c.toNat := rfl
    omega
  simp [isWhitespace]
  omega

/-- The tables as far as text in ASCII needs them. -/
def asciiTables : CaseTables where
  lower c := if c = 'Σ' then ['σ'] else [c.toLower]
  cased c := c.isAlpha
  caseIgnorable c := [39, 46, 58, 94, 96].contains c.toNat
  ascii c hc := by
    rw [if_neg]
    rintro rfl
    exact absurd hc (by decide)
  sigma := if_pos rfl
  whitespace c hc := by
    rw [if_neg]
    · rcases toLower_cases c with hself | ⟨halpha, hlower⟩
      · rw [hself]
      · rw [isWhitespace_of_isAlpha halpha] at hc
        cases hc
    · rintro rfl
      exact absurd hc (by decide)
  fixed c d hd := by
    split at hd
    · rw [List.mem_singleton.mp hd]
      decide
    · next hc =>
      rw [List.mem_singleton.mp hd]
      rcases toLower_cases c with hself | ⟨halpha, hlower⟩
      · rw [hself, if_neg hc, hself]
      · rw [if_neg, toLower_eq_self_of_isLower hlower]
        intro heq
        rw [heq] at hlower
        exact absurd hlower (by decide)
  letter c d hd hsymbol := by
    split at hd
    · rw [List.mem_singleton.mp hd] at hsymbol
      exact absurd hsymbol (by decide)
    · rw [List.mem_singleton.mp hd] at hsymbol ⊢
      rcases toLower_cases c with hself | ⟨halpha, hlower⟩
      · exact hself
      · have hletter : c.toLower.isAlpha = true := by
          simp [Char.isAlpha, hlower]
        simp [isWhitespace_of_isAlpha hletter, hlower] at hsymbol

variable (tables : CaseTables)

/-- `case_ignorable_then_cased`. -/
def caseIgnorableThenCased (text : List Char) : Bool :=
  (text.dropWhile tables.caseIgnorable).head?.any tables.cased

/-- `map_uppercase_sigma`: a sigma at the end of a word has its own form. -/
def mapUppercaseSigma (before after : List Char) : Char :=
  if caseIgnorableThenCased tables before &&
      !caseIgnorableThenCased tables after then 'ς' else 'σ'

/-- The rest of a text; what stands before it is given from its end. -/
def toLowercaseFrom (before : List Char) : List Char → List Char
  | [] => []
  | c :: rest =>
      (if c = 'Σ' then [mapUppercaseSigma tables before rest]
        else tables.lower c) ++ toLowercaseFrom (c :: before) rest

/-- `str::to_lowercase`. -/
def toLowercase (text : List Char) : List Char :=
  toLowercaseFrom tables [] text

/-- Without a capital sigma every character has its own lower case. -/
theorem toLowercase_eq_flatMap {text : List Char} (hsigma : 'Σ' ∉ text) :
    toLowercase tables text = text.flatMap tables.lower := by
  rw [toLowercase]
  generalize ([] : List Char) = before
  induction text generalizing before with
  | nil => rfl
  | cons c rest ih =>
      rw [List.mem_cons, not_or] at hsigma
      rw [toLowercaseFrom, if_neg (Ne.symm hsigma.1), ih hsigma.2,
        List.flatMap_cons]

/-- No lower case is a capital sigma. -/
theorem sigma_not_mem_flatMap (text : List Char) :
    'Σ' ∉ text.flatMap tables.lower := by
  intro hmem
  obtain ⟨c, -, hc⟩ := List.mem_flatMap.mp hmem
  have hfixed := tables.fixed c 'Σ' hc
  rw [tables.sigma] at hfixed
  exact absurd hfixed (by decide)

theorem flatMap_lower_idem (text : List Char) :
    (text.flatMap tables.lower).flatMap tables.lower =
      text.flatMap tables.lower := by
  rw [List.flatMap_assoc]
  apply List.flatMap_congr
  intro c _
  have hself (chars : List Char)
      (hfixed : ∀ d ∈ chars, tables.lower d = [d]) :
      chars.flatMap tables.lower = chars := by
    induction chars with
    | nil => rfl
    | cons d rest ih =>
        obtain ⟨hd, hrest⟩ := List.forall_mem_cons.mp hfixed
        rw [List.flatMap_cons, hd, ih hrest]
        rfl
  exact hself _ (tables.fixed c)

/-- Characters that have no other case may be dropped before or after. -/
theorem filter_flatMap_lower {keep : Char → Bool}
    (hdropped : ∀ c, keep c = false → tables.lower c = [c])
    (hkept : ∀ c, keep c = true → ∀ d ∈ tables.lower c, keep d = true)
    (text : List Char) :
    (text.flatMap tables.lower).filter keep =
      (text.filter keep).flatMap tables.lower := by
  induction text with
  | nil => rfl
  | cons c rest ih =>
      rw [List.flatMap_cons, List.filter_append, ih]
      cases hkeep : keep c with
      | false =>
          rw [hdropped c hkeep, List.filter_cons_of_neg (by simp [hkeep]),
            List.filter_cons_of_neg (by simp [hkeep])]
          rfl
      | true =>
          rw [List.filter_cons_of_pos hkeep, List.flatMap_cons,
            List.filter_eq_self.mpr (hkept c hkeep)]

end LetterCase
