/-
Text as lists of characters: lines, trimming, splitting at a separator and
numbers of eight bits, with what makes a printed line readable again.
-/
import Mathlib

namespace TextLines

/-- The characters with the Unicode property `White_Space`. -/
def isWhitespace (c : Char) : Bool :=
  let n := c.toNat
  (9 ≤ n && n ≤ 13) || n == 0x20 || n == 0x85 || n == 0xA0 || n == 0x1680 ||
    (0x2000 ≤ n && n ≤ 0x200A) || n == 0x2028 || n == 0x2029 ||
    n == 0x202F || n == 0x205F || n == 0x3000

def trim (text : List Char) : List Char :=
  (text.dropWhile isWhitespace).rdropWhile isWhitespace

/-- A line that ended in a carriage return and a line feed. -/
def stripCr (line : List Char) : List Char :=
  if line.getLast? = some '\r' then line.dropLast else line

/-- The lines of a text whose first line has begun already; a last line needs
no line feed, and keeps its carriage return. -/
def linesFrom (line : List Char) : List Char → List (List Char)
  | [] => if line.isEmpty then [] else [line]
  | c :: rest =>
      if c = '\n' then stripCr line :: linesFrom [] rest
      else linesFrom (line ++ [c]) rest

def lines (text : List Char) : List (List Char) := linesFrom [] text

/-- Every line with its line feed. -/
def unlines (all : List (List Char)) : List Char :=
  all.flatMap fun line => line ++ ['\n']

/-- What stands before and after the first separator. -/
def splitOnce (sep : Char) : List Char → Option (List Char × List Char)
  | [] => none
  | c :: rest =>
      if c = sep then some ([], rest)
      else (splitOnce sep rest).map fun parts => (c :: parts.1, parts.2)

/-- One more decimal digit; the value has to stay below 256. -/
def addDigit (value : Nat) (c : Char) : Option Nat :=
  if c.isDigit then
    let next := value * 10 + (c.toNat - '0'.toNat)
    if next < 256 then some next else none
  else none

/-- `parse::<u8>`: digits after an optional plus sign. -/
def parseU8 (text : List Char) : Option UInt8 :=
  let digits := if text.head? = some '+' then text.tail else text
  if digits.isEmpty then none
  else (digits.foldlM addDigit 0).map UInt8.ofNat

def showU8 (n : UInt8) : List Char := Nat.toDigits 10 n.toNat

/-- No whitespace at either end. -/
structure Trimmed (text : List Char) : Prop where
  head : ∀ c, text.head? = some c → isWhitespace c = false
  last : ∀ c, text.getLast? = some c → isWhitespace c = false

theorem trim_sublist (text : List Char) : (trim text).Sublist text :=
  ((List.rdropWhile_prefix _ _).sublist).trans (List.dropWhile_sublist _)

theorem trimmed_trim (text : List Char) : Trimmed (trim text) := by
  constructor
  · intro c hc
    obtain ⟨dropped, hdropped⟩ := List.rdropWhile_prefix isWhitespace
      (text.dropWhile isWhitespace)
    have hne : trim text ≠ [] := by
      rintro hnil
      simp [hnil] at hc
    have hhead : (text.dropWhile isWhitespace).head? = some c := by
      rw [← hdropped, ← hc]
      exact List.head?_append_of_ne_nil _ hne
    have hnot := List.head?_dropWhile_not isWhitespace text
    simpa [hhead] using hnot
  · intro c hc
    have hne : trim text ≠ [] := by
      rintro hnil
      simp [hnil] at hc
    have hlast := List.rdropWhile_last_not isWhitespace _ hne
    have hget : (trim text).getLast hne = c := by
      simpa [List.getLast?_eq_some_getLast hne] using hc
    have hlast' : ¬ isWhitespace ((trim text).getLast hne) = true := hlast
    simpa [hget] using hlast'

/-- Nothing is taken off a trimmed text. -/
theorem Trimmed.trim_eq {text : List Char} (htrimmed : Trimmed text) :
    trim text = text := by
  have hstart : text.dropWhile isWhitespace = text := by
    cases text with
    | nil => rfl
    | cons c rest => simp [htrimmed.head c rfl]
  rw [trim, hstart, List.rdropWhile_eq_self_iff]
  intro hne
  have hlast := htrimmed.last _ (List.getLast?_eq_some_getLast hne)
  simp [hlast]

/-- A text that starts with no whitespace only loses some at its end. -/
theorem eq_trim_append {text : List Char}
    (hhead : ∀ c, text.head? = some c → isWhitespace c = false) :
    ∃ spaces, text = trim text ++ spaces ∧
      spaces.all isWhitespace = true := by
  have hstart : text.dropWhile isWhitespace = text := by
    cases text with
    | nil => rfl
    | cons c rest => simp [hhead c rfl]
  refine ⟨text.rtakeWhile isWhitespace, ?_, ?_⟩
  · rw [trim, hstart]
    exact List.rdropWhile_append_rtakeWhile.symm
  · rw [List.all_eq_true]
    exact fun c hc => List.mem_rtakeWhile_imp hc

theorem stripCr_eq_self {line : List Char}
    (hlast : line.getLast? ≠ some '\r') : stripCr line = line := by
  rw [stripCr, if_neg hlast]

theorem Trimmed.stripCr_eq {line : List Char} (htrimmed : Trimmed line) :
    stripCr line = line := by
  apply stripCr_eq_self
  intro hlast
  have hspace := htrimmed.last _ hlast
  revert hspace
  decide

theorem linesFrom_append (line : List Char) {body : List Char}
    (hbody : '\n' ∉ body) (rest : List Char) :
    linesFrom line (body ++ '\n' :: rest) =
      stripCr (line ++ body) :: lines rest := by
  induction body generalizing line with
  | nil => simp [linesFrom, lines]
  | cons c body ih =>
      have hc : c ≠ '\n' := by
        rintro rfl
        exact hbody List.mem_cons_self
      rw [List.cons_append, linesFrom, if_neg hc,
        ih _ fun hmem => hbody (List.mem_cons_of_mem c hmem)]
      simp

/-- Lines that were written one by one are read one by one. -/
theorem lines_unlines {all : List (List Char)}
    (hall : ∀ line ∈ all, '\n' ∉ line) :
    lines (unlines all) = all.map stripCr := by
  induction all with
  | nil => rfl
  | cons line rest ih =>
      obtain ⟨hline, hrest⟩ := List.forall_mem_cons.mp hall
      have htext : unlines (line :: rest) =
          line ++ '\n' :: unlines rest := by
        simp [unlines]
      rw [htext, lines, linesFrom_append [] hline, ih hrest]
      rfl

theorem not_mem_stripCr {c : Char} {line : List Char} (hc : c ∉ line) :
    c ∉ stripCr line := by
  rw [stripCr]
  split
  · exact fun hmem => hc ((List.dropLast_sublist line).mem hmem)
  · exact hc

theorem not_mem_linesFrom {line : List Char} (hline : '\n' ∉ line)
    (text : List Char) : ∀ l ∈ linesFrom line text, '\n' ∉ l := by
  induction text generalizing line with
  | nil =>
      rw [linesFrom]
      split
      · simp
      · simpa using hline
  | cons c rest ih =>
      rw [linesFrom]
      split
      · simpa using ⟨not_mem_stripCr hline, ih List.not_mem_nil⟩
      · next hc =>
        apply ih
        simp [hline, Ne.symm hc]

/-- No line holds a line feed. -/
theorem not_mem_of_mem_lines {text line : List Char}
    (hline : line ∈ lines text) : '\n' ∉ line :=
  not_mem_linesFrom List.not_mem_nil text line hline

theorem splitOnce_append {sep : Char} {first : List Char}
    (hfirst : sep ∉ first) (rest : List Char) :
    splitOnce sep (first ++ sep :: rest) = some (first, rest) := by
  induction first with
  | nil => simp [splitOnce]
  | cons c first ih =>
      have hc : c ≠ sep := by
        rintro rfl
        exact hfirst List.mem_cons_self
      rw [List.cons_append, splitOnce, if_neg hc,
        ih fun hmem => hfirst (List.mem_cons_of_mem c hmem)]
      rfl

theorem splitOnce_eq_some {sep : Char} {text first rest : List Char}
    (hsplit : splitOnce sep text = some (first, rest)) :
    text = first ++ sep :: rest ∧ sep ∉ first := by
  induction text generalizing first with
  | nil => cases hsplit
  | cons c text ih =>
      rw [splitOnce] at hsplit
      split at hsplit
      · next hc =>
        cases hsplit
        exact ⟨by simp [hc], List.not_mem_nil⟩
      · next hc =>
        obtain ⟨⟨first', rest'⟩, hparts, heq⟩ :=
          Option.map_eq_some_iff.mp hsplit
        cases heq
        obtain ⟨htext, hmem⟩ := ih hparts
        exact ⟨by simp [htext], by simp [hmem, Ne.symm hc]⟩

theorem splitOnce_eq_none_iff {sep : Char} {text : List Char} :
    splitOnce sep text = none ↔ sep ∉ text := by
  induction text with
  | nil => simp [splitOnce]
  | cons c text ih =>
      by_cases hc : c = sep
      · simp [splitOnce, hc]
      · simp [splitOnce, hc, ih, Ne.symm hc]

theorem addDigit_digitChar {value digit : Nat} (hdigit : digit < 10)
    (hfits : value * 10 + digit < 256) :
    addDigit value digit.digitChar = some (value * 10 + digit) := by
  have hchars : ∀ d < 10, (Nat.digitChar d).isDigit = true ∧
      (Nat.digitChar d).toNat - '0'.toNat = d := by decide
  obtain ⟨hchar, hvalue⟩ := hchars digit hdigit
  rw [addDigit, if_pos hchar, hvalue]
  exact if_pos hfits

theorem foldlM_toDigits {n : Nat} (hfits : n < 256) :
    (Nat.toDigits 10 n).foldlM addDigit 0 = some n := by
  induction n using Nat.strongRecOn with
  | ind n ih =>
      have hlast := Nat.div_add_mod' n 10
      have hdigit : n % 10 < 10 := Nat.mod_lt n (by decide)
      rcases Nat.lt_or_ge n 10 with hsmall | hlarge
      · rw [Nat.toDigits_of_lt_base hsmall, List.foldlM_cons,
          addDigit_digitChar hsmall (by omega), Nat.zero_mul, Nat.zero_add]
        rfl
      · rw [Nat.toDigits_of_base_le (by decide) hlarge, List.foldlM_append,
          ih (n / 10) (by omega) (by omega)]
        change List.foldlM addDigit (n / 10) [(n % 10).digitChar] = _
        rw [List.foldlM_cons, addDigit_digitChar hdigit (by omega), hlast]
        rfl

/-- What a printed number looks like, and that it is read back. -/
theorem showU8_spec (n : UInt8) :
    parseU8 (showU8 n) = some n ∧ (showU8 n).all Char.isDigit = true ∧
      showU8 n ≠ [] := by
  have hne : showU8 n ≠ [] := Nat.toDigits_ne_nil
  have hall : ∀ c ∈ showU8 n, c.isDigit = true := fun c hc =>
    Nat.isDigit_of_mem_toDigits (by decide) (by decide) hc
  have hplain : (showU8 n).head? ≠ some '+' := by
    intro hplus
    exact absurd (hall _ (List.mem_of_mem_head? hplus)) (by decide)
  refine ⟨?_, List.all_eq_true.mpr hall, hne⟩
  rw [parseU8, if_neg hplain, if_neg (by simpa using hne), showU8,
    foldlM_toDigits n.toNat_lt, Option.map_some, UInt8.ofNat_toNat]

theorem isWhitespace_of_isDigit {c : Char} (hdigit : c.isDigit = true) :
    isWhitespace c = false := by
  simp only [Char.isDigit, Bool.and_eq_true, decide_eq_true_eq,
    ge_iff_le, UInt32.le_iff_toNat_le] at hdigit
  have hlower : 48 ≤ c.toNat := hdigit.1
  have hupper : c.toNat ≤ 57 := hdigit.2
  simp [isWhitespace]
  omega

end TextLines
