/-
Mana costs as text: reading the symbols of a cost, and that the printed form
of a cost is read back.
-/
import DeepScry.Mana
import DeepScry.TextLines

namespace DeepScry

open TextLines

namespace ManaCost

/-- One symbol of a cost; what is no symbol is passed over. -/
def addSymbol (cost : ManaCost) : Char → ManaCost
  | 'W' => { cost with white := cost.white + 1 }
  | 'U' => { cost with blue := cost.blue + 1 }
  | 'B' => { cost with black := cost.black + 1 }
  | 'R' => { cost with red := cost.red + 1 }
  | 'G' => { cost with green := cost.green + 1 }
  | 'C' => { cost with colorless := cost.colorless + 1 }
  | 'X' => { cost with xCount := cost.xCount + 1 }
  | _ => cost

/-- The cost read so far, with the digits of its generic part. -/
def readSymbol (read : ManaCost × List Char) (c : Char) :
    ManaCost × List Char :=
  if c.isDigit then (read.1, read.2 ++ [c]) else (read.1.addSymbol c, read.2)

/-- `ManaCost::from_string`; a number that does not fit is none. -/
def fromString (s : String) : ManaCost :=
  let (cost, genericStr) := s.toList.foldl readSymbol ({}, [])
  if genericStr.isEmpty then cost
  else { cost with generic := (parseU8 genericStr).getD 0 }

/-- As many more symbols of each kind as a text holds. -/
def withSymbols (cost : ManaCost) (text : List Char) : ManaCost :=
  { cost with
    white := cost.white + UInt8.ofNat (text.count 'W')
    blue := cost.blue + UInt8.ofNat (text.count 'U')
    black := cost.black + UInt8.ofNat (text.count 'B')
    red := cost.red + UInt8.ofNat (text.count 'R')
    green := cost.green + UInt8.ofNat (text.count 'G')
    colorless := cost.colorless + UInt8.ofNat (text.count 'C')
    xCount := cost.xCount + UInt8.ofNat (text.count 'X') }

theorem withSymbols_addSymbol (cost : ManaCost) (c : Char)
    (text : List Char) :
    (cost.addSymbol c).withSymbols text = cost.withSymbols (c :: text) := by
  rw [addSymbol.eq_def]
  split
  case h_8 hW hU hB hR hG hC hX =>
    simp [withSymbols, List.count_cons, if_neg hW, if_neg hU, if_neg hB,
      if_neg hR, if_neg hG, if_neg hC, if_neg hX]
  all_goals
    simp [withSymbols, UInt8.ofNat_add, add_assoc, add_comm]

theorem isDigit_ne {c : Char} (hdigit : c.isDigit = true) {symbol : Char}
    (hsymbol : symbol.isDigit = false) : (c == symbol) = false := by
  rw [beq_eq_false_iff_ne]
  rintro rfl
  rw [hdigit] at hsymbol
  cases hsymbol

/-- Digits are no symbols. -/
theorem withSymbols_cons_digit (cost : ManaCost) {c : Char}
    (hdigit : c.isDigit = true) (text : List Char) :
    cost.withSymbols (c :: text) = cost.withSymbols text := by
  simp [withSymbols, List.count_cons, isDigit_ne hdigit]

theorem foldl_readSymbol (text : List Char) (cost : ManaCost)
    (digits : List Char) :
    text.foldl readSymbol (cost, digits) =
      (cost.withSymbols text, digits ++ text.filter Char.isDigit) := by
  induction text generalizing cost digits with
  | nil => simp [withSymbols]
  | cons c text ih =>
      rw [List.foldl_cons, readSymbol]
      split
      · next hdigit =>
        rw [ih, cost.withSymbols_cons_digit hdigit,
          List.filter_cons_of_pos hdigit, List.append_assoc]
        rfl
      · next hsymbol =>
        rw [ih, withSymbols_addSymbol, List.filter_cons_of_neg hsymbol]

/-- The digits and the number of symbols of each kind decide. -/
theorem fromString_eq (s : String) :
    fromString s =
      { ({} : ManaCost).withSymbols s.toList with
        generic := (parseU8 (s.toList.filter Char.isDigit)).getD 0 } := by
  rw [fromString, foldl_readSymbol, List.nil_append]
  dsimp only
  split
  · next hempty =>
    rw [List.isEmpty_iff.mp hempty]
    rfl
  · rfl

/-- Texts with the same digits, in their order, and the same other symbols, in
any order and at any distance. -/
structure SameSymbols (text other : List Char) : Prop where
  digits : text.filter Char.isDigit = other.filter Char.isDigit
  symbols : (text.filter fun c => !c.isDigit && c != ' ').Perm
    (other.filter fun c => !c.isDigit && c != ' ')

theorem SameSymbols.count_eq {text other : List Char}
    (hsame : SameSymbols text other) (symbol : Char)
    (hsymbol : (!symbol.isDigit && symbol != ' ') = true) :
    text.count symbol = other.count symbol := by
  have hcount := hsame.symbols.count_eq symbol
  simpa only [List.count_filter, hsymbol] using hcount

theorem fromString_congr {s t : String}
    (hsame : SameSymbols s.toList t.toList) : fromString s = fromString t := by
  have hsymbols : ({} : ManaCost).withSymbols s.toList =
      ({} : ManaCost).withSymbols t.toList := by
    simp only [withSymbols, hsame.count_eq 'W' (by decide),
      hsame.count_eq 'U' (by decide), hsame.count_eq 'B' (by decide),
      hsame.count_eq 'R' (by decide), hsame.count_eq 'G' (by decide),
      hsame.count_eq 'C' (by decide), hsame.count_eq 'X' (by decide)]
  rw [fromString_eq, fromString_eq, hsame.digits, hsymbols]

theorem toList_symbols (n : UInt8) {text : String} {symbol : Char}
    (hsymbol : text.toList = [symbol]) :
    (String.join (List.replicate n.toNat text)).toList =
      List.replicate n.toNat symbol := by
  rw [String.toList_join]
  induction n.toNat with
  | zero => rfl
  | succ n ih => rw [List.replicate_succ, List.flatMap_cons, ih, hsymbol]; rfl

/-- The digits of the generic part, if there is one. -/
def genericText (cost : ManaCost) : List Char :=
  if 0 < cost.generic then showU8 cost.generic else []

theorem toList_display (cost : ManaCost) :
    cost.display.toList =
      List.replicate cost.xCount.toNat 'X' ++ cost.genericText ++
        List.replicate cost.white.toNat 'W' ++
        List.replicate cost.blue.toNat 'U' ++
        List.replicate cost.black.toNat 'B' ++
        List.replicate cost.red.toNat 'R' ++
        List.replicate cost.green.toNat 'G' ++
        List.replicate cost.colorless.toNat 'C' := by
  have hgeneric : (if 0 < cost.generic then toString cost.generic
      else "").toList = cost.genericText := by
    rw [genericText]
    split
    · exact Nat.toList_repr
    · rfl
  simp only [display, String.toList_append, hgeneric]
  rw [toList_symbols _ (by decide : "X".toList = ['X']),
    toList_symbols _ (by decide : "W".toList = ['W']),
    toList_symbols _ (by decide : "U".toList = ['U']),
    toList_symbols _ (by decide : "B".toList = ['B']),
    toList_symbols _ (by decide : "R".toList = ['R']),
    toList_symbols _ (by decide : "G".toList = ['G']),
    toList_symbols _ (by decide : "C".toList = ['C'])]

theorem all_genericText (cost : ManaCost) :
    ∀ c ∈ cost.genericText, c.isDigit = true := by
  intro c hc
  rw [genericText] at hc
  split at hc
  · exact List.all_eq_true.mp (showU8_spec cost.generic).2.1 c hc
  · cases hc

theorem parse_genericText (cost : ManaCost) :
    (parseU8 cost.genericText).getD 0 = cost.generic := by
  rw [genericText]
  split
  · rw [(showU8_spec cost.generic).1, Option.getD_some]
  · next hzero =>
    have hgeneric : cost.generic = 0 :=
      UInt8.le_zero_iff.mp (UInt8.not_lt.mp hzero)
    rw [hgeneric]
    rfl

theorem count_genericText (cost : ManaCost) {symbol : Char}
    (hsymbol : symbol.isDigit = false) :
    cost.genericText.count symbol = 0 := by
  rw [List.count_eq_zero]
  intro hmem
  rw [cost.all_genericText symbol hmem] at hsymbol
  cases hsymbol

/-- A printed cost is read back. -/
theorem fromString_display (cost : ManaCost) :
    fromString cost.display = cost := by
  have hdigits : cost.display.toList.filter Char.isDigit =
      cost.genericText := by
    rw [toList_display]
    simp [List.filter_append,
      List.filter_eq_self.mpr cost.all_genericText, Char.isDigit]
  have hsymbols : ({} : ManaCost).withSymbols cost.display.toList =
      { cost with generic := 0 } := by
    rw [toList_display]
    simp [withSymbols, List.count_append, List.count_replicate,
      cost.count_genericText]
  rw [fromString_eq, hdigits, hsymbols, cost.parse_genericText]

/-- Printing loses nothing, and reading looks at nothing but the digits in
their order and the number of symbols of each kind. -/
theorem fromString_reads :
    (∀ cost : ManaCost, fromString cost.display = cost) ∧
      ∀ s t : String, SameSymbols s.toList t.toList →
        fromString s = fromString t :=
  ⟨fromString_display, fun _ _ => fromString_congr⟩

/-- Two generic and two red mana, printed and written in another way. -/
theorem fromString_reads_red :
    fromString (display { generic := 2, red := 2 }) =
      { generic := 2, red := 2 } ∧ fromString "R 2 R" = fromString "2RR" := by
  refine ⟨fromString_reads.1 _, fromString_reads.2 _ _ ?_⟩
  constructor <;> decide

end ManaCost

end DeepScry
