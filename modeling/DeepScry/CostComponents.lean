/-
The components of a cost as they are written, and that each of them is read
back where it stands alone.
-/
import DeepScry.CostParsing

namespace DeepScry

open TextLines

/-- A name, and a text between brackets. -/
def inBrackets (name inner : List Char) : List Char :=
  name ++ '<' :: (inner ++ ['>'])

theorem bracketed_inBrackets (name inner : List Char) :
    bracketed name (inBrackets name inner) = some inner := by
  have hstarts : name ++ ['<'] <+: inBrackets name inner := by
    exact ⟨inner ++ ['>'], by simp [inBrackets]⟩
  have hlast : (inBrackets name inner).getLast? = some '>' := by
    rw [inBrackets, List.append_cons, ← List.append_assoc]
    exact List.getLast?_concat
  rw [bracketed, if_pos ⟨hstarts, hlast⟩]
  simp [inBrackets, List.drop_append]

/-- Brackets after another name. -/
theorem bracketed_of_ne {name other inner : List Char} (hname : '<' ∉ name)
    (hother : '<' ∉ other) (hne : name ≠ other) :
    bracketed name (inBrackets other inner) = none := by
  rw [bracketed, if_neg]
  rintro ⟨⟨rest, hrest⟩, -⟩
  have hsplit := splitOnce_append hname rest
  rw [List.append_assoc] at hrest
  rw [← List.singleton_append, hrest, inBrackets, splitOnce_append hother]
    at hsplit
  exact hne (Prod.mk.inj (Option.some.inj hsplit)).1.symm

theorem bracketed_of_not_mem {name text : List Char} (htext : '<' ∉ text) :
    bracketed name text = none := by
  rw [bracketed, if_neg]
  rintro ⟨hstarts, -⟩
  exact htext (hstarts.subset (by simp))

/-- No whitespace outside brackets. -/
def staysWhole : Bool → List Char → Bool
  | _, [] => true
  | inside, c :: rest =>
      if c = '<' then staysWhole true rest
      else if c = '>' then staysWhole false rest
      else (inside || !isWhitespace c) && staysWhole inside rest

def ManaColor.letter : ManaColor → Char
  | white => 'W'
  | blue => 'U'
  | black => 'B'
  | red => 'R'
  | green => 'G'

def ManaColor.cost : ManaColor → ManaCost
  | white => { white := 1 }
  | blue => { blue := 1 }
  | black => { black := 1 }
  | red => { red := 1 }
  | green => { green := 1 }

theorem ManaColor.isManaChar_letter (color : ManaColor) :
    isManaChar color.letter = true := by
  cases color <;> rfl

theorem ManaColor.fromString_letter (color : ManaColor) :
    ManaCost.fromString (String.ofList [color.letter]) = color.cost := by
  rw [ManaCost.fromString_eq, String.toList_ofList]
  cases color <;> rfl

/-- One component of a cost. -/
inductive CostComponent (parseCounter : List Char → Option CounterType) where
  | tap
  | untap
  | number (n : UInt8) (hpositive : 0 < n)
  | symbol (color : ManaColor)
  | sacrifice (count : UInt8) (cardType : List Char)
      (description : Option (List Char)) (htype : '/' ∉ cardType)
  | payLife (amount : Nat) (hfits : amount < 2 ^ 31)
  | discardHand (count : UInt8)
  | addLoyalty (amount : UInt8)
  | subCounter (amount : UInt8) (name : List Char) (counterType : CounterType)
      (hname : parseCounter name = some counterType)
      (hplain : '/' ∉ name ∧ '<' ∉ name ∧ '>' ∉ name)
  | waterbend (amount : UInt8)

namespace CostComponent

variable {parseCounter : List Char → Option CounterType}
  (component : CostComponent parseCounter)

def descriptionText (description : Option (List Char)) : List Char :=
  description.elim [] fun text => '/' :: text

/-- The name before the brackets, and what stands in them. -/
def brackets? : CostComponent parseCounter → Option (List Char × List Char)
  | sacrifice count cardType description _ =>
      some (['S', 'a', 'c'],
        showU8 count ++ '/' :: (cardType ++ descriptionText description))
  | payLife amount _ =>
      some (['P', 'a', 'y', 'L', 'i', 'f', 'e'], Nat.toDigits 10 amount)
  | discardHand count =>
      some (['D', 'i', 's', 'c', 'a', 'r', 'd'],
        showU8 count ++ ['/', 'H', 'a', 'n', 'd'])
  | addLoyalty amount =>
      some (Cost.addCounterName, showU8 amount ++ '/' :: Cost.loyaltyName)
  | subCounter amount name _ _ _ =>
      some (Cost.subCounterName, showU8 amount ++ '/' :: name)
  | waterbend amount =>
      some (['W', 'a', 't', 'e', 'r', 'b', 'e', 'n', 'd'], showU8 amount)
  | tap | untap | number _ _ | symbol _ => none

/-- What is written without brackets. -/
def word : CostComponent parseCounter → List Char
  | tap => ['T']
  | untap => ['Q']
  | number n _ => showU8 n
  | symbol color => [color.letter]
  | _ => []

def text : List Char :=
  match component.brackets? with
  | some (name, inner) => inBrackets name inner
  | none => component.word

/-- What the component means. -/
def cost : CostComponent parseCounter → Cost
  | tap => .tap
  | untap => .untap
  | number n _ => .mana { generic := n }
  | symbol color => .mana color.cost
  | sacrifice count cardType _ _ =>
      .sacrificePattern count (String.ofList cardType)
  | payLife amount _ => .payLife (Int32.ofNat amount)
  | discardHand _ => .discardHand
  | addLoyalty amount => .addLoyalty amount
  | subCounter amount name counterType _ _ =>
      if contains name Cost.loyaltyName then .subLoyalty amount
      else .subCounter amount counterType
  | waterbend amount => .waterbend amount

/-- No space of a sacrifice stands outside its brackets. -/
def Whole : CostComponent parseCounter → Prop
  | sacrifice _ cardType description _ =>
      staysWhole true (cardType ++ descriptionText description) = true
  | _ => True

def isTap : CostComponent parseCounter → Bool
  | tap => true
  | _ => false

def isMana : CostComponent parseCounter → Bool
  | number _ _ | symbol _ => true
  | _ => false

/-- The components for which a cost is taken apart. -/
def splits : CostComponent parseCounter → Bool
  | sacrifice _ _ _ _ | payLife _ _ => true
  | _ => false

/-- The names before brackets. -/
def names : List (List Char) :=
  [['S', 'a', 'c'], ['P', 'a', 'y', 'L', 'i', 'f', 'e'],
    ['D', 'i', 's', 'c', 'a', 'r', 'd'], Cost.addCounterName,
    Cost.subCounterName, ['W', 'a', 't', 'e', 'r', 'b', 'e', 'n', 'd']]

variable {component}

theorem mem_names {name inner : List Char}
    (hbrackets : component.brackets? = some (name, inner)) :
    name ∈ names := by
  cases component <;> cases hbrackets <;> decide

theorem text_eq {name inner : List Char}
    (hbrackets : component.brackets? = some (name, inner)) :
    component.text = inBrackets name inner := by
  rw [text, hbrackets]

theorem text_word (hbrackets : component.brackets? = none) :
    component.text = component.word := by
  rw [text, hbrackets]

/-- Names are plain words. -/
theorem plain_of_mem_names {name : List Char} (hname : name ∈ names) :
    ∀ c ∈ name, isWhitespace c = false ∧ c ≠ '<' ∧ c ≠ '>' ∧
      c.isDigit = false := by
  have hall : name.all (fun c => !isWhitespace c && c != '<' && c != '>' &&
      !c.isDigit) = true := by
    simp only [names, List.mem_cons, List.not_mem_nil, or_false] at hname
    rcases hname with rfl | rfl | rfl | rfl | rfl | rfl <;> rfl
  intro c hc
  simpa [and_assoc] using List.all_eq_true.mp hall c hc

theorem not_mem_name {name : List Char} (hname : name ∈ names) :
    '<' ∉ name := fun hmem => (plain_of_mem_names hname _ hmem).2.1 rfl

theorem mem_showU8 {c : Char} {n : UInt8} (hc : c ∈ showU8 n) :
    c.isDigit = true :=
  List.all_eq_true.mp (showU8_spec n).2.1 c hc

theorem slash_not_mem_showU8 (n : UInt8) : '/' ∉ showU8 n := by
  intro hmem
  exact absurd (mem_showU8 hmem) (by decide)

theorem splitOn_count (n : UInt8) (rest : List Char) :
    (showU8 n ++ '/' :: rest).splitOn '/' =
      showU8 n :: rest.splitOn '/' :=
  List.splitOn_append_cons_self_of_not_mem (slash_not_mem_showU8 n) rest

/-- The parsers of a text with brackets, one after the other. -/
theorem parseSingle_inBrackets (name inner : List Char) :
    Cost.parseSingle parseCounter (inBrackets name inner) =
      [Cost.parseSacrifice, Cost.parsePayLife, Cost.parseDiscard,
        Cost.parseAddLoyalty, Cost.parseSubLoyalty,
        Cost.parseSubCounter parseCounter, Cost.parseWaterbend,
        Cost.parseTapMana, Cost.parseMana].findSome?
          fun parser => parser (inBrackets name inner) := by
  have hother (other : List Char) (hplain : '<' ∉ other) :
      (inBrackets name inner == other) = false := by
    rw [beq_eq_false_iff_ne]
    rintro rfl
    exact hplain (by simp [inBrackets])
  rw [Cost.parseSingle, Cost.isTapText, hother _ (by decide),
    hother _ (by decide), hother _ (by decide), hother _ (by decide)]
  rfl

/-- The second part of a sacrifice is its type. -/
theorem splitOn_sacrifice (count : UInt8) {cardType : List Char}
    (htype : '/' ∉ cardType) (description : Option (List Char)) :
    ∃ rest, (showU8 count ++ '/' ::
      (cardType ++ descriptionText description)).splitOn '/' =
        showU8 count :: cardType :: rest := by
  rw [splitOn_count]
  cases description with
  | none =>
      rw [descriptionText, Option.elim_none, List.append_nil,
        List.splitOn_eq_singleton htype]
      exact ⟨[], rfl⟩
  | some text =>
      rw [descriptionText, Option.elim_some,
        List.splitOn_append_cons_self_of_not_mem htype]
      exact ⟨_, rfl⟩

theorem parseI32_toDigits {amount : Nat} (hfits : amount < 2 ^ 31) :
    parseI32 (Nat.toDigits 10 amount) = some (Int32.ofNat amount) := by
  have hdigits (c : Char) (hc : c ∈ Nat.toDigits 10 amount) :
      c.isDigit = true :=
    Nat.isDigit_of_mem_toDigits (by decide) (by decide) hc
  have hhead (sign : Char) (hsign : sign.isDigit = false) :
      ((Nat.toDigits 10 amount).head? == some sign) = false := by
    rw [beq_eq_false_iff_ne]
    intro heq
    rw [hdigits sign (List.mem_of_mem_head? heq)] at hsign
    cases hsign
  have hempty : (Nat.toDigits 10 amount).isEmpty = false := by
    simp [Nat.toDigits_ne_nil]
  have hall : (Nat.toDigits 10 amount).all Char.isDigit = true :=
    List.all_eq_true.mpr hdigits
  rw [parseI32, hhead '-' (by decide), hhead '+' (by decide)]
  simpa [hempty, hall] using hfits

/-- Where `part` stands at the end of a text between brackets. -/
theorem contains_inBrackets (name inner part : List Char) :
    contains (inBrackets name (inner ++ part)) part = true := by
  rw [contains, decide_eq_true_iff]
  exact ⟨name ++ '<' :: inner, ['>'], by simp [inBrackets]⟩

/-- Loyalty is named after the number or not at all. -/
theorem contains_loyalty {name amount rest : List Char}
    (hname : contains name Cost.loyaltyName = false)
    (hamount : 'L' ∉ amount) :
    contains (inBrackets name (amount ++ '/' :: rest)) Cost.loyaltyName =
      contains rest Cost.loyaltyName := by
  have hoccurs : ¬ Cost.loyaltyName <:+: amount := fun hloyalty =>
    hamount (hloyalty.subset (by decide))
  rw [contains, decide_eq_false_iff_not] at hname
  rw [contains, contains, decide_eq_decide, inBrackets,
    infix_append_cons_iff (by decide), or_iff_right hname,
    List.append_assoc, List.cons_append,
    infix_append_cons_iff (by decide), or_iff_right hoccurs,
    infix_append_cons_iff (by decide)]
  simp [Cost.loyaltyName]

section Single

variable (parseCounter)

theorem parseSingle_sacrifice (count : UInt8) {cardType : List Char}
    (htype : '/' ∉ cardType) (description : Option (List Char)) :
    Cost.parseSingle parseCounter (inBrackets ['S', 'a', 'c']
        (showU8 count ++ '/' :: (cardType ++ descriptionText description))) =
      some (.sacrificePattern count (String.ofList cardType)) := by
  obtain ⟨rest, hsplit⟩ := splitOn_sacrifice count htype description
  rw [parseSingle_inBrackets]
  simp [Cost.parseSacrifice, bracketed_inBrackets, hsplit,
    (showU8_spec count).1]

theorem parseSingle_payLife {amount : Nat} (hfits : amount < 2 ^ 31) :
    Cost.parseSingle parseCounter
        (inBrackets ['P', 'a', 'y', 'L', 'i', 'f', 'e']
          (Nat.toDigits 10 amount)) =
      some (.payLife (Int32.ofNat amount)) := by
  rw [parseSingle_inBrackets]
  simp (disch := decide) [List.findSome?_cons, Cost.parseSacrifice,
    Cost.parsePayLife,
    bracketed_inBrackets, bracketed_of_ne, parseI32_toDigits hfits]

theorem parseSingle_discardHand (count : UInt8) :
    Cost.parseSingle parseCounter
        (inBrackets ['D', 'i', 's', 'c', 'a', 'r', 'd']
          (showU8 count ++ ['/', 'H', 'a', 'n', 'd'])) =
      some .discardHand := by
  have hhand : contains (inBrackets ['D', 'i', 's', 'c', 'a', 'r', 'd']
      (showU8 count ++ ['/', 'H', 'a', 'n', 'd']))
        ['H', 'a', 'n', 'd'] = true := by
    simpa using contains_inBrackets ['D', 'i', 's', 'c', 'a', 'r', 'd']
      (showU8 count ++ ['/']) ['H', 'a', 'n', 'd']
  rw [parseSingle_inBrackets]
  simp (disch := decide) [List.findSome?_cons, Cost.parseSacrifice,
    Cost.parsePayLife, Cost.parseDiscard, bracketed_inBrackets,
    bracketed_of_ne, hhand]

theorem not_mem_amount (amount : UInt8) : 'L' ∉ showU8 amount := by
  intro hmem
  exact absurd (mem_showU8 hmem) (by decide)

theorem parseSingle_addLoyalty (amount : UInt8) :
    Cost.parseSingle parseCounter (inBrackets Cost.addCounterName
        (showU8 amount ++ '/' :: Cost.loyaltyName)) =
      some (.addLoyalty amount) := by
  have hloyalty : contains (inBrackets Cost.addCounterName
        (showU8 amount ++ '/' :: Cost.loyaltyName)) Cost.loyaltyName =
      contains Cost.loyaltyName Cost.loyaltyName :=
    contains_loyalty (by decide) (not_mem_amount amount)
  have hself : contains Cost.loyaltyName Cost.loyaltyName = true := by
    decide
  rw [parseSingle_inBrackets]
  simp (disch := decide) [List.findSome?_cons, Cost.parseSacrifice,
    Cost.parsePayLife, Cost.parseDiscard, Cost.parseAddLoyalty,
    Cost.parseLoyalty, bracketed_inBrackets, bracketed_of_ne, hloyalty,
    hself, splitOn_count, (showU8_spec amount).1]

theorem parseSingle_subCounter {parseCounter} (amount : UInt8)
    {name : List Char} {counterType : CounterType}
    (hname : parseCounter name = some counterType) (hslash : '/' ∉ name) :
    Cost.parseSingle parseCounter (inBrackets Cost.subCounterName
        (showU8 amount ++ '/' :: name)) =
      some (if contains name Cost.loyaltyName then .subLoyalty amount
        else .subCounter amount counterType) := by
  have hloyalty : contains (inBrackets Cost.subCounterName
        (showU8 amount ++ '/' :: name)) Cost.loyaltyName =
      contains name Cost.loyaltyName :=
    contains_loyalty (by decide) (not_mem_amount amount)
  rw [parseSingle_inBrackets]
  cases hsub : contains name Cost.loyaltyName <;>
    simp (disch := decide) [List.findSome?_cons, Cost.parseSacrifice,
      Cost.parsePayLife, Cost.parseDiscard, Cost.parseAddLoyalty,
      Cost.parseSubLoyalty, Cost.parseSubCounter, Cost.parseLoyalty,
      bracketed_inBrackets, bracketed_of_ne, hloyalty, hsub, splitOn_count,
      (showU8_spec amount).1, List.splitOn_eq_singleton hslash, hname]

theorem parseSingle_waterbend (amount : UInt8) :
    Cost.parseSingle parseCounter
        (inBrackets ['W', 'a', 't', 'e', 'r', 'b', 'e', 'n', 'd']
          (showU8 amount)) =
      some (.waterbend amount) := by
  rw [parseSingle_inBrackets]
  simp (disch := decide) [List.findSome?_cons, Cost.parseSacrifice,
    Cost.parsePayLife, Cost.parseDiscard, Cost.parseAddLoyalty,
    Cost.parseSubLoyalty, Cost.parseSubCounter, Cost.parseLoyalty,
    Cost.parseWaterbend, bracketed_inBrackets, bracketed_of_ne,
    (showU8_spec amount).1]

/-- A text without brackets goes to the last two parsers. -/
theorem parseSingle_plain {text : List Char} (hplain : '<' ∉ text)
    (htap : Cost.isTapText text = false)
    (huntap : (text == ['Q'] || text == ['U', 'n', 't', 'a', 'p']) = false) :
    Cost.parseSingle parseCounter text =
      (Cost.parseTapMana text).or (Cost.parseMana text) := by
  have hnone (name : List Char) : bracketed name text = none :=
    bracketed_of_not_mem hplain
  rw [Cost.parseSingle, htap, huntap]
  simp [List.findSome?_cons, Cost.parseSacrifice, Cost.parsePayLife,
    Cost.parseDiscard, Cost.parseAddLoyalty, Cost.parseSubLoyalty,
    Cost.parseSubCounter, Cost.parseLoyalty, Cost.parseWaterbend, hnone]
  cases Cost.parseTapMana text <;> cases Cost.parseMana text <;> rfl

/-- Spaces and mana, with some mana: one cost. -/
theorem parseSingle_mana {text : List Char}
    (hchars : ∀ c ∈ text, c = ' ' ∨ isManaChar c = true)
    (hany : text.any isManaChar = true) :
    Cost.parseSingle parseCounter text =
      if 0 < (ManaCost.fromString (String.ofList text)).cmc then
        some (.mana (ManaCost.fromString (String.ofList text)))
      else none := by
  have hnot (c : Char) (hspace : c ≠ ' ') (hmana : isManaChar c = false) :
      c ∉ text := by
    intro hc
    rcases hchars c hc with rfl | hc
    · exact hspace rfl
    · exact absurd (hmana.symm.trans hc) Bool.false_ne_true
  have hother (other : List Char) {c : Char} (hc : c ∈ other)
      (hspace : c ≠ ' ') (hmana : isManaChar c = false) :
      (text == other) = false := by
    rw [beq_eq_false_iff_ne]
    rintro rfl
    exact hnot c hspace hmana hc
  have htap : Cost.isTapText text = false := by
    rw [Cost.isTapText, hother ['T'] List.mem_cons_self (by decide) (by decide),
      hother ['T', 'a', 'p'] List.mem_cons_self (by decide) (by decide)]
    rfl
  have huntap : (text == ['Q'] || text == ['U', 'n', 't', 'a', 'p']) =
      false := by
    rw [hother ['Q'] List.mem_cons_self (by decide) (by decide),
      hother (c := 'n') ['U', 'n', 't', 'a', 'p'] (by decide) (by decide)
        (by decide)]
    rfl
  have hnoTap (part : List Char) (hpart : 'T' ∈ part) :
      contains text part = false := by
    rw [contains, decide_eq_false_iff_not]
    intro hoccurs
    exact hnot 'T' (by decide) (by decide) (hoccurs.subset hpart)
  rw [parseSingle_plain parseCounter (hnot '<' (by decide) (by decide)) htap
    huntap, Cost.parseTapMana, hnoTap _ (by decide), hnoTap _ (by decide),
    Cost.parseMana, if_pos hany]
  rfl

end Single

theorem isManaChar_word (hmana : component.isMana = true) :
    component.word ≠ [] ∧ ∀ c ∈ component.word, isManaChar c = true := by
  cases component <;> try cases hmana
  · next n hpositive =>
    refine ⟨(showU8_spec n).2.2, fun c hc => ?_⟩
    rw [isManaChar, mem_showU8 hc]
    rfl
  · next color =>
    refine ⟨List.cons_ne_nil _ _, fun c hc => ?_⟩
    rw [List.mem_singleton.mp hc]
    exact color.isManaChar_letter

theorem text_mana (hmana : component.isMana = true) :
    component.text = component.word := by
  refine text_word ?_
  cases component <;> cases hmana <;> rfl

theorem parseSingle_word (hmana : component.isMana = true) :
    Cost.parseSingle parseCounter component.text =
      let manaCost := ManaCost.fromString (String.ofList component.word)
      if 0 < manaCost.cmc then some (.mana manaCost) else none := by
  obtain ⟨hne, hchars⟩ := isManaChar_word hmana
  rw [text_mana hmana]
  refine parseSingle_mana parseCounter (fun c hc => .inr (hchars c hc)) ?_
  rw [List.any_eq_true]
  exact ⟨_, List.head_mem hne, hchars _ (List.head_mem hne)⟩

theorem fromString_digits {digits : List Char}
    (hdigits : ∀ c ∈ digits, c.isDigit = true) :
    ManaCost.fromString (String.ofList digits) =
      { generic := (parseU8 digits).getD 0 } := by
  have hcount (symbol : Char) (hsymbol : symbol.isDigit = false) :
      digits.count symbol = 0 := by
    rw [List.count_eq_zero]
    intro hmem
    exact absurd (hsymbol.symm.trans (hdigits symbol hmem))
      Bool.false_ne_true
  rw [ManaCost.fromString_eq, String.toList_ofList,
    List.filter_eq_self.mpr hdigits]
  simp [ManaCost.withSymbols, hcount]

section Single

variable (component)

/-- Every component is read back where it stands alone. -/
theorem parseSingle_text :
    Cost.parseSingle parseCounter component.text = some component.cost := by
  cases component with
  | tap => rfl
  | untap => rfl
  | number n hpositive =>
      rw [parseSingle_word rfl, word,
        fromString_digits fun c hc => mem_showU8 hc, (showU8_spec n).1]
      simp [ManaCost.cmc, hpositive, cost]
  | symbol color =>
      rw [parseSingle_word rfl, word, color.fromString_letter]
      cases color <;> rfl
  | sacrifice count cardType description htype =>
      exact parseSingle_sacrifice parseCounter count htype description
  | payLife amount hfits => exact parseSingle_payLife parseCounter hfits
  | discardHand count => exact parseSingle_discardHand parseCounter count
  | addLoyalty amount => exact parseSingle_addLoyalty parseCounter amount
  | subCounter amount name counterType hname hplain =>
      exact parseSingle_subCounter amount hname hplain.1
  | waterbend amount => exact parseSingle_waterbend parseCounter amount

end Single

end CostComponent

end DeepScry
