/-
Typed commands: a verb and the start of a card name.  Names are compared
without case, blanks, underscores and final punctuation; the first ability in
the list whose name starts so is taken, also where a later one has the name in
full.
-/
import DeepScry.Drawing
import DeepScry.LetterCase
import DeepScry.NetworkController

namespace DeepScry

open TextLines LetterCase

/-- The names that the view of the game shows. -/
structure ViewNames where
  cardName : CardId → Option (List Char)
  adventureName : CardId → Option (List Char)

/-- `is_ascii_punctuation`. -/
def isAsciiPunctuation (c : Char) : Bool :=
  let n := c.toNat
  (33 ≤ n && n ≤ 47) || (58 ≤ n && n ≤ 64) || (91 ≤ n && n ≤ 96) ||
    (123 ≤ n && n ≤ 126)

/-- `parse::<usize>`: digits after an optional plus sign. -/
def parseUsize (text : List Char) : Option Nat :=
  let digits := if text.head? = some '+' then text.tail else text
  if digits.isEmpty then none
  else
    digits.foldlM (fun value c =>
      let next := value * 10 + (c.toNat - '0'.toNat)
      if c.isDigit && next < 2 ^ 64 then some next else none) 0

namespace SpellAbility

def sortKey : SpellAbility → Nat
  | .playLand _ => 0
  | .castSpell _ => 1
  | .castFromCommand .. => 2
  | .castFromExile .. => 3
  | .activateAbility .. => 4
  | .cycle .. => 5
  | .castFromGraveyard .. => 6
  | .castAdventure _ => 7
  | .castFromHandWithAltCost .. => 1
  | .castFromLibrary _ => 1
  | .playLandFromLibrary _ => 0

end SpellAbility

def sortSpellAbilities (abilities : List SpellAbility) : List SpellAbility :=
  Drawing.ranked SpellAbility.sortKey abilities

namespace CommandParsing

variable (tables : CaseTables)

/-- The characters of a name that count. -/
def isNameChar (c : Char) : Bool := !isWhitespace c && c != '_'

def normalize (s : List Char) : List Char :=
  (toLowercase tables (s.filter isNameChar)).rdropWhile isAsciiPunctuation

def cardMatches (cardName pattern : List Char) : Bool :=
  (normalize tables pattern).isPrefixOf (normalize tables cardName)

def trimEnd (s : List Char) : List Char := s.rdropWhile isWhitespace

/-- The word that tells an Adventure from the creature. -/
def adventureSuffix : List Char :=
  ['(', 'a', 'd', 'v', 'e', 'n', 't', 'u', 'r', 'e', ')']

/-- The pattern for the name of an Adventure. -/
def adventurePattern (cardPattern : List Char) : List Char :=
  trimEnd (((trimEnd cardPattern).dropSuffix? adventureSuffix).getD cardPattern)

variable (view : ViewNames)

/-- Whether the view has a name for the card, and it matches. -/
def namedBy (card : CardId) (pattern : List Char) : Bool :=
  (view.cardName card).any fun name => cardMatches tables name pattern

def playMatches (pattern : List Char) : SpellAbility → Bool
  | .playLand card => namedBy tables view card pattern
  | .playLandFromLibrary card => namedBy tables view card pattern
  | _ => false

def castMatches (pattern : List Char) : SpellAbility → Bool
  | .castSpell card => namedBy tables view card pattern
  | .castFromCommand card _ => namedBy tables view card pattern
  | .castFromGraveyard card _ _ => namedBy tables view card pattern
  | .castAdventure card =>
      (view.adventureName card).any fun name =>
        cardMatches tables name (adventurePattern pattern)
  | .castFromExile card _ _ => namedBy tables view card pattern
  | .castFromHandWithAltCost card _ => namedBy tables view card pattern
  | .castFromLibrary card => namedBy tables view card pattern
  | _ => false

def activateMatches (pattern : List Char) : SpellAbility → Bool
  | .activateAbility card _ => namedBy tables view card pattern
  | _ => false

/-- `forest[2]` is the second ability of a forest; without a closing bracket
there is no number. -/
def splitIndex (pattern : List Char) : List Char × Option Nat :=
  match splitOnce '[' pattern with
  | some (name, numStr) =>
      match splitOnce ']' numStr with
      | some (num, _) => (name, parseUsize num)
      | none => (name, none)
  | none => (pattern, none)

/-- The activation that a pattern asks for. -/
def chooseActivation (available : List SpellAbility) (pattern : List Char) :
    Option SpellAbility :=
  let (name, abilityNum) := splitIndex pattern
  let found := available.filter (activateMatches tables view name)
  match abilityNum with
  | some num => if 0 < num then found[num - 1]? else none
  | none => found.head?

/-- A line of a menu; 0 passes. -/
def chooseIndex (available : List SpellAbility) (idx : Nat) :
    Option SpellAbility :=
  if idx = 0 then none else (sortSpellAbilities available)[idx - 1]?

def parseSpellAbilityChoice (command : List Char)
    (available : List SpellAbility) : Option SpellAbility :=
  let cmd := toLowercase tables (trim command)
  match parseUsize cmd with
  | some idx => chooseIndex available idx
  | none =>
      if cmd = ['p', 'a', 's', 's'] ∨ cmd = ['p'] then none
      else
        match cmd.dropPrefix? ['p', 'l', 'a', 'y', ' '] with
        | some pattern => available.find? (playMatches tables view pattern)
        | none =>
            match cmd.dropPrefix? ['c', 'a', 's', 't', ' '] with
            | some pattern => available.find? (castMatches tables view pattern)
            | none =>
                match cmd.dropPrefix? ['e', 'q', 'u', 'i', 'p', ' '] with
                | some pattern =>
                    available.find? (activateMatches tables view pattern)
                | none =>
                    match cmd.dropPrefix?
                        ['a', 'c', 't', 'i', 'v', 'a', 't', 'e', ' '] with
                    | some pattern =>
                        chooseActivation tables view available pattern
                    | none => none

/-- The verbs that take a card name. -/
inductive Verb where
  | play
  | cast
  | activate
deriving DecidableEq

def Verb.text : Verb → List Char
  | play => ['p', 'l', 'a', 'y', ' ']
  | cast => ['c', 'a', 's', 't', ' ']
  | activate => ['a', 'c', 't', 'i', 'v', 'a', 't', 'e', ' ']

def Verb.selects : Verb → SpellAbility → Bool
  | play, .playLand _ => true
  | play, .playLandFromLibrary _ => true
  | cast, .castSpell _ => true
  | cast, .castFromCommand .. => true
  | cast, .castFromGraveyard .. => true
  | cast, .castAdventure _ => true
  | cast, .castFromExile .. => true
  | cast, .castFromHandWithAltCost .. => true
  | cast, .castFromLibrary _ => true
  | activate, .activateAbility .. => true
  | _, _ => false

/-- The name by which an ability is asked for. -/
def shownName : SpellAbility → Option (List Char)
  | .playLand card => view.cardName card
  | .castSpell card => view.cardName card
  | .activateAbility card _ => view.cardName card
  | .castFromExile card _ _ => view.cardName card
  | .castFromCommand card _ => view.cardName card
  | .cycle card _ _ => view.cardName card
  | .castFromGraveyard card _ _ => view.cardName card
  | .castAdventure card => view.adventureName card
  | .castFromHandWithAltCost card _ => view.cardName card
  | .castFromLibrary card => view.cardName card
  | .playLandFromLibrary card => view.cardName card

/-- What the name of an ability has to start with, when this name is typed;
that of an Adventure may be followed by the word for it. -/
def wanted (name : List Char) : SpellAbility → List Char
  | .castAdventure _ =>
      normalize tables (adventurePattern (toLowercase tables (trimEnd name)))
  | _ => normalize tables name

/-- An ability of the verb whose name starts with the typed one. -/
def answers (verb : Verb) (name : List Char) (ability : SpellAbility) : Bool :=
  verb.selects ability && (shownName view ability).any fun shown =>
    (wanted tables name ability).isPrefixOf (normalize tables shown)

/-- What is looked for after a verb. -/
def chosenBy (available : List SpellAbility) (pattern : List Char) :
    Verb → Option SpellAbility
  | .play => available.find? (playMatches tables view pattern)
  | .cast => available.find? (castMatches tables view pattern)
  | .activate => chooseActivation tables view available pattern

section Names

variable {tables} {name : List Char}

theorem isNameChar_of_whitespace {c : Char} (hc : isWhitespace c = true) :
    isNameChar c = false := by
  simp [isNameChar, hc]

/-- Lower case touches no character that is left out. -/
theorem filter_isNameChar_lower (text : List Char) :
    (text.flatMap tables.lower).filter isNameChar =
      (text.filter isNameChar).flatMap tables.lower := by
  apply filter_flatMap_lower
  · intro c hc
    by_cases hspace : isWhitespace c = true
    · exact tables.whitespace c hspace
    · have hunderscore : c = '_' := by simpa [isNameChar, hspace] using hc
      subst hunderscore
      exact tables.ascii '_' (by decide)
  · intro c hc d hd
    by_contra hdropped
    have hsymbol : isWhitespace d = true ∨
        (d.toNat < 128 ∧ d.isLower = false) := by
      by_cases hspace : isWhitespace d = true
      · exact .inl hspace
      · have hunderscore : d = '_' := by
          simpa [isNameChar, hspace] using hdropped
        subst hunderscore
        exact .inr (by decide)
    rw [tables.letter c d hd hsymbol] at hdropped
    exact hdropped hc

theorem filter_trimEnd (text : List Char) :
    (trimEnd text).filter isNameChar = text.filter isNameChar := by
  induction text using List.reverseRecOn with
  | nil => rfl
  | append_singleton text c ih =>
      by_cases hspace : isWhitespace c = true
      · rw [trimEnd, List.rdropWhile_concat_pos _ _ _ hspace, ← trimEnd, ih,
          List.filter_append, List.filter_cons_of_neg
            (by simp [isNameChar_of_whitespace hspace])]
        simp
      · rw [trimEnd, List.rdropWhile_concat_neg _ _ _ hspace]

theorem sigma_not_mem_trimEnd (hsigma : 'Σ' ∉ name) : 'Σ' ∉ trimEnd name :=
  fun hmem => hsigma ((List.rdropWhile_prefix _ _).subset hmem)

/-- The typed name, in lower case already, has the same normal form. -/
theorem normalize_toLowercase (hsigma : 'Σ' ∉ name) :
    normalize tables (toLowercase tables (trimEnd name)) =
      normalize tables name := by
  have hfiltered : 'Σ' ∉ name.filter isNameChar := fun hmem =>
    hsigma (List.mem_filter.mp hmem).1
  rw [normalize, normalize,
    toLowercase_eq_flatMap tables (sigma_not_mem_trimEnd hsigma),
    filter_isNameChar_lower, filter_trimEnd,
    toLowercase_eq_flatMap tables (sigma_not_mem_flatMap tables _),
    flatMap_lower_idem, toLowercase_eq_flatMap tables hfiltered]

theorem rdropWhile_prefix_of_prefix {α : Type} (p : α → Bool)
    {first text : List α} (hfront : first <+: text) :
    first.rdropWhile p <+: text.rdropWhile p := by
  obtain ⟨rest, rfl⟩ := hfront
  induction rest using List.reverseRecOn with
  | nil => rw [List.append_nil]
  | append_singleton rest c ih =>
      rw [← List.append_assoc]
      by_cases hc : p c = true
      · rw [List.rdropWhile_concat_pos _ _ _ hc]
        exact ih
      · rw [List.rdropWhile_concat_neg _ _ _ hc, List.append_assoc]
        exact (List.rdropWhile_prefix _ _).trans (List.prefix_append _ _)

/-- Less of a name has less of its normal form. -/
theorem normalize_front {first text : List Char} (hfront : first <+: text)
    (hsigma : 'Σ' ∉ text) :
    normalize tables first <+: normalize tables text := by
  apply rdropWhile_prefix_of_prefix
  have hfirst : 'Σ' ∉ first.filter isNameChar := fun hmem =>
    hsigma (hfront.subset (List.mem_filter.mp hmem).1)
  have htext : 'Σ' ∉ text.filter isNameChar := fun hmem =>
    hsigma (List.mem_filter.mp hmem).1
  rw [toLowercase_eq_flatMap tables hfirst, toLowercase_eq_flatMap tables htext]
  obtain ⟨rest, hrest⟩ := hfront.filter isNameChar
  rw [← hrest, List.flatMap_append]
  exact List.prefix_append _ _

theorem adventurePattern_front (pattern : List Char) :
    adventurePattern pattern <+: pattern := by
  rw [adventurePattern]
  apply (List.rdropWhile_prefix _ _).trans
  cases hsuffix : (trimEnd pattern).dropSuffix? adventureSuffix with
  | none => exact List.prefix_refl _
  | some rest =>
      obtain ⟨dropped, heq, -⟩ := List.dropSuffix?_eq_some_iff.mp hsuffix
      have hrest : rest <+: trimEnd pattern := heq ▸ List.prefix_append _ _
      exact hrest.trans (List.rdropWhile_prefix _ _)

/-- A name typed in full is as much as is wanted of it. -/
theorem wanted_front (hsigma : 'Σ' ∉ name) (ability : SpellAbility) :
    wanted tables name ability <+: normalize tables name := by
  cases ability with
  | castAdventure card =>
      rw [wanted, ← normalize_toLowercase hsigma]
      apply normalize_front (adventurePattern_front _)
      rw [toLowercase_eq_flatMap tables (sigma_not_mem_trimEnd hsigma)]
      exact sigma_not_mem_flatMap tables _
  | _ => exact List.prefix_refl _

end Names

section Commands

variable {tables view} {name : List Char} {available : List SpellAbility}

theorem rdropWhile_append {α : Type} {p : α → Bool} (first : List α)
    {text : List α} (hsome : ∃ c ∈ text, p c = false) :
    (first ++ text).rdropWhile p = first ++ text.rdropWhile p := by
  induction text using List.reverseRecOn with
  | nil =>
      obtain ⟨c, hc, -⟩ := hsome
      cases hc
  | append_singleton text c ih =>
      rw [← List.append_assoc]
      by_cases hc : p c = true
      · rw [List.rdropWhile_concat_pos _ _ _ hc,
          List.rdropWhile_concat_pos _ _ _ hc]
        obtain ⟨d, hd, hkept⟩ := hsome
        rcases List.mem_append.mp hd with hd | hd
        · exact ih ⟨d, hd, hkept⟩
        · rw [List.mem_singleton.mp hd, hc] at hkept
          cases hkept
      · rw [List.rdropWhile_concat_neg _ _ _ hc,
          List.rdropWhile_concat_neg _ _ _ hc, List.append_assoc]

/-- The command with the verb and a name, trimmed and in lower case. -/
theorem toLowercase_command (verb : Verb) (hsigma : 'Σ' ∉ name)
    (hvisible : ∃ c ∈ name, isWhitespace c = false) :
    toLowercase tables (trim (verb.text ++ name)) =
      verb.text ++ toLowercase tables (trimEnd name) := by
  have hstart : (verb.text ++ name).dropWhile isWhitespace =
      verb.text ++ name := by
    cases verb <;> rfl
  have htrimmed : trim (verb.text ++ name) = verb.text ++ trimEnd name := by
    rw [trim, hstart, rdropWhile_append _ hvisible, trimEnd]
  have hverb : 'Σ' ∉ verb.text := by
    cases verb <;> decide
  have hlower : verb.text.flatMap tables.lower = verb.text := by
    cases verb <;>
      simp only [Verb.text, List.flatMap_cons, List.flatMap_nil] <;>
      repeat rw [tables.ascii _ (by decide)]
    all_goals rfl
  have hwhole : 'Σ' ∉ verb.text ++ trimEnd name := fun hmem =>
    (List.mem_append.mp hmem).elim hverb (sigma_not_mem_trimEnd hsigma)
  rw [htrimmed, toLowercase_eq_flatMap tables hwhole, List.flatMap_append,
    hlower, toLowercase_eq_flatMap tables (sigma_not_mem_trimEnd hsigma)]

theorem parse_command (verb : Verb) (hsigma : 'Σ' ∉ name)
    (hvisible : ∃ c ∈ name, isWhitespace c = false) :
    parseSpellAbilityChoice tables view (verb.text ++ name) available =
      chosenBy tables view available (toLowercase tables (trimEnd name))
        verb := by
  rw [parseSpellAbilityChoice, toLowercase_command verb hsigma hvisible]
  generalize toLowercase tables (trimEnd name) = pattern
  have hnumber : parseUsize (verb.text ++ pattern) = none := by
    cases verb <;> rfl
  have hpass : ¬(verb.text ++ pattern = ['p', 'a', 's', 's'] ∨
      verb.text ++ pattern = ['p']) := by
    cases verb <;> simp [Verb.text]
  rw [hnumber]
  dsimp only
  rw [if_neg hpass]
  cases verb <;> simp [Verb.text, List.dropPrefix?, chosenBy]

/-- Every loop looks for what answers to the name. -/
theorem chosenBy_eq_find? (verb : Verb) (hsigma : 'Σ' ∉ name)
    (hbracket : verb = .activate → '[' ∉ name) :
    chosenBy tables view available (toLowercase tables (trimEnd name)) verb =
      available.find? (answers tables view verb name) := by
  have hnamed (card : CardId) :
      namedBy tables view card (toLowercase tables (trimEnd name)) =
        (view.cardName card).any fun shown =>
          (normalize tables name).isPrefixOf (normalize tables shown) := by
    simp only [namedBy, cardMatches, normalize_toLowercase hsigma]
  cases verb with
  | play =>
      apply congrArg (available.find? ·)
      funext ability
      cases ability <;>
        simp [playMatches, answers, Verb.selects, shownName, wanted, hnamed]
  | cast =>
      apply congrArg (available.find? ·)
      funext ability
      cases ability <;>
        simp [castMatches, answers, Verb.selects, shownName, wanted, hnamed,
          cardMatches]
  | activate =>
      have hplain : '[' ∉ toLowercase tables (trimEnd name) := by
        rw [toLowercase_eq_flatMap tables (sigma_not_mem_trimEnd hsigma)]
        intro hmem
        obtain ⟨c, hc, hlower⟩ := List.mem_flatMap.mp hmem
        have hsame := tables.letter c '[' hlower (.inr (by decide))
        apply hbracket rfl
        rw [hsame]
        exact (List.rdropWhile_prefix _ _).subset hc
      rw [chosenBy, chooseActivation, splitIndex,
        splitOnce_eq_none_iff.mpr hplain]
      dsimp only
      rw [List.head?_filter]
      apply congrArg (available.find? ·)
      funext ability
      cases ability <;>
        simp [activateMatches, answers, Verb.selects, shownName, wanted,
          hnamed]

/-- A named ability answers to its name. -/
theorem answers_self {verb : Verb} {ability : SpellAbility}
    (hselects : verb.selects ability = true)
    (hshown : shownName view ability = some name) (hsigma : 'Σ' ∉ name) :
    answers tables view verb name ability = true := by
  rw [answers, hselects, hshown, Bool.true_and, Option.any_some,
    List.isPrefixOf_iff_prefix]
  exact wanted_front hsigma ability

/-- The verb and the name of a listed ability choose the first ability in the
list that answers to the name: one of the same name, unless a longer name that
starts with it is listed before. -/
theorem parse_named {verb : Verb} {ability : SpellAbility}
    {earlier later : List SpellAbility}
    (hselects : verb.selects ability = true)
    (hshown : shownName view ability = some name)
    (hvisible : ∃ c ∈ name, isWhitespace c = false) (hsigma : 'Σ' ∉ name)
    (hbracket : verb = .activate → '[' ∉ name) :
    parseSpellAbilityChoice tables view (verb.text ++ name)
        (earlier ++ ability :: later) =
      (earlier ++ ability :: later).find? (answers tables view verb name) ∧
    ∃ found ∈ earlier ++ [ability],
      parseSpellAbilityChoice tables view (verb.text ++ name)
        (earlier ++ ability :: later) = some found ∧
      verb.selects found = true ∧
      ((∀ other ∈ earlier, answers tables view verb name other = true →
          (shownName view other).map (normalize tables) =
            some (normalize tables name)) →
        (shownName view found).map (normalize tables) =
          some (normalize tables name)) := by
  have hparse : parseSpellAbilityChoice tables view (verb.text ++ name)
      (earlier ++ ability :: later) =
        (earlier ++ ability :: later).find? (answers tables view verb name) :=
    (parse_command verb hsigma hvisible).trans
      (chosenBy_eq_find? verb hsigma hbracket)
  have hself : answers tables view verb name ability = true :=
    answers_self hselects hshown hsigma
  refine ⟨hparse, ?_⟩
  rw [hparse, List.find?_append]
  cases hearlier : earlier.find? (answers tables view verb name) with
  | some found =>
      have hmem := List.mem_of_find?_eq_some hearlier
      have hfound := List.find?_some hearlier
      refine ⟨found, List.mem_append_left _ hmem, rfl, ?_, ?_⟩
      · rw [answers, Bool.and_eq_true] at hfound
        exact hfound.1
      · intro hsame
        exact hsame found hmem hfound
  | none =>
      refine ⟨ability, List.mem_append_right _ (List.mem_singleton.mpr rfl),
        ?_, hselects, ?_⟩
      · rw [Option.none_or, List.find?_cons_of_pos hself]
      · intro _
        rw [hshown]
        rfl

/-- A view of three cards. -/
def threeNames : ViewNames where
  cardName card := [['S', 'h', 'o', 'c', 'k', 'w', 'a', 'v', 'e'],
    ['S', 'h', 'o', 'c', 'k'], ['B', 'o', 'l', 't']][card.raw]?
  adventureName _ := none

theorem parse_named_bolt :
    parseSpellAbilityChoice asciiTables threeNames
        (Verb.cast.text ++ ['B', 'o', 'l', 't'])
        ([.castSpell ⟨0⟩] ++ .castSpell ⟨2⟩ :: [.castSpell ⟨1⟩]) =
      some (.castSpell ⟨2⟩) := by
  obtain ⟨hparse, -⟩ := @parse_named asciiTables threeNames
    ['B', 'o', 'l', 't'] .cast (.castSpell ⟨2⟩) [.castSpell ⟨0⟩]
    [.castSpell ⟨1⟩] rfl rfl ⟨'B', by decide, by decide⟩ (by decide) nofun
  rw [hparse]
  decide +kernel

/-- Shock, listed after Shockwave, is not cast by its name. -/
theorem not_parse_named :
    SpellAbility.castSpell ⟨1⟩ ∈
        [SpellAbility.castSpell ⟨0⟩, SpellAbility.castSpell ⟨1⟩] ∧
      shownName threeNames (.castSpell ⟨1⟩) = some ['S', 'h', 'o', 'c', 'k'] ∧
      ¬∃ found, parseSpellAbilityChoice asciiTables threeNames
          (Verb.cast.text ++ ['S', 'h', 'o', 'c', 'k'])
          [.castSpell ⟨0⟩, .castSpell ⟨1⟩] = some found ∧
        (shownName threeNames found).map (normalize asciiTables) =
          some (normalize asciiTables ['S', 'h', 'o', 'c', 'k']) := by
  refine ⟨by decide, rfl, ?_⟩
  rintro ⟨found, hparse, hname⟩
  have hfirst : parseSpellAbilityChoice asciiTables threeNames
      (Verb.cast.text ++ ['S', 'h', 'o', 'c', 'k'])
      [.castSpell ⟨0⟩, .castSpell ⟨1⟩] = some (.castSpell ⟨0⟩) := by
    decide +kernel
  rw [hfirst] at hparse
  cases hparse
  revert hname
  decide +kernel

/-- Names that cannot be typed: a blank one, one with an index, and one with a
sigma that ends a word only as it is typed. -/
def oddNames : ViewNames where
  cardName card :=
    [[' '], ['A', '[', '2', ']'], ['A', 'Σ', ' ', 'b']][card.raw]?
  adventureName _ := none

example : parseSpellAbilityChoice asciiTables oddNames
    (Verb.cast.text ++ [' ']) [.castSpell ⟨0⟩] = none := by
  decide +kernel

example : parseSpellAbilityChoice asciiTables oddNames
    (Verb.activate.text ++ ['A', '[', '2', ']'])
    [.activateAbility ⟨1⟩ 0] = none := by
  decide +kernel

example : parseSpellAbilityChoice asciiTables oddNames
    (Verb.cast.text ++ ['A', 'Σ', ' ', 'b']) [.castSpell ⟨2⟩] = none := by
  decide +kernel

end Commands

end CommandParsing

end DeepScry
