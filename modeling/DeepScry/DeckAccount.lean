/-
Every line of a deck file that is meant for a card becomes one entry or one
problem, and which entries the validation looks at.
-/
import DeepScry.DeckFile

namespace DeepScry

open TextLines

namespace DeckLoader

/-- A line that is not blank, a comment, a header or metadata. -/
def isCardLine (originalLine : List Char) : Bool :=
  let line := trim originalLine
  !line.isEmpty && line.head? != some '#' && line.head? != some '[' &&
    !(line.contains '=' && !line.head?.any Char.isDigit)

/-- The section that a header line names. -/
def headerSection (originalLine : List Char) : Option DeckSection :=
  if (trim originalLine).head? == some '[' then
    sectionNamed (trim originalLine)
  else none

/-- The section named last, or the main deck. -/
def sectionInForce (before : List (List Char)) : DeckSection :=
  (before.filterMap headerSection).getLast?.getD .main

/-- The card lines, each with the section in force, after some lines. -/
def cardLinesFrom (before : List (List Char)) :
    List (List Char) → List (DeckSection × List Char)
  | [] => []
  | line :: rest =>
      (if isCardLine line then [(sectionInForce before, line)] else []) ++
        cardLinesFrom (before ++ [line]) rest

def cardLines (content : List Char) : List (DeckSection × List Char) :=
  cardLinesFrom [] (lines content)

/-- What becomes of a card line: one entry, or one problem. -/
def outcome (line : List Char) : DeckEntry ⊕ ImportProblem :=
  match parseEntry (trim line) with
  | some entry => .inl entry
  | none => .inr (.parseFail line)

/-- The entries that card lines give to a section. -/
def entriesOf (kind : DeckSection) (all : List (DeckSection × List Char)) :
    List DeckEntry :=
  all.filterMap fun line =>
    if line.1 = kind then (outcome line.2).getLeft? else none

def problemsOf (all : List (DeckSection × List Char)) : List ImportProblem :=
  all.filterMap fun line => (outcome line.2).getRight?

theorem entriesOf_append (kind : DeckSection)
    (all more : List (DeckSection × List Char)) :
    entriesOf kind (all ++ more) = entriesOf kind all ++ entriesOf kind more :=
  List.filterMap_append

theorem problemsOf_append (all more : List (DeckSection × List Char)) :
    problemsOf (all ++ more) = problemsOf all ++ problemsOf more :=
  List.filterMap_append

theorem sectionInForce_concat (before : List (List Char))
    (line : List Char) :
    sectionInForce (before ++ [line]) =
      (headerSection line).getD (sectionInForce before) := by
  cases hheader : headerSection line <;>
    simp [sectionInForce, List.filterMap_append, hheader]

/-- Any other line can only change the section. -/
theorem readLine_of_not_card (reading : Reading) {line : List Char}
    (hcard : isCardLine line = false) :
    readLine reading line = { reading with
      currentSection :=
        (headerSection line).getD reading.currentSection } := by
  have hblank : (trim line).isEmpty = true →
      ((trim line).head? == some '[') = false := by
    intro hempty
    simp [List.isEmpty_iff.mp hempty]
  have hcomment : ((trim line).head? == some '#') = true →
      ((trim line).head? == some '[') = false := by
    intro hhead
    simp [beq_iff_eq.mp hhead]
  rw [isCardLine, bne, bne] at hcard
  rw [readLine, headerSection]
  generalize (trim line).isEmpty = blank at *
  generalize ((trim line).head? == some '#') = comment at *
  generalize ((trim line).head? == some '[') = header at *
  generalize ((trim line).contains '=' &&
    !(trim line).head?.any Char.isDigit) = metadata at *
  cases blank <;> cases comment <;> cases header <;> cases metadata <;>
    simp_all

/-- A card line gives its entry to the section in force, or a problem. -/
theorem readLine_of_card (reading : Reading) {line : List Char}
    (hcard : isCardLine line = true) :
    headerSection line = none ∧ readLine reading line =
      match outcome line with
      | .inl entry =>
          { reading with
            deckList := reading.deckList.push entry reading.currentSection }
      | .inr problem =>
          { reading with problems := reading.problems ++ [problem] } := by
  rw [isCardLine, bne, bne] at hcard
  rw [readLine, headerSection, outcome]
  generalize (trim line).isEmpty = blank at *
  generalize ((trim line).head? == some '#') = comment at *
  generalize ((trim line).head? == some '[') = header at *
  generalize ((trim line).contains '=' &&
    !(trim line).head?.any Char.isDigit) = metadata at *
  cases blank <;> cases comment <;> cases header <;> cases metadata <;>
    simp at hcard
  cases parseEntry (trim line) <;> exact ⟨rfl, rfl⟩

/-- What the loop has found after some lines. -/
structure Accounts (before : List (List Char))
    (found : List (DeckSection × List Char)) (reading : Reading) : Prop where
  currentSection : reading.currentSection = sectionInForce before
  entries : ∀ kind, reading.deckList.entries kind = entriesOf kind found
  problems : reading.problems = problemsOf found

/-- One line, with what it is found to be. -/
theorem Accounts.readLine {before : List (List Char)}
    {found : List (DeckSection × List Char)} {reading : Reading}
    (haccounts : Accounts before found reading) (line : List Char) :
    Accounts (before ++ [line])
      (found ++ if isCardLine line then [(sectionInForce before, line)]
        else []) (DeckLoader.readLine reading line) := by
  cases hcard : isCardLine line with
  | false =>
      rw [readLine_of_not_card reading hcard]
      constructor
      · rw [sectionInForce_concat, haccounts.currentSection]
      · simpa using haccounts.entries
      · simpa using haccounts.problems
  | true =>
      obtain ⟨hheader, hread⟩ := readLine_of_card reading hcard
      have hsection : sectionInForce (before ++ [line]) =
          sectionInForce before := by
        rw [sectionInForce_concat, hheader, Option.getD_none]
      rw [hread]
      cases houtcome : outcome line with
      | inl entry =>
          constructor
          · exact haccounts.currentSection.trans hsection.symm
          · intro kind
            rw [DeckList.entries_push, haccounts.entries,
              haccounts.currentSection]
            by_cases hkind : sectionInForce before = kind <;>
              simp [entriesOf, List.filterMap_append, houtcome, hkind]
          · simp [problemsOf, List.filterMap_append, houtcome,
              haccounts.problems]
      | inr problem =>
          constructor
          · exact haccounts.currentSection.trans hsection.symm
          · intro kind
            simp [entriesOf, List.filterMap_append, houtcome,
              haccounts.entries]
          · simp [problemsOf, List.filterMap_append, houtcome,
              haccounts.problems]

/-- A whole stretch of lines. -/
theorem Accounts.foldl {before : List (List Char)}
    {found : List (DeckSection × List Char)} {reading : Reading}
    (haccounts : Accounts before found reading)
    (more : List (List Char)) :
    Accounts (before ++ more) (found ++ cardLinesFrom before more)
      (more.foldl DeckLoader.readLine reading) := by
  induction more generalizing before found reading with
  | nil => simpa [cardLinesFrom] using haccounts
  | cons line rest ih =>
      have hrest := ih (haccounts.readLine line)
      simpa [cardLinesFrom] using hrest

/-- What was read are the outcomes of the card lines, in their order. -/
theorem parseWithProblems_accounts (content : List Char) :
    (∀ kind, (parseWithProblems content).deckList.entries kind =
      entriesOf kind (cardLines content)) ∧
    (parseWithProblems content).problems =
      problemsOf (cardLines content) := by
  have hstart : Accounts [] [] {} :=
    ⟨rfl, fun kind => by cases kind <;> rfl, rfl⟩
  have hall := hstart.foldl (lines content)
  exact ⟨hall.entries, hall.problems⟩

/-- Each card line is an entry of its section or a problem, in the order of the
file, and the validation reports each entry of an unknown card once. -/
def Accounted (content : List Char) (known : List Char → Bool) : Prop :=
  let read := parseWithProblems content
  (∀ kind, read.deckList.entries kind =
    entriesOf kind (cardLines content)) ∧
  read.problems = problemsOf (cardLines content) ∧
  (validateCards read.deckList known).Perm
    ((read.deckList.mainDeck ++ read.deckList.sideboard ++
      read.deckList.commanders).filterMap (missing known))

theorem missing_eq_none_iff {known : List Char → Bool} {entry : DeckEntry} :
    missing known entry = none ↔ known entry.cardName = true := by
  rw [missing]
  split <;> simp_all

theorem mem_entriesOf {kind : DeckSection} {entry : DeckEntry}
    {all : List (DeckSection × List Char)} :
    entry ∈ entriesOf kind all ↔ ∃ line, (kind, line) ∈ all ∧
      parseEntry (trim line) = some entry := by
  have houtcome (line : List Char) :
      (outcome line).getLeft? = parseEntry (trim line) := by
    rw [outcome]
    cases parseEntry (trim line) <;> rfl
  rw [entriesOf, List.mem_filterMap]
  constructor
  · rintro ⟨⟨own, line⟩, hmem, hentry⟩
    split at hentry
    · next hown =>
      subst hown
      exact ⟨line, hmem, (houtcome line).symm.trans hentry⟩
    · cases hentry
  · rintro ⟨line, hmem, hentry⟩
    exact ⟨(kind, line), hmem, by simp [houtcome, hentry]⟩

/-- No card of a deck file is lost exactly where every commander is a known
card: the validation does not look at that section. -/
theorem accounted_iff (content : List Char) (known : List Char → Bool) :
    Accounted content known ↔
      ∀ line, (DeckSection.commander, line) ∈ cardLines content →
        ∀ entry, parseEntry (trim line) = some entry →
          known entry.cardName = true := by
  obtain ⟨hentries, hproblems⟩ := parseWithProblems_accounts content
  have hcommanders := hentries .commander
  have hvalid : (validateCards (parseWithProblems content).deckList
      known).Perm (((parseWithProblems content).deckList.mainDeck ++
        (parseWithProblems content).deckList.sideboard ++
          (parseWithProblems content).deckList.commanders).filterMap
            (missing known)) ↔
      (parseWithProblems content).deckList.commanders.filterMap
        (missing known) = [] := by
    rw [validateCards, List.filterMap_append, List.filterMap_append]
    constructor
    · intro hperm
      have hlength := hperm.length_eq
      simp only [List.length_append] at hlength
      exact List.eq_nil_of_length_eq_zero (by omega)
    · intro hnil
      rw [hnil, List.append_nil]
  rw [Accounted, hvalid, List.filterMap_eq_nil_iff]
  simp only [hentries, hproblems, implies_true, true_and]
  rw [show (parseWithProblems content).deckList.commanders =
    entriesOf .commander (cardLines content) from hcommanders]
  simp only [mem_entriesOf, missing_eq_none_iff]
  constructor
  · intro hall line hline entry hentry
    exact hall entry ⟨line, hline, hentry⟩
  · rintro hall entry ⟨line, hline, hentry⟩
    exact hall line hline entry hentry

/-- An unknown commander is not reported. -/
theorem unknown_commander_not_accounted :
    ¬ Accounted "[Commander]\n1 Grizzly Bear".toList fun _ => false := by
  rintro ⟨-, -, hperm⟩
  have hlength := hperm.length_eq
  revert hlength
  decide +kernel

end DeckLoader

end DeepScry
