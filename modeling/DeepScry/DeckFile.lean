/-
Deck files: reading one line by line, naming the entries without a card, and
writing the lists back.
-/
import Mathlib
import DeepScry.TextLines

namespace DeepScry

open TextLines

structure DeckEntry where
  cardName : List Char
  count : UInt8
deriving DecidableEq

inductive DeckSection where
  | main
  | sideboard
  | commander
deriving DecidableEq

structure DeckList where
  mainDeck : List DeckEntry := []
  sideboard : List DeckEntry := []
  commanders : List DeckEntry := []
deriving DecidableEq

inductive ImportProblemKind where
  | parseFail
  | cardMissing
deriving DecidableEq

structure ImportProblem where
  kind : ImportProblemKind
  lineText : List Char
  cardName : Option (List Char) := none
deriving DecidableEq

namespace ImportProblem

def parseFail (lineText : List Char) : ImportProblem where
  kind := .parseFail
  lineText := lineText

def cardMissing (cardName lineText : List Char) : ImportProblem where
  kind := .cardMissing
  lineText := lineText
  cardName := some cardName

end ImportProblem

namespace DeckList

def entries (deck : DeckList) : DeckSection → List DeckEntry
  | .main => deck.mainDeck
  | .sideboard => deck.sideboard
  | .commander => deck.commanders

def push (deck : DeckList) (entry : DeckEntry) : DeckSection → DeckList
  | .main => { deck with mainDeck := deck.mainDeck ++ [entry] }
  | .sideboard => { deck with sideboard := deck.sideboard ++ [entry] }
  | .commander => { deck with commanders := deck.commanders ++ [entry] }

theorem entries_push (deck : DeckList) (entry : DeckEntry)
    (target kind : DeckSection) :
    (deck.push entry target).entries kind =
      deck.entries kind ++ if target = kind then [entry] else [] := by
  cases target <;> cases kind <;> simp [push, entries]

/-- A deck is the entries of its sections. -/
theorem ext_entries {deck other : DeckList}
    (hentries : ∀ kind, deck.entries kind = other.entries kind) :
    deck = other := by
  have hmain := hentries .main
  have hsideboard := hentries .sideboard
  have hcommanders := hentries .commander
  cases deck
  cases other
  simp_all [entries]

end DeckList

/-- What reading a deck file gives. -/
structure DeckParseResult where
  deckList : DeckList := {}
  problems : List ImportProblem := []
deriving DecidableEq

namespace DeckLoader

/-- The local variables of the loop over the lines. -/
structure Reading extends DeckParseResult where
  currentSection : DeckSection := .main

/-- Whether a text occurs in a line. -/
def occursIn (text line : List Char) : Bool := decide (text <:+: line)

/-- The section a header names, if it names one. -/
def sectionNamed (line : List Char) : Option DeckSection :=
  if occursIn "Sideboard".toList line then some .sideboard
  else if occursIn "Commander".toList line then some .commander
  else if occursIn "Main".toList line then some .main
  else none

/-- What stands before the pipe that introduces a set. -/
def nameText (rest : List Char) : List Char :=
  match splitOnce '|' rest with
  | some (name, _) => trim name
  | none => trim rest

/-- The name without the plus sign of a foil card. -/
def stripFoil (name : List Char) : List Char :=
  if name.getLast? = some '+' then trim name.dropLast else name

/-- A count, a space and a name. -/
def parseEntry (line : List Char) : Option DeckEntry :=
  match splitOnce ' ' line with
  | some (countStr, rest) =>
      match parseU8 countStr with
      | some count =>
          let cardName := stripFoil (nameText rest)
          if cardName.isEmpty then none else some { cardName, count }
      | none => none
  | none => none

/-- One line of the file. -/
def readLine (reading : Reading) (originalLine : List Char) : Reading :=
  let line := trim originalLine
  if line.isEmpty || line.head? == some '#' then reading
  else if line.head? == some '[' then
    { reading with
      currentSection := (sectionNamed line).getD reading.currentSection }
  else if line.contains '=' && !line.head?.any Char.isDigit then reading
  else
    match parseEntry line with
    | some entry =>
        { reading with
          deckList := reading.deckList.push entry reading.currentSection }
    | none =>
        { reading with
          problems := reading.problems ++ [.parseFail originalLine] }

/-- `parse_with_problems`. -/
def parseWithProblems (content : List Char) : DeckParseResult :=
  ((lines content).foldl readLine {}).toDeckParseResult

/-- The problem of an entry whose card is not known. -/
def missing (known : List Char → Bool) (entry : DeckEntry) :
    Option ImportProblem :=
  if known entry.cardName then none
  else some (.cardMissing entry.cardName
    (showU8 entry.count ++ ' ' :: entry.cardName))

/-- `validate_cards`. -/
def validateCards (deck : DeckList) (known : List Char → Bool) :
    List ImportProblem :=
  deck.mainDeck.filterMap (missing known) ++
    deck.sideboard.filterMap (missing known)

end DeckLoader

namespace DeckList

/-- The line an entry is written on. -/
def entryLine (entry : DeckEntry) : List Char :=
  showU8 entry.count ++ ' ' :: entry.cardName

/-- A section with its header; a section that may be left out is, when it is
empty. -/
def sectionLines (header : String) (always : Bool)
    (entries : List DeckEntry) : List (List Char) :=
  if entries.isEmpty && !always then []
  else [] :: header.toList :: entries.map entryLine

/-- `to_dck_format`. -/
def toDckFormat (deck : DeckList) (name : Option (List Char)) : List Char :=
  unlines ("[metadata]".toList ::
    ("Name=".toList ++ name.getD "Deck".toList) ::
    (sectionLines "[Commander]" false deck.commanders ++
      sectionLines "[Main]" true deck.mainDeck ++
      sectionLines "[Sideboard]" false deck.sideboard))

end DeckList

end DeepScry
