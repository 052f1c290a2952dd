/-
The cost of an ability as text: a cost with a sacrifice or a payment of life
is taken apart at its spaces, any other is read in one piece.
-/
import DeepScry.CostText
import DeepScry.Effects
import DeepScry.TextInfix

namespace DeepScry

open TextLines

/-- `parse::<i32>`: digits after an optional sign. -/
def parseI32 (text : List Char) : Option Int32 :=
  let negative := text.head? == some '-'
  let digits :=
    if negative || text.head? == some '+' then text.tail else text
  if digits.isEmpty || !digits.all Char.isDigit then none
  else
    let value := Nat.ofDigitChars 10 digits 0
    if negative then
      if value ≤ 2 ^ 31 then some (Int32.ofInt (-value)) else none
    else if value < 2 ^ 31 then some (Int32.ofNat value) else none

/-- What stands between the brackets after a name. -/
def bracketed (name text : List Char) : Option (List Char) :=
  if name ++ ['<'] <+: text ∧ text.getLast? = some '>' then
    some (text.drop (name.length + 1)).dropLast
  else none

/-- A digit or the letter of a colour. -/
def isManaChar (c : Char) : Bool :=
  c.isDigit || ['W', 'U', 'B', 'R', 'G'].contains c

namespace Cost

/-- `"Sac<N/Type>"` or `"Sac<N/Type/description>"`. -/
def parseSacrifice (text : List Char) : Option Cost :=
  (bracketed ['S', 'a', 'c'] text).bind fun spec =>
    match spec.splitOn '/' with
    | count :: cardType :: _ => (parseU8 count).map fun count =>
        .sacrificePattern count (String.ofList cardType)
    | _ => none

def parsePayLife (text : List Char) : Option Cost :=
  (bracketed ['P', 'a', 'y', 'L', 'i', 'f', 'e'] text).bind fun amount =>
    (parseI32 amount).map .payLife

def parseDiscard (text : List Char) : Option Cost :=
  (bracketed ['D', 'i', 's', 'c', 'a', 'r', 'd'] text).bind fun _ =>
    if contains text ['H', 'a', 'n', 'd'] then some .discardHand else none

def loyaltyName : List Char := ['L', 'O', 'Y', 'A', 'L', 'T', 'Y']

/-- The number before the first slash, in a text about loyalty. -/
def parseLoyalty (name : List Char) (cost : UInt8 → Cost)
    (text : List Char) : Option Cost :=
  (bracketed name text).bind fun spec =>
    if contains text loyaltyName then
      (spec.splitOn '/').head?.bind fun amount => (parseU8 amount).map cost
    else none

def addCounterName : List Char :=
  ['A', 'd', 'd', 'C', 'o', 'u', 'n', 't', 'e', 'r']

def subCounterName : List Char :=
  ['S', 'u', 'b', 'C', 'o', 'u', 'n', 't', 'e', 'r']

def parseAddLoyalty : List Char → Option Cost :=
  parseLoyalty addCounterName .addLoyalty

def parseSubLoyalty : List Char → Option Cost :=
  parseLoyalty subCounterName .subLoyalty

def parseWaterbend (text : List Char) : Option Cost :=
  (bracketed ['W', 'a', 't', 'e', 'r', 'b', 'e', 'n', 'd'] text).bind
    fun amount => (parseU8 amount).map .waterbend

/-- `split_whitespace`. -/
def splitWhitespace (text : List Char) : List (List Char) :=
  (text.splitOnP isWhitespace).filter fun part => !part.isEmpty

/-- `"T"` or `"Tap"`. -/
def isTapText (text : List Char) : Bool :=
  text == ['T'] || text == ['T', 'a', 'p']

/-- Everything but the taps of a text with a tap after a space is mana. -/
def parseTapMana (text : List Char) : Option Cost :=
  if contains text [' ', 'T'] || contains text [' ', 'T', 'a', 'p'] then
    let manaParts := (splitWhitespace text).filter fun part => !isTapText part
    if manaParts.isEmpty then none
    else some (.tapAndMana
      (ManaCost.fromString (String.ofList (join ' ' manaParts))))
  else none

def parseMana (text : List Char) : Option Cost :=
  if text.any isManaChar then
    let manaCost := ManaCost.fromString (String.ofList text)
    if 0 < manaCost.cmc then some (.mana manaCost) else none
  else none

section Parsing

variable (parseCounter : List Char → Option CounterType)

def parseSubCounter (text : List Char) : Option Cost :=
  (bracketed subCounterName text).bind fun spec =>
    match spec.splitOn '/' with
    | amount :: counter :: _ =>
        match parseU8 amount, parseCounter counter with
        | some amount, some counterType => some (.subCounter amount counterType)
        | _, _ => none
    | _ => none

/-- `parse_single`; `parseCounter` is `CounterType::parse`. -/
def parseSingle (text : List Char) : Option Cost :=
  if isTapText text then some .tap
  else if text == ['Q'] || text == ['U', 'n', 't', 'a', 'p'] then some .untap
  else
    [parseSacrifice, parsePayLife, parseDiscard, parseAddLoyalty,
      parseSubLoyalty, parseSubCounter parseCounter, parseWaterbend,
      parseTapMana, parseMana].findSome? fun parser => parser text

/-- The pieces of a text: whitespace ends one, but not between brackets. -/
def pieces : List Char → List Char → Bool → List (List Char)
  | [], current, _ => if current.isEmpty then [] else [current]
  | c :: rest, current, inAngleBrackets =>
      if c = '<' then pieces rest (current ++ [c]) true
      else if c = '>' then pieces rest (current ++ [c]) false
      else if isWhitespace c && !inAngleBrackets then
        (if current.isEmpty then [] else [current]) ++
          pieces rest [] inAngleBrackets
      else pieces rest (current ++ [c]) inAngleBrackets

/-- One piece: a cost other than mana, or a part of the mana. -/
def readPiece (read : List Cost × List (List Char)) (piece : List Char) :
    List Cost × List (List Char) :=
  if isTapText piece then read
  else
    match parseSingle parseCounter piece with
    | some (.mana _) => (read.1, read.2 ++ [piece])
    | some cost => (read.1 ++ [cost], read.2)
    | none =>
        if piece.any isManaChar then (read.1, read.2 ++ [piece]) else read

/-- The mana of a cost and its tap, together where both are there. -/
def manaAndTap (manaParts : List (List Char)) (hasTap : Bool) : List Cost :=
  let manaCost := if manaParts.isEmpty then {}
    else ManaCost.fromString (String.ofList (join ' ' manaParts))
  if hasTap then
    if 0 < manaCost.cmc then [.tapAndMana manaCost] else [.tap]
  else if 0 < manaCost.cmc then [.mana manaCost] else []

def parsePieces (text : List Char) (hasTap : Bool) : List Cost :=
  let read := (pieces text [] false).foldl (readPiece parseCounter) ([], [])
  read.1 ++ manaAndTap read.2 hasTap

/-- A text that is taken apart. -/
def isSplit (text : List Char) : Bool :=
  contains text ['S', 'a', 'c', '<'] ||
    contains text ['P', 'a', 'y', 'L', 'i', 'f', 'e', '<']

/-- A tap somewhere in the text. -/
def hasTap (text : List Char) : Bool :=
  contains text [' ', 'T'] || contains text [' ', 'T', 'a', 'p'] ||
    ['T', ' '].isPrefixOf text || ['T', 'a', 'p', ' '].isPrefixOf text

/-- `Cost::parse`. -/
def parse (text : List Char) : Option Cost :=
  let trimmed := trim text
  if isSplit trimmed && (hasTap trimmed || trimmed.any isManaChar) then
    match parsePieces parseCounter trimmed (hasTap trimmed) with
    | [] => parseSingle parseCounter trimmed
    | [cost] => some cost
    | costs => some (.composite costs)
  else parseSingle parseCounter trimmed

end Parsing

end Cost

end DeepScry
