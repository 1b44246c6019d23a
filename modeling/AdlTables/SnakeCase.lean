import AdlTables.Text.Case
import AdlTables.Fault

/-! # Snake case

Names in small letters with underscores between their words. Three passes place the underscores: in
front of a capital that starts a word of small letters, once only where two stand before a capital,
and between a small letter or digit and a capital. Capitals, small letters and digits are those of
the Latin alphabet; only the last step, lowering, knows all letters.
-/

namespace AdlTables.SnakeCase

def isCapital (c : Char) : Bool :=
  'A' ≤ c && c ≤ 'Z'

/-- Latin small letters. -/
def isSmall (c : Char) : Bool :=
  'a' ≤ c && c ≤ 'z'

def startsSmall : List Char → Bool
  | [] => false
  | c :: _ => isSmall c

/-- Marks each word that starts with a capital and goes on in small letters, except at the very
start, after a line break and right behind the small letters of the word before; `inWord` says that
such a word is being passed. -/
def markWords (inWord : Bool) : List Char → List Char
  | [] => []
  | c :: rest =>
    if inWord && isSmall c then c :: markWords true rest
    else match rest with
      | capital :: tail =>
        if c != '\n' && isCapital capital && startsSmall tail then
          c :: '_' :: capital :: markWords true tail
        else c :: markWords false (capital :: tail)
      | [] => [c]

/-- Leaves one of two underscores in front of a capital. -/
def mergeMarks : List Char → List Char
  | '_' :: '_' :: c :: rest =>
    if isCapital c then '_' :: c :: mergeMarks rest else '_' :: mergeMarks ('_' :: c :: rest)
  | c :: rest => c :: mergeMarks rest
  | [] => []

/-- Whether a capital that follows starts a word. -/
def endsWord (c : Char) : Bool :=
  isSmall c || ('0' ≤ c && c ≤ '9')

/-- Marks each capital behind a small letter or digit. -/
def markCapitals : List Char → List Char
  | c :: capital :: rest =>
    if endsWord c && isCapital capital then c :: '_' :: capital :: markCapitals rest
    else c :: markCapitals (capital :: rest)
  | [c] => [c]
  | [] => []

/-- The name with its words marked. -/
def mark (chars : List Char) : List Char :=
  markCapitals (mergeMarks (markWords false chars))

def convert (s : String) : String :=
  Text.lower (String.ofList (mark s.toList))

/-- A name in snake case, which has to be a text. -/
def ofValue : Value → Except Fault String
  | .text s => .ok (convert s)
  | v => Fault.breakDown (.nameNotText v.kindName)

end AdlTables.SnakeCase
