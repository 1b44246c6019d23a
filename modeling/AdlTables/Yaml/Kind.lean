import AdlTables.Text.Blank
import AdlTables.Text.Number
import AdlTables.Text.Split
import AdlTables.Yaml.Kind.Timestamp

/-! # Kinds of nodes

What a node of a YAML document is read as. A tag names a kind; a plain scalar without a tag has the
kind that its characters show, by the rules of version 1.1 of the format.
-/

namespace AdlTables.Yaml

/-- What a node is read as. -/
inductive Kind where
  | null
  | bool
  | int
  | float
  | text
  | bytes
  | timestamp
  | list
  | mapping
  | set
  | pairs
  /-- A key whose value is merged into the mapping. -/
  | merge
  /-- A key whose value stands for the mapping where a scalar is asked for. -/
  | standIn
  /-- A kind that nothing can be read as. -/
  | unknown
deriving DecidableEq, Repr

namespace Kind

def standardStart : String := "tag:yaml.org,2002:"

/-- The kinds that have a standard tag, by the end of the tag. -/
def standard : List (String × Kind) := [
  ("null", null), ("bool", bool), ("int", int), ("float", float), ("str", text), ("binary", bytes),
  ("timestamp", timestamp), ("seq", list), ("map", mapping), ("set", set), ("omap", pairs),
  ("pairs", pairs), ("merge", merge), ("value", standIn)]

def ofTag (tag : String) : Kind :=
  match standard.find? fun entry => standardStart ++ entry.1 == tag with
  | some entry => entry.2
  | none => unknown

/-- The words that are truth values, in small letters. -/
def truthWords : List (String × Bool) := [
  ("yes", true), ("no", false), ("true", true), ("false", false), ("on", true), ("off", false)]

/-- A word of small ASCII letters with its first letter, or all of them, made capital. -/
def spellings (word : String) : List String :=
  let chars := word.toList
  [word, String.ofList (chars.take 1 |>.map Char.toUpper) ++ String.ofList (chars.drop 1),
    String.ofList (chars.map Char.toUpper)]

/-- Whether characters are a sign that may be left out and what a test accepts. -/
def signed (test : List Char → Bool) : List Char → Bool
  | '-' :: rest => test rest
  | '+' :: rest => test rest
  | chars => test chars

/-- Digits and the sign that parts groups of them. -/
def isDigitOrBar (c : Char) : Bool :=
  Text.isDigit c || c == '_'

/-- Whether characters start with a digit and go on with digits in groups. -/
def isDigits : List Char → Bool
  | c :: rest => Text.isDigit c && rest.all isDigitOrBar
  | [] => false

/-- Whether characters are a number below sixty in at most two digits. -/
def isSixtieth : List Char → Bool
  | [c] => Text.isDigit c
  | [c, d] => '0' ≤ c && c ≤ '5' && Text.isDigit d
  | _ => false

/-- Whether parts are what colons divide in a number to the base sixty, but for its first part. -/
def areSixtieths (parts : List (List Char)) : Bool :=
  !parts.isEmpty && parts.all isSixtieth

/-- Whether characters are nonempty and all from a set. -/
def allOf (test : Char → Bool) (chars : List Char) : Bool :=
  !chars.isEmpty && chars.all test

/-- Whether characters are a whole number behind its sign. -/
def isWhole : List Char → Bool
  | ['0'] => true
  | '0' :: 'b' :: rest => allOf (fun c => c == '0' || c == '1' || c == '_') rest
  | '0' :: 'x' :: rest => allOf (fun c => (Text.digitValue? c).isSome || c == '_') rest
  | '0' :: rest => allOf (fun c => ('0' ≤ c && c ≤ '7') || c == '_') rest
  | chars => match Text.split ':' chars with
    | first :: others => isDigits first && (others.isEmpty || areSixtieths others)
    | [] => false

/-- Whether characters are nothing or an exponent of ten, which has a sign. -/
def isExponent : List Char → Bool
  | [] => true
  | e :: sign :: digits =>
    (e == 'e' || e == 'E') && (sign == '-' || sign == '+') && allOf Text.isDigit digits
  | _ => false

/-- Whether characters are what may follow the point of a number. -/
def isFraction (chars : List Char) : Bool :=
  isExponent (chars.dropWhile isDigitOrBar)

/-- Whether characters are a number with a point behind its sign. -/
def isPointed (chars : List Char) : Bool :=
  let whole := chars.takeWhile (· != '.')
  let rest := chars.drop whole.length
  if rest.isEmpty then false
  else if isDigits whole then isFraction rest.tail
  else match Text.split ':' whole with
    | first :: others => isDigits first && areSixtieths others && rest.tail.all isDigitOrBar
    | [] => false

/-- Whether characters are a number that has only a fraction. -/
def isPureFraction : List Char → Bool
  | '.' :: c :: rest => Text.isDigit c && isFraction rest
  | _ => false

def isPointWord (words : List String) : List Char → Bool
  | '.' :: rest => words.contains (String.ofList rest)
  | _ => false

/-- Whether characters are a number that is not whole. -/
def isFloat (chars : List Char) : Bool :=
  signed isPointed chars || isPureFraction chars || signed (isPointWord (spellings "inf")) chars
    || isPointWord ["nan", "NaN", "NAN"] chars

/-- The kind that the characters of a plain scalar show; a line feed that ends them counts for
nothing. -/
def ofPlain (s : String) : Kind :=
  let chars := Text.dropLineEnd s.toList
  let word := String.ofList chars
  if truthWords.any fun (known, _) => (spellings known).contains word then bool
  else if isFloat chars then float
  else if signed isWhole chars then int
  else if word == "<<" then merge
  else if word == "" || word == "~" || (spellings "null").contains word then null
  else if Timestamp.isPlain chars then timestamp
  else if word == "=" then standIn
  else text

end Kind

end AdlTables.Yaml
