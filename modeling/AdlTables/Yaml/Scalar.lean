import AdlTables.Fault
import AdlTables.Text.Base64
import AdlTables.Text.Case
import AdlTables.Text.Numeral
import AdlTables.Yaml.Kind

/-! # Scalars

The values that the texts of scalar nodes stand for, kind by kind. A text that shows its kind by its
characters can still lack a value, as a day that no month has; a text under a tag can be anything,
and is read as far as its kind allows.
-/

namespace AdlTables.Yaml.Scalar

open Text (Numeral.plain Numeral.splitSign)

/-- What an option holds; a text without a value lies outside what its kind accepts. -/
def orOutside {α : Type} : Option α → Except Cause α
  | some a => .ok a
  | none => Cause.breakDown .badValue

/-- The characters of a number without the bars that part groups of digits; there has to be one. -/
def digits (s : String) : Except Cause (List Char) :=
  let chars := s.toList.filter (· != '_')
  if chars.isEmpty then Cause.breakDown .missingItem else .ok chars

/-- The number that parts to the base of sixty make, the first part counting most. -/
def ofSixtieths (parts : List Int) : Int :=
  parts.foldl (fun total part => total * 60 + part) 0

/-- A whole number behind its sign. -/
def whole : List Char → Except Cause Int
  | [] => Cause.breakDown .missingItem
  | ['0'] => .ok 0
  | '0' :: 'b' :: rest => orOutside (Text.integer? 2 rest)
  | '0' :: 'x' :: rest => orOutside (Text.integer? 16 rest)
  | '0' :: rest => orOutside (Text.integer? 8 ('0' :: rest))
  | chars => do
    return ofSixtieths (← (Text.split ':' chars).mapM fun part => orOutside (Text.integer? 10 part))

/-- A whole number. -/
def int (s : String) : Except Cause Value := do
  let (negative, chars) := Numeral.splitSign (← digits s)
  let i ← whole chars
  return .int (if negative then -i else i)

/-- The power of ten behind a number. -/
def exponent? : List Char → Option Int
  | [] => some 0
  | e :: rest => do
    let (negative, digits) := Numeral.splitSign rest
    let n ← Text.number? 10 digits
    if e = 'e' then some (if negative then -(n : Int) else n) else none

/-- A number in decimal notation, without its sign. -/
def decimal? (chars : List Char) : Option Binary64 := do
  let whole := chars.takeWhile Text.isDigit
  let rest := chars.drop whole.length
  let fraction := match rest with
    | '.' :: rest => rest.takeWhile Text.isDigit
    | _ => []
  let rest := match rest with
    | '.' :: rest => rest.dropWhile Text.isDigit
    | rest => rest
  if whole.isEmpty && fraction.isEmpty then none
  else
    let power ← exponent? rest
    return Binary64.ofDecimal false (Text.natural (whole ++ fraction)) (power - fraction.length)

/-- The words for numbers that are not finite. -/
def words : List (String × Binary64) := [
  ("inf", Binary64.infinity false), ("infinity", Binary64.infinity false), ("nan", Binary64.nan)]

/-- A number under a sign. -/
def negate (negative : Bool) (x : Binary64) : Binary64 :=
  if negative then ⟨x.bits ^^^ 0x8000000000000000⟩ else x

/-- A number in small letters, by word or in decimal notation, behind a sign that may be left
out. -/
def number? (chars : List Char) : Option Binary64 := do
  let (negative, chars) := Numeral.splitSign (Numeral.plain chars)
  let x ← match words.lookup (String.ofList chars) with
    | some x => some x
    | none => decimal? chars
  return negate negative x

/-- The sum of numbers times the powers of sixty from the given one on; a power has to lie within
the range of the format. -/
def addSixtieths (total : Float) (power : Nat) : List Binary64 → Except Cause Binary64
  | [] => .ok ⟨total.toBits⟩
  | part :: rest =>
    if power ≥ Decimal.twoTo 1024 then Cause.breakDown .tooLarge
    else
      let factor := Binary64.ofFraction false power 1
      addSixtieths (total + Float.ofBits part.bits * Float.ofBits factor.bits) (power * 60) rest

/-- A number behind its sign that need not be whole. -/
def broken (chars : List Char) : Except Cause Binary64 :=
  if chars == ".inf".toList then .ok (Binary64.infinity false)
  else match Text.split ':' chars with
    | [part] => orOutside (number? part)
    | parts => do addSixtieths 0 1 (← parts.mapM fun part => orOutside (number? part)).reverse

/-- A number that need not be whole. One that is none is made for the node, unless it is the one of
the standard word. -/
def float (node : Nat) (s : String) : Except Cause Value := do
  let (negative, chars) := Numeral.splitSign (← digits (Text.lower s))
  if chars == ".nan".toList then return .nan .yaml
  let x := negate negative (← broken chars)
  return if x.view = .nan then .nan (.made [] node) else .float x

def bool (s : String) : Except Cause Value :=
  match Kind.truthWords.lookup (Text.lower s) with
  | some b => .ok (.bool b)
  | none => Cause.breakDown (.missingKey (Text.lower s))

/-- A day or a moment; a line feed at the end counts for nothing. -/
def timestamp (s : String) : Except Cause Value :=
  match Timestamp.ofChars? (Text.dropLineEnd s.toList) with
  | some t => if t.isValid then .ok (.time t) else Cause.breakDown .badValue
  | none => Cause.breakDown .noMember

def bytes (s : String) : Except Cause Value :=
  if s.toList.any fun c => c.toNat ≥ 0x80 then Cause.malformed
  else match Text.Base64.decode? s with
    | some bs => .ok (.bytes bs)
    | none => Cause.malformed

/-- The value of a node with a text under a kind of scalars, if it is one. -/
def value? (node : Nat) (kind : Kind) (text : String) : Option (Except Cause Value) :=
  match kind with
  | .null => some (.ok .null)
  | .bool => some (bool text)
  | .int => some (int text)
  | .float => some (float node text)
  | .text => some (.ok (.text text))
  | .bytes => some (bytes text)
  | .timestamp => some (timestamp text)
  | _ => none

end AdlTables.Yaml.Scalar
