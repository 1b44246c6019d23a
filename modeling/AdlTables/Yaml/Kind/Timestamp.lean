import AdlTables.Text.Number
import AdlTables.Timestamp

/-! # Timestamps in documents

How YAML documents write days and moments. A number of the month or of the day may have one digit,
unless a plain scalar is a day alone.
-/

namespace AdlTables.Timestamp

/-- A number of at least and at most so many digits, and what follows. -/
def digits? (least most : Nat) (chars : List Char) : Option (Nat × List Char) :=
  let found := (chars.take most).takeWhile Text.isDigit
  if found.length < least then none
  else some (Text.natural found, chars.drop found.length)

def after? (c : Char) : List Char → Option (List Char)
  | x :: rest => if x = c then some rest else none
  | [] => none

/-- The millionths that the digits behind the point of a second give. -/
def micros (digits : List Char) : Nat :=
  let six := digits.take 6
  Text.natural (six ++ List.replicate (6 - six.length) '0')

/-- The zone at the end of a time, in minutes. -/
def zone? : List Char → Option (Option Int)
  | [] => some none
  | ['Z'] => some (some 0)
  | sign :: rest => do
    let factor : Int ← if sign = '+' then some 1 else if sign = '-' then some (-1) else none
    let (hours, rest) ← digits? 1 2 rest
    let minutes ← if rest.isEmpty then some 0 else do
      let (minutes, rest) ← digits? 2 2 (← after? ':' rest)
      if rest.isEmpty then some minutes else none
    return some (factor * (hours * 60 + minutes))

/-- The time behind a day. -/
def clock? (chars : List Char) : Option Clock := do
  let (hour, rest) ← digits? 1 2 chars
  let (minute, rest) ← digits? 2 2 (← after? ':' rest)
  let (second, rest) ← digits? 2 2 (← after? ':' rest)
  let (fraction, rest) := match rest with
    | '.' :: rest => (rest.takeWhile Text.isDigit, rest.dropWhile Text.isDigit)
    | rest => ([], rest)
  let isBlank (c : Char) : Bool := c == ' ' || c == '\t'
  let gap := rest.takeWhile isBlank
  let rest := rest.drop gap.length
  if rest.isEmpty && !gap.isEmpty then none
  else return ⟨hour, minute, second, micros fraction, ← zone? rest⟩

def ofChars? (chars : List Char) : Option Timestamp := do
  let (year, rest) ← digits? 4 4 chars
  let (month, rest) ← digits? 1 2 (← after? '-' rest)
  let (day, rest) ← digits? 1 2 (← after? '-' rest)
  match rest with
  | [] => return ⟨year, month, day, none⟩
  | c :: rest =>
    let isBlank (c : Char) : Bool := c == ' ' || c == '\t'
    if c = 'T' || c = 't' then return ⟨year, month, day, some (← clock? rest)⟩
    else if isBlank c then return ⟨year, month, day, some (← clock? (rest.dropWhile isBlank))⟩
    else none

/-- Whether a plain scalar is a timestamp; a day alone has two digits for month and day. -/
def isPlain (chars : List Char) : Bool :=
  match ofChars? chars with
  | some t => t.clock.isSome || chars.length == 10
  | none => false

end AdlTables.Timestamp
