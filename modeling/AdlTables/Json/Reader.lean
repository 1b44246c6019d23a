import AdlTables.Fault
import AdlTables.Text.Number

/-! # Reading JSON

The value that a JSON text denotes. Beside the standard's grammar the three names of numbers that
are not finite are read. Whole numbers are exact, of any size up to a limit on their digits; of
entries with one key the last counts, in the place of the first. Control characters stand in no
text, and nothing but blanks follows the value. Values are nested so far and no further.
-/

namespace AdlTables.Json

open Cause (malformed)

/-- Characters that yield a value and leave a rest, or why they do not. -/
abbrev Reading (α : Type) := Except Cause (α × List Char)

/-- Blanks between the parts of a value. -/
def isSpace (c : Char) : Bool :=
  c == ' ' || c == '\t' || c == '\n' || c == '\r'

/-- Characters without the blanks in front. -/
def skip (cs : List Char) : List Char :=
  cs.dropWhile isSpace

/-- The characters behind a given start. -/
def after? : List Char → List Char → Option (List Char)
  | [], cs => some cs
  | _ :: _, [] => none
  | x :: xs, c :: cs => if x = c then after? xs cs else none

def simpleEscape? (c : Char) : Option Char :=
  if c = '\x22' || c = '\\' || c = '/' then some c
  else if c = 'b' then some '\x08'
  else if c = 'f' then some '\x0c'
  else if c = 'n' then some '\n'
  else if c = 'r' then some '\r'
  else if c = 't' then some '\t'
  else none

/-- The code unit that four digits of base sixteen spell. -/
def unit? : List Char → Option (Nat × List Char)
  | a :: b :: c :: d :: rest => (Text.number? 16 [a, b, c, d]).map fun n => (n, rest)
  | _ => none

/-- Code units of the first half of a pair. -/
def isHigh (n : Nat) : Bool :=
  0xD800 ≤ n && n ≤ 0xDBFF

/-- Code units of the second half of a pair. -/
def isLow (n : Nat) : Bool :=
  0xDC00 ≤ n && n ≤ 0xDFFF

/-- The character of an escaped code unit, joined with the escaped unit behind it if the two are a
pair; half a pair alone stands for the replacement character. -/
def unitEscape? (cs : List Char) : Option (Char × List Char) := do
  let (n, rest) ← unit? cs
  if isHigh n then
    match rest with
    | '\\' :: 'u' :: more =>
      let (low, final) ← unit? more
      if isLow low then
        return (Char.ofNat (0x10000 + (n - 0xD800) * 0x400 + (low - 0xDC00)), final)
      else return (Char.ofNat 0xFFFD, rest)
    | _ => return (Char.ofNat 0xFFFD, rest)
  else if isLow n then return (Char.ofNat 0xFFFD, rest)
  else return (Char.ofNat n, rest)

/-- The rest of a text behind its opening quote; `done` holds what was read, the last first. -/
def textFrom : Nat → List Char → List Char → Reading String
  | 0, _, _ => malformed
  | fuel + 1, done, cs => match cs with
    | [] => malformed
    | '\x22' :: rest => .ok (String.ofList done.reverse, rest)
    | '\\' :: 'u' :: rest => match unitEscape? rest with
      | some (c, rest) => textFrom fuel (c :: done) rest
      | none => malformed
    | '\\' :: c :: rest => match simpleEscape? c with
      | some e => textFrom fuel (e :: done) rest
      | none => malformed
    | c :: rest => if c.toNat < 32 then malformed else textFrom fuel (c :: done) rest

/-- The digits behind a mark, if there are any. -/
def digitsAfter (isMark : Char → Bool) (cs : List Char) : Option (List Char × List Char) :=
  match cs with
  | c :: rest =>
    let digits := rest.takeWhile Text.isDigit
    if isMark c && !digits.isEmpty then some (digits, rest.dropWhile Text.isDigit) else none
  | [] => none

/-- The exponent in front of the characters, if there is one. -/
def exponent? (cs : List Char) : Option (Int × List Char) :=
  match cs with
  | e :: '-' :: rest =>
    if e == 'e' || e == 'E' then
      (digitsAfter (fun _ => true) ('-' :: rest)).map fun (ds, r) => (-(Text.natural ds : Int), r)
    else none
  | e :: '+' :: rest =>
    if e == 'e' || e == 'E' then
      (digitsAfter (fun _ => true) ('+' :: rest)).map fun (ds, r) => ((Text.natural ds : Int), r)
    else none
  | cs => (digitsAfter (fun c => c == 'e' || c == 'E') cs).map fun (ds, r) => (Text.natural ds, r)

/-- The number in front of the characters, behind its sign. -/
def number (negative : Bool) (cs : List Char) : Reading Value :=
  let whole : List Char := match cs with
    | '0' :: _ => ['0']
    | cs => cs.takeWhile Text.isDigit
  if whole.isEmpty then malformed
  else
    let rest := cs.drop whole.length
    let (fraction, rest, isWhole) := match digitsAfter (· == '.') rest with
      | some (ds, r) => (ds, r, false)
      | none => ([], rest, true)
    let (power, rest, isWhole) := match exponent? rest with
      | some (e, r) => (e, r, false)
      | none => (0, rest, isWhole)
    if isWhole then
      if whole.length > Text.mostDigits then Cause.breakDown .badValue
      else
        let n : Int := Text.natural whole
        .ok (.int (if negative then -n else n), rest)
    else
      .ok (.float (Binary64.ofDecimal negative (Text.natural (whole ++ fraction))
        (power - fraction.length)), rest)

def words : List (String × Value) := [
  ("null", .null), ("true", .bool true), ("false", .bool false), ("NaN", .nan .json),
  ("Infinity", .float (Binary64.infinity false)), ("-Infinity", .float (Binary64.infinity true))]

/-- The word or number in front of the characters. -/
def plain (cs : List Char) : Reading Value :=
  match words.findSome? fun (word, v) => (after? word.toList cs).map fun rest => (v, rest) with
  | some found => .ok found
  | none => match cs with
    | '-' :: rest => number true rest
    | cs => number false cs

mutual

/-- The value in front of the characters; so many lists and objects may be opened inside each
other. -/
def value : Nat → Nat → List Char → Except Cause (Value × List Char)
  | 0, _, _ => malformed
  | fuel + 1, room, cs => match cs with
    | '\x22' :: rest => do
      let (s, rest) ← textFrom rest.length.succ [] rest
      return (.text s, rest)
    | '\x5b' :: rest => match room with
      | 0 => Cause.breakDown .tooDeep
      | room + 1 => match skip rest with
        | '\x5d' :: rest => .ok (.list [], rest)
        | rest => items fuel room [] rest
    | '\x7b' :: rest => match room with
      | 0 => Cause.breakDown .tooDeep
      | room + 1 => match skip rest with
        | '\x7d' :: rest => .ok (.mapping [], rest)
        | rest => members fuel room [] rest
    | cs => plain cs

/-- The items of a list up to its end; `done` holds those read, the last first. -/
def items : Nat → Nat → List Value → List Char → Except Cause (Value × List Char)
  | 0, _, _, _ => malformed
  | fuel + 1, room, done, cs => do
    let (v, rest) ← value fuel room cs
    match skip rest with
    | ',' :: rest => items fuel room (v :: done) (skip rest)
    | '\x5d' :: rest => .ok (.list (v :: done).reverse, rest)
    | _ => malformed

/-- The members of an object up to its end; `done` holds those read, the last first. -/
def members : Nat → Nat → List (Value × Value) → List Char →
    Except Cause (Value × List Char)
  | 0, _, _, _ => malformed
  | fuel + 1, room, done, cs => match cs with
    | '\x22' :: rest => do
      let (key, rest) ← textFrom rest.length.succ [] rest
      match skip rest with
      | ':' :: rest => do
        let (v, rest) ← value fuel room (skip rest)
        match skip rest with
        | ',' :: rest => members fuel room ((.text key, v) :: done) (skip rest)
        | '\x7d' :: rest =>
          .ok (.mapping (Entries.ofList ((.text key, v) :: done).reverse), rest)
        | _ => malformed
      | _ => malformed
    | _ => malformed

end

/-- The most lists and objects inside each other. -/
def mostLevels : Nat := 985

/-- The value that a whole text denotes. -/
def read (s : String) : Except Cause Value := do
  let cs := skip s.toList
  let (v, rest) ← value (2 * cs.length + 1) mostLevels cs
  if (skip rest).isEmpty then return v else malformed

end AdlTables.Json
