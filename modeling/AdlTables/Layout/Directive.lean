import AdlTables.Decimal.Places
import AdlTables.Text.Number
import AdlTables.Value.Print

/-! # Directives

How one field of a layout is written: as a text, as a literal, as a whole number to a base, as a
number with places behind the point, or as a character, and at a width. Zeros fill a number between
its sign or mark and its digits, blanks fill anything at its outer end.
-/

namespace AdlTables.Layout

/-- How a field is written. -/
structure Directive where
  name : String
  flags : List Char
  width : Nat
  places : Option Nat
  form : Char
deriving DecidableEq, Repr

/-- What a value is written as: a sign, the mark of a base, and the rest. -/
structure Written where
  sign : List Char
  mark : List Char
  body : List Char
  isNumber : Bool

namespace Directive

def has (d : Directive) (flag : Char) : Bool :=
  d.flags.contains flag

/-- The sign in front of a number: that of a positive number is shown on request. -/
def signOf (d : Directive) (isNegative : Bool) : List Char :=
  if isNegative then ['-'] else if d.has '+' then ['+'] else if d.has ' ' then [' '] else []

/-- A text, cut to a number of places where one is given. -/
def text (d : Directive) (s : String) : Written :=
  ⟨[], [], match d.places with
    | some n => s.toList.take n
    | none => s.toList, false⟩

/-- A whole number to a base, with at least so many digits as places are given. -/
def whole (d : Directive) (base : Nat) (mark : List Char) (i : Int) : Written :=
  let digits := Nat.toDigits base i.natAbs
  let digits := List.replicate ((d.places.getD 0) - digits.length) '0' ++ digits
  let digits := if d.form = 'X' then digits.map Char.toUpper else digits
  ⟨d.signOf (i < 0), if d.has '#' then mark else [], digits, true⟩

/-- A number in the form of one that need not be whole. -/
def broken (d : Directive) (write : Bool → Nat → Nat → List Char) (i : Int) : Written :=
  ⟨d.signOf (i < 0), [], write (d.has '#') (d.places.getD 6) i.natAbs, true⟩

/-- The literal form of a text with the codes of all characters outside the seven-bit range. -/
def coded (s : String) : String :=
  String.join (s.toList.map fun c =>
    if c.toNat < 0x80 then String.singleton c else Text.Quoted.escapeCode c)

/-- A character, or the one with a code. -/
def character? : Value → Option Written
  | .int i => if 0 ≤ i && i < 0x110000 then some ⟨[], [], [Char.ofNat i.toNat], false⟩ else none
  | .text s => match s.toList with
    | [c] => some ⟨[], [], [c], false⟩
    | _ => none
  | _ => none

/-- What a value is written as under a letter, if it can be. -/
def written? (d : Directive) (v : Value) : Option Written :=
  match d.form, v with
  | 's', v => some (d.text v.display)
  | 'r', v => some (d.text v.literal)
  | 'a', v => some (d.text (coded v.literal))
  | 'c', v => character? v
  | 'd', .int i | 'i', .int i | 'u', .int i => some (d.whole 10 [] i)
  | 'o', .int i => some (d.whole 8 ['0', 'o'] i)
  | 'x', .int i | 'X', .int i => some (d.whole 16 ['0', d.form] i)
  | 'f', .int i | 'F', .int i => some (d.broken Decimal.fixed i)
  | 'e', .int i | 'E', .int i => some (d.broken (Decimal.withPower d.form) i)
  | 'g', .int i => some (d.broken (Decimal.general 'e') i)
  | 'G', .int i => some (d.broken (Decimal.general 'E') i)
  | _, _ => none

/-- What is written, at the width of a directive. -/
def pad (d : Directive) (w : Written) : String :=
  let missing := d.width - (w.sign.length + w.mark.length + w.body.length)
  let fill (c : Char) (isHere : Bool) : List Char := if isHere then List.replicate missing c else []
  let zeros := w.isNumber && d.has '0'
  let left := d.has '-'
  String.ofList (fill ' ' (!zeros && !left) ++ w.sign ++ w.mark ++ fill '0' (zeros && !left)
    ++ w.body ++ fill ' ' left)

/-- The text of a value, if a directive can write it. -/
def write? (d : Directive) (v : Value) : Option String :=
  (d.written? v).map d.pad

end Directive

end AdlTables.Layout
