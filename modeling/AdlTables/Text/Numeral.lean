import AdlTables.Text.Blank
import AdlTables.Text.Number

/-! # Numerals

Numbers as a document may write them under a tag: with blanks around them, behind a sign, and in the
digits of any script. The digits are those of version 14 of the character standard.
-/

namespace AdlTables.Text

/-- The code points of the zeros; the other nine digits of a script follow its zero. -/
def digitZeros : List Nat := [
    0x30, 0x660, 0x6F0, 0x7C0, 0x966, 0x9E6, 0xA66, 0xAE6, 0xB66, 0xBE6, 0xC66, 0xCE6, 0xD66, 0xDE6,
    0xE50, 0xED0, 0xF20, 0x1040, 0x1090, 0x17E0, 0x1810, 0x1946, 0x19D0, 0x1A80, 0x1A90, 0x1B50,
    0x1BB0, 0x1C40, 0x1C50, 0xA620, 0xA8D0, 0xA900, 0xA9D0, 0xA9F0, 0xAA50, 0xABF0, 0xFF10, 0x104A0,
    0x10D30, 0x11066, 0x110F0, 0x11136, 0x111D0, 0x112F0, 0x11450, 0x114D0, 0x11650, 0x116C0,
    0x11730, 0x118E0, 0x11950, 0x11C50, 0x11D50, 0x11DA0, 0x16A60, 0x16AC0, 0x16B50, 0x1D7CE,
    0x1D7D8, 0x1D7E2, 0x1D7EC, 0x1D7F6, 0x1E140, 0x1E2F0, 0x1E950, 0x1FBF0]

/-- The value of a digit of base ten in any script. -/
def scriptDigit? (c : Char) : Option Nat :=
  (digitZeros.find? fun start => start ≤ c.toNat && c.toNat < start + 10).map (c.toNat - ·)

/-- Whether a character is a digit of base ten in any script. -/
def isScriptDigit (c : Char) : Bool :=
  (scriptDigit? c).isSome

namespace Numeral

/-- A character as a numeral is read: digits and blanks outside the seven-bit range become those
inside it. -/
def plainChar (c : Char) : Char :=
  if c.toNat < 128 then c
  else if isBlank c then ' '
  else match scriptDigit? c with
    | some d => Char.ofNat ('0'.toNat + d)
    | none => c

/-- The seven-bit blanks. -/
def isPadding (c : Char) : Bool :=
  c == ' ' || (9 ≤ c.toNat && c.toNat ≤ 13)

/-- The characters of a numeral without the blanks around it. -/
def plain (chars : List Char) : List Char :=
  (((chars.map plainChar).dropWhile isPadding).reverse.dropWhile isPadding).reverse

/-- The sign in front of characters, and those behind it. -/
def splitSign : List Char → Bool × List Char
  | '-' :: rest => (true, rest)
  | '+' :: rest => (false, rest)
  | chars => (false, chars)

def mark? (base : Nat) : Option Char :=
  if base = 2 then some 'b' else if base = 8 then some 'o' else if base = 16 then some 'x' else none

/-- Characters without the mark of a base, a zero and a letter, where they start with it. -/
def dropMark (base : Nat) (chars : List Char) : List Char :=
  match chars with
  | '0' :: c :: rest => if mark? base == some c.toLower then rest else chars
  | _ => chars

end Numeral

/-- The whole number that a numeral of a base spells, behind a sign and the mark of the base, which
may be left out; one of base ten has no more digits than a number may be written with. -/
def integer? (base : Nat) (chars : List Char) : Option Int := do
  let (negative, digits) := Numeral.splitSign (Numeral.plain chars)
  let digits := Numeral.dropMark base digits
  let n ← if base = 10 && digits.length > mostDigits then none else number? base digits
  return if negative then -(n : Int) else n

end AdlTables.Text
