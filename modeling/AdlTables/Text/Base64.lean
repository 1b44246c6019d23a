/-! # Base 64

Bytes written with sixty-four characters, three bytes in four of them. What is none of these
characters is skipped; the fill sign counts only where it completes a group of four.
-/

namespace AdlTables.Text.Base64

def bits? (c : Char) : Option Nat :=
  if 'A' ≤ c && c ≤ 'Z' then some (c.toNat - 'A'.toNat)
  else if 'a' ≤ c && c ≤ 'z' then some (c.toNat - 'a'.toNat + 26)
  else if '0' ≤ c && c ≤ '9' then some (c.toNat - '0'.toNat + 52)
  else if c = '+' then some 62
  else if c = '/' then some 63
  else none

/-- The digits in front of the fill signs that end the text, if any do. -/
def digits : List Nat → Nat → List Char → List Nat × Bool
  | done, _, [] => (done.reverse, false)
  | done, fills, c :: rest =>
    if c = '=' then
      let here := done.length % 4
      if 2 ≤ here && 4 ≤ here + fills + 1 then (done.reverse, true)
      else digits done (if 2 ≤ here then fills + 1 else fills) rest
    else match bits? c with
      | some d => digits (d :: done) 0 rest
      | none => digits done fills rest

/-- The bytes of digits, four by four. -/
def group : List Nat → List UInt8
  | a :: b :: c :: d :: rest =>
    UInt8.ofNat (a * 4 + b / 16) :: UInt8.ofNat (b % 16 * 16 + c / 4)
      :: UInt8.ofNat (c % 4 * 64 + d) :: group rest
  | [a, b, c] => [UInt8.ofNat (a * 4 + b / 16), UInt8.ofNat (b % 16 * 16 + c / 4)]
  | [a, b] => [UInt8.ofNat (a * 4 + b / 16)]
  | _ => []

/-- The bytes that a text stands for; its groups have to be complete. -/
def decode? (s : String) : Option (List UInt8) :=
  let (found, isFilled) := digits [] 0 s.toList
  if isFilled || found.length % 4 = 0 then some (group found) else none

end AdlTables.Text.Base64
