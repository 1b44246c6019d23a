import AdlTables.Decimal.Binary64

/-! # Whole numbers with places

Whole numbers written with a given number of places behind the point, with a power of ten, or in the
shorter of both ways. A number that has more digits than are asked for is rounded, ties to the even
neighbour.
-/

namespace AdlTables.Decimal

/-- The digits behind a point, with the point if there are any or if it is to stay. -/
def behindPoint (keepsPoint : Bool) (digits : List Char) : List Char :=
  if digits.isEmpty && !keepsPoint then [] else '.' :: digits

def dropZeros (digits : List Char) : List Char :=
  (digits.reverse.dropWhile (· == '0')).reverse

/-- A number with so many places behind the point. -/
def fixed (keepsPoint : Bool) (places n : Nat) : List Char :=
  Nat.toDigits 10 n ++ behindPoint keepsPoint (List.replicate places '0')

/-- The digits of a number that has so many, with the power of ten of the first one. -/
def leading (count n : Nat) : List Char × Nat :=
  let length := (Nat.toDigits 10 n).length
  if length ≤ count then (Nat.toDigits 10 (n * tenTo (count - length)), length - 1)
  else
    let rounded := Binary64.roundQuotient n (tenTo (length - count))
    if rounded = tenTo count then (Nat.toDigits 10 (rounded / 10), length)
    else (Nat.toDigits 10 rounded, length - 1)

/-- A power of ten in at least two digits. -/
def powerText (letter : Char) (power : Nat) : List Char :=
  let digits := Nat.toDigits 10 power
  letter :: '+' :: (List.replicate (2 - digits.length) '0' ++ digits)

/-- A number with a power of ten behind a letter, and so many places behind the point. -/
def withPower (letter : Char) (keepsPoint : Bool) (places n : Nat) : List Char :=
  if n = 0 then
    '0' :: (behindPoint keepsPoint (List.replicate places '0') ++ powerText letter 0)
  else
    let (digits, power) := leading (places + 1) n
    digits.take 1 ++ behindPoint keepsPoint (digits.drop 1) ++ powerText letter power

/-- A number in so many digits, with a power of ten if it has more places in front of the point.
Zeros at the end are left out unless the point is to stay. -/
def general (letter : Char) (keepsPoint : Bool) (count n : Nat) : List Char :=
  let count := max count 1
  let (digits, power) := if n = 0 then (List.replicate count '0', 0) else leading count n
  let places := if power < count then power + 1 else 1
  let behind := digits.drop places
  let behind := if keepsPoint then behind else dropZeros behind
  digits.take places ++ behindPoint keepsPoint behind
    ++ if power < count then [] else powerText letter power

end AdlTables.Decimal
