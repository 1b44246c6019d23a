import AdlTables.Decimal.Power

/-! # Binary numbers of 64 bits

A number in the standard double format, held as its bit pattern so that equality is decidable and
exact. `view` reads the pattern as a sign and an integer times a power of two; `ofDecimal` gives the
number nearest to a decimal, ties to the even neighbour, by exact integer arithmetic.
-/

namespace AdlTables

open Decimal (twoTo tenTo)

/-- A number in the double format, by its bits. -/
structure Binary64 where
  bits : UInt64
deriving DecidableEq, Repr, Inhabited

namespace Binary64

/-- What a bit pattern stands for: a finite one is `m * 2 ^ q` under its sign. -/
inductive View where
  | nan
  | infinite (negative : Bool)
  | finite (negative : Bool) (m : Nat) (q : Int)
deriving DecidableEq, Repr

/-- The reading of a bit pattern. -/
def view (x : Binary64) : View :=
  let n := x.bits.toNat
  let negative := n / twoTo 63 == 1
  let exponent : Nat := n / twoTo 52 % twoTo 11
  let fraction := n % twoTo 52
  if exponent = 2047 then
    if fraction = 0 then .infinite negative else .nan
  else if exponent = 0 then .finite negative fraction (-1074)
  else .finite negative (fraction + twoTo 52) ((exponent : Int) - 1075)

/-- The pattern with the given sign, exponent field and fraction field. -/
def pack (negative : Bool) (exponent fraction : Nat) : Binary64 :=
  ⟨UInt64.ofNat ((if negative then twoTo 63 else 0) + exponent * twoTo 52 + fraction)⟩

/-- The number that is no number. -/
def nan : Binary64 := pack false 2047 (twoTo 51)

def infinity (negative : Bool) : Binary64 := pack negative 2047 0

/-- The pattern for `m * 2 ^ q`, where `m` has at most 53 bits, and all
of them unless `q` is least. -/
def packScaled (negative : Bool) (m : Nat) (q : Int) : Binary64 :=
  if m = twoTo 53 then
    if q ≥ 971 then infinity negative else pack negative (q + 1076).toNat 0
  else if m < twoTo 52 then pack negative 0 m
  else if q > 971 then infinity negative
  else pack negative (q + 1075).toNat (m - twoTo 52)

/-- A quotient rounded to the nearest integer, ties to the even one. -/
def roundQuotient (numerator denominator : Nat) : Nat :=
  let floor := numerator / denominator
  let twice := 2 * (numerator % denominator)
  if twice < denominator then floor
  else if denominator < twice then floor + 1
  else if floor % 2 = 0 then floor else floor + 1

/-- The number nearest to a positive fraction. -/
def ofFraction (negative : Bool) (numerator denominator : Nat) : Binary64 :=
  let rough : Int := (numerator.log2 : Int) - denominator.log2 - 52
  let scaled (q : Int) : Nat × Nat :=
    if q ≥ 0 then (numerator, denominator * twoTo q.toNat)
    else (numerator * twoTo (-q).toNat, denominator)
  let fits (q : Int) : Bool := (scaled q).1 < (scaled q).2 * twoTo 53
  let low := if fits (rough - 1) then rough - 1 else if fits rough then rough else rough + 1
  let q := max low (-1074)
  packScaled negative (roundQuotient (scaled q).1 (scaled q).2) q

/-- The number nearest to `digits * 10 ^ exponent` under a sign. -/
def ofDecimal (negative : Bool) (digits : Nat) (exponent : Int) : Binary64 :=
  if digits = 0 then pack negative 0 0
  else if exponent > 400 then infinity negative
  else if exponent ≥ 0 then ofFraction negative (digits * tenTo exponent.toNat) 1
  else if (digits.log2 : Int) * 3 < (-exponent - 400) * 9 then pack negative 0 0
  else ofFraction negative digits (tenTo (-exponent).toNat)

/-- The integer that a number is, if it is one. -/
def toInt? (x : Binary64) : Option Int :=
  match x.view with
  | .finite negative m q =>
    let whole : Option Nat :=
      if q ≥ 0 then some (m * twoTo q.toNat)
      else if m % twoTo (-q).toNat = 0 then some (m / twoTo (-q).toNat) else none
    whole.map fun n => if negative then -(n : Int) else n
  | _ => none

/-- Whether a number is zero, under either sign. -/
def isZero (x : Binary64) : Bool :=
  x.toInt? == some 0

end Binary64

end AdlTables
