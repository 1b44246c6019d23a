import AdlTables.Decimal.Binary64

/-! # Shortest decimals

The decimal with the fewest digits that reads back as a given binary number, the nearest of them
where several have so few. A grid of `n` digits is tried for `n` from 1 to 17: a number between two
grid points is read back by one of these two if any grid point reads back.
-/

namespace AdlTables.Decimal

/-- Digits `digits * 10 ^ exponent`, with no trailing zero in `digits`. -/
structure Scientific where
  digits : Nat
  exponent : Int
deriving DecidableEq, Repr

/-- A fraction of natural numbers. -/
structure Fraction where
  numerator : Nat
  denominator : Nat

namespace Fraction

/-- The fraction `m * 2 ^ q`. -/
def ofBinary (m : Nat) (q : Int) : Fraction :=
  if q ≥ 0 then ⟨m * twoTo q.toNat, 1⟩ else ⟨m, twoTo (-q).toNat⟩

/-- The fraction `m * 10 ^ e`. -/
def ofDecimal (m : Nat) (e : Int) : Fraction :=
  if e ≥ 0 then ⟨m * tenTo e.toNat, 1⟩ else ⟨m, tenTo (-e).toNat⟩

def less (a b : Fraction) : Bool :=
  a.numerator * b.denominator < b.numerator * a.denominator

def distance (a b : Fraction) : Fraction :=
  let left := a.numerator * b.denominator
  let right := b.numerator * a.denominator
  ⟨(left - right) + (right - left), a.denominator * b.denominator⟩

/-- The whole part of `a / 10 ^ e`. -/
def floorScaled (a : Fraction) (e : Int) : Nat :=
  if e ≥ 0 then a.numerator / (a.denominator * tenTo e.toNat)
  else a.numerator * tenTo (-e).toNat / a.denominator

end Fraction

/-- Whether a decimal lies among the numbers that round to `m * 2 ^ q`. -/
def readsBack (m : Nat) (q : Int) (x : Fraction) : Bool :=
  let high := Fraction.ofBinary (2 * m + 1) (q - 1)
  let low := if m = twoTo 52 ∧ q > -1074 then Fraction.ofBinary (4 * m - 1) (q - 2)
    else Fraction.ofBinary (2 * m - 1) (q - 1)
  if m % 2 = 0 then !(x.less low) && !(high.less x) else low.less x && x.less high

/-- The grid point of spacing `10 ^ e` nearest to `m * 2 ^ q` that reads back, if one does; of two
equally near, the one with the even last digit. -/
def onGrid? (m : Nat) (q e : Int) : Option Scientific :=
  let x := Fraction.ofBinary m q
  let below := x.floorScaled e
  let lower := Fraction.ofDecimal below e
  let upper := Fraction.ofDecimal (below + 1) e
  match readsBack m q lower, readsBack m q upper with
  | true, true =>
    let upward := (upper.distance x).less (x.distance lower)
    let downward := (x.distance lower).less (upper.distance x)
    some (if upward || !downward && below % 2 = 1 then ⟨below + 1, e⟩ else ⟨below, e⟩)
  | true, false => some ⟨below, e⟩
  | false, true => some ⟨below + 1, e⟩
  | false, false => none

/-- The exponent of the leading digit of `m * 2 ^ q`, plus one. -/
def magnitude (m : Nat) (q : Int) : Int :=
  let rough : Int := ((m.log2 + q) * 30103).fdiv 100000
  if (Fraction.ofBinary m q).less (Fraction.ofDecimal 1 rough) then rough
  else if (Fraction.ofBinary m q).less (Fraction.ofDecimal 1 (rough + 1)) then rough + 1
  else rough + 2

/-- Digits without trailing zeros. -/
def strip : Nat → Nat → Int → Scientific
  | 0, digits, e => ⟨digits, e⟩
  | fuel + 1, digits, e =>
    if digits ≠ 0 ∧ digits % 10 = 0 then strip fuel (digits / 10) (e + 1) else ⟨digits, e⟩

/-- The shortest decimal for a positive `m * 2 ^ q`. -/
def shortest (m : Nat) (q : Int) : Scientific :=
  let top := magnitude m q
  match (List.range 17).findSome? fun (n : Nat) => onGrid? m q (top - ((n : Int) + 1)) with
  | some found => strip 20 found.digits found.exponent
  | none => ⟨m, 0⟩

/-- How a number is laid out: positional where the leading digit lies in the given span of places,
with an exponent of at least two digits elsewhere. -/
structure Layout where
  least : Int
  most : Int

/-- Numbers are positional from one ten-thousandth up to, not including, ten to the sixteenth. -/
def plainLayout : Layout := ⟨-3, 16⟩

/-- The text of a decimal; one that is whole keeps a zero behind its point. -/
def Layout.write (layout : Layout) (x : Scientific) : String :=
  let digits := (Nat.repr x.digits).toList
  let point : Int := digits.length + x.exponent
  if layout.least ≤ point ∧ point ≤ layout.most then
    if point ≤ 0 then
      "0." ++ String.ofList (List.replicate (-point).toNat '0' ++ digits)
    else if digits.length ≤ point.toNat then
      String.ofList (digits ++ List.replicate (point.toNat - digits.length) '0') ++ ".0"
    else String.ofList (digits.take point.toNat) ++ "." ++ String.ofList (digits.drop point.toNat)
  else
    let fraction := digits.drop 1
    let power := (point - 1).natAbs
    String.ofList (digits.take 1)
      ++ (if fraction.isEmpty then "" else "." ++ String.ofList fraction)
      ++ "e" ++ (if point - 1 < 0 then "-" else "+")
      ++ (if power < 10 then "0" else "") ++ Nat.repr power

/-- The text of a binary number: its shortest decimal, or the name of what is no decimal. -/
def write (x : Binary64) : String :=
  match x.view with
  | .nan => "nan"
  | .infinite negative => if negative then "-inf" else "inf"
  | .finite negative m q =>
    (if negative then "-" else "") ++ (if m = 0 then "0.0" else plainLayout.write (shortest m q))

end AdlTables.Decimal
