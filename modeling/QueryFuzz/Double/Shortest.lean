/-
  QueryFuzz.Double.Shortest
  ─────────────────────────
  **THE FEWEST DIGITS THAT READ BACK, AND HOW THEY ARE LAID OUT.**

  A positive finite double owns the interval of reals that round to it, its
  ends included when its significand is even.  `shortest` looks for a point of
  a decimal grid in that interval, on the coarsest grid that has one: of the
  two grid points next to the double it takes the one inside, of two the
  nearer, and on an exact tie the upper one.  Seventeen digits always suffice.

  What is written with the digits is a `Layout`: from which power of ten on,
  and below which, an exponent is used, whether a whole number keeps `.0`, and
  whether an exponent above zero has a sign.
-/
import QueryFuzz.Double.Basic

namespace QueryFuzz.Double

/-! ## §1. Digits. -/

/-- A decimal number `digits · 10 ^ exponent`. -/
structure Decimal where
  digits : Nat
  exponent : Int
  deriving DecidableEq, Repr

/-- The number of decimal digits of a natural number, at least one. -/
def digitCount (n : Nat) : Nat := (Nat.toDigits 10 n).length

/-- The interval that rounds to a positive finite double, as a lower end, the
double itself and an upper end in units of 2⁻¹⁰⁷⁶, and whether the ends belong
to it.  Below a power of two the neighbour is only half as far away. -/
def roundingInterval (d : Double) : Nat × Nat × Nat × Bool :=
  let exponent := d.magnitudeBits / 2 ^ 52
  let fraction := d.magnitudeBits % 2 ^ 52
  let gap := 2 ^ (exponent - 1)
  let below := if fraction = 0 ∧ 1 < exponent then gap else 2 * gap
  (4 * d.scaled - below, 4 * d.scaled, 4 * d.scaled + 2 * gap, fraction % 2 == 0)

/-- The ratio `value / 2 ^ 1076` in units of `10 ^ power`, as numerator and
denominator. -/
def inPowersOfTen (value : Nat) (power : Int) : Nat × Nat :=
  if 0 ≤ power then (value, unit * 4 * 10 ^ power.toNat)
  else (value * 10 ^ (-power).toNat, unit * 4)

/-- The power of ten of the leading digit of a positive finite double. -/
def leadingPower (d : Double) : Int :=
  let whole := d.scaled / unit
  if 0 < whole then digitCount whole - 1
  else (digitCount (d.scaled * 10 ^ 330 / unit) : Int) - 1 - 330

/-- The grid point that stands for the double on the grid `10 ^ power`, when one
lies in its rounding interval. -/
def onGrid (d : Double) (power : Int) : Option Decimal :=
  let (low, value, high, closed) := roundingInterval d
  let (vn, den) := inPowersOfTen value power
  let (ln, _) := inPowersOfTen low power
  let (hn, _) := inPowersOfTen high power
  let inside (c : Nat) : Bool :=
    if closed then decide (ln ≤ c * den ∧ c * den ≤ hn)
    else decide (ln < c * den ∧ c * den < hn)
  let c := vn / den
  match inside c, inside (c + 1) with
  | true, true => some ⟨if 2 * (vn % den) < den then c else c + 1, power⟩
  | true, false => some ⟨c, power⟩
  | false, true => some ⟨c + 1, power⟩
  | false, false => none

/-- The fewest digits that read back as the double, which is positive and finite;
of the decimals with that many digits the nearest. -/
def shortest (d : Double) : Decimal :=
  let top := leadingPower d
  ((List.range 17).findSome? fun (n : Nat) => onGrid d (top - n)).getD ⟨0, 0⟩

/-! ## §2. Layouts. -/

/-- How a finite double is written. -/
structure Layout where
  /-- Numbers from `10 ^ p` on are written with an exponent. -/
  exponentFrom : Option Int
  /-- Numbers below `10 ^ p` are written with an exponent. -/
  exponentBelow : Option Int
  /-- What follows the digits of a whole number without exponent. -/
  wholeSuffix : String
  /-- What stands in front of an exponent above zero. -/
  exponentSign : String

/-- Plain text: never an exponent, and a whole number as an integer. -/
def plain : Layout := ⟨none, none, "", ""⟩

/-- Text that shows the number is no integer: `.0` behind whole numbers, and an
exponent from 10¹⁶ on and below 10⁻⁴. -/
def marked : Layout := ⟨some 16, some (-4), ".0", ""⟩

/-- The same, but with an exponent only below 10⁻⁵, and with a sign in front of every
exponent. -/
def compact : Layout := ⟨some 16, some (-5), ".0", "+"⟩

/-- Text that shows the number is no integer, never with an exponent. -/
def pointed : Layout := ⟨none, none, ".0", ""⟩

private def zeros (n : Nat) : String := String.ofList (List.replicate n '0')

/-- The digits of a decimal without an exponent. -/
def positional (whole : String) (x : Decimal) : String :=
  let ds := Nat.repr x.digits
  if 0 ≤ x.exponent then ds ++ zeros x.exponent.toNat ++ whole
  else
    let places := (-x.exponent).toNat
    if places < ds.length then
      String.ofList (ds.toList.take (ds.length - places)) ++ "."
        ++ String.ofList (ds.toList.drop (ds.length - places))
    else "0." ++ zeros (places - ds.length) ++ ds

/-- The digits of a decimal with one digit before the point and an exponent. -/
def scientific (sign : String) (x : Decimal) : String :=
  let ds := (Nat.repr x.digits).toList
  let power := x.exponent + (ds.length - 1 : Nat)
  let rest := ds.drop 1
  String.ofList (ds.take 1) ++ (if rest.isEmpty then "" else "." ++ String.ofList rest)
    ++ "e" ++ (if 0 < power then sign else "") ++ toString power

/-- A decimal without trailing zeros in its digits. -/
def Decimal.trim (x : Decimal) : Decimal :=
  let ds := (Nat.toDigits 10 x.digits).reverse
  let drop := (ds.takeWhile (· == '0')).length
  ⟨x.digits / 10 ^ drop, x.exponent + drop⟩

/-- The text of a double: `NaN`, `inf`, or its shortest digits in the layout. -/
def render (layout : Layout) (d : Double) : String :=
  if d.isNaN then "NaN"
  else
    let sign := if d.isNegative then "-" else ""
    if d.isInfinite then sign ++ "inf"
    else if d.isZero then sign ++ "0" ++ layout.wholeSuffix
    else
      let x := (shortest d).trim
      let power := x.exponent + (digitCount x.digits - 1 : Nat)
      let large := layout.exponentFrom.any fun p => decide (p ≤ power)
      let small := layout.exponentBelow.any fun p => decide (power < p)
      sign ++
        if large || small then scientific layout.exponentSign x
        else positional layout.wholeSuffix x

end QueryFuzz.Double
