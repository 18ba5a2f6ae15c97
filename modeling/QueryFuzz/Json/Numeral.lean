/-
  QueryFuzz.Json.Numeral
  ──────────────────────
  **NUMBERS OF A JSON DOCUMENT: THEIR DIGITS AND WHAT THEY MEAN.**

  A number without fraction and exponent that fits 64 bits is an integer; any
  other is a double.  Doubles are not rounded once from the exact decimal: the
  leading digits make a 64-bit significand, digits that no longer fit are
  dropped, and the significand as a double is multiplied or divided by a power
  of ten as a double.
-/
import QueryFuzz.Document.Problem
import QueryFuzz.Double.Shortest

namespace QueryFuzz

/-- A number as it is written: sign, digits before and behind the point, and
exponent. -/
structure Numeral where
  negative : Bool
  whole : List Nat
  fraction : List Nat
  exponent : Option Int
  deriving DecidableEq, Repr

/-- What a number means. -/
inductive Quantity where
  | integer (n : Int)
  | double (d : Double)
  deriving DecidableEq, Repr

/-- The wording of a number that is not wanted. -/
def Quantity.found : Quantity → String
  | integer n => foundInteger n
  | double d => foundDouble (d.render Double.compact)

namespace Numeral

/-- The greatest significand. -/
def mostSignificand : Nat := 2 ^ 64 - 1

/-- The greatest exponent that is computed with. -/
def mostExponent : Nat := 2 ^ 31 - 1

/-- Digits appended to a significand as long as they fit, and those left. -/
def significand (acc : Nat) : List Nat → Nat × List Nat
  | [] => (acc, [])
  | d :: ds =>
      if acc * 10 + d ≤ mostSignificand then significand (acc * 10 + d) ds
      else (acc, d :: ds)

/-- A magnitude divided by ten to the power `e`, by at most 10³⁰⁸ at a time; a
magnitude that has become zero stays it. -/
def scaleDown (d : Double) (e : Nat) : Double :=
  if e ≤ 308 then d.divMagnitude (.ofNat (10 ^ e))
  else if d.isZero then d
  else scaleDown (d.divMagnitude (.ofNat (10 ^ 308))) (e - 308)
termination_by e

/-- The magnitude of a significand times a power of ten; none when it is out of
the range of doubles. -/
def scale (sig : Nat) (e : Int) : Option Double :=
  let d := Double.ofNat sig
  if e < 0 then some (scaleDown d (-e).toNat)
  else if e.toNat ≤ 308 then
    let product := d.mulMagnitude (.ofNat (10 ^ e.toNat))
    if product.isInfinite then none else some product
  else if d.isZero then some d
  else none

/-- The number with a sign. -/
def signed (negative : Bool) (d : Double) : Double := if negative then d.neg else d

/-- The double of a number that is none of the integers; none when it is out of
range. -/
def double (n : Numeral) : Option Double :=
  let (sig, left) := significand 0 n.whole
  let (sig, dropped) := significand sig n.fraction
  let places := (left.length : Int) - ((n.fraction.length - dropped.length : Nat) : Int)
  let e := n.exponent.getD 0
  let magnitude :=
    if mostExponent < e.natAbs then
      if sig ≠ 0 ∧ 0 < e then none else some (Double.ofNat 0)
    else scale sig (places + e)
  magnitude.map (signed n.negative)

/-- What the number means; none when it is out of the range of doubles. -/
def quantity (n : Numeral) : Option Quantity :=
  let (sig, left) := significand 0 n.whole
  if n.fraction.isEmpty && n.exponent.isNone && left.isEmpty then
    if !n.negative then some (.integer sig)
    else if sig ≠ 0 ∧ sig ≤ 2 ^ 63 then some (.integer (-sig))
    else some (.double (signed true (Double.ofNat sig)))
  else n.double.map .double

/-- An integer as it is written. -/
def ofInt (n : Int) : Numeral :=
  ⟨decide (n < 0), (Nat.toDigits 10 n.natAbs).map fun c => c.toNat - '0'.toNat, [], none⟩

private def digitText (ds : List Nat) : String :=
  String.ofList (ds.map fun d => Char.ofNat (d + '0'.toNat))

/-- The number as it is written. -/
def render (n : Numeral) : String :=
  (if n.negative then "-" else "") ++ digitText n.whole
    ++ (if n.fraction.isEmpty then "" else "." ++ digitText n.fraction)
    ++ match n.exponent with
      | none => ""
      | some e => "e" ++ toString e

end Numeral

end QueryFuzz
