/-
  QueryFuzz.Double.Basic
  ──────────────────────
  **BINARY64 NUMBERS BY THEIR BITS, ROUNDED IN EXACT ARITHMETIC.**

  A finite double is a whole multiple of 2⁻¹⁰⁷⁴, so its magnitude is the
  natural number `scaled` over that unit, and every operation here is one
  exact ratio of natural numbers, rounded once to the nearest double with
  ties to the even neighbour (`ofRatio`).

      ofRatio       — the nearest double of a ratio
      ofDecimal     — the nearest double of `digits · 10 ^ exponent`
      isProbability — whether a double lies in [0, 1]
      timesWord64   — the whole part of a double times 2⁶⁴
-/

-- A power of natural numbers is the built-in one, also beside a library that has powers in
-- every monoid: `2 ^ 64` then means the same term wherever it is written.
attribute [instance (2000), default_instance (20000)] instPowNat

namespace QueryFuzz

/-- A binary64 number, given by its bits. -/
structure Double where
  bits : UInt64
  deriving DecidableEq, Repr, Inhabited

namespace Double

/-! ## §1. The fields. -/

/-- The bits without the sign. -/
def magnitudeBits (d : Double) : Nat := d.bits.toNat % 2 ^ 63

/-- Whether the sign bit is set. -/
def isNegative (d : Double) : Bool := decide (2 ^ 63 ≤ d.bits.toNat)

/-- The magnitude bits of an infinity; above them are the NaNs. -/
def infinityBits : Nat := 0x7FF * 2 ^ 52

def isNaN (d : Double) : Bool := decide (infinityBits < d.magnitudeBits)

def isInfinite (d : Double) : Bool := decide (d.magnitudeBits = infinityBits)

def isZero (d : Double) : Bool := decide (d.magnitudeBits = 0)

/-- The double of a sign and magnitude bits. -/
def ofSignMagnitude (negative : Bool) (magnitude : Nat) : Double :=
  ⟨UInt64.ofNat ((if negative then 2 ^ 63 else 0) + magnitude)⟩

def infinity (negative : Bool) : Double := ofSignMagnitude negative infinityBits

/-- The quiet NaN of positive sign. -/
def nan : Double := ⟨0x7FF8000000000000⟩

def one : Double := ⟨0x3FF0000000000000⟩

/-- The magnitude of a finite double in units of 2⁻¹⁰⁷⁴. -/
def scaled (d : Double) : Nat :=
  let exponent := d.magnitudeBits / 2 ^ 52
  let fraction := d.magnitudeBits % 2 ^ 52
  if exponent = 0 then fraction else (2 ^ 52 + fraction) * 2 ^ (exponent - 1)

/-- One, in the unit of `scaled`. -/
def unit : Nat := 2 ^ 1074

/-! ## §2. Rounding a ratio. -/

/-- The quotient `n / d` rounded to the nearest whole number, a tie to the even
one. -/
def roundQuotient (n d : Nat) : Nat :=
  let q := n / d
  let twice := 2 * (n % d)
  if twice < d then q
  else if d < twice then q + 1
  else q + q % 2

/-- The double nearest to `num / den`, with the given sign; from half a unit in
the last place above the greatest finite one on, the infinity. -/
def ofRatio (negative : Bool) (num den : Nat) : Double :=
  let n := num * unit
  let shift := Nat.log2 (n / den) - 52
  let bits := shift * 2 ^ 52 + roundQuotient n (den * 2 ^ shift)
  ofSignMagnitude negative (min bits infinityBits)

/-- The double nearest to a natural number. -/
def ofNat (n : Nat) : Double := ofRatio false n 1

/-- The same magnitude with the sign turned. -/
def neg (d : Double) : Double := ofSignMagnitude (!d.isNegative) d.magnitudeBits

/-- The rounded product of the magnitudes of two finite doubles. -/
def mulMagnitude (a b : Double) : Double := ofRatio false (a.scaled * b.scaled) (unit * unit)

/-- The rounded quotient of the magnitudes of two finite doubles, the second of
them not zero. -/
def divMagnitude (a b : Double) : Double := ofRatio false a.scaled b.scaled

/-- The double nearest to `digits · 10 ^ exponent`.  Exponents beyond the range
of doubles are answered without computing the power. -/
def ofDecimal (negative : Bool) (digits : Nat) (exponent : Int) : Double :=
  let magnitude := (Nat.log2 digits : Int) / 3 + exponent
  if digits = 0 ∨ magnitude < -1100 then ofSignMagnitude negative 0
  else if 400 < exponent then infinity negative
  else if 0 ≤ exponent then ofRatio negative (digits * 10 ^ exponent.toNat) 1
  else ofRatio negative digits (10 ^ (-exponent).toNat)

/-! ## §3. Probabilities and whole parts. -/

/-- Whether the number lies in [0, 1]; a zero of either sign does, a NaN does
not. -/
def isProbability (d : Double) : Bool :=
  decide (d.magnitudeBits ≤ one.magnitudeBits) && (!d.isNegative || d.isZero)

/-- The whole part of the number times 2⁶⁴, for a finite number not below zero. -/
def timesWord64 (d : Double) : Nat := d.scaled * 2 ^ 64 / unit

/-- The whole part, held between 0 and `most`; a NaN counts as 0. -/
def clampToNat (most : Nat) (d : Double) : Nat :=
  if d.isNaN || d.isNegative then 0
  else if d.isInfinite then most
  else min most (d.scaled / unit)

example : isProbability ⟨0x8000000000000000⟩ = true := by decide
example : isProbability ⟨0x3FF0000000000001⟩ = false := by decide
example : ofRatio false 1 3 = ⟨0x3FD5555555555555⟩ := by decide +kernel
example : ofNat 9007199254740993 = ⟨0x4340000000000000⟩ := by decide +kernel
example : ofDecimal true 5 (-324) = ⟨0x8000000000000001⟩ := by decide +kernel

end Double

end QueryFuzz
