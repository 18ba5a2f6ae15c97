/-
  QueryFuzz.Unicode.Ranges
  ────────────────────────
  **CLASSES OF CHARACTERS AS RANGES OF CODE POINTS.**
-/

namespace QueryFuzz.Unicode

/-- The first and the last code point of a range. -/
abbrev Range := Nat × Nat

/-- How many code points a range holds. -/
def span (r : Range) : Nat := r.2 + 1 - r.1

/-- Whether a character lies in one of the ranges. -/
def inRanges (ranges : List Range) (c : Char) : Bool :=
  ranges.any fun r => decide (r.1 ≤ c.toNat ∧ c.toNat ≤ r.2)

/-- Whether every range is in order and ends before the next one starts. -/
def ascending : List Range → Bool
  | [] => true
  | [r] => decide (r.1 ≤ r.2)
  | r :: s :: rest => decide (r.1 ≤ r.2 ∧ r.2 < s.1) && ascending (s :: rest)

theorem inRanges_iff {ranges : List Range} {c : Char} :
    inRanges ranges c = true ↔ ∃ r ∈ ranges, r.1 ≤ c.toNat ∧ c.toNat ≤ r.2 := by
  simp [inRanges]

/-! ## §1. Blanks. -/

/-- The ranges of space separators. -/
def spaceSeparators : List Range :=
  [(0x20, 0x20), (0xA0, 0xA0), (0x1680, 0x1680), (0x2000, 0x200A), (0x202F, 0x202F),
    (0x205F, 0x205F), (0x3000, 0x3000)]

/-- Whether a character is a space separator. -/
def isSpaceSeparator (c : Char) : Bool := inRanges spaceSeparators c

example : ascending spaceSeparators = true := by decide

/-- The ranges of white space: space separators, and what ends lines or moves on in them. -/
def whiteSpace : List Range :=
  [(0x09, 0x0D), (0x20, 0x20), (0x85, 0x85), (0xA0, 0xA0), (0x1680, 0x1680), (0x2000, 0x200A),
    (0x2028, 0x2029), (0x202F, 0x202F), (0x205F, 0x205F), (0x3000, 0x3000)]

/-- Whether a character is white space. -/
def isWhiteSpace (c : Char) : Bool := inRanges whiteSpace c

example : ascending whiteSpace = true := by decide

/-- A text without white space at its ends. -/
def trim (cs : List Char) : List Char :=
  ((cs.dropWhile isWhiteSpace).reverse.dropWhile isWhiteSpace).reverse

end QueryFuzz.Unicode
