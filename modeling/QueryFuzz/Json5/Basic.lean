/-
  QueryFuzz.Json5.Basic
  ─────────────────────
  **JSON5 TREES.**

  A tree keeps strings in pieces and numbers by their digits: whether the pieces
  make a text, and what a number means, is decided where the value is wanted.
-/

namespace QueryFuzz

namespace Json5

/-! ## §1. Strings and numbers. -/

/-- A piece of a string or key. -/
inductive Piece where
  /-- A character that stands for itself. -/
  | literal (c : Char)
  /-- A backslash and the character behind it. -/
  | escaped (mark : Char)
  /-- A character by two hexadecimal digits. -/
  | byte (n : Nat)
  /-- A UTF-16 unit by four hexadecimal digits. -/
  | unit (n : Nat)
  deriving DecidableEq, Repr

/-- The sign in front of a number. -/
inductive Sign where
  | absent
  | plus
  | minus
  deriving DecidableEq, Repr

/-- A number without its sign. -/
inductive Magnitude where
  | hex (digits : List Nat)
  /-- Digits before the point, digits behind it if there is one, and the exponent
  if there is one. -/
  | decimal (whole : List Nat) (fraction : Option (List Nat)) (exponent : Option Int)
  | infinity
  | nan
  deriving DecidableEq, Repr

/-- A number as it is written. -/
structure Number where
  sign : Sign
  magnitude : Magnitude
  deriving DecidableEq, Repr

end Json5

/-! ## §2. Values. -/

/-- A JSON5 value.  Of strings, arrays and objects the character right behind the opening
quote or bracket is kept too. -/
inductive Json5 where
  | null
  | bool (b : Bool)
  | number (n : Json5.Number)
  | string (first : Char) (pieces : List Json5.Piece)
  | array (first : Char) (items : List Json5)
  | object (first : Char) (members : List (List Json5.Piece × Json5))

end QueryFuzz
