/-
  QueryFuzz.Document.Problem
  ──────────────────────────
  **WHAT CAN BE WRONG WITH A DOCUMENT, AND WHERE.**

  A place is told by the text that is left there.  So a reader that walks along
  a text has its places at hand, and lines and columns are counted only for the
  one place that is reported.
-/
import QueryFuzz.Unicode.Escaped

namespace QueryFuzz

/-! ## §1. Places. -/

/-- A place in a text: `further` bytes behind the place where `left` is left, but
not behind the end of the text. -/
structure Place where
  left : List Char := []
  further : Nat := 0
  deriving DecidableEq, Repr

/-- A line, counted from one, and how many bytes of it stand before. -/
structure Position where
  line : Nat
  column : Nat
  deriving DecidableEq, Repr

namespace Position

/-- The beginning of a text. -/
def start : Position := ⟨1, 0⟩

/-- The position behind a character. -/
def past (p : Position) (c : Char) : Position :=
  if c = '\n' then ⟨p.line + 1, 0⟩ else ⟨p.line, p.column + c.utf8Size⟩

/-- The position so many bytes further on in a text, which may be inside a character. -/
def pastBytes : List Char → Nat → Position → Position
  | [], _, p => p
  | c :: cs, n, p =>
      if c.utf8Size ≤ n then pastBytes cs (n - c.utf8Size) (p.past c)
      else { p with column := p.column + n }

/-- The wording of a position. -/
def render (p : Position) : String :=
  "line " ++ toString p.line ++ " column " ++ toString p.column

end Position

/-- The position of a place in a text. -/
def Place.position (text : List Char) (place : Place) : Position :=
  Position.pastBytes place.left place.further
    ((text.take (text.length - place.left.length)).foldl Position.past .start)

example : Place.position ['a', '\n', 'é', 'b'] ⟨['b'], 1⟩ = ⟨2, 3⟩ := by decide
example : Place.position ['a', '\n', 'é', 'b'] ⟨['é', 'b'], 1⟩ = ⟨2, 1⟩ := by decide

/-! ## §2. Problems. -/

/-- Why a text cannot be read as a value of some type. -/
inductive ReadProblem where
  /-- The text is not written in the document's language. -/
  | malformed (why : String)
  | unknownField (name : String) (expected : List String)
  | missingField (name : String)
  | duplicateField (name : String)
  | unknownVariant (name : String) (expected : List String)
  /-- A value of another kind than the one wanted. -/
  | wrongKind (found expected : String)
  /-- A number out of the range of its field. -/
  | outOfRange (found expected : String)
  /-- An array of `count` elements, fewer than a record has fields. -/
  | tooShort (count : Nat) (expected : String)
  /-- A number field holds something else. -/
  | notNumber
  /-- A number beyond the finite doubles, or no number at all. -/
  | numberTooLarge
  /-- A hexadecimal number, or a part of a string read as one, that is not one of
  at most 32 bits. -/
  | badHex
  /-- A whole number that does not fit 64 bits, or is signed and hexadecimal. -/
  | badInteger
  /-- The second half of a surrogate pair without the first. -/
  | strayTrail
  /-- The first half of a surrogate pair, and something else behind it. -/
  | wrongTrail
  /-- The first half of a surrogate pair at the end of a string. -/
  | missingTrail
  /-- The first two bytes of a text end inside a character: not a problem of the
  document alone, reading ends in a fault. -/
  | splitCharacter (c : Char)
  deriving DecidableEq, Repr

namespace ReadProblem

/-- A name as it is quoted in messages. -/
def quoted (name : String) : String := "\x60" ++ name ++ "\x60"

/-- What may stand in the place of an unknown name. -/
def alternatives : List String → String
  | [] => "there are no alternatives"
  | [a] => "expected " ++ quoted a
  | [a, b] => "expected " ++ quoted a ++ " or " ++ quoted b
  | a :: rest =>
      "expected one of " ++ quoted a ++ rest.foldl (fun t n => t ++ ", " ++ quoted n) ""

/-- The wording of a problem. -/
def message : ReadProblem → String
  | malformed why => why
  | unknownField name expected =>
      "unknown field " ++ quoted name ++ ", " ++ alternatives expected
  | missingField name => "missing field " ++ quoted name
  | duplicateField name => "duplicate field " ++ quoted name
  | unknownVariant name expected =>
      "unknown variant " ++ quoted name ++ ", " ++ alternatives expected
  | wrongKind found expected => "invalid type: " ++ found ++ ", expected " ++ expected
  | outOfRange found expected => "invalid value: " ++ found ++ ", expected " ++ expected
  | tooShort count expected =>
      "invalid length " ++ toString count ++ ", expected " ++ expected
  | notNumber => "error parsing number"
  | numberTooLarge => "error parsing number: too large"
  | badHex => "error parsing hex"
  | badInteger => "error parsing integer"
  | strayTrail => "unexpected unicode trail surrogate"
  | wrongTrail => "expecting unicode trail surrogate"
  | missingTrail => "missing unicode trail surrogate"
  | splitCharacter c =>
      "end byte index 2 is not a char boundary; it is inside '" ++ Unicode.quotedChar '\'' c
        ++ "' (bytes 1.." ++ toString (1 + c.utf8Size) ++ " of string)"

/-- Whether reading ends in a fault. -/
def isFault : ReadProblem → Bool
  | splitCharacter _ => true
  | _ => false

end ReadProblem

/-- A problem and its place; readers that keep no account of places leave it at
the end of the text. -/
structure Flaw where
  problem : ReadProblem
  place : Place := {}
  deriving DecidableEq, Repr

/-! ## §3. What is found in the place of a value. -/

/-- The wording of a truth value. -/
def foundBool (b : Bool) : String := "boolean " ++ ReadProblem.quoted (toString b)

/-- The wording of an integer. -/
def foundInteger (n : Int) : String := "integer " ++ ReadProblem.quoted (toString n)

/-- The wording of a number that is no integer, given by its digits. -/
def foundDouble (digits : String) : String := "floating point " ++ ReadProblem.quoted digits

/-- The wording of a string. -/
def foundText (s : String) : String := "string " ++ Unicode.quotedText s

/-- The wording of an array. -/
def foundArray : String := "sequence"

/-- The wording of an object. -/
def foundObject : String := "map"

end QueryFuzz
