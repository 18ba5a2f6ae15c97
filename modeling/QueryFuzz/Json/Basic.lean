/-
  QueryFuzz.Json.Basic
  ────────────────────
  **JSON TREES, ALSO OF TEXTS THAT STOP BEING JSON SOMEWHERE.**

  A reader that reports the first problem of a text has to see what stands
  before a syntax problem.  So a tree may be cut: `Json.cut` stands where the
  text stops being JSON, and a container that the cut falls into is broken.
  What is said of a cut differs between values that are wanted and values that
  are passed over.  Half of a surrogate pair in a string, and a number out of
  range, are problems only where the value is wanted.

  Every value knows the text from its first character on and the text behind
  it; in values that are not read from a text both are empty.
-/
import QueryFuzz.Json.Numeral

namespace QueryFuzz

namespace Json

/-! ## §1. What is said of texts that are not JSON. -/

/-- Why a text is not JSON. -/
inductive SyntaxProblem where
  | endInArray
  | endInObject
  | endInString
  | endInValue
  | missingColon
  | missingArrayComma
  | missingObjectComma
  /-- A word other than `null`, `true` and `false`. -/
  | badWord
  | missingValue
  | badEscape
  | badNumber
  | hugeNumber
  | controlInString
  | foreignKey
  /-- Half of a surrogate pair. -/
  | loneSurrogate
  /-- The first half of a surrogate pair without an escape behind it. -/
  | cutPair
  | trailingComma
  | trailingText
  deriving DecidableEq, Repr

/-- The wording of a problem. -/
def SyntaxProblem.message : SyntaxProblem → String
  | endInArray => "EOF while parsing a list"
  | endInObject => "EOF while parsing an object"
  | endInString => "EOF while parsing a string"
  | endInValue => "EOF while parsing a value"
  | missingColon => "expected \x60:\x60"
  | missingArrayComma => "expected \x60,\x60 or \x60]\x60"
  | missingObjectComma => "expected \x60,\x60 or \x60\x7d\x60"
  | badWord => "expected ident"
  | missingValue => "expected value"
  | badEscape => "invalid escape"
  | badNumber => "invalid number"
  | hugeNumber => "number out of range"
  | controlInString => "control character (\\u0000-\\u001F) found while parsing a string"
  | foreignKey => "key must be a string"
  | loneSurrogate => "lone leading surrogate in hex escape"
  | cutPair => "unexpected end of hex escape"
  | trailingComma => "trailing comma"
  | trailingText => "trailing characters"

/-- A syntax problem and its place. -/
structure Complaint where
  problem : SyntaxProblem
  place : Place := {}
  deriving DecidableEq, Repr

/-- A complaint as a problem of the document. -/
def Complaint.flaw (c : Complaint) : Flaw := ⟨.malformed c.problem.message, c.place⟩

/-- What is said where a text stops being JSON: when the value is wanted, and when it
is passed over. -/
structure Stop where
  wanted : Complaint
  skipped : Complaint
  deriving DecidableEq, Repr

/-- A stop at which the same is said in either case. -/
def Complaint.always (c : Complaint) : Stop := ⟨c, c⟩

/-- A key: its text, unless half of a surrogate pair is in it, and the text behind it. -/
structure Key where
  text : Except Complaint String
  behind : List Char := []

/-- A key that is not read from a text. -/
def Key.ofText (s : String) : Key := { text := .ok s }

/-- Whether a key is a name. -/
def Key.is (k : Key) (name : String) : Bool :=
  match k.text with
  | .ok s => decide (s = name)
  | .error _ => false

/-- Where a value stands: the text from its first character on, and the text behind it. -/
structure Span where
  start : List Char := []
  behind : List Char := []

end Json

/-! ## §2. Trees. -/

/-- A JSON value, as far as it could be read. -/
inductive Json where
  /-- The text stops being JSON here, in the value that starts at `start` or, when that is
  empty, before any value. -/
  | cut (start : List Char) (stop : Json.Stop)
  | null (span : Json.Span)
  | bool (b : Bool) (span : Json.Span)
  | number (n : Numeral) (span : Json.Span)
  /-- A string, unless half of a surrogate pair is in it. -/
  | string (s : Except Json.Complaint String) (span : Json.Span)
  | array (items : List Json) (start : List Char) (ending : Except Json.Stop (List Char))
  | object (members : List (Json.Key × Json)) (start : List Char)
      (ending : Except Json.Stop (List Char))

namespace Json

/-- The text from a value on. -/
def start : Json → List Char
  | cut start _ | array _ start _ | object _ start _ => start
  | null span | bool _ span | number _ span | string _ span => span.start

/-- The text behind a value, or why there is none. -/
def ending : Json → Except Stop (List Char)
  | cut _ stop => .error stop
  | null span | bool _ span | number _ span | string _ span => .ok span.behind
  | array _ _ ending | object _ _ ending => ending

/-! ## §3. Building values. -/

/-- The null value. -/
def ofNull : Json := .null {}

/-- A truth value. -/
def ofBool (b : Bool) : Json := .bool b {}

/-- A string value. -/
def ofText (s : String) : Json := .string (.ok s) {}

/-- An integer value. -/
def ofInt (n : Int) : Json := .number (.ofInt n) {}

/-- An array value. -/
def ofList (items : List Json) : Json := .array items [] (.ok [])

/-- An object value. -/
def ofFields (fields : List (String × Json)) : Json :=
  .object (fields.map fun f => (Key.ofText f.1, f.2)) [] (.ok [])

/-- The value of the first member of a name. -/
def get? (v : Json) (name : String) : Option Json :=
  match v with
  | object members _ _ => (members.find? fun m => m.1.is name).map Prod.snd
  | _ => none

end Json

end QueryFuzz
