/-
  QueryFuzz.Json.Typed
  ────────────────────
  **READING JSON VALUES OF A WANTED KIND.**

  A value of another kind is a problem of its own; but a cut, an unreadable
  string and a number out of range are problems of the text, and come first.
  An array or object of the wrong kind is refused at its bracket, before
  anything inside it is looked at; any other value is refused behind it.
-/
import QueryFuzz.Document.Record
import QueryFuzz.Json.Reader

namespace QueryFuzz.Json

/-- A reader of values of type `α`. -/
abbrev Reader (α : Type) := Json → Except Flaw α

/-! ## §1. Single values. -/

/-- The text behind digits, or behind the one that takes a number that begins with `n`
beyond the greatest exponent. -/
def pastExponent (n : Nat) : List Char → List Char
  | [] => []
  | c :: cs =>
      if !c.isDigit then c :: cs
      else
        let n := n * 10 + (c.toNat - '0'.toNat)
        if Numeral.mostExponent < n then cs else pastExponent n cs

/-- Where a number is found to be out of range: behind it, or already in its exponent. -/
def hugePlace (n : Numeral) (span : Span) : Place :=
  if n.exponent.isNone then ⟨span.behind, 0⟩
  else
    match (span.start.dropWhile fun c => decide (c ≠ 'e' ∧ c ≠ 'E')).tail with
    | '+' :: cs => ⟨pastExponent 0 cs, 0⟩
    | cs => ⟨pastExponent 0 cs, 0⟩

/-- What is wrong with a value of a kind that is not wanted. -/
def kindFlaw (expected : String) : Json → Flaw
  | cut _ stop => stop.wanted.flaw
  | null span => ⟨.wrongKind "null" expected, ⟨span.behind, 0⟩⟩
  | bool b span => ⟨.wrongKind (foundBool b) expected, ⟨span.behind, 0⟩⟩
  | number n span =>
      match n.quantity with
      | none => (⟨.hugeNumber, hugePlace n span⟩ : Complaint).flaw
      | some q => ⟨.wrongKind q.found expected, ⟨span.behind, 0⟩⟩
  | string (.error k) _ => k.flaw
  | string (.ok s) span => ⟨.wrongKind (foundText s) expected, ⟨span.behind, 0⟩⟩
  | array _ start _ => ⟨.wrongKind foundArray expected, ⟨start, 0⟩⟩
  | object _ start _ => ⟨.wrongKind foundObject expected, ⟨start, 0⟩⟩

/-- Pass over a value: nothing but its syntax matters. -/
def skip (v : Json) : Except Flaw Unit :=
  match v.ending with
  | .ok _ => .ok ()
  | .error stop => .error stop.skipped.flaw

/-- A string. -/
def readText : Reader String
  | string (.ok s) _ => .ok s
  | v => .error (v.kindFlaw "a string")

/-- A truth value. -/
def readBool : Reader Bool
  | bool b _ => .ok b
  | v => .error (v.kindFlaw "a boolean")

/-- An integer from 0 to `most`. -/
def readNat (most : Nat) (expected : String) : Reader Nat
  | number n span =>
      match n.quantity with
      | some (.integer i) =>
          if 0 ≤ i ∧ i ≤ most then .ok i.toNat
          else .error ⟨.outOfRange (foundInteger i) expected, ⟨span.behind, 0⟩⟩
      | _ => .error ((number n span).kindFlaw expected)
  | v => .error (v.kindFlaw expected)

/-- An unsigned integer of 32 bits. -/
def readWord32 : Reader Nat := readNat (2 ^ 32 - 1) "u32"

/-- An unsigned integer of 64 bits. -/
def readWord64 : Reader Nat := readNat (2 ^ 64 - 1) "u64"

/-- A double; integers are rounded to one. -/
def readDouble : Reader Double
  | number n span =>
      match n.quantity with
      | none => .error ((number n span).kindFlaw "f64")
      | some (.double d) => .ok d
      | some (.integer i) => .ok (Double.ofRatio (decide (i < 0)) i.natAbs 1)
  | v => .error (v.kindFlaw "f64")

/-- A value that may be null. -/
def readOption {α : Type} (read : Reader α) : Reader (Option α)
  | null _ => .ok none
  | v =>
      match read v with
      | .ok a => .ok (some a)
      | .error p => .error p

/-! ## §2. Lists and variants. -/

/-- The elements of an array that may be broken. -/
def readItems {α : Type} (read : Reader α) (ending : Except Stop (List Char)) :
    List Json → Except Flaw (List α)
  | [] =>
      match ending with
      | .ok _ => .ok []
      | .error stop => .error stop.wanted.flaw
  | v :: vs =>
      match read v with
      | .error p => .error p
      | .ok a =>
          match readItems read ending vs with
          | .error p => .error p
          | .ok as => .ok (a :: as)

/-- A list. -/
def readList {α : Type} (read : Reader α) : Reader (List α)
  | array items _ ending => readItems read ending items
  | v => .error (v.kindFlaw "a sequence")

/-- One of several named values; `behind` is the text behind the name. -/
def variant {α : Type} (names : List (String × α)) (name : String) (behind : List Char) :
    Except Flaw α :=
  match names.find? fun n => decide (n.1 = name) with
  | some (_, a) => .ok a
  | none => .error ⟨.unknownVariant name (names.map Prod.fst), ⟨behind, 0⟩⟩

/-- What is wrong with an object in the place of a variant that has no first key. -/
def variantKeyFlaw : Except Stop (List Char) → Flaw
  | .ok behind => (⟨.missingValue, ⟨behind, 0⟩⟩ : Complaint).flaw
  | .error stop => stop.wanted.flaw

/-- What is wrong with an object in the place of a variant that goes on behind its null. -/
def variantEndFlaw (behind : List Char) : Flaw :=
  match skipBlanks behind with
  | [] => ({ problem := .endInObject } : Complaint).flaw
  | other => (⟨.missingValue, ⟨other, 0⟩⟩ : Complaint).flaw

/-- What is wrong with any other value in the place of a variant: what cuts the text
before it or in a string, or else a character that starts neither a string nor an object. -/
def variantFlaw : Json → Flaw
  | cut [] stop | cut ('"' :: _) stop => stop.wanted.flaw
  | v => (⟨.missingValue, ⟨v.start, 1⟩⟩ : Complaint).flaw

/-- One of several named values: the name as a string, or as the only key of an
object that holds null under it. -/
def readVariant {α : Type} (names : List (String × α)) : Reader α
  | string (.ok s) span => variant names s span.behind
  | string (.error k) _ => .error k.flaw
  | object [] _ ending => .error (variantKeyFlaw ending)
  | object ((key, v) :: rest) _ ending =>
      match key.text with
      | .error k => .error k.flaw
      | .ok s =>
          match variant names s key.behind, v with
          | .error p, _ => .error p
          | .ok a, null span =>
              if rest.isEmpty && ending.isOk then .ok a
              else .error (variantEndFlaw span.behind)
          | .ok _, v => .error (v.kindFlaw "unit")
  | v => .error (variantFlaw v)

/-! ## §3. Records. -/

/-- The place of a key that should not be there: what stands behind it, seen from
behind a brace. -/
def keyPlace (key : Key) : Place :=
  match skipBlanks key.behind with
  | '}' :: behind => ⟨behind, 0⟩
  | other => ⟨other, 0⟩

/-- A member of an object for the reader of a record. -/
def member (m : Key × Json) : Member Json :=
  { key :=
      match m.1.text with
      | .ok s => .ok s
      | .error k => .error k.flaw
    value := m.2
    place := keyPlace m.1 }

/-- The end of an array or object for the reader of a record. -/
def closing : Except Stop (List Char) → Closing
  | .ok behind => .ok ⟨behind, 0⟩
  | .error stop => .error stop.wanted.flaw

/-- What is wrong with an array that goes on behind the last field of a record, of
which the text behind that field is given. -/
def surplusFlaw (behind : List Char) : Flaw :=
  let complaint : Complaint :=
    match skipBlanks behind with
    | [] => { problem := .endInArray }
    | ',' :: rest =>
        match skipBlanks rest with
        | ']' :: rest => ⟨.trailingComma, ⟨']' :: rest, 1⟩⟩
        | other => ⟨.trailingText, ⟨other, 1⟩⟩
    | other => ⟨.trailingText, ⟨other, 1⟩⟩
  complaint.flaw

/-- A record, as an object or an array. -/
def readRecord {R : Type} (shape : RecordShape Json R) : Reader R
  | object members _ ending => shape.ofMembers (members.map member) (closing ending)
  | array items start ending =>
      match shape.ofItems items (closing ending) with
      | .error p => .error p
      | .ok r =>
          if items.length ≤ shape.fields.length && ending.isOk then .ok r
          else
            let last := (items.take shape.fields.length).getLast?
            .error (surplusFlaw (((last.map Json.ending).bind Except.toOption).getD start.tail))
  | v => .error (v.kindFlaw shape.wanted)

/-! ## §4. Whole texts. -/

/-- A problem of a text and its position. -/
structure LocatedProblem where
  problem : ReadProblem
  position : Position
  deriving DecidableEq, Repr

/-- The wording of a problem and its position. -/
def LocatedProblem.message (p : LocatedProblem) : String :=
  p.problem.message ++ " at " ++ p.position.render

/-- Read a whole text: the value first, then what stands behind it. -/
def readChars {α : Type} (read : Reader α) (cs : List Char) : Except Flaw α :=
  let v := ofChars cs
  match read v, v.ending with
  | .error p, _ => .error p
  | .ok _, .error stop => .error stop.wanted.flaw
  | .ok a, .ok behind =>
      match skipBlanks behind with
      | [] => .ok a
      | other => .error (⟨.trailingText, ⟨other, 1⟩⟩ : Complaint).flaw

/-- Read a whole text. -/
def decode {α : Type} (read : Reader α) (text : String) : Except LocatedProblem α :=
  match readChars read text.toList with
  | .ok a => .ok a
  | .error flaw => .error ⟨flaw.problem, flaw.place.position text.toList⟩

end QueryFuzz.Json
