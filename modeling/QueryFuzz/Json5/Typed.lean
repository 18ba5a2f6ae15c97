/-
  QueryFuzz.Json5.Typed
  ─────────────────────
  **READING JSON5 VALUES OF A WANTED KIND.**

  Every number is read as a double, and a count is its whole part held in the
  range of the count.  Where a record is wanted, a string or number is read
  before it is refused, so what is wrong with it comes first.
-/
import QueryFuzz.Document.Knobs
import QueryFuzz.Json5.Reader

namespace QueryFuzz.Json5

/-! ## §1. Strings. -/

/-- The character that a backslash and a character stand for. -/
def escapedChar : Char → Char
  | 'b' => '\x08'
  | 'f' => '\x0C'
  | 'n' => '\n'
  | 'r' => '\r'
  | 't' => '\t'
  | 'v' => '\x0B'
  | '0' => '\x00'
  | c => c

/-- The number that a piece is when it is taken as the second half of a surrogate
pair: what is written in it, in hexadecimal digits. -/
def Piece.hex? : Piece → Option Nat
  | .literal c => Json.hexDigit? c
  | .escaped mark => Json.hexDigit? mark
  | .byte n => some n
  | .unit n => some n

/-- The character of a surrogate pair: the halves' bits are joined by "or" once the
offset is added, so that in the upper half of each plane some bits coincide. -/
def pairChar (lead trail : Nat) : Char :=
  Char.ofNat (((lead - 0xD800) <<< 10) ||| (trail - 0xDC00 + 0x10000))

example : pairChar 0xD83D 0xDE00 = '😀' := by decide
example : pairChar 0xDBFF 0xDFFF = Char.ofNat 0xFFFFF := by decide

/-- The text of pieces. -/
def text : List Piece → Except ReadProblem (List Char)
  | [] => .ok []
  | .literal c :: ps =>
      match text ps with
      | .ok cs => .ok (c :: cs)
      | .error p => .error p
  | .escaped mark :: ps =>
      match text ps with
      | .ok cs => .ok (escapedChar mark :: cs)
      | .error p => .error p
  | .byte n :: ps =>
      match text ps with
      | .ok cs => .ok (Char.ofNat n :: cs)
      | .error p => .error p
  | .unit n :: ps =>
      if 0xDC00 ≤ n ∧ n ≤ 0xDFFF then .error .strayTrail
      else if 0xD800 ≤ n ∧ n ≤ 0xDBFF then
        match ps with
        | [] => .error .missingTrail
        | trail :: ps =>
            match trail.hex? with
            | none => .error .badHex
            | some m =>
                if 0xDC00 ≤ m ∧ m ≤ 0xDFFF then
                  match text ps with
                  | .ok cs => .ok (pairChar n m :: cs)
                  | .error p => .error p
                else .error .wrongTrail
      else
        match text ps with
        | .ok cs => .ok (Char.ofNat n :: cs)
        | .error p => .error p

/-- The text of a string or key. -/
def readPieces (ps : List Piece) : Except Flaw String :=
  match text ps with
  | .ok cs => .ok (String.ofList cs)
  | .error p => .error { problem := p }

/-! ## §2. Numbers. -/

/-- The value of digits in a base. -/
def ofDigits (base : Nat) (ds : List Nat) : Nat := ds.foldl (fun n d => n * base + d) 0

/-- The greatest hexadecimal number. -/
def mostHex : Nat := 2 ^ 32 - 1

/-- The double of a number.  An infinity or NaN with a plus, and a decimal number
that rounds to an infinity, is too large; a hexadecimal number has no sign. -/
def Number.double (n : Number) : Except ReadProblem Double :=
  match n.magnitude, n.sign with
  | .infinity, .plus => .error .numberTooLarge
  | .infinity, sign => .ok (.infinity (decide (sign = .minus)))
  | .nan, .plus => .error .numberTooLarge
  | .nan, _ => .ok .nan
  | .hex ds, .absent =>
      if ofDigits 16 ds ≤ mostHex then .ok (.ofNat (ofDigits 16 ds)) else .error .badHex
  | .hex _, _ => .error .notNumber
  | .decimal whole fraction exponent, sign =>
      let behind := fraction.getD []
      let d := Double.ofDecimal (decide (sign = .minus)) (ofDigits 10 (whole ++ behind))
        (exponent.getD 0 - behind.length)
      if d.isInfinite then .error .numberTooLarge else .ok d

/-- Whether a number is read as a whole one: it has no point and no exponent, and
is neither a NaN nor an infinity.  With a sign in front, a hexadecimal number that
has the digit E counts as one with an exponent, and the words behind a plus as
whole. -/
def Number.isWhole (n : Number) : Bool :=
  match n.magnitude, n.sign with
  | .infinity, sign | .nan, sign => decide (sign = .plus)
  | .hex _, .absent => true
  | .hex ds, _ => !ds.contains 14
  | .decimal _ fraction exponent, _ => fraction.isNone && exponent.isNone

/-- The integer of a whole number, which has to fit 64 bits. -/
def Number.integer (n : Number) : Except ReadProblem Int :=
  match n.magnitude, n.sign with
  | .hex ds, .absent =>
      if ofDigits 16 ds ≤ mostHex then .ok (ofDigits 16 ds) else .error .badHex
  | .decimal whole _ _, .minus =>
      if ofDigits 10 whole ≤ 2 ^ 63 then .ok (-(ofDigits 10 whole : Int)) else .error .badInteger
  | .decimal whole _ _, _ =>
      if ofDigits 10 whole ≤ 2 ^ 63 - 1 then .ok (ofDigits 10 whole) else .error .badInteger
  | _, _ => .error .badInteger

/-- The wording of a number that is not wanted; it is read as what it looks like first. -/
def Number.found (n : Number) : Except ReadProblem String :=
  if n.isWhole then
    match n.integer with
    | .ok i => .ok (foundInteger i)
    | .error p => .error p
  else
    match n.double with
    | .ok d => .ok (foundDouble (d.render Double.pointed))
    | .error p => .error p

/-! ## §3. Values of a wanted kind. -/

/-- What is wrong with a text in the place of a number that is none: to see whether it
is hexadecimal its first two bytes are cut off, which is a fault when they end
inside its second character. -/
def numberProblem (second : Char) : ReadProblem :=
  if second.toNat < 0x80 then .notNumber else .splitCharacter second

/-- A double. -/
def readDouble : Json5 → Except Flaw Double
  | .number n =>
      match n.double with
      | .ok d => .ok d
      | .error p => .error { problem := p }
  | .string first _ | .array first _ | .object first _ =>
      .error { problem := numberProblem first }
  | _ => .error { problem := .notNumber }

/-- A count from 0 to `most`: the whole part of a number, held in that range. -/
def readCount (most : Nat) (v : Json5) : Except Flaw Nat :=
  match readDouble v with
  | .ok d => .ok (d.clampToNat most)
  | .error p => .error p

/-- A count that is absent when the value is null. -/
def readCount? (most : Nat) : Json5 → Except Flaw (Option Nat)
  | .null => .ok none
  | v =>
      match readCount most v with
      | .ok n => .ok (some n)
      | .error p => .error p

/-- The wording of a value that is not wanted. -/
def found : Json5 → Except ReadProblem String
  | .null => .ok "unit value"
  | .bool b => .ok (foundBool b)
  | .number n => n.found
  | .string _ ps =>
      match text ps with
      | .ok cs => .ok (foundText (String.ofList cs))
      | .error p => .error p
  | .array .. => .ok foundArray
  | .object .. => .ok foundObject

/-- What is wrong with a value of a kind that is not wanted. -/
def kindFlaw (expected : String) (v : Json5) : Flaw :=
  match v.found with
  | .ok found => { problem := .wrongKind found expected }
  | .error p => { problem := p }

/-- A record, as an object or an array; elements behind the last field are passed over. -/
def readRecord {R : Type} (shape : RecordShape Json5 R) : Json5 → Except Flaw R
  | .object _ ms =>
      shape.ofMembers (ms.map fun m => { key := readPieces m.1, value := m.2 }) (.ok {})
  | .array _ items => shape.ofItems items (.ok {})
  | v => .error (v.kindFlaw shape.wanted)

/-- Knobs in JSON5. -/
def knobs : KnobReaders Json5 where
  count32 := readCount (2 ^ 32 - 1)
  count32? := readCount? (2 ^ 32 - 1)
  count64 := readCount (2 ^ 64 - 1)
  double := readDouble
  skip _ := .ok ()

end QueryFuzz.Json5
