/-
  QueryFuzz.Json5.Reader
  ──────────────────────
  **FROM TEXT TO A JSON5 TREE.**

  JSON with comments, trailing commas, strings in either quote, keys without
  quotes, and more ways to write a number.  A text is read as a whole or not at
  all; each function below answers a part and the text behind it.
-/
import QueryFuzz.Json.Reader
import QueryFuzz.Json5.Basic
import QueryFuzz.Unicode.Letter
import QueryFuzz.Unicode.NameMark

namespace QueryFuzz.Json5

open Json (hexDigit? hexQuad? digits)

/-! ## §1. Blanks and comments. -/

/-- Whether a character ends a line. -/
def endsLine (c : Char) : Bool :=
  decide (c = '\n' ∨ c = '\r' ∨ c = '\u2028' ∨ c = '\u2029')

/-- Whether a character is blank. -/
def isBlank (c : Char) : Bool :=
  decide (c = '\t' ∨ c = '\x0B' ∨ c = '\x0C' ∨ c = '\uFEFF') || endsLine c
    || Unicode.isSpaceSeparator c

mutual

/-- Drop blanks and comments from the front; a comment between marks that does not end
stays. -/
def skipBlanks : List Char → List Char
  | [] => []
  | '/' :: '*' :: cs => skipBlock ('/' :: '*' :: cs) cs
  | '/' :: '/' :: cs => skipLine cs
  | c :: cs => if isBlank c then skipBlanks cs else c :: cs

/-- Drop the rest of a comment that ends with its line, and what may be dropped behind. -/
def skipLine : List Char → List Char
  | [] => []
  | c :: cs => if endsLine c then skipBlanks cs else skipLine cs

/-- Drop the rest of a comment between marks, and what may be dropped behind; of one that
does not end the text `whole` from its first mark on is left. -/
def skipBlock (whole : List Char) : List Char → List Char
  | [] => whole
  | '*' :: '/' :: cs => skipBlanks cs
  | _ :: cs => skipBlock whole cs

end

/-! ## §2. Strings and keys. -/

/-- The pieces of a string up to its closing quote. -/
def stringPieces (quote : Char) : Nat → List Char → Option (List Piece × List Char)
  | 0, _ => none
  | _ + 1, [] => none
  | fuel + 1, c :: cs =>
      if c = quote then some ([], cs)
      else if c = '\\' then
        match cs with
        | [] => none
        | 'x' :: a :: b :: rest => do
            let a ← hexDigit? a
            let b ← hexDigit? b
            let (ps, rest) ← stringPieces quote fuel rest
            some (.byte (a * 16 + b) :: ps, rest)
        | 'u' :: rest => do
            let (n, rest) ← hexQuad? rest
            let (ps, rest) ← stringPieces quote fuel rest
            some (.unit n :: ps, rest)
        | '\r' :: '\n' :: rest => stringPieces quote fuel rest
        | e :: rest =>
            if endsLine e then stringPieces quote fuel rest
            else if decide (e = 'x') || (e.isDigit && decide (e ≠ '0')) then none
            else do
              let (ps, rest) ← stringPieces quote fuel rest
              some (.escaped e :: ps, rest)
      else if endsLine c then none
      else do
        let (ps, rest) ← stringPieces quote fuel cs
        some (.literal c :: ps, rest)

/-- A string behind its opening quote. -/
def string? (quote : Char) (cs : List Char) : Option (List Piece × List Char) :=
  stringPieces quote (cs.length + 1) cs

/-- Whether a key without quotes may start with the character. -/
def startsName (c : Char) : Bool :=
  decide (c = '$' ∨ c = '_') || Unicode.isNameLetter c

/-- Whether a key without quotes may go on with the character. -/
def continuesName (c : Char) : Bool :=
  startsName c || Unicode.isNameMark c || decide (c = '\u200C' ∨ c = '\u200D')

/-- The pieces of a key without quotes from its second character on. -/
def nameTail : Nat → List Char → List Piece × List Char
  | 0, cs => ([], cs)
  | _ + 1, [] => ([], [])
  | fuel + 1, '\\' :: 'u' :: cs =>
      match hexQuad? cs with
      | none => ([], '\\' :: 'u' :: cs)
      | some (n, rest) =>
          let (ps, rest) := nameTail fuel rest
          (.unit n :: ps, rest)
  | fuel + 1, c :: cs =>
      if continuesName c then
        let (ps, rest) := nameTail fuel cs
        (.literal c :: ps, rest)
      else ([], c :: cs)

/-- A key without quotes. -/
def name? : List Char → Option (List Piece × List Char)
  | [] => none
  | '\\' :: 'u' :: cs => do
      let (n, rest) ← hexQuad? cs
      let (ps, rest) := nameTail rest.length rest
      some (.unit n :: ps, rest)
  | c :: cs =>
      if startsName c then
        let (ps, rest) := nameTail cs.length cs
        some (.literal c :: ps, rest)
      else none

/-- A key. -/
def key? : List Char → Option (List Piece × List Char)
  | '"' :: cs => string? '"' cs
  | '\'' :: cs => string? '\'' cs
  | cs => name? cs

/-! ## §3. Numbers. -/

/-- The hexadecimal digits at the front. -/
def hexDigits : List Char → List Nat × List Char
  | [] => ([], [])
  | c :: cs =>
      match hexDigit? c with
      | none => ([], c :: cs)
      | some d =>
          let (ds, rest) := hexDigits cs
          (d :: ds, rest)

/-- A decimal number; a point needs a digit on one of its sides, and the digits
before it have no leading zero. -/
def decimal? (cs : List Char) : Option (Magnitude × List Char) :=
  let (whole, cs) := digits cs
  if whole.head? = some 0 && whole.length ≠ 1 then none
  else
    match cs with
    | '.' :: cs =>
        let (fraction, cs) := digits cs
        if whole.isEmpty && fraction.isEmpty then none
        else (Json.exponent cs).toOption.map fun (e, cs) => (.decimal whole (some fraction) e, cs)
    | cs =>
        if whole.isEmpty then none
        else (Json.exponent cs).toOption.map fun (e, cs) => (.decimal whole none e, cs)

/-- A hexadecimal number behind its mark. -/
def hex? (cs : List Char) : Option (Magnitude × List Char) :=
  let (ds, rest) := hexDigits cs
  if ds.isEmpty then none else some (.hex ds, rest)

/-- A number without its sign. -/
def magnitude? : List Char → Option (Magnitude × List Char)
  | '0' :: 'x' :: cs => hex? cs
  | '0' :: 'X' :: cs => hex? cs
  | 'I' :: 'n' :: 'f' :: 'i' :: 'n' :: 'i' :: 't' :: 'y' :: cs => some (.infinity, cs)
  | 'N' :: 'a' :: 'N' :: cs => some (.nan, cs)
  | cs => decimal? cs

/-- A number. -/
def number? (cs : List Char) : Option (Number × List Char) :=
  let (sign, cs) := match cs with
    | '+' :: cs => (Sign.plus, cs)
    | '-' :: cs => (Sign.minus, cs)
    | cs => (Sign.absent, cs)
  (magnitude? cs).map fun (m, cs) => (⟨sign, m⟩, cs)

/-! ## §4. Values. -/

mutual

/-- A value, in front of which there may be blanks. -/
def value? : Nat → List Char → Option (Json5 × List Char)
  | 0, _ => none
  | fuel + 1, cs =>
      match skipBlanks cs with
      | 'n' :: 'u' :: 'l' :: 'l' :: rest => some (.null, rest)
      | 't' :: 'r' :: 'u' :: 'e' :: rest => some (.bool true, rest)
      | 'f' :: 'a' :: 'l' :: 's' :: 'e' :: rest => some (.bool false, rest)
      | '"' :: rest =>
          (string? '"' rest).map fun (ps, behind) => (.string (rest.headD '"') ps, behind)
      | '\'' :: rest =>
          (string? '\'' rest).map fun (ps, behind) => (.string (rest.headD '\'') ps, behind)
      | '[' :: rest =>
          match skipBlanks rest with
          | ']' :: behind => some (.array (rest.headD ']') [], behind)
          | next => (items? fuel next).map fun (vs, behind) => (.array (rest.headD ']') vs, behind)
      | '{' :: rest =>
          match skipBlanks rest with
          | '}' :: behind => some (.object (rest.headD '}') [], behind)
          | next =>
              (members? fuel next).map fun (ms, behind) => (.object (rest.headD '}') ms, behind)
      | rest => (number? rest).map fun (n, rest) => (.number n, rest)

/-- The elements of an array from one of them on. -/
def items? : Nat → List Char → Option (List Json5 × List Char)
  | 0, _ => none
  | fuel + 1, cs => do
      let (v, rest) ← value? fuel cs
      match skipBlanks rest with
      | ']' :: rest => some ([v], rest)
      | ',' :: rest =>
          match skipBlanks rest with
          | ']' :: rest => some ([v], rest)
          | rest => do
              let (vs, rest) ← items? fuel rest
              some (v :: vs, rest)
      | _ => none

/-- The members of an object from one of them on. -/
def members? : Nat → List Char → Option (List (List Piece × Json5) × List Char)
  | 0, _ => none
  | fuel + 1, cs => do
      let (k, rest) ← key? (skipBlanks cs)
      match skipBlanks rest with
      | ':' :: rest => do
          let (v, rest) ← value? fuel rest
          match skipBlanks rest with
          | '}' :: rest => some ([(k, v)], rest)
          | ',' :: rest =>
              match skipBlanks rest with
              | '}' :: rest => some ([(k, v)], rest)
              | rest => do
                  let (ms, rest) ← members? fuel rest
                  some ((k, v) :: ms, rest)
          | _ => none
      | _ => none

end

/-- Read a whole text.  Every call of `value?`, `items?` and `members?` uses up a
character within two calls, which bounds their nesting. -/
def ofText (text : String) : Option Json5 :=
  let cs := text.toList
  match value? (2 * cs.length + 2) cs with
  | some (v, rest) => if (skipBlanks rest).isEmpty then some v else none
  | none => none

end QueryFuzz.Json5
