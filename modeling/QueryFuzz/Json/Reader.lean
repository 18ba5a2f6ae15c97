/-
  QueryFuzz.Json.Reader
  ─────────────────────
  **FROM TEXT TO A JSON TREE.**

  The reader never fails: where the text stops being JSON it leaves a cut, and
  everything around the cut is broken with the same complaints.  A complaint is
  placed at the character that does not fit, seen from behind its first byte,
  or at the end of the text.
-/
import QueryFuzz.Json.Basic

namespace QueryFuzz.Json

/-! ## §1. Blanks, digits and words. -/

/-- Drop blanks from the front. -/
def skipBlanks : List Char → List Char
  | [] => []
  | c :: cs => if c = ' ' ∨ c = '\n' ∨ c = '\t' ∨ c = '\r' then skipBlanks cs else c :: cs

/-- The value of a hexadecimal digit. -/
def hexDigit? (c : Char) : Option Nat :=
  if '0' ≤ c ∧ c ≤ '9' then some (c.toNat - '0'.toNat)
  else if 'a' ≤ c ∧ c ≤ 'f' then some (c.toNat - 'a'.toNat + 10)
  else if 'A' ≤ c ∧ c ≤ 'F' then some (c.toNat - 'A'.toNat + 10)
  else none

/-- The number of four hexadecimal digits at the front, and the text behind. -/
def hexQuad? : List Char → Option (Nat × List Char)
  | a :: b :: c :: d :: rest => do
      let a ← hexDigit? a
      let b ← hexDigit? b
      let c ← hexDigit? c
      let d ← hexDigit? d
      some (((a * 16 + b) * 16 + c) * 16 + d, rest)
  | _ => none

/-- The digits at the front, and the text behind. -/
def digits : List Char → List Nat × List Char
  | [] => ([], [])
  | c :: cs =>
      if c.isDigit then
        let (ds, rest) := digits cs
        ((c.toNat - '0'.toNat) :: ds, rest)
      else ([], c :: cs)

/-- The text behind the rest of a word. -/
def word : List Char → List Char → Except Complaint (List Char)
  | [], cs => .ok cs
  | _ :: _, [] => .error { problem := .endInValue }
  | w :: ws, c :: cs => if c = w then word ws cs else .error ⟨.badWord, ⟨c :: cs, 1⟩⟩

/-! ## §2. Strings. -/

/-- What the character behind a backslash stands for, unless it is a `u`. -/
def escape? : Char → Option Char
  | '"' => some '"'
  | '\\' => some '\\'
  | '/' => some '/'
  | 'b' => some '\x08'
  | 'f' => some '\x0C'
  | 'n' => some '\n'
  | 'r' => some '\r'
  | 't' => some '\t'
  | _ => none

/-- Whether a text has fewer bytes than `n`. -/
def shorterThan : Nat → List Char → Bool
  | 0, _ => false
  | _ + 1, [] => true
  | n + 1, c :: cs => shorterThan (n + 1 - c.utf8Size) cs

/-- The number of four hexadecimal digits behind `\u`.  Four bytes are looked at. -/
def unit (cs : List Char) : Except Complaint (Nat × List Char) :=
  match hexQuad? cs with
  | some found => .ok found
  | none =>
      if shorterThan 4 cs then .error { problem := .endInString }
      else .error ⟨.badEscape, ⟨cs, 4⟩⟩

/-- Whether a UTF-16 unit is the first half of a surrogate pair. -/
def isLead (n : Nat) : Bool := decide (0xD800 ≤ n ∧ n ≤ 0xDBFF)

/-- Whether a UTF-16 unit is the second half of a surrogate pair. -/
def isTrail (n : Nat) : Bool := decide (0xDC00 ≤ n ∧ n ≤ 0xDFFF)

/-- The character of a surrogate pair. -/
def pairChar (lead trail : Nat) : Char :=
  Char.ofNat (0x10000 + (lead - 0xD800) * 0x400 + (trail - 0xDC00))

/-- The character of a surrogate pair of which the first half is read. -/
def pair (lead : Nat) : List Char → Except Complaint (Char × List Char)
  | [] | ['\\'] => .error { problem := .endInString }
  | '\\' :: 'u' :: cs =>
      match unit cs with
      | .error k => .error k
      | .ok (trail, rest) =>
          if isTrail trail then .ok (pairChar lead trail, rest)
          else .error ⟨.loneSurrogate, ⟨rest, 0⟩⟩
  | '\\' :: cs => .error ⟨.cutPair, ⟨cs, 1⟩⟩
  | cs => .error ⟨.cutPair, ⟨cs, 1⟩⟩

/-- The character of an escape behind its backslash. -/
def escaped : List Char → Except Complaint (Char × List Char)
  | [] => .error { problem := .endInString }
  | 'u' :: cs =>
      match unit cs with
      | .error k => .error k
      | .ok (n, rest) =>
          if isTrail n then .error ⟨.loneSurrogate, ⟨rest, 0⟩⟩
          else if isLead n then pair n rest
          else .ok (Char.ofNat n, rest)
  | e :: cs =>
      match escape? e with
      | some c => .ok (c, cs)
      | none => .error ⟨.badEscape, ⟨e :: cs, 1⟩⟩

/-- The text of a string behind its opening quote. -/
def stringText : Nat → List Char → Except Complaint (List Char)
  | 0, _ | _, [] => .error { problem := .endInString }
  | fuel + 1, c :: cs =>
      if c = '"' then .ok []
      else if c = '\\' then do
        let (e, rest) ← escaped cs
        let text ← stringText fuel rest
        .ok (e :: text)
      else if c.toNat < 0x20 then .error ⟨.controlInString, ⟨c :: cs, 1⟩⟩
      else do
        let text ← stringText fuel cs
        .ok (c :: text)

/-- The text behind an escape that is passed over. -/
def skipEscape : List Char → Except Complaint (List Char)
  | [] => .error { problem := .endInString }
  | 'u' :: cs => (unit cs).map Prod.snd
  | e :: cs => if (escape? e).isSome then .ok cs else .error ⟨.badEscape, ⟨e :: cs, 1⟩⟩

/-- The text behind a string that is passed over. -/
def skipString : Nat → List Char → Except Complaint (List Char)
  | 0, _ | _, [] => .error { problem := .endInString }
  | fuel + 1, c :: cs =>
      if c = '"' then .ok cs
      else if c = '\\' then do
        let rest ← skipEscape cs
        skipString fuel rest
      else if c.toNat < 0x20 then .error ⟨.controlInString, ⟨c :: cs, 0⟩⟩
      else skipString fuel cs

/-- A string behind its opening quote, as a text that is wanted, and as one that is
passed over. -/
def stringBody (cs : List Char) : Except Complaint String × Except Complaint (List Char) :=
  ((stringText (cs.length + 1) cs).map String.ofList, skipString (cs.length + 1) cs)

/-- What is said of a string that does not end as it should. -/
def stringStop (text : Except Complaint String) (skipped : Complaint) : Stop :=
  match text with
  | .error wanted => ⟨wanted, skipped⟩
  | .ok _ => ⟨skipped, skipped⟩

/-! ## §3. Numbers. -/

/-- A fraction at the front, if there is one; a point without digits behind it is a
failure where they are missing. -/
def fraction : List Char → Except (List Char) (List Nat × List Char)
  | '.' :: cs =>
      let (ds, rest) := digits cs
      if ds.isEmpty then .error rest else .ok (ds, rest)
  | cs => .ok ([], cs)

/-- The digits of an exponent behind its sign. -/
def exponentDigits (negative : Bool) (cs : List Char) :
    Except (List Char) (Option Int × List Char) :=
  let (ds, rest) := digits cs
  if ds.isEmpty then .error rest
  else
    let n : Int := (ds.foldl (fun acc d => acc * 10 + d) 0 : Nat)
    .ok (some (if negative then -n else n), rest)

/-- An exponent at the front, if there is one; one without digits is a failure where
they are missing. -/
def exponent : List Char → Except (List Char) (Option Int × List Char)
  | c :: cs =>
      if c = 'e' ∨ c = 'E' then
        match cs with
        | '+' :: cs => exponentDigits false cs
        | '-' :: cs => exponentDigits true cs
        | cs => exponentDigits false cs
      else .ok (none, c :: cs)
  | [] => .ok (none, [])

/-- A number behind its sign; its whole part has no leading zero.  The failure is the
text from the character on that does not fit. -/
def unsignedNumeral (negative : Bool) (cs : List Char) :
    Except (List Char) (Numeral × List Char) :=
  match digits cs with
  | ([], _) => .error cs
  | (0 :: _ :: _, _) => .error cs.tail
  | (whole, rest) => do
      let (fraction, rest) ← fraction rest
      let (exponent, rest) ← exponent rest
      .ok (⟨negative, whole, fraction, exponent⟩, rest)

/-- A number at the front. -/
def numeral : List Char → Except (List Char) (Numeral × List Char)
  | '-' :: cs => unsignedNumeral true cs
  | cs => unsignedNumeral false cs

/-- What is said of a number that breaks off. -/
def numeralStop (left : List Char) : Stop :=
  ⟨⟨if left.isEmpty then .endInValue else .badNumber, ⟨left, 1⟩⟩, ⟨.badNumber, ⟨left, 1⟩⟩⟩

/-! ## §4. Values. -/

/-- What is said of a text that ends where a value should be. -/
def endStop : Stop := Complaint.always { problem := .endInValue }

/-- A number at the front, or what stands in its place. -/
def numberValue (cs : List Char) : Json :=
  match cs with
  | [] => .cut cs endStop
  | c :: _ =>
      if c = '-' ∨ c.isDigit then
        match numeral cs with
        | .ok (n, rest) => .number n ⟨cs, rest⟩
        | .error left => .cut cs (numeralStop left)
      else .cut cs (Complaint.always ⟨.missingValue, ⟨cs, 1⟩⟩)

/-- A string, of which the opening quote is passed. -/
def stringValue (cs : List Char) : Json :=
  match stringBody cs with
  | (text, .ok rest) => .string text ⟨'"' :: cs, rest⟩
  | (text, .error k) => .cut ('"' :: cs) (stringStop text k)

/-- The value of a word, of which the first letter is passed. -/
def wordValue (v : Span → Json) (first : Char) (others cs : List Char) : Json :=
  match word others cs with
  | .ok rest => v ⟨first :: cs, rest⟩
  | .error k => .cut (first :: cs) k.always

mutual

/-- A value, in front of which there may be blanks. -/
def value : Nat → List Char → Json
  | 0, cs => .cut cs endStop
  | fuel + 1, cs =>
      match skipBlanks cs with
      | 'n' :: rest => wordValue .null 'n' ['u', 'l', 'l'] rest
      | 't' :: rest => wordValue (.bool true) 't' ['r', 'u', 'e'] rest
      | 'f' :: rest => wordValue (.bool false) 'f' ['a', 'l', 's', 'e'] rest
      | '"' :: rest => stringValue rest
      | '[' :: rest =>
          match skipBlanks rest with
          | [] => .array [] ('[' :: rest) (.error (Complaint.always { problem := .endInArray }))
          | ']' :: behind => .array [] ('[' :: rest) (.ok behind)
          | first =>
              let (items, ending) := items fuel first
              .array items ('[' :: rest) ending
      | '{' :: rest =>
          match skipBlanks rest with
          | [] => .object [] ('{' :: rest) (.error (Complaint.always { problem := .endInObject }))
          | '}' :: behind => .object [] ('{' :: rest) (.ok behind)
          | first =>
              let (members, ending) := members fuel first
              .object members ('{' :: rest) ending
      | rest => numberValue rest

/-- The elements of an array from one of them on. -/
def items : Nat → List Char → List Json × Except Stop (List Char)
  | 0, _ => ([], .error (Complaint.always { problem := .endInArray }))
  | fuel + 1, cs =>
      let v := value fuel cs
      match v.ending with
      | .error stop => ([v], .error stop)
      | .ok rest =>
          match skipBlanks rest with
          | [] => ([v], .error (Complaint.always { problem := .endInArray }))
          | ']' :: behind => ([v], .ok behind)
          | ',' :: rest =>
              match skipBlanks rest with
              | [] => ([v], .error endStop)
              | ']' :: behind =>
                  ([v], .error ⟨⟨.trailingComma, ⟨']' :: behind, 1⟩⟩,
                    ⟨.missingValue, ⟨']' :: behind, 1⟩⟩⟩)
              | next =>
                  let (vs, ending) := items fuel next
                  (v :: vs, ending)
          | other => ([v], .error (Complaint.always ⟨.missingArrayComma, ⟨other, 1⟩⟩))

/-- The members of an object from one of them on. -/
def members : Nat → List Char → List (Key × Json) × Except Stop (List Char)
  | 0, _ => ([], .error (Complaint.always { problem := .endInObject }))
  | fuel + 1, '"' :: cs =>
      match stringBody cs with
      | (text, .error k) => ([], .error (stringStop text k))
      | (text, .ok behindKey) =>
          let key : Key := ⟨text, behindKey⟩
          match skipBlanks behindKey with
          | ':' :: rest =>
              let v := value fuel rest
              match v.ending with
              | .error stop => ([(key, v)], .error stop)
              | .ok rest =>
                  match skipBlanks rest with
                  | [] => ([(key, v)], .error (Complaint.always { problem := .endInObject }))
                  | '}' :: behind => ([(key, v)], .ok behind)
                  | ',' :: rest =>
                      match skipBlanks rest with
                      | [] =>
                          ([(key, v)], .error ⟨{ problem := .endInValue },
                            { problem := .endInObject }⟩)
                      | '}' :: behind =>
                          ([(key, v)], .error ⟨⟨.trailingComma, ⟨'}' :: behind, 1⟩⟩,
                            ⟨.foreignKey, ⟨'}' :: behind, 1⟩⟩⟩)
                      | next =>
                          let (ms, ending) := members fuel next
                          ((key, v) :: ms, ending)
                  | other =>
                      ([(key, v)], .error (Complaint.always ⟨.missingObjectComma, ⟨other, 1⟩⟩))
          | [] =>
              let stop := Complaint.always { problem := .endInObject }
              ([(key, .cut [] stop)], .error stop)
          | other =>
              let stop := Complaint.always ⟨.missingColon, ⟨other, 1⟩⟩
              ([(key, .cut [] stop)], .error stop)
  | _ + 1, cs => ([], .error (Complaint.always ⟨.foreignKey, ⟨cs, 1⟩⟩))

end

/-- Read the value at the front of a text.  Every call of `value`, `items` and
`members` uses up a character within two calls, which bounds their nesting. -/
def ofChars (cs : List Char) : Json := value (2 * cs.length + 2) cs

end QueryFuzz.Json
