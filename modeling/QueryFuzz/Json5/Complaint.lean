/-
  QueryFuzz.Json5.Complaint
  ─────────────────────────
  **WHAT IS SAID OF A TEXT THAT IS NOT JSON5.**

  The text is read once more, by rules that are tried in a fixed order, each of
  them either passing over a piece of text or failing where it was tried.  The
  place that is reported is the furthest one at which a rule failed, and the
  rules that failed there are what was expected.  Commas, colons and brackets
  are no rules of their own: a text that lacks one of them is reported where a
  rule failed last.
-/
import QueryFuzz.Json5.Reader

namespace QueryFuzz.Json5

open Json (hexDigit? digits)

/-! ## §1. Rules. -/

/-- A rule by which a piece of text is read. -/
inductive Rule where
  | endOfText
  | array
  | boolean
  | escapedChar
  | plainChar
  | hexEscape
  | name
  | nulEscape
  | null
  | number
  | object
  | string
  | unicodeEscape
  deriving DecidableEq, Repr

namespace Rule

/-- The rules in the order in which they are listed, with their names. -/
def labels : List (Rule × String) :=
  [(endOfText, "EOI"), (array, "array"), (boolean, "boolean"),
    (escapedChar, "char_escape_sequence"), (plainChar, "char_literal"),
    (hexEscape, "hex_escape_sequence"), (name, "identifier"),
    (nulEscape, "nul_escape_sequence"), (null, "null"), (number, "number"), (object, "object"),
    (string, "string"), (unicodeEscape, "unicode_escape_sequence")]

end Rule

/-- The furthest place at which rules failed, by the text left there, and the rules. -/
structure Failures where
  left : List Char
  rules : List Rule
  deriving DecidableEq, Repr

/-- Note that a rule failed where `left` is left. -/
def Failures.note (f : Failures) (rule : Rule) (left : List Char) : Failures :=
  if left.length < f.left.length then ⟨left, [rule]⟩
  else if left.length = f.left.length then { f with rules := rule :: f.rules }
  else f

/-- The text behind what was read, none when it could not be read, and the failures so far. -/
abbrev Progress := Option (List Char) × Failures

/-- Note the failure of a rule at its start, when it failed. -/
def Failures.check (rule : Rule) (start : List Char) : Progress → Progress
  | (some rest, f) => (some rest, f)
  | (none, f) => (none, f.note rule start)

/-! ## §2. Numbers and names. -/

/-- The text behind an exponent, if there is one. -/
def pastExponent (cs : List Char) : List Char :=
  match Json.exponent cs with
  | .ok (_, rest) => rest
  | .error _ => cs

/-- The text behind the longest number at the front. -/
def pastMagnitude? : List Char → Option (List Char)
  | 'I' :: 'n' :: 'f' :: 'i' :: 'n' :: 'i' :: 't' :: 'y' :: cs => some cs
  | 'N' :: 'a' :: 'N' :: cs => some cs
  | cs =>
      match hex? (cs.drop 2), cs with
      | some (_, rest), '0' :: 'x' :: _ | some (_, rest), '0' :: 'X' :: _ => some rest
      | _, '.' :: rest =>
          let (ds, rest) := digits rest
          if ds.isEmpty then none else some (pastExponent rest)
      | _, '0' :: '.' :: rest => some (pastExponent (digits rest).2)
      | _, '0' :: rest => some (pastExponent rest)
      | _, cs =>
          let (ds, rest) := digits cs
          if ds.isEmpty then none
          else
            match rest with
            | '.' :: rest => some (pastExponent (digits rest).2)
            | rest => some (pastExponent rest)

/-- The text behind the longest number at the front, perhaps with a sign. -/
def pastNumber? : List Char → Option (List Char)
  | '+' :: cs | '-' :: cs => pastMagnitude? cs
  | cs => pastMagnitude? cs

/-- Pass over so many hexadecimal digits, which a rule asks for. -/
def passHex (rule : Rule) (count : Nat) (cs : List Char) (f : Failures) : Progress :=
  let ds := cs.take count
  if ds.length = count ∧ ds.all fun c => (hexDigit? c).isSome then (some (cs.drop count), f)
  else (none, f.note rule cs)

/-- Pass over the characters of a name behind the first one. -/
def passNameTail : Nat → List Char → Failures → List Char × Failures
  | 0, cs, f => (cs, f)
  | _ + 1, [], f => ([], f)
  | fuel + 1, '\\' :: 'u' :: cs, f =>
      match passHex .unicodeEscape 4 cs f with
      | (some rest, f) => passNameTail fuel rest f
      | (none, f) => ('\\' :: 'u' :: cs, f)
  | fuel + 1, c :: cs, f => if continuesName c then passNameTail fuel cs f else (c :: cs, f)

/-- Pass over a name. -/
def passName (cs : List Char) (f : Failures) : Progress :=
  let first : Progress :=
    match cs with
    | '\\' :: 'u' :: rest => passHex .unicodeEscape 4 rest f
    | c :: rest => (if startsName c then some rest else none, f)
    | [] => (none, f)
  match first with
  | (none, f) => (none, f.note .name cs)
  | (some rest, f) =>
      let (rest, f) := passNameTail rest.length rest f
      (some rest, f)

/-! ## §3. Strings. -/

/-- Whether a backslash and the character stand for a character by a rule of their own. -/
def isEscaped (c : Char) : Bool :=
  !(c.isDigit || decide (c = 'x' ∨ c = 'u') || endsLine c)

/-- Pass over an escape behind its backslash. -/
def passEscape (cs : List Char) (f : Failures) : Progress :=
  if cs.head?.any isEscaped then (some cs.tail, f)
  else
    let f := f.note .escapedChar cs
    match cs with
    | '0' :: rest => (some rest, f)
    | _ =>
        let f := f.note .nulEscape cs
        match cs with
        | 'x' :: rest => passHex .hexEscape 2 rest f
        | 'u' :: rest => passHex .unicodeEscape 4 rest f
        | '\r' :: '\n' :: rest => (some rest, f)
        | c :: rest => (if endsLine c then some rest else none, f)
        | [] => (none, f)

/-- Pass over a string behind its opening quote. -/
def passStringBody (quote : Char) : Nat → List Char → Failures → Progress
  | 0, cs, f => (none, f.note .plainChar cs)
  | _, [], f => (none, f.note .plainChar [])
  | fuel + 1, c :: cs, f =>
      if c = quote then (some cs, f)
      else if c = '\\' then
        match passEscape cs f with
        | (some rest, f) => passStringBody quote fuel rest f
        | (none, f) => (none, f.note .plainChar (c :: cs))
      else if endsLine c then (none, f.note .plainChar (c :: cs))
      else passStringBody quote fuel cs f

/-- Pass over a string. -/
def passString (cs : List Char) (f : Failures) : Progress :=
  match cs with
  | '"' :: rest => (passStringBody '"' (rest.length + 1) rest f)
  | '\'' :: rest => (passStringBody '\'' (rest.length + 1) rest f)
  | _ => (none, f)

/-- Pass over a key. -/
def passKey (cs : List Char) (f : Failures) : Progress :=
  match passName cs f with
  | (some rest, f) => (some rest, f)
  | (none, f) => Failures.check .string cs (passString cs f)

/-! ## §4. Values. -/

/-- The text behind a word. -/
def pastWord? (word : String) (cs : List Char) : Option (List Char) :=
  if word.toList.isPrefixOf cs then some (cs.drop word.length) else none

/-- Pass over a value by the first of two rules that does not fail. -/
def orPass (first : Failures → Progress) (second : Failures → Progress) (f : Failures) :
    Progress :=
  match first f with
  | (some rest, f) => (some rest, f)
  | (none, f) => second f

/-- A rule for a piece of text that either stands there or does not. -/
def plainly (rule : Rule) (start : List Char) (found : Option (List Char)) (f : Failures) :
    Progress :=
  Failures.check rule start (found, f)

mutual

/-- Pass over a value, in front of which there may be blanks. -/
def passValue : Nat → List Char → Failures → Progress
  | 0, _, f => (none, f)
  | fuel + 1, cs, f =>
      let cs := skipBlanks cs
      orPass (plainly .null cs (pastWord? "null" cs))
        (orPass
          (plainly .boolean cs ((pastWord? "true" cs).or (pastWord? "false" cs)))
          (orPass (fun f => Failures.check .string cs (passString cs f))
            (orPass (plainly .number cs (pastNumber? cs))
              (orPass
                (fun f => Failures.check .object cs <|
                  match cs with
                  | '{' :: rest =>
                      match skipBlanks rest with
                      | '}' :: rest => (some rest, f)
                      | rest => passMembers fuel rest f
                  | _ => (none, f))
                (fun f => Failures.check .array cs <|
                  match cs with
                  | '[' :: rest =>
                      match skipBlanks rest with
                      | ']' :: rest => (some rest, f)
                      | rest => passItems fuel rest f
                  | _ => (none, f)))))) f

/-- Pass over the elements of an array from one of them on, and its bracket. -/
def passItems : Nat → List Char → Failures → Progress
  | 0, _, f => (none, f)
  | fuel + 1, cs, f =>
      match passValue fuel cs f with
      | (none, f) => (none, f)
      | (some rest, f) =>
          match skipBlanks rest with
          | ']' :: rest => (some rest, f)
          | ',' :: rest =>
              match passItems fuel rest f, skipBlanks rest with
              | (some rest, f), _ => (some rest, f)
              | (none, f), ']' :: rest => (some rest, f)
              | (none, f), _ => (none, f)
          | _ => (none, f)

/-- Pass over the members of an object from one of them on, and its bracket. -/
def passMembers : Nat → List Char → Failures → Progress
  | 0, _, f => (none, f)
  | fuel + 1, cs, f =>
      match passKey (skipBlanks cs) f with
      | (none, f) => (none, f)
      | (some rest, f) =>
          match skipBlanks rest with
          | ':' :: rest =>
              match passValue fuel rest f with
              | (none, f) => (none, f)
              | (some rest, f) =>
                  match skipBlanks rest with
                  | '}' :: rest => (some rest, f)
                  | ',' :: rest =>
                      match passMembers fuel rest f, skipBlanks rest with
                      | (some rest, f), _ => (some rest, f)
                      | (none, f), '}' :: rest => (some rest, f)
                      | (none, f), _ => (none, f)
                  | _ => (none, f)
          | _ => (none, f)

end

/-- The furthest failures when a whole text is read. -/
def failures (cs : List Char) : Failures :=
  match passValue (2 * cs.length + 2) cs ⟨cs, []⟩ with
  | (none, f) => f
  | (some rest, f) =>
      let rest := skipBlanks rest
      if rest.isEmpty then f else f.note .endOfText rest

/-! ## §5. Wording. -/

/-- Names with commas between them and "or" before the last one. -/
def orList : List String → String
  | [] => ""
  | [a] => a
  | [a, b] => a ++ " or " ++ b
  | names => ", ".intercalate names.dropLast ++ ", or " ++ names.getLastD ""

/-- What was expected. -/
def Failures.message (f : Failures) : String :=
  let names := (Rule.labels.filter fun l => f.rules.contains l.1).map Prod.snd
  if names.isEmpty then "unknown parsing error" else "expected " ++ orList names

/-- Line and column behind a text, in characters from one on; a carriage return counts as
a character unless a line feed follows. -/
def lineAndColumn : List Char → Nat × Nat → Nat × Nat
  | [], at_ => at_
  | '\r' :: '\n' :: cs, (line, _) => lineAndColumn cs (line + 1, 1)
  | c :: cs, (line, column) =>
      if c = '\n' then lineAndColumn cs (line + 1, 1) else lineAndColumn cs (line, column + 1)

/-- The line that is left at a place, its end included. -/
def lineRest : List Char → List Char
  | [] => []
  | c :: cs => if c = '\n' then [c] else c :: lineRest cs

/-- A line as it is shown: its end is left out, or shown by symbols when it is what does
not fit. -/
def shownLine (line left : List Char) : List Char :=
  match left.head? with
  | some '\r' | some '\n' =>
      line.map fun c => if c = '\r' then '␍' else if c = '\n' then '␊' else c
  | _ => line.filter fun c => decide (c ≠ '\r' ∧ c ≠ '\n')

/-- The report of what keeps a text from being JSON5: position, line, a mark under the
place, and what was expected there. -/
def complaint (text : String) : String :=
  let cs := text.toList
  let f := failures cs
  let before := cs.take (cs.length - f.left.length)
  let (line, column) := lineAndColumn before (1, 1)
  let lineStart := (before.reverse.takeWhile fun c => decide (c ≠ '\n')).reverse
  let shown := shownLine (lineStart ++ lineRest f.left) f.left
  let margin := String.ofList (List.replicate (toString line).length ' ')
  let underline := String.ofList
    ((shown.take (column - 1)).map fun c => if c = '\t' then '\t' else ' ')
  margin ++ "--> " ++ toString line ++ ":" ++ toString column ++ "\n"
    ++ margin ++ " |\n"
    ++ toString line ++ " | " ++ String.ofList shown ++ "\n"
    ++ margin ++ " | " ++ underline ++ "^---\n"
    ++ margin ++ " |\n"
    ++ margin ++ " = " ++ f.message

end QueryFuzz.Json5
