/-
  QueryFuzz.Log.Directive
  ───────────────────────
  **FILTERS FROM TEXT.**

  A text lists directives with commas between them, such as
  `info,campaign=debug`.  A directive has up to three parts: the start of the
  targets it is about, a span with fields in brackets, and behind an equals
  sign the verbosity it lets through.

  Blanks around a directive are passed over when it is read, but its parts are
  cut out of the text with its blanks, by bytes counted without them.  So in
  front of a directive they move its parts, and may split a character, which is
  a fault.
-/
import QueryFuzz.Count
import QueryFuzz.Document.Problem
import QueryFuzz.Log.Filter
import QueryFuzz.Log.Pattern
import QueryFuzz.Unicode.Alphanumeric

namespace QueryFuzz

/-! ## §1. Verbosities. -/

namespace Filter

/-- Verbosities by their names. -/
def levels : List (String × Nat) :=
  [("off", 0), ("error", 1), ("warn", 2), ("info", 3), ("debug", 4), ("trace", 5)]

/-- What lets everything through. -/
def mostVerbose : Nat := 5

/-- The verbosity of a number, or of a name, the case of ASCII letters ignored. -/
def level? (cs : List Char) : Option Nat :=
  match count? mostVerbose cs with
  | some n => some n
  | none =>
      (levels.find? fun l => decide (l.1 = (String.ofList cs).toLower)).map Prod.snd

end Filter

/-! ## §2. Parts of a text. -/

/-- The text behind so many bytes; none when they end inside a character. -/
def dropBytes? : Nat → List Char → Option (List Char)
  | 0, cs => some cs
  | _ + 1, [] => none
  | n + 1, c :: cs => if c.utf8Size ≤ n + 1 then dropBytes? (n + 1 - c.utf8Size) cs else none

/-- So many bytes of a text; none when they end inside a character. -/
def takeBytes? : Nat → List Char → Option (List Char)
  | 0, _ => some []
  | _ + 1, [] => none
  | n + 1, c :: cs =>
      if c.utf8Size ≤ n + 1 then (takeBytes? (n + 1 - c.utf8Size) cs).map (c :: ·) else none

/-! ## §3. Directives. -/

/-- A directive. -/
structure Directive where
  start : Option (List Char) := none
  /-- The span it is about. -/
  span : Option (List Char) := none
  /-- The fields it asks for, and whether it asks for a value of theirs too. -/
  fields : List (List Char × Bool) := []
  most : Nat := Filter.mostVerbose
  deriving DecidableEq, Repr

/-- What is wrong with a directive. -/
inductive DirectiveProblem where
  | invalid
  | badLevel
  /-- The value that it asks of a field makes no sense. -/
  | badValue (p : PatternProblem)
  /-- A part of it begins or ends inside a character, which is a fault. -/
  | splitCharacter
  deriving DecidableEq, Repr

/-- The wording of a problem. -/
def DirectiveProblem.message : DirectiveProblem → String
  | invalid => "invalid filter directive"
  | badLevel =>
      "error parsing level filter: expected one of \"off\", \"error\", \"warn\", \"info\", "
        ++ "\"debug\", \"trace\", or a number 0-5"
  | badValue p => "invalid field filter: " ++ p.message
  | splitCharacter => "a part begins or ends inside a character"

namespace Directive

/-- How far a directive is read, with the byte at which the current part begins. -/
inductive Stage where
  | beginning
  /-- In a verbosity or a start of targets. -/
  | word (first : Nat)
  /-- Behind an opening bracket. -/
  | span (first : Nat)
  /-- Behind an opening brace. -/
  | field (first : Nat)
  /-- Behind a closing brace. -/
  | fieldsDone
  /-- Behind a closing bracket. -/
  | spanDone
  /-- Behind an equals sign. -/
  | level (first : Nat)
  deriving DecidableEq, Repr

/-- A directive that is being read. -/
structure Reading where
  stage : Stage := .beginning
  directive : Directive := {}

/-- The part of a text from one byte up to another. -/
def part (text : List Char) (first behind : Nat) : Except DirectiveProblem (List Char) :=
  match (dropBytes? first text).bind (takeBytes? (behind - first)) with
  | some cs => .ok cs
  | none => .error .splitCharacter

/-- The part of a text from one byte on. -/
def partFrom (text : List Char) (first : Nat) : Except DirectiveProblem (List Char) :=
  match dropBytes? first text with
  | some cs => .ok cs
  | none => .error .splitCharacter

/-- Whether a directive may begin with a character that is no bracket. -/
def beginsWith (c : Char) : Bool :=
  decide (c = '-' ∨ c = ':' ∨ c = '_') || Unicode.isAlphanumeric c

/-- A field that a directive asks for: its name up to an equals sign, and whether a value
stands behind that, which ends at another one. -/
def field (cs : List Char) : Except DirectiveProblem (List Char × Bool) :=
  let name := cs.takeWhile (· ≠ '=')
  match cs.dropWhile (· ≠ '=') with
  | [] => .ok (name, false)
  | _ :: value =>
      match Pattern.problem? (value.takeWhile (· ≠ '=')) with
      | some p => .error (.badValue p)
      | none => .ok (name, true)

/-- Go on with a character, in front of which stand `i` bytes. -/
def step (text : List Char) (r : Reading) (i : Nat) (c : Char) :
    Except DirectiveProblem Reading :=
  match r.stage with
  | .beginning =>
      if c = '[' then .ok { r with stage := .span (i + 1) }
      else if beginsWith c then .ok { r with stage := .word i }
      else .error .invalid
  | .word first =>
      if c = '=' then do
        let start ← part text first i
        .ok ⟨.level (i + 1), { r.directive with start := some start }⟩
      else if c = '[' then do
        let start ← part text first i
        .ok ⟨.span (i + 1), { r.directive with start := some start }⟩
      else .ok r
  | .span first =>
      if c = ']' then do
        let name ← part text first i
        .ok ⟨.spanDone, { r.directive with span := some name }⟩
      else if c = '{' then do
        let name ← part text first i
        .ok ⟨.field (i + 1),
          { r.directive with span := if name.isEmpty then none else some name }⟩
      else .ok r
  | .field first =>
      if c = '}' then do
        let cs ← part text first i
        if cs.isEmpty then .error .invalid
        else do
          let f ← field cs
          .ok ⟨.fieldsDone, { r.directive with fields := r.directive.fields ++ [f] }⟩
      else .ok r
  | .fieldsDone => if c = ']' then .ok { r with stage := .spanDone } else .error .invalid
  | .spanDone => if c = '=' then .ok { r with stage := .level (i + 1) } else .error .invalid
  | .level _ => .ok r

/-- Go on with the characters of a directive. -/
def steps (text : List Char) : Reading → Nat → List Char → Except DirectiveProblem Reading
  | r, _, [] => .ok r
  | r, i, c :: cs => do
      let r ← step text r i c
      steps text r (i + c.utf8Size) cs

/-- The verbosity behind an equals sign; none lets everything through. -/
def levelPart (cs : List Char) : Except DirectiveProblem Nat :=
  if cs.isEmpty then .ok Filter.mostVerbose
  else
    match Filter.level? cs with
    | some level => .ok level
    | none => .error .badLevel

/-- The directive that is read when its text ends. -/
def finish (text : List Char) (r : Reading) : Except DirectiveProblem Directive :=
  match r.stage with
  | .word first => do
      let w ← partFrom text first
      match Filter.level? w with
      | some level => .ok { r.directive with most := level }
      | none => .ok { r.directive with start := some w }
  | .level first => do
      let level ← (partFrom text first).bind levelPart
      .ok { r.directive with most := level }
  | .spanDone => .ok r.directive
  | _ => .error .invalid

/-- Read a directive. -/
def ofChars (text : List Char) : Except DirectiveProblem Directive := do
  let r ← steps text {} 0 (Unicode.trim text)
  finish text r

/-- The rule of a directive.  One about spans, of which there are none, or about values
of fields has no effect. -/
def rule? (d : Directive) : Option FilterRule :=
  if d.span.isSome || d.fields.any Prod.snd then none
  else
    some
      { start := d.start.map String.ofList
        fields := d.fields.map fun f => String.ofList f.1
        most := d.most }

end Directive

/-! ## §4. Filters. -/

namespace Filter

/-- The directives of a text: its parts between commas, empty ones left out. -/
def directives (text : String) : List (List Char × Except DirectiveProblem Directive) :=
  ((text.splitOn ",").filter fun part => !part.isEmpty).map fun part =>
    (part.toList, Directive.ofChars part.toList)

/-- Whether reading the directives of a text ends in a fault. -/
def isFault (text : String) : Bool :=
  (directives text).any fun d =>
    match d.2 with
    | .error .splitCharacter => true
    | _ => false

/-- What is reported about the directives that make no sense. -/
def complaints (text : String) : String :=
  String.join ((directives text).filterMap fun d =>
    match d.2 with
    | .ok _ => none
    | .error p =>
        some ("ignoring " ++ ReadProblem.quoted (String.ofList d.1) ++ ": " ++ p.message ++ "\n"))

/-- The rule for whatever no other rule is about. -/
def general : FilterRule := { most := Severity.info.verbosity }

/-- The filter of a text: its rules, those that ask for fields behind the others, and
last the general rule. -/
def ofText (text : String) : Filter :=
  let rules := (directives text).filterMap fun d => d.2.toOption.bind Directive.rule?
  let (plain, special) := rules.partition fun r => r.fields.isEmpty
  (plain ++ special ++ [general]).foldl (fun filter r => filter.add r) []

end Filter

end QueryFuzz
