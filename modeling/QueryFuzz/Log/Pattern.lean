/-
  QueryFuzz.Log.Pattern
  ─────────────────────
  **WHICH VALUES A DIRECTIVE MAY ASK OF A FIELD.**

  A value is a number or a regular expression.  No event is held against it
  here, but an expression has to make sense, and a machine without
  backtracking has to exist for it.  It is read from left to right; of what is
  read no more is kept than how deep its parts are nested, which is limited.

  Classes of characters are known for ASCII alone: those named by a letter
  behind a backslash, and the other case of a letter, make no sense unless the
  expression says it is about bytes.  Bytes behind ASCII make no text, so in an
  expression about bytes nothing may stand for them.

      Pattern.problem? — what is wrong with a value
-/
import QueryFuzz.Json.Reader
import QueryFuzz.Unicode.Alphanumeric

namespace QueryFuzz

/-- What is wrong with a value that a directive asks of a field. -/
inductive PatternProblem where
  | malformed
  /-- It asks where words end, words being words of any script. -/
  | wordBoundary
  deriving DecidableEq, Repr

/-- The wording of a problem. -/
def PatternProblem.message : PatternProblem → String
  | malformed => "error building NFA"
  | wordBoundary =>
      "unsupported regex feature for DFAs: cannot build DFAs for regexes with Unicode word "
        ++ "boundaries; switch to ASCII word boundaries, or heuristically enable Unicode word "
        ++ "boundaries or use a different regex engine"

namespace Pattern

/-! ## §1. Modes. -/

/-- What an expression has said about how it is read. -/
structure Mode where
  /-- A letter stands for its other case too. -/
  caseless : Bool := false
  /-- It is about characters, not about bytes. -/
  unicode : Bool := true
  /-- Blanks and comments between its parts are passed over. -/
  spaced : Bool := false
  deriving DecidableEq, Repr

/-- The flags by which an expression says how it is read. -/
def flagLetters : List Char := ['i', 'm', 's', 'U', 'u', 'R', 'x']

/-- A mode with a flag set or cleared. -/
def Mode.set (m : Mode) (flag : Char) (value : Bool) : Mode :=
  match flag with
  | 'i' => { m with caseless := value }
  | 'u' => { m with unicode := value }
  | 'x' => { m with spaced := value }
  | _ => m

/-- A mode with flags set, and those behind a minus cleared. -/
def Mode.setAll (m : Mode) (flags : List Char) : Mode :=
  let m := (flags.takeWhile (· ≠ '-')).foldl (fun m f => m.set f true) m
  (flags.dropWhile (· ≠ '-')).foldl (fun m f => m.set f false) m

/-- Flags, each at most once, with the character behind them and the text behind that;
`seen` are those read before, the last one first. -/
def flags? (seen : List Char) : List Char → Option (List Char × Char × List Char)
  | [] => none
  | c :: cs =>
      if c = ':' ∨ c = ')' then
        if seen.head? = some '-' then none else some (seen.reverse, c, cs)
      else if (c = '-' ∨ flagLetters.contains c) ∧ !seen.contains c then flags? (c :: seen) cs
      else none

/-- Drop blanks and comments from the front; `comment` says whether it lies in one. -/
def dropSpace (comment : Bool) : List Char → List Char
  | [] => []
  | c :: cs =>
      if comment then dropSpace (decide (c ≠ '\n')) cs
      else if Unicode.isWhiteSpace c then dropSpace false cs
      else if c = '#' then dropSpace true cs
      else c :: cs

/-- Drop what is passed over between the parts of an expression. -/
def Mode.drop (m : Mode) (cs : List Char) : List Char := if m.spaced then dropSpace false cs else cs

/-! ## §2. Characters and what a backslash makes of them. -/

/-- A part of an expression that has no parts of its own. -/
inductive Atom where
  /-- A character; by two hexadecimal digits it may be a byte. -/
  | char (c : Char) (byte : Bool)
  /-- A class of characters. -/
  | kind
  /-- A place between characters. -/
  | place
  /-- A place where a word ends or does not. -/
  | boundary
  deriving DecidableEq, Repr

/-- The number of so many hexadecimal digits. -/
def hexNumber? (m : Mode) : Nat → Nat → List Char → Option (Nat × List Char)
  | 0, n, cs => some (n, cs)
  | k + 1, n, cs =>
      match m.drop cs with
      | [] => none
      | c :: cs => do
          let d ← Json.hexDigit? c
          hexNumber? m k (n * 16 + d) cs

/-- The character of so many hexadecimal digits. -/
def hexChar? (m : Mode) (digits : Nat) (cs : List Char) : Option (Atom × List Char) := do
  let (n, rest) ← hexNumber? m digits 0 cs
  if n.isValidChar then some (.char (Char.ofNat n) (decide (digits = 2)), rest) else none

/-- What a character behind a backslash means besides itself. -/
def control? : Char → Option Char
  | 'a' => some '\x07'
  | 'f' => some '\x0C'
  | 'n' => some '\n'
  | 'r' => some '\r'
  | 't' => some '\t'
  | 'v' => some '\x0B'
  | _ => none

/-- Whether a backslash leaves a character what it is. -/
def isMark (c : Char) : Bool := decide (c.toNat < 0x80) && !c.isAlphanum

/-- What stands behind a backslash. -/
def escape? (m : Mode) : List Char → Option (Atom × List Char)
  | [] => none
  | c :: cs =>
      match control? c with
      | some control => some (.char control false, cs)
      | none =>
          if c = 'x' then hexChar? m 2 cs
          else if c = 'u' then hexChar? m 4 cs
          else if c = 'U' then hexChar? m 8 cs
          else if c = 'd' ∨ c = 's' ∨ c = 'w' then if m.unicode then none else some (.kind, cs)
          else if c = 'A' ∨ c = 'z' then some (.place, cs)
          else if c = 'b' ∨ c = 'B' ∨ c = '<' ∨ c = '>' then some (.boundary, cs)
          else if isMark c then some (.char c false, cs)
          else none

/-- Whether a character makes sense outside brackets. -/
def Mode.allows (m : Mode) (c : Char) (byte : Bool) : Bool :=
  if m.unicode then !m.caseless else !byte || decide (c.toNat < 0x80)

/-- Whether a character makes sense in brackets. -/
def Mode.allowsInBrackets (m : Mode) (c : Char) : Bool :=
  if m.unicode then !m.caseless else decide (c.toNat < 0x80)

/-! ## §3. Brackets. -/

/-- The depth of parts in a row. -/
def rowDepth : List Nat → Nat
  | [] => 0
  | [d] => d
  | ds => ds.foldl max 0 + 1

/-- The classes that have a name between colons. -/
def namedClasses : List String :=
  ["alnum", "alpha", "ascii", "blank", "cntrl", "digit", "graph", "lower", "print", "punct",
    "space", "upper", "word", "xdigit"]

/-- A class by its name, behind its opening bracket: whether it is negated, and the text
behind it. -/
def namedClass? : List Char → Option (Bool × List Char)
  | ':' :: cs =>
      let (negated, cs) := match cs with
        | '^' :: cs => (true, cs)
        | cs => (false, cs)
      match cs.dropWhile (· ≠ ':') with
      | ':' :: ']' :: rest =>
          if namedClasses.contains (String.ofList (cs.takeWhile (· ≠ ':'))) then some (negated, rest)
          else none
      | _ => none
  | _ => none

/-- An open bracket. -/
structure Bracket where
  /-- Whether nothing but dashes stands behind it so far. -/
  fresh : Bool := true
  /-- How deep its operands in front of the last operator are nested. -/
  left : Option Nat := none
  /-- The depths of its parts behind that operator. -/
  parts : List Nat := []

/-- How deep what stands in a bracket is nested. -/
def Bracket.depth (b : Bracket) : Nat :=
  match b.left with
  | none => rowDepth b.parts
  | some d => max d (rowDepth b.parts) + 1

/-- A bracket with a part of a depth added. -/
def Bracket.add (b : Bracket) (fresh : Bool) (depth : Nat) : Bracket :=
  { b with fresh := fresh, parts := depth :: b.parts }

/-- A character or class in brackets. -/
def bracketAtom? (m : Mode) : List Char → Option (Atom × List Char)
  | [] => none
  | c :: cs => do
      let (atom, rest) ← if c = '\\' then escape? m cs else some (.char c false, cs)
      match atom with
      | .char c _ => if m.allowsInBrackets c then some (atom, rest) else none
      | .kind => some (atom, rest)
      | .place | .boundary => none

/-- The text behind a character, class or range in brackets. -/
def bracketPart? (m : Mode) (cs : List Char) : Option (List Char) := do
  let (first, rest) ← bracketAtom? m cs
  match m.drop rest with
  | '-' :: more =>
      match m.drop more with
      | [] => none
      | c :: more =>
          if c = ']' ∨ c = '-' then some rest
          else do
            let (last, behind) ← bracketAtom? m (c :: more)
            match first, last with
            | .char a _, .char b _ => if a ≤ b then some behind else none
            | _, _ => none
  | _ => some rest

/-- The text behind an opening bracket and a negation.  Bytes are never negated. -/
def negation? (m : Mode) (cs : List Char) : Option (List Char) :=
  match m.drop cs with
  | '^' :: cs => if m.unicode then some cs else none
  | cs => some cs

/-- How deep a bracket is nested, and the text behind it; `outer` are the brackets that
it stands in. -/
def brackets? (m : Mode) : Nat → Bracket → List Bracket → List Char → Option (Nat × List Char)
  | 0, _, _, _ => none
  | fuel + 1, b, outer, cs =>
      match m.drop cs with
      | [] => none
      | c :: rest =>
          if b.fresh ∧ (c = '-' ∨ (c = ']' ∧ b.parts = [])) then
            if m.allowsInBrackets c then brackets? m fuel (b.add (decide (c = '-')) 0) outer rest
            else none
          else if c = ']' then
            match outer with
            | [] => some (b.depth + 1, rest)
            | o :: outer => brackets? m fuel (o.add false (b.depth + 1)) outer rest
          else if c = '[' then
            match namedClass? rest with
            | some (negated, rest) =>
                if if m.unicode then m.caseless else negated then none
                else brackets? m fuel (b.add false 0) outer rest
            | none => do
                let rest ← negation? m rest
                brackets? m fuel {} (b :: outer) rest
          else if (c = '&' ∨ c = '-' ∨ c = '~') ∧ rest.head? = some c then
            brackets? m fuel { fresh := false, left := some b.depth } outer rest.tail
          else do
            let behind ← bracketPart? m (c :: rest)
            brackets? m fuel (b.add false 0) outer behind

/-! ## §4. Groups. -/

/-- A part of an expression: how deep it is nested, and whether it may be repeated. -/
structure Part where
  depth : Nat := 0
  repeatable : Bool := true

/-- An open group, or the whole expression: the mode in front of it, its parts in the
current branch, the last one first, and the depths of the branches before. -/
structure Group where
  before : Mode := {}
  parts : List Part := []
  branches : List Nat := []

/-- A group with a part added. -/
def Group.add (g : Group) (p : Part) : Group := { g with parts := p :: g.parts }

/-- How deep the current branch of a group is nested. -/
def Group.branchDepth (g : Group) : Nat := rowDepth (g.parts.map Part.depth)

/-- How deep what stands in a group is nested. -/
def Group.depth (g : Group) : Nat := rowDepth (g.branchDepth :: g.branches)

/-- An expression that is being read. -/
structure Reading where
  mode : Mode := {}
  group : Group := {}
  /-- The groups that it stands in. -/
  outer : List Group := []
  /-- The names of groups. -/
  names : List (List Char) := []
  /-- Whether it asks where words of any script end. -/
  boundary : Bool := false

/-- A reading with a part added. -/
def Reading.add (r : Reading) (p : Part) : Reading := { r with group := r.group.add p }

/-- A reading with a group opened that is read in a mode. -/
def Reading.openIn (r : Reading) (m : Mode) : Reading :=
  { r with mode := m, group := { before := r.mode }, outer := r.group :: r.outer }

/-- Whether a name may go on with a character. -/
def continuesName (c : Char) : Bool :=
  decide (c = '_' ∨ c = '.' ∨ c = '[' ∨ c = ']') || Unicode.isAlphanumeric c

/-- Whether a text is the name of a group. -/
def isName : List Char → Bool
  | [] => false
  | c :: cs => (decide (c = '_') || Unicode.isAlphabetic c) && cs.all continuesName

/-- Open a group of a name. -/
def named? (r : Reading) (cs : List Char) : Option (Reading × List Char) :=
  let name := cs.takeWhile (· ≠ '>')
  match cs.dropWhile (· ≠ '>') with
  | [] => none
  | _ :: rest =>
      if isName name && !r.names.contains name then
        some ({ r.openIn r.mode with names := name :: r.names }, rest)
      else none

/-- Open a group, or set flags for the rest of the one at hand, behind a parenthesis. -/
def open? (r : Reading) (cs : List Char) : Option (Reading × List Char) :=
  match r.mode.drop cs with
  | '?' :: 'P' :: '<' :: cs | '?' :: '<' :: cs => named? r cs
  | '?' :: cs =>
      match flags? [] cs with
      | none => none
      | some (flags, behind, rest) =>
          let m := r.mode.setAll flags
          if behind = ':' then some (r.openIn m, rest)
          else if flags.isEmpty then none
          else some ({ r with mode := m }.add { repeatable := false }, rest)
  | cs => some (r.openIn r.mode, cs)

/-- Close a group. -/
def close? (r : Reading) : Option Reading :=
  match r.outer with
  | [] => none
  | g :: outer =>
      some { r with
        mode := r.group.before
        group := g.add { depth := r.group.depth + 1 }
        outer := outer }

/-- Repeat the last part; a question mark behind says to prefer fewer times. -/
def repeat? (r : Reading) (cs : List Char) : Option (Reading × List Char) :=
  match r.group.parts with
  | [] => none
  | p :: parts =>
      if p.repeatable then
        let group := { r.group with parts := { depth := p.depth + 1 } :: parts }
        some ({ r with group := group }, if cs.head? = some '?' then cs.tail else cs)
      else none

/-- Add what stands behind a backslash. -/
def escaped? (r : Reading) (cs : List Char) : Option (Reading × List Char) := do
  let (atom, rest) ← escape? r.mode cs
  match atom with
  | .char c byte => if r.mode.allows c byte then some (r.add {}, rest) else none
  | .kind | .place => some (r.add {}, rest)
  | .boundary => some ({ r.add {} with boundary := r.boundary || r.mode.unicode }, rest)

/-! ## §5. Expressions. -/

/-- Go on behind a character.  A repetition by counts is never complete, for the brace
that would close it closes the fields of the directive. -/
def step? (fuel : Nat) (r : Reading) (c : Char) (cs : List Char) : Option (Reading × List Char) :=
  match c with
  | '(' => open? r cs
  | ')' => (close? r).map fun r => (r, cs)
  | '|' =>
      let group := { r.group with parts := [], branches := r.group.branchDepth :: r.group.branches }
      some ({ r with group := group }, cs)
  | '[' => do
      let rest ← negation? r.mode cs
      let (depth, rest) ← brackets? r.mode fuel {} [] rest
      some (r.add { depth := depth }, rest)
  | '?' | '*' | '+' => repeat? r cs
  | '{' => none
  | '\\' => escaped? r cs
  | '.' => if r.mode.unicode then some (r.add {}, cs) else none
  | '^' | '$' => some (r.add {}, cs)
  | c => if r.mode.allows c false then some (r.add {}, cs) else none

/-- Go on with a text. -/
def steps? : Nat → Reading → List Char → Option Reading
  | 0, _, _ => none
  | fuel + 1, r, cs =>
      match r.mode.drop cs with
      | [] => some r
      | c :: cs => do
          let (r, rest) ← step? fuel r c cs
          steps? fuel r rest

/-- How deep an expression may be nested. -/
def mostDepth : Nat := 250

/-- What is wrong with an expression.  Every step uses up a character, which bounds
their number. -/
def expressionProblem? (cs : List Char) : Option PatternProblem :=
  match steps? (cs.length + 1) {} cs with
  | none => some .malformed
  | some r =>
      if !r.outer.isEmpty || decide (mostDepth < r.group.depth) then some .malformed
      else if r.boundary then some .wordBoundary
      else none

/-! ## §6. Values. -/

/-- Whether a text is an exponent or nothing. -/
def isExponent (cs : List Char) : Bool :=
  match Json.exponent cs with
  | .ok (_, []) => true
  | _ => false

/-- Whether a text is a number without a sign: digits with an optional point among or
around them, and an optional exponent. -/
def isUnsigned (cs : List Char) : Bool :=
  match Json.digits cs with
  | (whole, '.' :: cs) =>
      let (fraction, rest) := Json.digits cs
      !(whole.isEmpty && fraction.isEmpty) && isExponent rest
  | (whole, rest) => !whole.isEmpty && isExponent rest

/-- The words for infinities and for what is no number. -/
def numberWords : List String := ["inf", "infinity", "nan"]

/-- Whether a text is a number. -/
def isNumber (cs : List Char) : Bool :=
  let cs := match cs with
    | '+' :: cs | '-' :: cs => cs
    | cs => cs
  numberWords.contains (String.ofList (cs.map Char.toLower)) || isUnsigned cs

/-- What is wrong with a value: a number is none of an expression's business. -/
def problem? (cs : List Char) : Option PatternProblem :=
  if isNumber cs then none else expressionProblem? cs

end Pattern

end QueryFuzz
