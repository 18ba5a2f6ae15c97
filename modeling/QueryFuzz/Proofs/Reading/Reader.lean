/-
  QueryFuzz.Proofs.Reading.Reader
  ───────────────────────────────
  **A READER OF STATEMENTS.**

  Recursive descent over the characters of a text, without going back.  Every
  decision is made on the next character or the next chunk, a longest run of
  characters that neither separate nor quote.  Readers call each other through
  a `Readers`, the readers one nesting level below.

      chunk     — the longest chunk that a text begins with
      scalar, source, query, statement — one reader for each kind of node
      Relation.ofText? — the statement that a whole text spells
-/
import QueryFuzz.Proofs.Reading.Untyped

namespace QueryFuzz.Untyped

/-- A reader takes something off the beginning of a text and leaves the rest. -/
abbrev Reader (α : Type) := List Char → Option (α × List Char)

/-! ## §1. Pieces of text. -/

/-- Pass over the characters of a piece. -/
def expectChars : List Char → List Char → Option (List Char)
  | [], text => some text
  | _ :: _, [] => none
  | c :: piece, d :: text => if c = d then expectChars piece text else none

/-- Pass over a fixed piece. -/
def expect (piece : String) (text : List Char) : Option (List Char) :=
  expectChars piece.toList text

/-- Characters that end a chunk. -/
def delimiters : List Char := [' ', '\'', '(', ')', ',']

/-- Whether a character belongs to a chunk. -/
def isPlain (c : Char) : Bool := !delimiters.contains c

/-- The longest chunk at the beginning, and the rest. -/
def chunk (text : List Char) : String × List Char :=
  (String.ofList (text.takeWhile isPlain), text.dropWhile isPlain)

/-- A part that is there when its opening is. -/
def clause {α : Type} (opening : String) (read : Reader α) : Reader (Option α) := fun text =>
  match expect opening text with
  | none => some (none, text)
  | some text => (read text).map fun p => (some p.1, p.2)

/-- Further elements, each after a comma, fewer than `n` of them. -/
def more {α : Type} (read : Reader α) : Nat → Reader (List α)
  | 0, _ => none
  | n + 1, text =>
      match expect ", " text with
      | none => some ([], text)
      | some text => do
          let (a, text) ← read text
          let (as, text) ← more read n text
          some (a :: as, text)

/-- Elements with commas between them, at least one and at most `n`. -/
def listOf {α : Type} (read : Reader α) (n : Nat) : Reader (List α) := fun text => do
  let (a, text) ← read text
  let (as, text) ← more read n text
  some (a :: as, text)

/-- Elements with commas between them up to a closing parenthesis; perhaps none. -/
def listToClose {α : Type} (read : Reader α) (n : Nat) : Reader (List α)
  | ')' :: text => some ([], text)
  | text => do
      let (as, text) ← listOf read n text
      let text ← expect ")" text
      some (as, text)

/-- A name. -/
def name : Reader String := fun text => some (chunk text)

/-- The value of decimal digits. -/
def number (word : String) : Nat := Nat.ofDigitChars 10 word.toList 0

/-- A number. -/
def count : Reader Nat := fun text => some (number (chunk text).1, (chunk text).2)

/-- What stands between quotes, behind the opening one; a quote inside is written twice. -/
def quoted : List Char → Option (List Char × List Char)
  | [] => none
  | '\'' :: '\'' :: text => (quoted text).map fun p => ('\'' :: p.1, p.2)
  | '\'' :: text => some ([], text)
  | c :: text => (quoted text).map fun p => (c :: p.1, p.2)

/-- A set operator between the closing and the opening parenthesis of its sides. -/
def setOperator : Reader SetOperator := fun text =>
  SetOperator.all.findSome? fun op =>
    (expect (") " ++ op.render ++ " (") text).map fun text => (op, text)

/-- The base type of a name that is cast to. -/
def castTarget? (word : String) : Option BaseType :=
  [BaseType.any, .int, .bool, .string].find? fun base => decide (base.sqlName = word)

/-! ## §2. Readers of nodes. -/

/-- The readers that a reader may call, one nesting level below its own. -/
structure Readers where
  scalar : Reader Scalar
  source : Reader Relation
  query : Reader Select
  statement : Reader Relation

section Nodes

variable (lower : Readers) (n : Nat)

/-- The parts of a CASE behind its first word. -/
def case (text : List Char) : Option (Scalar × List Char) := do
  let text ← expect " when " text
  let (condition, text) ← lower.scalar text
  let text ← expect " then " text
  let (yes, text) ← lower.scalar text
  let text ← expect " else " text
  let (no, text) ← lower.scalar text
  let text ← expect " end" text
  some (.case condition yes no, text)

/-- The parts of a cast COALESCE behind the first parenthesis. -/
def coalesce (text : List Char) : Option (Scalar × List Char) := do
  let text ← expect "coalesce(" text
  let (first, text) ← lower.scalar text
  let text ← expect ", " text
  let (second, text) ← lower.scalar text
  let text ← expect ") as " text
  let (word, text) := chunk text
  let cast ← castTarget? word
  let text ← expect ")" text
  some (.coalesce cast first second, text)

/-- What a word stands for that nothing is applied to: a number, a truth value, a NULL
or a column of an alias. -/
def leaf? (word : String) : Option Scalar :=
  if (word.toList.head?.any Char.isDigit) = true then some (.int (number word))
  else if word = "true" then some (.bool true)
  else if word = "false" then some (.bool false)
  else
    match expectChars "null::".toList word.toList with
    | some cast => (castTarget? (String.ofList cast)).map .null
    | none =>
        some (.column (String.ofList (word.toList.takeWhile (· != '.')))
          (String.ofList ((word.toList.dropWhile (· != '.')).drop 1)))

/-- What a word with something in parentheses behind it stands for. -/
def applied (word : String) (text : List Char) : Option (Scalar × List Char) :=
  if word = "exists" then do
    let (query, text) ← lower.query text
    let text ← expect ")" text
    some (.exists query, text)
  else if word = "cast" then coalesce lower text
  else do
    let (args, text) ← listToClose lower.scalar n text
    some (.call word args, text)

/-- An expression that begins with a word. -/
def named (word : String) : List Char → Option (Scalar × List Char)
  | '(' :: text => applied lower n word text
  | text => if word = "case" then case lower text else (leaf? word).map fun e => (e, text)

/-- An expression in parentheses, behind the first of them. -/
def grouped (text : List Char) : Option (Scalar × List Char) :=
  if (chunk text).1 = "select" then do
    let (query, text) ← lower.query text
    let text ← expect ")" text
    some (.subquery query, text)
  else do
    let (left, text) ← lower.scalar text
    let text ← expect " " text
    let (op, text) := chunk text
    let text ← expect " " text
    let (right, text) ← lower.scalar text
    let text ← expect ")" text
    some (.binary op left right, text)

/-- An expression. -/
def scalar : Reader Scalar
  | '\'' :: text => (quoted text).map fun p => (.string (String.ofList p.1), p.2)
  | '(' :: text => grouped lower text
  | text => named lower n (chunk text).1 (chunk text).2

/-- A table under an alias. -/
def tableRef : Reader Relation := fun text => do
  let (table, text) := chunk text
  let text ← expect " as " text
  let (tableAlias, text) := chunk text
  some (.table table tableAlias, text)

/-- The right side of a join. -/
def rightSide : Reader Relation
  | '(' :: text => do
      let (item, text) ← lower.source text
      let text ← expect ")" text
      some (item, text)
  | text => tableRef text

/-- Joins with what was read so far on their left, fewer than `n` of them. -/
def joins : Nat → Relation → Reader Relation
  | 0, _, _ => none
  | n + 1, lhs, text =>
      match expect " join " text with
      | none => some (lhs, text)
      | some text => do
          let (rhs, text) ← rightSide lower text
          let text ← expect " on " text
          let (on, text) ← lower.scalar text
          joins n (.join lhs rhs on) text

/-- A FROM item. -/
def source : Reader Relation := fun text => do
  let (first, text) ← tableRef text
  joins lower n first text

/-- What is read of DISTINCT. -/
def distinct (text : List Char) : Option (Bool × List Char) :=
  if (chunk text).1 = "distinct" then (expect "distinct " text).map fun text => (true, text)
  else some (false, text)

/-- A SELECT. -/
def query : Reader Select := fun text => do
  let text ← expect "select " text
  let (distinct, text) ← distinct text
  let (items, text) ← listOf lower.scalar n text
  let text ← expect " from " text
  let (source, text) ← source lower n text
  let (filter, text) ← clause " where " lower.scalar text
  let (orderBy, text) ← clause " order by " (listOf lower.scalar n) text
  let (limit, text) ← clause " limit " count text
  some (.mk distinct items source filter (orderBy.getD []) limit, text)

/-- A row of a VALUES. -/
def row : Reader (List Scalar) := fun text => do
  let text ← expect "(" text
  listToClose lower.scalar n text

/-- An INSERT. -/
def insert : Reader Relation := fun text => do
  let text ← expect "insert into " text
  let (table, text) := chunk text
  let text ← expect " (" text
  let (targets, text) ← listOf name n text
  let text ← expect ") " text
  let (rows, text) ← lower.statement text
  some (.insert table targets rows, text)

/-- A set operation, behind the first parenthesis. -/
def setOp : Reader Relation := fun text => do
  let (left, text) ← lower.statement text
  let (op, text) ← setOperator text
  let (right, text) ← lower.statement text
  let text ← expect ")" text
  some (.setOp op left right, text)

/-- A statement. -/
def statement : Reader Relation
  | '(' :: text => setOp lower text
  | text =>
      if (chunk text).1 = "values" then do
        let text ← expect "values " text
        let (rows, text) ← listOf (row lower n) n text
        some (.values rows, text)
      else if (chunk text).1 = "insert" then insert lower n text
      else do
        let (query, text) ← query lower n text
        some (.select query, text)

end Nodes

/-! ## §3. The tower of readers. -/

/-- The readers of texts with nesting below `n`. -/
def readers : Nat → Readers
  | 0 =>
      { scalar := fun _ => none
        source := fun _ => none
        query := fun _ => none
        statement := fun _ => none }
  | n + 1 =>
      { scalar := scalar (readers n) n
        source := source (readers n) n
        query := query (readers n) n
        statement := statement (readers n) n }

/-- The statement that a text spells, if it spells one. -/
def Relation.ofText? (text : String) : Option Relation :=
  match (readers (text.length + 1)).statement text.toList with
  | some (r, []) => some r
  | _ => none

end QueryFuzz.Untyped
