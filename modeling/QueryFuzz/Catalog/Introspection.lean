/-
  QueryFuzz.Catalog.Introspection
  ───────────────────────────────
  **FROM A DATABASE'S SYSTEM ROWS TO A CATALOG.**

  Rows of columns are grouped into tables in one pass: a table stands where its
  first row stands, and is lost at its first column of a type that is not
  modelled.  Rows of operators and functions are mapped one by one; a row with
  an unmodelled type is left out.
-/
import QueryFuzz.Catalog.Basic
import QueryFuzz.Log.Event

namespace QueryFuzz

/-! ## §1. Rows. -/

/-- What tells one table from another. -/
structure TableKey where
  catalog : String
  schema : String
  table : String
  deriving DecidableEq, Repr

/-- A row that describes a column. -/
structure ColumnRow where
  key : TableKey
  column : String
  typeName : String
  computed : Bool
  nullable : Bool
  deriving DecidableEq, Repr

/-- A row that describes an operator by type numbers. -/
structure OperatorRow where
  name : String
  left : Int
  right : Int
  result : Int
  deriving DecidableEq, Repr

/-- A row that describes a function by type numbers. -/
structure FunctionRow where
  name : String
  args : List Int
  result : Int
  deriving DecidableEq, Repr

namespace Introspection

/-! ## §2. Tables. -/

/-- The column of a row, when its type is modelled. -/
def column? (row : ColumnRow) : Option Column :=
  (BaseType.ofName? row.typeName).map fun base =>
    { name := row.column
      type := ⟨base, row.nullable⟩
      writability := if row.computed then .notWritable else .writable }

/-- Tables on the way: their columns so far, or `none` once they are lost. -/
abbrev Groups := List (TableKey × Option (List Column))

/-- Add a column to a table, or lose the table when there is none to add. -/
def extend (column : Option Column) : Option (List Column) → Option (List Column)
  | none => none
  | some columns => column.map fun c => columns ++ [c]

/-- Take a row into the groups. -/
def insertRow (row : ColumnRow) : Groups → Groups
  | [] => [(row.key, extend (column? row) (some []))]
  | (key, columns) :: rest =>
      if key = row.key then (key, extend (column? row) columns) :: rest
      else (key, columns) :: insertRow row rest

/-- The groups of a list of rows. -/
def groups (rows : List ColumnRow) : Groups := rows.foldl (fun g row => insertRow row g) []

/-- The tables of the groups that were not lost. -/
def tablesOf (g : Groups) : List Table :=
  g.filterMap fun entry => entry.2.map fun columns => ⟨entry.1.table, columns⟩

/-- Group rows into tables. -/
def groupTables (rows : List ColumnRow) : List Table := tablesOf (groups rows)

/-- What is logged while rows are grouped: the column at which a table is lost. -/
def groupEvents (rows : List ColumnRow) : List Event :=
  (rows.foldl
    (fun (state : Groups × List Event) row =>
      let lost := state.1.any fun entry => decide (entry.1 = row.key) && entry.2.isNone
      (insertRow row state.1,
        if (column? row).isNone && !lost then
          .columnSkipped row.column row.typeName :: state.2
        else state.2))
    ([], [])).2.reverse

/-! ## §3. Operators, functions, and the whole. -/

/-- Type numbers have 32 bits and no sign.  A row may hold other numbers, which are none. -/
def typeNumber? (oid : Int) : Option UInt32 :=
  if 0 ≤ oid ∧ oid < 2 ^ 32 then some (UInt32.ofNat oid.toNat) else none

/-- The nullable type of a type number, when it is modelled. -/
def typeOfOid? (oid : Int) : Option SqlType := do
  let number ← typeNumber? oid
  let base ← BaseType.ofOid? number.toNat
  some ⟨base, true⟩

/-- The operator of a row, when its types are modelled. -/
def operator? (row : OperatorRow) : Option Operator := do
  let left ← typeOfOid? row.left
  let right ← typeOfOid? row.right
  let out ← typeOfOid? row.result
  some ⟨row.name, left, right, out⟩

/-- The function of a row, when its types are modelled. -/
def function? (row : FunctionRow) : Option SqlFunction := do
  let inputs ← row.args.mapM typeOfOid?
  let out ← typeOfOid? row.result
  some ⟨row.name, inputs, out⟩

/-- The draft of all rows. -/
def draft (columns : List ColumnRow) (operators : List OperatorRow)
    (functions : List FunctionRow) : Draft where
  tables := groupTables columns
  operators := operators.filterMap operator?
  functions := functions.filterMap function?

/-- The catalog of all rows. -/
def buildCatalog (columns : List ColumnRow) (operators : List OperatorRow)
    (functions : List FunctionRow) : Catalog :=
  (draft columns operators functions).build

end Introspection

end QueryFuzz
