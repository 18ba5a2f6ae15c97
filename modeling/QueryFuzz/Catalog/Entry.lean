/-
  QueryFuzz.Catalog.Entry
  ───────────────────────
  **WHAT A CATALOG HOLDS: COLUMNS, TABLES, OPERATORS, FUNCTIONS.**

  Plain descriptions, as a database would report them.  An entry that
  mentions the wildcard type, and a table without columns, is of no use to
  the generator: `Table.isUsable`, `Operator.isConcrete` and
  `SqlFunction.isConcrete` tell which entries may enter a catalog.
-/
import QueryFuzz.SqlType

namespace QueryFuzz

/-! ## §1. Columns and tables. -/

/-- What an INSERT may and must do with a column. -/
inductive Writability where
  /-- Computed by the database: no INSERT may name it. -/
  | notWritable
  | writable
  /-- Every INSERT has to name it. -/
  | mustBeWritten
  deriving DecidableEq, Repr, Inhabited

namespace Writability

/-- The word for it in catalog documents. -/
def label : Writability → String
  | notWritable => "not_writable"
  | writable => "writable"
  | mustBeWritten => "must_be_written"

end Writability

/-- A named, typed column. -/
structure Column where
  name : String
  type : SqlType
  writability : Writability := .writable
  deriving DecidableEq, Repr, Inhabited

/-- Whether an INSERT may name the column as a target. -/
def Column.isInsertTarget (c : Column) : Bool :=
  decide (c.writability ≠ .notWritable)

/-- A named list of columns. -/
structure Table where
  name : String
  columns : List Column
  deriving DecidableEq, Repr, Inhabited

/-- Whether the table has columns and none of them is of the wildcard type. -/
def Table.isUsable (t : Table) : Bool :=
  !t.columns.isEmpty && t.columns.all fun c => !c.type.isWildcard

/-! ## §2. Operators and functions. -/

/-- A binary operator with the types of its operands and of its result. -/
structure Operator where
  name : String
  left : SqlType
  right : SqlType
  out : SqlType
  deriving DecidableEq, Repr, Inhabited

/-- Whether the operator mentions no wildcard. -/
def Operator.isConcrete (o : Operator) : Bool :=
  !o.left.isWildcard && !o.right.isWildcard && !o.out.isWildcard

/-- A function with the types of its arguments and of its result. -/
structure SqlFunction where
  name : String
  inputs : List SqlType
  out : SqlType
  deriving DecidableEq, Repr, Inhabited

/-- Whether the function mentions no wildcard. -/
def SqlFunction.isConcrete (f : SqlFunction) : Bool :=
  !f.out.isWildcard && f.inputs.all fun t => !t.isWildcard

end QueryFuzz
