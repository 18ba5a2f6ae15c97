/-
  QueryFuzz.Statement.CreateTable
  ───────────────────────────────
  **CREATE TABLE: ITS TEXT AND THE CATALOG ENTRY IT MAKES.**
-/
import QueryFuzz.Statement.Render

namespace QueryFuzz

/-- The definition of a column, with the expression of a stored computed one. -/
structure ColumnDef where
  name : String
  type : SqlType
  computed : Option String := none
  deriving DecidableEq, Repr

namespace ColumnDef

/-- The definition in SQL. -/
def render (d : ColumnDef) : String :=
  d.name ++ " " ++ d.type.render
    ++ (if d.type.nullable then "" else " not null")
    ++ match d.computed with
      | none => ""
      | some e => " as (" ++ e ++ ") stored"

/-- The column that comes of it: computed columns cannot be written. -/
def toColumn (d : ColumnDef) : Column where
  name := d.name
  type := d.type
  writability := if d.computed.isSome then .notWritable else .writable

end ColumnDef

/-- A statement that creates a table. -/
structure CreateTable where
  name : String
  columns : List ColumnDef
  deriving DecidableEq, Repr

namespace CreateTable

/-- The statement in SQL. -/
def render (c : CreateTable) : String :=
  "create table " ++ c.name ++ " (" ++ renderNames (c.columns.map ColumnDef.render) ++ ")"

/-- The catalog entry of the table it creates. -/
def toTable (c : CreateTable) : Table := ⟨c.name, c.columns.map ColumnDef.toColumn⟩

end CreateTable

end QueryFuzz
