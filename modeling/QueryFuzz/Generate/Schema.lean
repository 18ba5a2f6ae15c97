/-
  QueryFuzz.Generate.Schema
  ─────────────────────────
  **RANDOM NEW TABLES.**

  A table has one to eight plain columns and, one time in ten, a computed one
  behind them.  Its name is drawn until a free one comes up, sixteen times at
  most; then the first free number is taken, which exists among the first as
  many numbers as there are tables, and one more.
-/
import QueryFuzz.Catalog.Basic
import QueryFuzz.Generate.Type
import QueryFuzz.Statement.CreateTable

namespace QueryFuzz.Generate

/-! ## §1. Names. -/

/-- Most plain columns of a new table. -/
def maxColumns : Nat := 8

/-- Attempts to draw a free table name. -/
def nameDraws : Nat := 16

/-- Table names are drawn with numbers below this. -/
def nameNumbers : Nat := 1000000

/-- The table name with a number. -/
def tableName (n : Nat) : String := "table_" ++ toString n

/-- The column name with a number. -/
def columnName (n : Nat) : String := "col_" ++ toString n

/-- Whether the catalog has a table of the name. -/
def isTaken (c : Catalog) (name : String) : Bool := (c.table? name).isSome

/-- The name with the first free number from `start` on, looking at `count + 1`
numbers. -/
def firstFreeFrom (c : Catalog) (start : Nat) : Nat → String
  | 0 => tableName start
  | count + 1 =>
      if isTaken c (tableName start) then firstFreeFrom c (start + 1) count
      else tableName start

/-- The name with the first free number. -/
def firstFree (c : Catalog) : String := firstFreeFrom c 0 c.tables.length

/-- A free name, drawn in at most `draws` attempts before the first free number
is taken. -/
def freeName (c : Catalog) : Nat → Gen String
  | 0 => pure (firstFree c)
  | draws + 1 => do
      let n ← Gen.below nameNumbers
      if isTaken c (tableName n) then freeName c draws else pure (tableName n)

/-! ## §2. Columns. -/

/-- A plain column with a number. -/
def plainColumn (number : Nat) : Gen ColumnDef := do
  let t ← sqlType
  let nullable ← Gen.coin
  pure ⟨columnName number, ⟨t.base, nullable⟩, none⟩

/-- Names of the integer columns, in order. -/
def intColumns (columns : List ColumnDef) : List String :=
  (columns.filter fun c => decide (c.type.base = .int)).map ColumnDef.name

/-- A computed column behind `columns`: one of their integers plus a roll.  There
is none without an integer column. -/
def computedColumn (columns : List ColumnDef) : Gen ColumnDef := do
  let source ← Gen.pick (intColumns columns)
  let roll ← Gen.die 6
  pure ⟨columnName (columns.length + 1), .int, some (source ++ " + " ++ toString roll)⟩

/-- A statement that creates a table whose name is new to the catalog. -/
def createTable (c : Catalog) : Gen CreateTable := do
  let name ← freeName c nameDraws
  let count ← Gen.die maxColumns
  let columns ← Gen.traverse plainColumn (List.range' 1 count)
  if ← Gen.oneIn 10 then
    let computed ← ((fun d => [d]) <$> computedColumn columns).orElse (pure [])
    pure ⟨name, columns ++ computed⟩
  else pure ⟨name, columns⟩

end QueryFuzz.Generate
