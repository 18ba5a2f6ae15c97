/-
  QueryFuzz.Catalog.Document
  ──────────────────────────
  **CATALOGS AS JSON DOCUMENTS.**

  A document lists tables, operators and functions.  A type is nullable and a
  column writable unless said otherwise, and each list may be left out; a
  catalog refuses keys it does not know, the entries pass over them.
-/
import QueryFuzz.Catalog.Basic
import QueryFuzz.Json.Typed

namespace QueryFuzz

open Json (Reader ofText ofList ofFields)

/-! ## §1. Reading. -/

/-- The base types by their names in documents. -/
def BaseType.labels : List (String × BaseType) :=
  [BaseType.any, .int, .bool, .string].map fun b => (b.label, b)

/-- The kinds of writability by their names in documents. -/
def Writability.labels : List (String × Writability) :=
  [Writability.notWritable, .writable, .mustBeWritten].map fun w => (w.label, w)

/-- A field of a record in a JSON document. -/
def jsonField {R α : Type} (name : String) (required : Bool) (read : Reader α)
    (set : α → R → R) : Field Json R where
  name := name
  required := required
  read v r :=
    match read v with
    | .ok a => .ok (set a r)
    | .error p => .error p

/-- A record whose unknown keys are passed over. -/
def jsonRecord {R : Type} (label : String) (start : R) (fields : List (Field Json R)) :
    RecordShape Json R where
  label := label
  fields := fields
  strict := false
  skip := Json.skip
  start := start

/-- How types are written. -/
def SqlType.shape : RecordShape Json SqlType :=
  jsonRecord "SqlType" ⟨.any, true⟩
    [jsonField "base" true (Json.readVariant BaseType.labels) fun b t => { t with base := b },
      jsonField "nullable" false Json.readBool fun n t => { t with nullable := n }]

/-- Read a type. -/
def SqlType.ofJson : Reader SqlType := Json.readRecord SqlType.shape

/-- How columns are written. -/
def Column.shape : RecordShape Json Column :=
  jsonRecord "Column" ⟨"", .any, .writable⟩
    [jsonField "name" true Json.readText fun n c => { c with name := n },
      jsonField "type" true SqlType.ofJson fun t c => { c with type := t },
      jsonField "writability" false (Json.readVariant Writability.labels)
        fun w c => { c with writability := w }]

/-- Read a column. -/
def Column.ofJson : Reader Column := Json.readRecord Column.shape

/-- How tables are written. -/
def Table.shape : RecordShape Json Table :=
  jsonRecord "Table" ⟨"", []⟩
    [jsonField "name" true Json.readText fun n t => { t with name := n },
      jsonField "columns" true (Json.readList Column.ofJson) fun cs t => { t with columns := cs }]

/-- Read a table. -/
def Table.ofJson : Reader Table := Json.readRecord Table.shape

/-- How operators are written. -/
def Operator.shape : RecordShape Json Operator :=
  jsonRecord "Operator" ⟨"", .any, .any, .any⟩
    [jsonField "name" true Json.readText fun n o => { o with name := n },
      jsonField "left" true SqlType.ofJson fun t o => { o with left := t },
      jsonField "right" true SqlType.ofJson fun t o => { o with right := t },
      jsonField "out" true SqlType.ofJson fun t o => { o with out := t }]

/-- Read an operator. -/
def Operator.ofJson : Reader Operator := Json.readRecord Operator.shape

/-- How functions are written. -/
def SqlFunction.shape : RecordShape Json SqlFunction :=
  jsonRecord "Function" ⟨"", [], .any⟩
    [jsonField "name" true Json.readText fun n f => { f with name := n },
      jsonField "inputs" true (Json.readList SqlType.ofJson) fun ts f => { f with inputs := ts },
      jsonField "out" true SqlType.ofJson fun t f => { f with out := t }]

/-- Read a function. -/
def SqlFunction.ofJson : Reader SqlFunction := Json.readRecord SqlFunction.shape

/-- How catalogs are written. -/
def Draft.shape : RecordShape Json Draft where
  label := "CatalogDef"
  fields :=
    [jsonField "tables" false (Json.readList Table.ofJson) fun ts d => { d with tables := ts },
      jsonField "operators" false (Json.readList Operator.ofJson)
        fun os d => { d with operators := os },
      jsonField "functions" false (Json.readList SqlFunction.ofJson)
        fun fs d => { d with functions := fs }]
  strict := true
  skip := Json.skip
  start := {}

/-- Read what a catalog is to be built from. -/
def Draft.ofJson : Reader Draft := Json.readRecord Draft.shape

/-- Read a catalog. -/
def Catalog.ofJson (v : Json) : Except Flaw Catalog :=
  match Draft.ofJson v with
  | .ok d => .ok d.build
  | .error p => .error p

/-! ## §2. Writing. -/

/-- Write a type. -/
def SqlType.toJson (t : SqlType) : Json :=
  ofFields [("base", ofText t.base.label), ("nullable", .ofBool t.nullable)]

/-- Write a column. -/
def Column.toJson (c : Column) : Json :=
  ofFields [("name", ofText c.name), ("type", c.type.toJson),
    ("writability", ofText c.writability.label)]

/-- Write a table. -/
def Table.toJson (t : Table) : Json :=
  ofFields [("name", ofText t.name), ("columns", ofList (t.columns.map Column.toJson))]

/-- Write an operator. -/
def Operator.toJson (o : Operator) : Json :=
  ofFields [("name", ofText o.name), ("left", o.left.toJson), ("right", o.right.toJson),
    ("out", o.out.toJson)]

/-- Write a function. -/
def SqlFunction.toJson (f : SqlFunction) : Json :=
  ofFields [("name", ofText f.name), ("inputs", ofList (f.inputs.map SqlType.toJson)),
    ("out", f.out.toJson)]

/-- Write a draft. -/
def Draft.toJson (d : Draft) : Json :=
  ofFields [("tables", ofList (d.tables.map Table.toJson)),
    ("operators", ofList (d.operators.map Operator.toJson)),
    ("functions", ofList (d.functions.map SqlFunction.toJson))]

/-- Write a catalog: its entries, operators and functions in the order of the bases
they produce. -/
def Catalog.toJson (c : Catalog) : Json := c.draft.toJson

end QueryFuzz
