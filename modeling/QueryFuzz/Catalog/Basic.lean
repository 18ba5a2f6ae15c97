/-
  QueryFuzz.Catalog.Basic
  ───────────────────────
  **THE CATALOG: EVERYTHING A STATEMENT MAY REFER TO.**

  A catalog is built from a `Draft`, the list of what was added to it.
  Building drops every table without columns and every entry that mentions
  the wildcard type, and files operators and functions under the base type
  they produce.  A catalog turns back into a draft, so that it can be
  extended: `withTable` replaces a table by name and builds again.

      Draft.build       — the catalog of a draft
      Draft.dropped     — names of the tables that building drops
      Catalog.draft     — the draft a catalog is rebuilt from
      Catalog.withTable — the catalog with one table added or replaced
-/
import QueryFuzz.Catalog.Entry
import QueryFuzz.Catalog.ResultIndex

namespace QueryFuzz

/-! ## §1. The catalog and its look-ups. -/

/-- Tables in order, and operators and functions by the base they produce. -/
structure Catalog where
  tables : List Table := []
  operators : ResultIndex Operator := []
  functions : ResultIndex SqlFunction := []
  deriving DecidableEq, Inhabited

namespace Catalog

/-- Whether there is anything to query. -/
def hasTables (c : Catalog) : Bool := !c.tables.isEmpty

/-- The first table of a name. -/
def table? (c : Catalog) (name : String) : Option Table :=
  c.tables.find? fun t => decide (t.name = name)

/-- Operators whose result has the base of `out`; none for the wildcard. -/
def operatorsFor (c : Catalog) (out : SqlType) : List Operator :=
  c.operators.find out.base

/-- Functions whose result has the base of `out`; none for the wildcard. -/
def functionsFor (c : Catalog) (out : SqlType) : List SqlFunction :=
  c.functions.find out.base

end Catalog

/-! ## §2. Drafts. -/

/-- What a catalog is to be built from, in order of addition. -/
structure Draft where
  tables : List Table := []
  operators : List Operator := []
  functions : List SqlFunction := []
  deriving DecidableEq, Inhabited

namespace Draft

/-- One thing that can be added to a draft. -/
inductive Entry where
  | table (t : Table)
  | operator (o : Operator)
  | function (f : SqlFunction)
  deriving DecidableEq

/-- Add an entry behind those of its kind. -/
def add (d : Draft) : Entry → Draft
  | .table t => { d with tables := d.tables ++ [t] }
  | .operator o => { d with operators := d.operators ++ [o] }
  | .function f => { d with functions := d.functions ++ [f] }

/-- Add entries one after the other. -/
def addAll (d : Draft) (es : List Entry) : Draft := es.foldl add d

/-- The catalog of a draft: unusable entries are dropped, the others kept in
order, operators and functions under the base they produce. -/
def build (d : Draft) : Catalog where
  tables := d.tables.filter Table.isUsable
  operators := ResultIndex.ofList (·.out.base) (d.operators.filter Operator.isConcrete)
  functions := ResultIndex.ofList (·.out.base) (d.functions.filter SqlFunction.isConcrete)

/-- Names of the tables that `build` drops, in order. -/
def dropped (d : Draft) : List String :=
  (d.tables.filter fun t => !t.isUsable).map Table.name

end Draft

/-! ## §3. Extending a catalog. -/

namespace Catalog

/-- The draft that lists a catalog's entries, operators and functions in the
order of the bases they produce. -/
def draft (c : Catalog) : Draft where
  tables := c.tables
  operators := c.operators.entries
  functions := c.functions.entries

/-- The draft of the catalog with `t` in place of the tables of its name. -/
def draftWith (c : Catalog) (t : Table) : Draft :=
  { c.draft with tables := c.tables.filter (fun u => decide (u.name ≠ t.name)) ++ [t] }

/-- The catalog with `t` in place of the tables of its name, at the end; an
unusable `t` only removes them. -/
def withTable (c : Catalog) (t : Table) : Catalog := (c.draftWith t).build

end Catalog

end QueryFuzz
