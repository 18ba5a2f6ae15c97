/-
  QueryFuzz.Proofs.Reading.Untyped
  ────────────────────────────────
  **STATEMENTS LESS THE TYPES THAT THEIR TEXT DOES NOT MENTION.**

  An untyped tree has a node for each node of a statement and keeps the grouping,
  names, aliases, literal values, DISTINCT flags and limits.  Gone are the types
  of expressions, the signatures of operators and functions and the columns of
  tables; of types, the two that are written remain: those a NULL and a COALESCE
  are cast to.

      Relation.untyped — the untyped tree of a statement
-/
import QueryFuzz.Statement.Basic

namespace QueryFuzz

namespace Untyped

/-! ## §1. Untyped trees. -/

mutual

/-- An expression of one value. -/
inductive Scalar where
  | case (condition yes no : Scalar)
  /-- With the type that it is cast to. -/
  | coalesce (cast : BaseType) (first second : Scalar)
  /-- With the type that it is cast to. -/
  | null (cast : BaseType)
  | int (n : Int)
  | bool (b : Bool)
  | string (s : String)
  | column (qualifier name : String)
  | binary (op : String) (left right : Scalar)
  | call (function : String) (args : List Scalar)
  | exists (query : Select)
  | subquery (query : Select)

/-- An expression of rows, or a whole statement. -/
inductive Relation where
  | table (name tableAlias : String)
  | join (lhs rhs : Relation) (on : Scalar)
  | select (query : Select)
  | setOp (op : SetOperator) (left right : Relation)
  | values (rows : List (List Scalar))
  | insert (table : String) (targets : List String) (source : Relation)

/-- A SELECT. -/
inductive Select where
  | mk (distinct : Bool) (items : List Scalar) (source : Relation)
      (filter : Option Scalar) (orderBy : List Scalar) (limit : Option Nat)

end

end Untyped

/-! ## §2. Erasing types. -/

/-- A literal without its type. -/
def Literal.untyped (type : SqlType) : Literal → Untyped.Scalar
  | null => .null type.base
  | int n => .int n
  | bool b => .bool b
  | string s => .string s

mutual

/-- An expression without types. -/
def Scalar.untyped : Scalar → Untyped.Scalar
  | .case condition yes no => .case condition.untyped yes.untyped no.untyped
  | .coalesce first second => .coalesce first.type.base first.untyped second.untyped
  | .const type value => value.untyped type
  | .column qualifier name _ => .column qualifier name
  | .binary op left right => .binary op.name left.untyped right.untyped
  | .call function args => .call function.name (Scalar.untypedList args)
  | .exists query => .exists query.untyped
  | .subquery query _ => .subquery query.untyped

/-- Expressions without types. -/
def Scalar.untypedList : List Scalar → List Untyped.Scalar
  | [] => []
  | e :: es => e.untyped :: Scalar.untypedList es

/-- Rows without types. -/
def Scalar.untypedRows : List (List Scalar) → List (List Untyped.Scalar)
  | [] => []
  | row :: rows => Scalar.untypedList row :: Scalar.untypedRows rows

/-- An expression that may be absent, without types. -/
def Scalar.untypedOption : Option Scalar → Option Untyped.Scalar
  | none => none
  | some e => some e.untyped

/-- A relation without types: of a table its name and alias, of an INSERT the names of
its columns. -/
def Relation.untyped : Relation → Untyped.Relation
  | .table ref => .table ref.table.name ref.name
  | .join lhs rhs on _ => .join lhs.untyped rhs.untyped on.untyped
  | .select query => .select query.untyped
  | .setOp op left right => .setOp op left.untyped right.untyped
  | .values rows => .values (Scalar.untypedRows rows)
  | .insert table targets source => .insert table (targets.map Column.name) source.untyped

/-- A query without types. -/
def Select.untyped : Select → Untyped.Select
  | .mk distinct items source filter orderBy limit =>
      .mk distinct (Scalar.untypedList items) source.untyped (Scalar.untypedOption filter)
        (Scalar.untypedList orderBy) limit

end

end QueryFuzz
