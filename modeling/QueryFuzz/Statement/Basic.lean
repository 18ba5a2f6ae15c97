/-
  QueryFuzz.Statement.Basic
  ─────────────────────────
  **STATEMENT TREES: SCALARS, RELATIONS AND SELECTS.**

  Three kinds of node that contain each other.  A scalar knows its type, a
  relation its output columns.  `Scalar.nodes` and `Relation.nodes` list every
  scalar of a tree, an expression before those nested in it.
-/
import QueryFuzz.Catalog.Entry

namespace QueryFuzz

/-! ## §1. The trees. -/

/-- The value of a literal. -/
inductive Literal where
  | null
  | int (n : Int)
  | bool (b : Bool)
  | string (s : String)
  deriving DecidableEq, Repr

/-- A catalog table under an alias; also what column references resolve to. -/
structure TableRef where
  table : Table
  /-- The alias. -/
  name : String
  deriving DecidableEq, Repr

/-- How a set operation combines its sides. -/
inductive SetOperator where
  | union
  | unionAll
  | except
  | exceptAll
  | intersect
  | intersectAll
  deriving DecidableEq, Repr

namespace SetOperator

/-- All of them, in the order they are drawn from. -/
def all : List SetOperator := [union, unionAll, except, exceptAll, intersect, intersectAll]

/-- The operator in SQL. -/
def render : SetOperator → String
  | union => "union"
  | unionAll => "union all"
  | except => "except"
  | exceptAll => "except all"
  | intersect => "intersect"
  | intersectAll => "intersect all"

end SetOperator

mutual

/-- An expression of one value. -/
inductive Scalar where
  | case (condition yes no : Scalar)
  | coalesce (first second : Scalar)
  | const (type : SqlType) (value : Literal)
  | column (qualifier name : String) (type : SqlType)
  | binary (op : Operator) (left right : Scalar)
  | call (function : SqlFunction) (args : List Scalar)
  | exists (query : Select)
  | subquery (query : Select) (type : SqlType)

/-- An expression of rows, or a whole statement. -/
inductive Relation where
  | table (source : TableRef)
  /-- Two row sources side by side, with the columns of both. -/
  | join (lhs rhs : Relation) (on : Scalar) (columns : List Column)
  | select (query : Select)
  | setOp (op : SetOperator) (left right : Relation)
  | values (rows : List (List Scalar))
  | insert (table : String) (targets : List Column) (source : Relation)

/-- A SELECT. -/
inductive Select where
  | mk (distinct : Bool) (items : List Scalar) (source : Relation)
      (filter : Option Scalar) (orderBy : List Scalar) (limit : Option Nat)

end

/-! ## §2. Types and columns. -/

/-- The type of an expression: that of its deciding part. -/
def Scalar.type : Scalar → SqlType
  | .case _ yes _ => yes.type
  | .coalesce first _ => first.type
  | .const type _ => type
  | .column _ _ type => type
  | .binary op _ _ => op.out
  | .call function _ => function.out
  | .exists _ => .boolNotNull
  | .subquery _ type => type

/-- The word for the kind of an expression. -/
def Scalar.kind : Scalar → String
  | .case .. => "case"
  | .coalesce .. => "coalesce"
  | .const .. => "const"
  | .column .. => "col"
  | .binary .. => "binop"
  | .call .. => "func"
  | .exists _ => "exists"
  | .subquery .. => "subquery"

namespace Select

def distinct : Select → Bool
  | mk d _ _ _ _ _ => d

def items : Select → List Scalar
  | mk _ is _ _ _ _ => is

/-- What stands behind FROM. -/
def source : Select → Relation
  | mk _ _ s _ _ _ => s

def filter : Select → Option Scalar
  | mk _ _ _ f _ _ => f

def orderBy : Select → List Scalar
  | mk _ _ _ _ o _ => o

def limit : Select → Option Nat
  | mk _ _ _ _ _ l => l

/-- The same query with another limit. -/
def withLimit (l : Option Nat) : Select → Select
  | mk d is s f o _ => mk d is s f o l

/-- The name a database gives to an output column that is no plain column. -/
def anonymousColumn : String := "?column?"

/-- The output column of an item. -/
def columnOf (item : Scalar) : Column where
  name := match item with
    | .column _ name _ => name
    | _ => anonymousColumn
  type := item.type
  writability := .notWritable

/-- Output columns, one for each item. -/
def columns (q : Select) : List Column := q.items.map columnOf

end Select

/-- Output columns in order; VALUES and INSERT expose none, and a set operation
those of its left side. -/
def Relation.columns : Relation → List Column
  | .table source => source.table.columns
  | .join _ _ _ columns => columns
  | .select query => query.columns
  | .setOp _ left _ => left.columns
  | .values _ => []
  | .insert _ _ _ => []

/-! ## §3. All scalars of a tree. -/

mutual

/-- The expression and everything below it, bodies of subqueries included. -/
def Scalar.nodes : Scalar → List Scalar
  | e@(.case condition yes no) => e :: (condition.nodes ++ yes.nodes ++ no.nodes)
  | e@(.coalesce first second) => e :: (first.nodes ++ second.nodes)
  | e@(.const ..) => [e]
  | e@(.column ..) => [e]
  | e@(.binary _ left right) => e :: (left.nodes ++ right.nodes)
  | e@(.call _ args) => e :: Scalar.nodesOfList args
  | e@(.exists query) => e :: query.nodes
  | e@(.subquery query _) => e :: query.nodes

/-- The nodes of expressions one after the other. -/
def Scalar.nodesOfList : List Scalar → List Scalar
  | [] => []
  | e :: es => e.nodes ++ Scalar.nodesOfList es

/-- The nodes of rows one after the other. -/
def Scalar.nodesOfRows : List (List Scalar) → List Scalar
  | [] => []
  | row :: rows => Scalar.nodesOfList row ++ Scalar.nodesOfRows rows

/-- The nodes of an expression that may be absent. -/
def Scalar.nodesOfOption : Option Scalar → List Scalar
  | none => []
  | some e => e.nodes

/-- Every scalar of a relation, row sources before what is said about them. -/
def Relation.nodes : Relation → List Scalar
  | .table _ => []
  | .join lhs rhs on _ => lhs.nodes ++ rhs.nodes ++ on.nodes
  | .select query => query.nodes
  | .setOp _ left right => left.nodes ++ right.nodes
  | .values rows => Scalar.nodesOfRows rows
  | .insert _ _ source => source.nodes

/-- Every scalar of a query: FROM, items, WHERE, ORDER BY. -/
def Select.nodes : Select → List Scalar
  | .mk _ items source filter orderBy _ =>
      source.nodes ++ Scalar.nodesOfList items ++ Scalar.nodesOfOption filter
        ++ Scalar.nodesOfList orderBy

end

end QueryFuzz
