/-
  QueryFuzz.Statement.Render
  ──────────────────────────
  **STATEMENTS AS SQL TEXT.**

  Every operator stands in parentheses, every subquery and both sides of a set
  operation too.  A join is parenthesised only where it is the right side of
  another join.  A NULL literal and a COALESCE carry a cast to their base type,
  so that an engine need not guess it.
-/
import QueryFuzz.Statement.Basic

namespace QueryFuzz

/-- A string literal: the text between quotes, a quote inside written twice. -/
def Literal.quote (s : String) : String :=
  "'" ++ String.ofList (s.toList.flatMap fun c => if c = '\'' then ['\'', '\''] else [c]) ++ "'"

/-- A literal of the given type. -/
def Literal.render (type : SqlType) : Literal → String
  | null => "null::" ++ type.base.sqlName
  | int n => toString n
  | bool b => toString b
  | string s => quote s

/-- A table under its alias. -/
def TableRef.render (r : TableRef) : String := r.table.name ++ " as " ++ r.name

/-- Whether a relation is a join. -/
def Relation.isJoin : Relation → Bool
  | .join .. => true
  | _ => false

/-- Names behind a first one, each after a comma. -/
def renderNamesTail : List String → String
  | [] => ""
  | n :: ns => ", " ++ n ++ renderNamesTail ns

/-- Names with commas between them. -/
def renderNames : List String → String
  | [] => ""
  | n :: ns => n ++ renderNamesTail ns

/-- What is written of DISTINCT. -/
def renderDistinct (distinct : Bool) : String := if distinct then "distinct " else ""

/-- What is written of a LIMIT. -/
def renderLimit : Option Nat → String
  | none => ""
  | some n => " limit " ++ toString n

mutual

/-- An expression in SQL. -/
def Scalar.render : Scalar → String
  | .case condition yes no =>
      "case when " ++ condition.render ++ " then " ++ yes.render ++ " else " ++ no.render
        ++ " end"
  | .coalesce first second =>
      "cast(coalesce(" ++ first.render ++ ", " ++ second.render ++ ") as "
        ++ first.type.base.sqlName ++ ")"
  | .const type value => value.render type
  | .column qualifier name _ => qualifier ++ "." ++ name
  | .binary op left right =>
      "(" ++ left.render ++ " " ++ op.name ++ " " ++ right.render ++ ")"
  | .call function args => function.name ++ "(" ++ Scalar.renderList args ++ ")"
  | .exists query => "exists(" ++ query.render ++ ")"
  | .subquery query _ => "(" ++ query.render ++ ")"

/-- Expressions with commas between them. -/
def Scalar.renderList : List Scalar → String
  | [] => ""
  | e :: es => e.render ++ Scalar.renderTail es

/-- Expressions behind a first one, each after a comma. -/
def Scalar.renderTail : List Scalar → String
  | [] => ""
  | e :: es => ", " ++ e.render ++ Scalar.renderTail es

/-- Rows in parentheses with commas between them. -/
def Scalar.renderRows : List (List Scalar) → String
  | [] => ""
  | row :: rows => "(" ++ Scalar.renderList row ++ ")" ++ Scalar.renderRowsTail rows

/-- Rows behind a first one, each after a comma. -/
def Scalar.renderRowsTail : List (List Scalar) → String
  | [] => ""
  | row :: rows => ", (" ++ Scalar.renderList row ++ ")" ++ Scalar.renderRowsTail rows

/-- What is written of a WHERE. -/
def Scalar.renderWhere : Option Scalar → String
  | none => ""
  | some e => " where " ++ e.render

/-- What is written of an ORDER BY. -/
def Scalar.renderOrderBy : List Scalar → String
  | [] => ""
  | e :: es => " order by " ++ e.render ++ Scalar.renderTail es

/-- A relation or statement in SQL. -/
def Relation.render : Relation → String
  | .table source => source.render
  | .join lhs rhs on _ =>
      lhs.render ++ " join "
        ++ (if rhs.isJoin then "(" ++ rhs.render ++ ")" else rhs.render)
        ++ " on " ++ on.render
  | .select query => query.render
  | .setOp op left right =>
      "(" ++ left.render ++ ") " ++ op.render ++ " (" ++ right.render ++ ")"
  | .values rows => "values " ++ Scalar.renderRows rows
  | .insert table targets source =>
      "insert into " ++ table ++ " (" ++ renderNames (targets.map Column.name) ++ ") "
        ++ source.render

/-- A query in SQL. -/
def Select.render : Select → String
  | .mk distinct items source filter orderBy limit =>
      "select " ++ renderDistinct distinct ++ Scalar.renderList items ++ " from "
        ++ source.render ++ Scalar.renderWhere filter ++ Scalar.renderOrderBy orderBy
        ++ renderLimit limit

end

/-! ## The text of each node by the texts of its parts. -/

theorem Scalar.render_case (condition yes no : Scalar) :
    (Scalar.case condition yes no).render
      = "case when " ++ condition.render ++ " then " ++ yes.render ++ " else " ++ no.render
          ++ " end" := rfl

theorem Scalar.render_coalesce (first second : Scalar) :
    (Scalar.coalesce first second).render
      = "cast(coalesce(" ++ first.render ++ ", " ++ second.render ++ ") as "
          ++ first.type.base.sqlName ++ ")" := rfl

theorem Scalar.render_const (type : SqlType) (value : Literal) :
    (Scalar.const type value).render = value.render type := rfl

theorem Scalar.render_column (qualifier name : String) (type : SqlType) :
    (Scalar.column qualifier name type).render = qualifier ++ "." ++ name := rfl

theorem Scalar.render_binary (op : Operator) (left right : Scalar) :
    (Scalar.binary op left right).render
      = "(" ++ left.render ++ " " ++ op.name ++ " " ++ right.render ++ ")" := rfl

theorem Scalar.render_call (function : SqlFunction) (args : List Scalar) :
    (Scalar.call function args).render
      = function.name ++ "(" ++ Scalar.renderList args ++ ")" := rfl

theorem Scalar.render_exists (query : Select) :
    (Scalar.exists query).render = "exists(" ++ query.render ++ ")" := rfl

theorem Scalar.render_subquery (query : Select) (type : SqlType) :
    (Scalar.subquery query type).render = "(" ++ query.render ++ ")" := rfl

theorem Relation.render_table (source : TableRef) :
    (Relation.table source).render = source.render := rfl

theorem Relation.render_join (lhs rhs : Relation) (on : Scalar) (columns : List Column) :
    (Relation.join lhs rhs on columns).render
      = lhs.render ++ " join "
          ++ (if rhs.isJoin then "(" ++ rhs.render ++ ")" else rhs.render)
          ++ " on " ++ on.render := rfl

theorem Relation.render_select (query : Select) :
    (Relation.select query).render = query.render := rfl

theorem Relation.render_setOp (op : SetOperator) (left right : Relation) :
    (Relation.setOp op left right).render
      = "(" ++ left.render ++ ") " ++ op.render ++ " (" ++ right.render ++ ")" := rfl

theorem Relation.render_values (rows : List (List Scalar)) :
    (Relation.values rows).render = "values " ++ Scalar.renderRows rows := rfl

theorem Relation.render_insert (table : String) (targets : List Column) (source : Relation) :
    (Relation.insert table targets source).render
      = "insert into " ++ table ++ " (" ++ renderNames (targets.map Column.name) ++ ") "
          ++ source.render := rfl

theorem Select.render_mk (distinct : Bool) (items : List Scalar) (source : Relation)
    (filter : Option Scalar) (orderBy : List Scalar) (limit : Option Nat) :
    (Select.mk distinct items source filter orderBy limit).render
      = "select " ++ renderDistinct distinct ++ Scalar.renderList items ++ " from "
          ++ source.render ++ Scalar.renderWhere filter ++ Scalar.renderOrderBy orderBy
          ++ renderLimit limit := rfl

end QueryFuzz
