/-
  QueryFuzz.Proofs.Derivation
  ───────────────────────────
  **THE GRAMMAR OF GENERATED STATEMENTS.**

  `Derives S j k k'` says that the generators of setting `S` can do what the
  judgement `j` says (for one: find expression `e` for type `t` in scope
  `scope`) while the number of names handed out goes from `k` to `k'`.  There is
  one rule for each thing a generator can do, with the guards it checks.

  What holds of all generated statements is proved by induction on derivations,
  without the generators; that whatever they find has a derivation is shown
  once, in `Proofs.Soundness`.
-/
import QueryFuzz.Generate.Tower
import QueryFuzz.Proofs.Naming

namespace QueryFuzz

/-- The table references at the leaves of a FROM item, from left to right. -/
def Relation.leaves : Relation → List TableRef
  | .table ref => [ref]
  | .join lhs rhs _ _ => lhs.leaves ++ rhs.leaves
  | .select _ => []
  | .setOp _ _ _ => []
  | .values _ => []
  | .insert _ _ _ => []

namespace Generate

open Gen (Possible)

/-! ## §1. Judgements and rules. -/

/-- What a generator may find where it stands. -/
inductive Judgement where
  /-- An expression for a requested type. -/
  | scalar (scope : Scope) (t : SqlType) (e : Scalar)
  /-- An expression of one attempt, for a request and its concrete resolution. -/
  | attempt (scope : Scope) (requested picked : SqlType) (e : Scalar)
  /-- An operator with operands, of a result type. -/
  | binary (scope : Scope) (t : SqlType) (e : Scalar)
  | predicate (scope : Scope) (e : Scalar)
  /-- One expression for each type. -/
  | row (scope : Scope) (types : List SqlType) (es : List Scalar)
  /-- Rows of the same types. -/
  | rows (scope : Scope) (types : List SqlType) (rows : List (List Scalar))
  /-- A WHERE, or none. -/
  | filter (scope : Scope) (condition : Option Scalar)
  /-- Sort terms. -/
  | terms (scope : Scope) (es : List Scalar)
  /-- A FROM item; the scope that sees it is `scope.child.seeing r.leaves`. -/
  | source (scope : Scope) (r : Relation)
  | select (scope : Scope) (desired : Option (List SqlType)) (q : Select)
  /-- A statement that returns rows. -/
  | returning (scope : Scope) (desired : Option (List SqlType)) (r : Relation)
  | statement (scope : Scope) (r : Relation)

/-- What the generators can do while the names handed out go from one number to
another. -/
inductive Derives (S : Setting) : Judgement → Nat → Nat → Prop where
  /-- Names that failed attempts took stay taken. -/
  | skip {j : Judgement} {k k₁ k' : Nat} (le : k ≤ k₁) (d : Derives S j k₁ k') :
      Derives S j k k'
  | scalar {scope : Scope} {t picked : SqlType} {e : Scalar} {k k' : Nat}
      (resolution : Resolution t picked)
      (d : Derives S (.attempt scope.child t picked e) k k') :
      Derives S (.scalar scope t e) k k'
  | const {scope : Scope} {requested picked t : SqlType} {v : Literal} {k : Nat}
      (resolution : Resolution picked t) (value : LiteralOf S.options t v) :
      Derives S (.attempt scope requested picked (.const t v)) k k
  | column {scope : Scope} {requested picked : SqlType} {ref : TableRef} {column : Column}
      {k : Nat} (inView : ref ∈ scope.refs) (ofTable : column ∈ ref.table.columns)
      (serves : requested.accepts column.type = true) :
      Derives S (.attempt scope requested picked (.column ref.name column.name column.type)) k k
  | case {scope : Scope} {requested picked : SqlType} {condition yes no : Scalar}
      {k k₁ k₂ k' : Nat} (above : scope.atDepthLimit S.options = false)
      (shallow : scope.level < 6) (hcondition : Derives S (.scalar scope .bool condition) k k₁)
      (hyes : Derives S (.scalar scope picked yes) k₁ k₂)
      (hno : Derives S (.scalar scope picked no) k₂ k') :
      Derives S (.attempt scope requested picked (.case condition yes no)) k k'
  | coalesce {scope : Scope} {requested picked : SqlType} {first second : Scalar}
      {k k₁ k' : Nat} (above : scope.atDepthLimit S.options = false)
      (shallow : scope.level < 6) (hfirst : Derives S (.scalar scope picked first) k k₁)
      (hsecond : Derives S (.scalar scope picked second) k₁ k') :
      Derives S (.attempt scope requested picked (.coalesce first second)) k k'
  | operator {scope : Scope} {requested picked : SqlType} {e : Scalar} {k k' : Nat}
      (above : scope.atDepthLimit S.options = false) (shallow : scope.level < 6)
      (d : Derives S (.binary scope requested e) k k') :
      Derives S (.attempt scope requested picked e) k k'
  | call {scope : Scope} {requested picked t : SqlType} {f : SqlFunction} {args : List Scalar}
      {k k' : Nat} (above : scope.atDepthLimit S.options = false) (shallow : scope.level < 6)
      (resolution : Resolution requested t) (listed : f ∈ S.catalog.functionsFor t)
      (hargs : Derives S (.row scope f.inputs args) k k') :
      Derives S (.attempt scope requested picked (.call f args)) k k'
  | subquery {scope : Scope} {requested picked : SqlType} {q : Select} {item : Scalar}
      {rest : List Scalar} {k k' : Nat} (above : scope.atDepthLimit S.options = false)
      (shallow : scope.level < 6) (d : Derives S (.select scope (some [picked]) q) k k')
      (hitems : q.items = item :: rest) :
      Derives S (.attempt scope requested picked (.subquery (q.withLimit (some 1)) item.type)) k k'
  | binary {scope : Scope} {request t : SqlType} {op : Operator} {left right : Scalar}
      {k k₁ k' : Nat} (resolution : Resolution request t)
      (listed : op ∈ S.catalog.operatorsFor t)
      (hleft : Derives S (.scalar scope op.left left) k k₁)
      (hright : Derives S (.scalar scope op.right right) k₁ k') :
      Derives S (.binary scope request (.binary op left right)) k k'
  | predicateAtLimit {scope : Scope} {e : Scalar} {k k' : Nat}
      (limit : scope.atDepthLimit S.options = true)
      (d : Derives S (.scalar scope .bool e) k k') : Derives S (.predicate scope e) k k'
  | comparison {scope : Scope} {e : Scalar} {k k' : Nat}
      (above : scope.atDepthLimit S.options = false)
      (d : Derives S (.binary scope.child .bool e) k k') : Derives S (.predicate scope e) k k'
  | truth {scope : Scope} {e : Scalar} {k k' : Nat}
      (above : scope.atDepthLimit S.options = false)
      (d : Derives S (.scalar scope.child .bool e) k k') : Derives S (.predicate scope e) k k'
  | existence {scope : Scope} {q : Select} {k k' : Nat}
      (above : scope.atDepthLimit S.options = false)
      (d : Derives S (.select scope.child none q) k k') :
      Derives S (.predicate scope (.exists q)) k k'
  | rowNil {scope : Scope} {k : Nat} : Derives S (.row scope [] []) k k
  | rowCons {scope : Scope} {t : SqlType} {types : List SqlType} {e : Scalar}
      {es : List Scalar} {k k₁ k' : Nat} (head : Derives S (.scalar scope t e) k k₁)
      (tail : Derives S (.row scope types es) k₁ k') :
      Derives S (.row scope (t :: types) (e :: es)) k k'
  | rowsNil {scope : Scope} {types : List SqlType} {k : Nat} :
      Derives S (.rows scope types []) k k
  | rowsCons {scope : Scope} {types : List SqlType} {row : List Scalar}
      {rows : List (List Scalar)} {k k₁ k' : Nat} (head : Derives S (.row scope types row) k k₁)
      (tail : Derives S (.rows scope types rows) k₁ k') :
      Derives S (.rows scope types (row :: rows)) k k'
  | noFilter {scope : Scope} {k : Nat} : Derives S (.filter scope none) k k
  | filter {scope : Scope} {e : Scalar} {k k' : Nat} (d : Derives S (.predicate scope e) k k') :
      Derives S (.filter scope (some e)) k k'
  | termsNil {scope : Scope} {k : Nat} : Derives S (.terms scope []) k k
  | termsCons {scope : Scope} {e : Scalar} {es : List Scalar} {k k₁ k' : Nat}
      (head : Derives S (.scalar scope .any e) k k₁)
      (tail : Derives S (.terms scope es) k₁ k') : Derives S (.terms scope (e :: es)) k k'
  | table {scope : Scope} {table : Table} {k : Nat} (listed : table ∈ S.catalog.tables) :
      Derives S (.source scope (.table ⟨table, NameCounter.name aliasStem (k + 1)⟩)) k (k + 1)
  | join {scope : Scope} {lhs rhs : Relation} {on : Scalar} {k k₁ k₂ k' : Nat}
      (above : scope.atDepthLimit S.options = false) (shallow : scope.level < 9)
      (hleft : Derives S (.source scope.child lhs) k k₁)
      (hright : Derives S (.source scope.child rhs) k₁ k₂)
      (hon : Derives S (.predicate (scope.child.seeing (lhs.leaves ++ rhs.leaves)) on) k₂ k') :
      Derives S (.source scope (.join lhs rhs on (lhs.columns ++ rhs.columns))) k k'
  | select {scope : Scope} {desired : Option (List SqlType)} {types : List SqlType}
      {source : Relation} {items : List Scalar} {condition : Option Scalar}
      {orderBy : List Scalar} {distinct : Bool} {limit : Option Nat} {k k₁ k₂ k₃ k' : Nat}
      (served : Served desired types) (hsource : Derives S (.source scope source) k k₁)
      (hitems : Derives S (.row (scope.child.seeing source.leaves) types items) k₁ k₂)
      (hfilter : Derives S (.filter (scope.child.seeing source.leaves) condition) k₂ k₃)
      (horder : Derives S (.terms (scope.child.seeing source.leaves) orderBy) k₃ k')
      (hdistinct : Possible S.options.distinctProb distinct) (hlimit : LimitOf S.options limit) :
      Derives S (.select scope desired (.mk distinct items source condition orderBy limit)) k k'
  | values {scope : Scope} {desired : Option (List SqlType)} {types : List SqlType}
      {rows : List (List Scalar)} {k k' : Nat} (served : Served desired types)
      (some : 1 ≤ rows.length) (most : rows.length ≤ S.options.maxValuesRows)
      (d : Derives S (.rows scope.child types rows) k k') :
      Derives S (.returning scope desired (.values rows)) k k'
  | setOp {scope : Scope} {desired : Option (List SqlType)} {types : List SqlType}
      {op : SetOperator} {left right : Relation} {k k₁ k' : Nat}
      (above : scope.atDepthLimit S.options = false) (shallow : scope.level < 6)
      (served : Served desired types)
      (hleft : Derives S (.returning scope.child (.some types) left) k k₁)
      (hright : Derives S (.returning scope.child (.some types) right) k₁ k') :
      Derives S (.returning scope desired (.setOp op left right)) k k'
  | query {scope : Scope} {desired : Option (List SqlType)} {q : Select} {k k' : Nat}
      (above : scope.atDepthLimit S.options = false)
      (d : Derives S (.select scope desired q) k k') :
      Derives S (.returning scope desired (.select q)) k k'
  | insert {scope : Scope} {table : Table} {targets : List Column} {rows : Relation}
      {k k' : Nat} (chosen : Possible S.options.insertProb true)
      (listed : table ∈ S.catalog.tables) (htargets : Targets table.columns targets)
      (some : targets ≠ [])
      (d : Derives S (.returning scope (.some (targets.map Column.type)) rows) k k') :
      Derives S (.statement scope (.insert table.name targets rows)) k k'
  | returning {scope : Scope} {r : Relation} {k k' : Nat}
      (chosen : Possible S.options.insertProb false)
      (d : Derives S (.returning scope none r) k k') : Derives S (.statement scope r) k k'

/-- Names are only handed out, never taken back. -/
theorem Derives.le {S : Setting} {j : Judgement} {k k' : Nat} (d : Derives S j k k') : k ≤ k' := by
  induction d <;> omega

end Generate

end QueryFuzz
