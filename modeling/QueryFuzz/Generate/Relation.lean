/-
  QueryFuzz.Generate.Relation
  ───────────────────────────
  **RANDOM ROW SOURCES AND STATEMENTS.**

  A FROM item comes with the scope that sees it: the references in view before,
  and behind them those at the item's leaves from left to right.  The sides of a
  join do not see each other; its predicate sees both.
-/
import QueryFuzz.Generate.Scalar

namespace QueryFuzz.Generate

/-! ## §1. FROM items. -/

/-- The stem of table aliases. -/
def aliasStem : String := "tab"

/-- A catalog table under a fresh alias; nothing from an empty catalog. -/
def tableRef (S : Setting) (scope : Scope) : Gen (Scope × TableRef) := do
  Gen.enter
  let table ← Gen.pick S.catalog.tables
  let name ← Gen.fresh aliasStem
  let inner ← scope.push
  pure (inner.seeing [⟨table, name⟩], ⟨table, name⟩)

/-- A join of two items that do not see each other.  What either side added to
the references it started with comes into view of the predicate. -/
def join (lower : Lower) (scope : Scope) : Gen (Scope × Relation) := do
  Gen.enter
  let inner ← scope.push
  let (leftScope, lhs) ← lower.source inner
  let (rightScope, rhs) ← lower.source inner
  let inherited := inner.refs.length
  let left ← leftScope.refsFrom inherited
  let right ← rightScope.refsFrom inherited
  let both := inner.seeing (left ++ right)
  let on ← lower.predicate both
  pure (both, .join lhs rhs on (lhs.columns ++ rhs.columns))

/-- Whether a FROM item becomes a join: by the dice, and only above the depth limit. -/
def joins (S : Setting) (scope : Scope) : Gen Bool :=
  if scope.atDepthLimit S.options then pure false
  else do
    let roll ← Gen.die 6
    if scope.level < 3 + roll then
      let second ← Gen.die 6
      pure (decide (4 < second))
    else pure false

/-- A FROM item: a join or a table. -/
def source (S : Setting) (lower : Lower) (scope : Scope) : Gen (Scope × Relation) := do
  Gen.enter
  if ← joins S scope then join lower scope
  else
    let (inner, ref) ← tableRef S scope
    pure (inner, .table ref)

/-! ## §2. Statements that return rows. -/

/-- A VALUES with rows of the desired types. -/
def values (S : Setting) (lower : Lower) (scope : Scope)
    (desired : Option (List SqlType)) : Gen Relation := do
  Gen.enter
  let inner ← scope.push
  let types ← desiredOrRandom S.rounds desired
  let count ← Gen.die S.options.maxValuesRows
  let rows ← Gen.times count (row lower inner types)
  pure (.values rows)

/-- A set operation on two statements of the same column types. -/
def setOp (S : Setting) (lower : Lower) (scope : Scope)
    (desired : Option (List SqlType)) : Gen Relation := do
  Gen.enter
  let inner ← scope.push
  let types ← desiredOrRandom S.rounds desired
  let left ← lower.returning inner (some types)
  let right ← lower.returning inner (some types)
  let op ← Gen.pick SetOperator.all
  pure (.setOp op left right)

/-- Whether a six-sided roll falls on one of the first two faces. -/
def onOneOrTwo : Gen Bool := do
  let roll ← Gen.die 6
  pure (decide (roll < 3))

/-- One attempt at a statement that returns rows. -/
def returningAttempt (S : Setting) (lower : Lower) (scope : Scope)
    (desired : Option (List SqlType)) : Gen Relation := do
  if ← damped scope.level onOneOrTwo then setOp S lower scope desired
  else if ← onOneOrTwo then values S lower scope desired
  else Relation.select <$> select S lower scope desired

/-- A SELECT, VALUES or set operation with rows of the desired types, or of random
ones where none are desired.  At the depth limit only VALUES is left. -/
def returning (S : Setting) (lower : Lower) (scope : Scope)
    (desired : Option (List SqlType)) : Gen Relation := do
  Gen.enter
  if desired = some [] then Gen.nothing
  else if scope.atDepthLimit S.options then values S lower scope desired
  else
    (Gen.retry S.options.retryCount (returningAttempt S lower scope desired)).noting
      (.statementExhausted scope.level)

/-! ## §3. Statements. -/

/-- Whether an INSERT names a column: it does when the column must be written or is
writable and cannot be NULL, and on a coin when it is another writable one. -/
def isNamed (c : Column) : Gen Bool :=
  if c.isInsertTarget then
    if decide (c.writability = .mustBeWritten) || !c.type.nullable then pure true
    else Gen.coin
  else pure false

/-- The columns an INSERT names. -/
def insertTargets : List Column → Gen (List Column)
  | [] => pure []
  | c :: cs => do
      let named ← isNamed c
      let rest ← insertTargets cs
      pure (if named then c :: rest else rest)

/-- An INSERT into a catalog table; nothing when no column is named. -/
def insert (S : Setting) (lower : Lower) (scope : Scope) : Gen Relation := do
  Gen.enter
  let table ← Gen.pick S.catalog.tables
  let targets ← insertTargets table.columns
  if targets.isEmpty then Gen.nothing
  else
    let rows ← lower.returning scope (some (targets.map Column.type))
    pure (.insert table.name targets rows)

/-- A statement: an INSERT by chance, else one that returns rows. -/
def statement (S : Setting) (lower : Lower) (scope : Scope) : Gen Relation := do
  Gen.enter
  if ← Gen.chance S.options.insertProb then insert S lower scope
  else lower.returning scope none

end QueryFuzz.Generate
