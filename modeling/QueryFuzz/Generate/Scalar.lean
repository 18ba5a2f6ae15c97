/-
  QueryFuzz.Generate.Scalar
  ─────────────────────────
  **RANDOM EXPRESSIONS AND PREDICATES.**

  Generators call each other through a `Lower`, the generators one nesting
  level below; `Generate.Tower` ties the knot.  Each attempt at an expression
  rolls for one construct after the other.  A construct that contains others is
  tried only while the level is below a six-sided roll, so nesting dies out.
-/
import QueryFuzz.Generate.Scope
import QueryFuzz.Generate.Type

namespace QueryFuzz.Generate

/-- The generators a generator may call, one nesting level below its own. -/
structure Lower where
  /-- An expression that serves a requested type. -/
  scalar : Scope → SqlType → Gen Scalar
  /-- An expression that serves as a predicate. -/
  predicate : Scope → Gen Scalar
  /-- A FROM item with the scope that sees it. -/
  source : Scope → Gen (Scope × Relation)
  /-- A statement that returns rows of the desired types. -/
  returning : Scope → Option (List SqlType) → Gen Relation

/-! ## §1. Leaves. -/

/-- Whether a roll falls on the first of `sides` faces. -/
def onOne (sides : Nat) : Gen Bool := do
  let roll ← Gen.die sides
  pure (roll == 1)

/-- A test that is only made while `level` is below a six-sided roll. -/
def damped (level : Nat) (test : Gen Bool) : Gen Bool := do
  let roll ← Gen.die 6
  if level < roll then test else pure false

/-- The value of a literal that is not NULL: a small integer, a truth value or
one of two words. -/
def literalValue : BaseType → Gen Literal
  | .int => do
      let n ← Gen.die 6
      pure (.int n)
  | .bool => do
      let b ← Gen.coin
      pure (.bool b)
  | .string | .any => do
      let b ← Gen.coin
      pure (.string (if b then "hello" else "goodbye"))

/-- Whether a literal is NULL, which it may be only where the type allows it. -/
def nullLiteral (S : Setting) (t : SqlType) : Gen Bool :=
  if t.nullable then Gen.chance S.options.nullLiteralProb else pure false

/-- A literal. -/
def const (S : Setting) (t : SqlType) : Gen Scalar := do
  Gen.enter
  let t ← resolve t
  if ← nullLiteral S t then pure (.const t .null)
  else
    let v ← literalValue t.base
    pure (.const t v)

/-- A column in view, drawn without regard to types: a table reference first, then
one of its columns.  Nothing when its type does not serve. -/
def columnRef (scope : Scope) (t : SqlType) : Gen Scalar := do
  Gen.enter
  let ref ← Gen.pick scope.refs
  let column ← Gen.pick ref.table.columns
  if t.accepts column.type then pure (.column ref.name column.name column.type)
  else Gen.nothing

/-! ## §2. Constructs with operands. -/

/-- A CASE with two branches of one type. -/
def case (lower : Lower) (scope : Scope) (t : SqlType) : Gen Scalar := do
  Gen.enter
  let condition ← lower.scalar scope .bool
  let yes ← lower.scalar scope t
  let no ← lower.scalar scope t
  pure (.case condition yes no)

/-- A COALESCE of two expressions of one type. -/
def coalesce (lower : Lower) (scope : Scope) (t : SqlType) : Gen Scalar := do
  Gen.enter
  let first ← lower.scalar scope t
  let second ← lower.scalar scope t
  pure (.coalesce first second)

/-- An operator of the catalog with the result type, its operands of the declared
types. -/
def binary (S : Setting) (lower : Lower) (scope : Scope) (t : SqlType) : Gen Scalar := do
  Gen.enter
  let t ← resolve t
  let op ← Gen.pick (S.catalog.operatorsFor t)
  let left ← lower.scalar scope op.left
  let right ← lower.scalar scope op.right
  pure (.binary op left right)

/-- A function of the catalog with the result type, its arguments of the declared
types. -/
def call (S : Setting) (lower : Lower) (scope : Scope) (t : SqlType) : Gen Scalar := do
  Gen.enter
  let t ← resolve t
  let f ← Gen.pick (S.catalog.functionsFor t)
  let args ← Gen.traverse (lower.scalar scope) f.inputs
  pure (.call f args)

/-! ## §3. Queries. -/

/-- One expression per type: the items of a SELECT or a row of a VALUES. -/
def row (lower : Lower) (scope : Scope) (types : List SqlType) : Gen (List Scalar) :=
  Gen.traverse (lower.scalar scope) types

/-- The items of a SELECT, of the desired types, in the scope of its FROM. -/
def selectList (S : Setting) (lower : Lower) (scope : Scope)
    (desired : Option (List SqlType)) : Gen (List Scalar) := do
  Gen.enter
  let types ← desiredOrRandom S.rounds desired
  row lower scope types

/-- Sort terms of any type, one for every coin that falls on heads, in at most
`rounds` flips. -/
def orderTerms (lower : Lower) (scope : Scope) : Nat → Gen (List Scalar)
  | 0 => Gen.halt .roundsExhausted
  | rounds + 1 => do
      if ← Gen.coin then
        let e ← lower.scalar scope .any
        let es ← orderTerms lower scope rounds
        pure (e :: es)
      else pure []

/-- A WHERE on a coin, or none. -/
def filter (lower : Lower) (scope : Scope) : Gen (Option Scalar) := do
  if ← Gen.coin then some <$> lower.predicate scope else pure none

/-- A LIMIT, or none. -/
def limit (S : Setting) : Gen (Option Nat) := do
  if ← Gen.chance S.options.limitProb then
    let n ← Gen.die S.options.maxLimit
    pure (some n)
  else pure none

/-- A SELECT with items of the desired types; all of it but FROM sees what FROM
brings into view. -/
def select (S : Setting) (lower : Lower) (scope : Scope)
    (desired : Option (List SqlType)) : Gen Select := do
  Gen.enter
  let (inner, source) ← lower.source scope
  let items ← selectList S lower inner desired
  let condition ← filter lower inner
  let orderBy ← orderTerms lower inner S.rounds
  let distinct ← Gen.chance S.options.distinctProb
  let l ← limit S
  pure (.mk distinct items source condition orderBy l)

/-- An existence check. -/
def existence (S : Setting) (lower : Lower) (scope : Scope) : Gen Scalar := do
  Gen.enter
  let q ← select S lower scope none
  pure (.exists q)

/-- A query of one column and at most one row, as an expression of the type of its
item. -/
def subquery (S : Setting) (lower : Lower) (scope : Scope) (t : SqlType) : Gen Scalar := do
  Gen.enter
  let q ← select S lower scope (some [t])
  match q.items with
  | [] => Gen.nothing
  | item :: _ => pure (.subquery (q.withLimit (some 1)) item.type)

/-! ## §4. Expressions and predicates. -/

/-- Whether an expression becomes a column reference: mostly, where tables are in view. -/
def refers (scope : Scope) : Gen Bool :=
  if scope.refs.isEmpty then pure false
  else do
    let roll ← Gen.die 20
    pure (decide (1 < roll))

/-- One attempt at an expression.  `requested` is what was asked for and goes to
the constructs that can serve a wildcard; `picked` is its concrete resolution. -/
def attempt (S : Setting) (lower : Lower) (scope : Scope) (requested picked : SqlType) :
    Gen Scalar := do
  if scope.atDepthLimit S.options then
    if ← refers scope then columnRef scope requested else const S picked
  else if ← damped scope.level (onOne 9) then case lower scope picked
  else if ← damped scope.level (onOne 42) then coalesce lower scope picked
  else if ← refers scope then columnRef scope requested
  else if ← damped scope.level (onOne 9) then binary S lower scope requested
  else if ← damped scope.level (onOne 9) then call S lower scope requested
  else if ← damped scope.level (onOne 6) then subquery S lower scope picked
  else const S picked

/-- An expression that serves a requested type, generated in a child scope.  A
wildcard is resolved once for all attempts. -/
def scalar (S : Setting) (lower : Lower) (scope : Scope) (t : SqlType) : Gen Scalar := do
  Gen.enter
  let picked ← resolve t
  let inner ← scope.push
  (Gen.retry S.options.retryCount (attempt S lower inner t picked)).noting
    (.scalarExhausted inner.level t)

/-- One attempt at a predicate: comparisons first, then any truth value or an
existence check. -/
def predicateAttempt (S : Setting) (lower : Lower) (scope : Scope) : Gen Scalar := do
  let first ← Gen.die 6
  if first < 4 then binary S lower scope .bool
  else
    let second ← Gen.die 6
    if second < 4 then lower.scalar scope .bool
    else existence S lower scope

/-- A predicate. -/
def predicate (S : Setting) (lower : Lower) (scope : Scope) : Gen Scalar := do
  Gen.enter
  if scope.atDepthLimit S.options then lower.scalar scope .bool
  else
    let inner ← scope.push
    (Gen.retry S.options.retryCount (predicateAttempt S lower inner)).noting
      (.predicateExhausted inner.level)

end QueryFuzz.Generate
