/-
  QueryFuzz.Generate.Type
  ───────────────────────
  **RANDOM TYPES AND TYPE LISTS.**

  A wildcard request is resolved to one of the three concrete types.  Where no
  column types are asked for, a list of them is drawn: one type, and another
  for every roll that is not a one.
-/
import QueryFuzz.Random.Gen

namespace QueryFuzz.Generate

/-- A concrete base type, each with the same odds. -/
def baseType : Gen BaseType := Gen.pick BaseType.concrete

/-- A nullable concrete type. -/
def sqlType : Gen SqlType := do
  let base ← baseType
  pure ⟨base, true⟩

/-- A concrete request as it is, and a random concrete type for a wildcard. -/
def resolve (t : SqlType) : Gen SqlType :=
  if t.isWildcard then sqlType else pure t

/-- Further types, one for every roll that is not a one, in at most `rounds`
rolls. -/
def moreTypes : Nat → Gen (List SqlType)
  | 0 => Gen.halt .roundsExhausted
  | rounds + 1 => do
      let roll ← Gen.die 6
      if roll = 1 then pure []
      else do
        let t ← sqlType
        let ts ← moreTypes rounds
        pure (t :: ts)

/-- A random non-empty list of types. -/
def typeList (rounds : Nat) : Gen (List SqlType) := do
  let t ← sqlType
  let ts ← moreTypes rounds
  pure (t :: ts)

/-- The types that were asked for, else random ones.  An empty list cannot be
served: no statement has zero output columns. -/
def desiredOrRandom (rounds : Nat) : Option (List SqlType) → Gen (List SqlType)
  | some [] => Gen.nothing
  | some ts => pure ts
  | none => typeList rounds

end QueryFuzz.Generate
