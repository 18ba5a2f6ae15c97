/-
  QueryFuzz.Generate.Tower
  ────────────────────────
  **THE KNOT BETWEEN THE GENERATORS.**

  `tower S n` are the generators that may nest `n` deep: each is written over
  the generators of `tower S (n - 1)`, and at the bottom all of them fault.
  With a hard depth limit a height just above the limit suffices on every
  stream, and the program runs with more than any limit asks for.
-/
import QueryFuzz.Generate.Relation

namespace QueryFuzz.Generate

/-- Generators without room to nest. -/
def Lower.exhausted : Lower where
  scalar _ _ := Gen.halt .nestingExhausted
  predicate _ := Gen.halt .nestingExhausted
  source _ := Gen.halt .nestingExhausted
  returning _ _ := Gen.halt .nestingExhausted

/-- The generators that may nest `n` deep. -/
def tower (S : Setting) : Nat → Lower
  | 0 => Lower.exhausted
  | n + 1 =>
      { scalar := fun scope t => scalar S (tower S n) scope t
        predicate := fun scope => predicate S (tower S n) scope
        source := fun scope => source S (tower S n) scope
        returning := fun scope desired => returning S (tower S n) scope desired }

/-- The nesting the program allows for: more than there are levels to count. -/
def ampleNesting : Nat := 2 ^ 32 + 8

/-- The rounds the program allows for in an open-ended loop. -/
def ampleRounds : Nat := 10 ^ 9

/-- A property of all four generators holds at every height when it holds of the
exhausted ones and each height hands it to the next. -/
theorem tower_induction {S : Setting} {P : Lower → Prop} (bottom : P Lower.exhausted)
    (step : ∀ n, P (tower S n) → P (tower S (n + 1))) (n : Nat) : P (tower S n) := by
  induction n with
  | zero => exact bottom
  | succ n ih => exact step n ih

end QueryFuzz.Generate
