/-
  QueryFuzz.Count
  ───────────────
  **COUNTS AS THEY ARE TYPED.**
-/

namespace QueryFuzz

/-- The value of decimal digits, of which there has to be one. -/
def decimal? (cs : List Char) : Option Nat :=
  if cs.isEmpty || !cs.all Char.isDigit then none
  else some (cs.foldl (fun n c => n * 10 + (c.toNat - '0'.toNat)) 0)

/-- A number from 0 to `most`, perhaps with a plus. -/
def count? (most : Nat) (cs : List Char) : Option Nat :=
  (decimal? (match cs with
    | '+' :: cs => cs
    | cs => cs)).filter fun n => decide (n ≤ most)

example : count? 5 ['+', '0', '3'] = some 3 ∧ count? 5 ['6'] = none ∧ count? 5 ['+'] = none := by
  decide

end QueryFuzz
