/-
  QueryFuzz.NameCounter
  ─────────────────────
  **FRESH NAMES: A STEM AND THE NEXT NUMBER.**

  One counter serves all stems, so the number alone tells two names apart.
-/

namespace QueryFuzz

/-- How many names were handed out since the last reset. -/
structure NameCounter where
  handedOut : Nat := 0
  deriving DecidableEq, Repr, Inhabited

namespace NameCounter

/-- The name with a stem and a number. -/
def name (stem : String) (number : Nat) : String := stem ++ "_" ++ toString number

/-- A fresh name with the given stem, and the counter after it. -/
def allocate (c : NameCounter) (stem : String) : String × NameCounter :=
  (name stem (c.handedOut + 1), ⟨c.handedOut + 1⟩)

/-- Start numbering again. -/
def reset (_ : NameCounter) : NameCounter := {}

end NameCounter

end QueryFuzz
