/-
  QueryFuzz.Campaign.Tally
  ────────────────────────
  **WHAT A CAMPAIGN COUNTS, AND HOW A SUBMITTED STATEMENT CAN FAIL.**
-/

namespace QueryFuzz

/-- Counts of one run. -/
structure Tally where
  generated : Nat := 0
  generationFailures : Nat := 0
  executedOk : Nat := 0
  rejected : Nat := 0
  internalErrors : Nat := 0
  tablesCreated : Nat := 0
  ddlFailures : Nat := 0
  deriving DecidableEq, Repr, Inhabited

/-- The statement that took the server down, with the server's last words. -/
structure Crash where
  statement : String
  message : String
  deriving DecidableEq, Repr, Inhabited

/-- How a submitted statement failed. -/
inductive ExecError where
  /-- An ordinary error, such as a type mismatch. -/
  | rejected (message : String)
  /-- The engine reported a fault of its own; the server is still up. -/
  | internal (message : String)
  /-- The server went away. -/
  | connectionLost (message : String)
  deriving DecidableEq, Repr, Inhabited

namespace ExecError

/-- The error code that engines reserve for faults of their own. -/
def internalCode : String := "XX000"

/-- Classify an error that the server reported under a code. -/
def ofServer (code message : String) : ExecError :=
  if code = internalCode then internal message else rejected message

/-- The wording of a failure. -/
def render : ExecError → String
  | rejected message => "statement rejected: " ++ message
  | internal message => "internal error: " ++ message
  | connectionLost message => "connection lost: " ++ message

end ExecError

end QueryFuzz
