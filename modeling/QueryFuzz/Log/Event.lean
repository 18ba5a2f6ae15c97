/-
  QueryFuzz.Log.Event
  ───────────────────
  **WHAT IS LOGGED.**

  An event is what happened; its severity, the part of the program it is
  filed under, its wording and its named fields are read off it here and
  nowhere else.  A line of the log is written from those four.
-/
import QueryFuzz.Campaign.Tally
import QueryFuzz.Options
import QueryFuzz.SqlType

namespace QueryFuzz

/-! ## §1. Severities and targets. -/

/-- How serious an event is, the most serious first. -/
inductive Severity where
  | error
  | warn
  | info
  | debug
  | trace
  deriving DecidableEq, Repr

namespace Severity

def label : Severity → String
  | error => "ERROR"
  | warn => "WARN"
  | info => "INFO"
  | debug => "DEBUG"
  | trace => "TRACE"

/-- How much has to be let through for the event to be seen, from 1. -/
def verbosity : Severity → Nat
  | error => 1
  | warn => 2
  | info => 3
  | debug => 4
  | trace => 5

end Severity

/-- The part of the program an event is filed under. -/
inductive Target where
  | program
  | catalog
  | scalars
  | statements
  | session
  | introspection
  | campaign
  deriving DecidableEq, Repr

/-- The path that log lines and filters know a target by. -/
def Target.path : Target → String
  | program => "sqlsmith"
  | catalog => "sqlsmith::catalog"
  | scalars => "sqlsmith::generation::scalar"
  | statements => "sqlsmith::generation::relational"
  | session => "sqlsmith::session"
  | introspection => "sqlsmith_runner::introspect"
  | campaign => "sqlsmith_runner::runner"

/-! ## §2. Events. -/

/-- Why a session refuses a catalog or a setting. -/
inductive SessionError where
  | emptyCatalog
  | invalidOptions (report : Report)
  deriving DecidableEq, Repr

/-- The wording of a refusal. -/
def SessionError.message : SessionError → String
  | emptyCatalog => "catalog has no usable tables"
  | invalidOptions report => "invalid generation options: " ++ report.render

/-- Something worth logging. -/
inductive Event where
  /-- The command line was understood. -/
  | starting (seed : Nat) (profile : String)
  /-- A table was left out of a catalog. -/
  | tableDropped (table : String)
  /-- A reported table was left out for a column of an unknown type. -/
  | columnSkipped (column type : String)
  | scalarExhausted (level : Nat) (type : SqlType)
  | predicateExhausted (level : Nat)
  | statementExhausted (level : Nat)
  | generationFailed
  /-- The database is empty and gets its first table. -/
  | firstTable (statement : String)
  | sessionStarted (seed tables : Nat)
  /-- A statement is submitted; `loud` campaigns show it. -/
  | submitted (loud : Bool) (step : Nat) (statement : String)
  | rejected (message : String)
  | internalError (statement message : String)
  | tableRejected (statement message : String)
  | serverCrashed (statement message : String)
  | catalogKept (why : SessionError)
  | progress (step : Nat) (tally : Tally)
  | finished (tally : Tally) (crashed : Bool)
  /-- The program ends because of a crash. -/
  | crashDetected (seed : Nat) (crash : Crash)
  deriving DecidableEq, Repr

namespace Event

/-- How serious the event is. -/
def severity : Event → Severity
  | starting .. | firstTable .. | sessionStarted .. | progress .. | finished .. => .info
  | tableDropped .. | columnSkipped .. | generationFailed | rejected ..
  | tableRejected .. => .debug
  | scalarExhausted .. | predicateExhausted .. | statementExhausted .. => .trace
  | submitted loud .. => if loud then .info else .debug
  | internalError .. | serverCrashed .. | crashDetected .. => .error
  | catalogKept .. => .warn

/-- The part of the program the event is filed under. -/
def target : Event → Target
  | starting .. | crashDetected .. => .program
  | tableDropped .. => .catalog
  | columnSkipped .. => .introspection
  | scalarExhausted .. | predicateExhausted .. => .scalars
  | statementExhausted .. => .statements
  | generationFailed => .session
  | _ => .campaign

/-- The event's own words. -/
def message : Event → String
  | starting .. => "starting sqlsmith"
  | tableDropped .. => "dropping table with untyped columns"
  | columnSkipped .. => "skipping table with unsupported column type"
  | scalarExhausted .. => "scalar generation exhausted retries"
  | predicateExhausted .. => "predicate generation exhausted retries"
  | statementExhausted .. => "statement generation exhausted retries"
  | generationFailed => "statement generation failed"
  | firstTable .. => "catalog is empty, creating a table"
  | sessionStarted .. => "session started"
  | submitted _ _ statement => statement
  | rejected .. => "rejected"
  | internalError .. => "internal error"
  | tableRejected .. => "create table rejected"
  | serverCrashed .. => "server crashed"
  | catalogKept .. => "keeping the previous catalog"
  | progress .. => "progress"
  | finished .. => "run finished"
  | crashDetected _ crash => "crash detected: " ++ crash.message

/-- The named fields behind the message. -/
def fields : Event → List (String × String)
  | starting seed profile => [("seed", toString seed), ("profile", profile)]
  | tableDropped table => [("table", table)]
  | columnSkipped column type => [("column", column), ("ty", type)]
  | scalarExhausted level type => [("level", toString level), ("ty", type.render)]
  | predicateExhausted level | statementExhausted level => [("level", toString level)]
  | generationFailed => []
  | firstTable statement => [("statement", statement)]
  | sessionStarted seed tables => [("seed", toString seed), ("tables", toString tables)]
  | submitted _ step _ => [("step", toString step)]
  | rejected message => [("message", message)]
  | internalError statement message | tableRejected statement message
  | serverCrashed statement message => [("statement", statement), ("message", message)]
  | catalogKept why => [("err", why.message)]
  | progress step tally =>
      [("step", toString step), ("generated", toString tally.generated),
        ("ok", toString tally.executedOk), ("rejected", toString tally.rejected),
        ("internal_errors", toString tally.internalErrors)]
  | finished tally crashed =>
      [("generated", toString tally.generated),
        ("generation_failures", toString tally.generationFailures),
        ("ok", toString tally.executedOk), ("rejected", toString tally.rejected),
        ("internal_errors", toString tally.internalErrors),
        ("tables_created", toString tally.tablesCreated),
        ("ddl_failures", toString tally.ddlFailures), ("crashed", toString crashed)]
  | crashDetected seed crash =>
      [("seed", toString seed), ("statement", crash.statement)]

/-- What is logged about the tables that were left out of a catalog. -/
def ofDropped (tables : List String) : List Event := tables.map tableDropped

/-- A character of a message in a log line: those that a terminal would act on are
written by number. -/
def lineChar (c : Char) : String :=
  if c = '\x1B' then "\\x1b"
  else if c = '\x07' then "\\x07"
  else if c = '\x08' then "\\x08"
  else if c = '\x0C' then "\\x0c"
  else if c = '\x7F' then "\\x7f"
  else if 0x80 ≤ c.toNat ∧ c.toNat ≤ 0x9F then
    "\\u\x7b" ++ String.ofList (Nat.toDigits 16 c.toNat) ++ "\x7d"
  else c.toString

/-- A message in a log line. -/
def lineMessage (text : String) : String := String.join (text.toList.map lineChar)

/-- The event as a log line without time: severity, target, message and fields,
a field called `message` by its value alone. -/
def line (e : Event) : String :=
  e.fields.foldl
    (fun text f =>
      text ++ " " ++ if f.1 = "message" then lineMessage f.2 else f.1 ++ "=" ++ f.2)
    (e.severity.label ++ " " ++ e.target.path ++ ": " ++ lineMessage e.message)

end Event

end QueryFuzz
