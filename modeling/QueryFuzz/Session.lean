/-
  QueryFuzz.Session
  ─────────────────
  **A GENERATION SESSION.**

  A catalog with tables, valid options, and a position in a stream of words.
  An open-ended loop of dice rolls may take as many rounds as the session grants.
  Names are numbered from one again in every statement.
-/
import QueryFuzz.Generate.Schema
import QueryFuzz.Generate.Tower

namespace QueryFuzz

/-- Everything statements are drawn from. -/
structure Session where
  catalog : Catalog
  options : Options
  words : WordStream
  state : GenState := {}
  rounds : Nat := Generate.ampleRounds

namespace Session

/-! ## §1. Opening a session. -/

/-- Open a session; options that are out of range are refused before a catalog
without tables is. -/
def openOn (catalog : Catalog) (options : Options) (words : WordStream) (state : GenState)
    (rounds : Nat := Generate.ampleRounds) : Except SessionError Session :=
  if !options.isValid then .error (.invalidOptions options.problems)
  else if !catalog.hasTables then .error .emptyCatalog
  else .ok { catalog, options, words, state, rounds }

/-- Put another catalog in place; one without tables is refused. -/
def setCatalog (s : Session) (catalog : Catalog) : Except SessionError Session :=
  if catalog.hasTables then .ok { s with catalog } else .error .emptyCatalog

/-- Log an event. -/
def note (s : Session) (e : Event) : Session :=
  { s with state := { s.state with log := s.state.log.push e } }

/-! ## §2. Generating. -/

/-- What the generators of the session's statements share. -/
def setting (s : Session) : Generate.Setting where
  catalog := s.catalog
  options := s.options
  rounds := s.rounds

/-- Run a generator and keep the state it leaves. -/
def draw {α : Type} (s : Session) (g : Gen α) : Outcome α × Session :=
  let (outcome, state) := g s.words s.state
  (outcome, { s with state })

/-- The generator of a statement from the outermost scope. -/
def statementGen (s : Session) : Gen Relation :=
  Generate.statement s.setting (Generate.tower s.setting Generate.ampleNesting)
    Generate.Scope.root

/-- Generate a statement, with names numbered from one.  Nothing means that this
attempt failed and another may be made. -/
def generate (s : Session) : Outcome Relation × Session :=
  let s := { s with state := { s.state with names := s.state.names.reset } }
  s.draw (s.statementGen.noting .generationFailed)

/-- Generate a table that is new to the catalog. -/
def generateTable (s : Session) : Outcome CreateTable × Session :=
  s.draw (Generate.createTable s.catalog)

end Session

end QueryFuzz
