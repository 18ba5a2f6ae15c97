/-
  QueryFuzz.Campaign.Backend
  ──────────────────────────
  **THE DATABASE UNDER TEST.**

  A backend is a state machine that loads its catalog, executes a statement and
  creates a table, and may answer each call in any way.

      viaText  — a backend that creates tables by executing their text
      dryRun   — no database: everything succeeds, created tables are kept
      recorded — any backend, with a transcript of its calls and answers
-/
import QueryFuzz.Catalog.Basic
import QueryFuzz.Log.Event
import QueryFuzz.Statement.CreateTable

namespace QueryFuzz

/-! ## §1. Backends. -/

/-- The answer to a submitted statement. -/
abbrev Answer := Except ExecError Unit

/-- The answer to a load: a catalog or the reason there is none, and what was
logged on the way. -/
structure Loaded where
  catalog : Except String Catalog
  events : List Event := []

/-- A database whose state is of type `σ`. -/
structure Backend (σ : Type) where
  load : σ → Loaded × σ
  execute : String → σ → Answer × σ
  createTable : CreateTable → σ → Answer × σ

namespace Backend

/-- The backend that creates a table by executing the statement's text. -/
def viaText {σ : Type} (load : σ → Loaded × σ) (execute : String → σ → Answer × σ) :
    Backend σ where
  load := load
  execute := execute
  createTable create := execute create.render

/-- The backend without a database: its state is the catalog it reports. -/
def dryRun : Backend Catalog where
  load catalog := (⟨.ok catalog, []⟩, catalog)
  execute _ catalog := (.ok (), catalog)
  createTable create catalog := (.ok (), catalog.withTable create.toTable)

/-! ## §2. Transcripts. -/

/-- One call of a backend with its answer. -/
inductive Call where
  | load (answer : Except String Catalog)
  | execute (statement : String) (answer : Answer)
  | createTable (create : CreateTable) (answer : Answer)

/-- The backend with a transcript of its calls, the first call first. -/
def recorded {σ : Type} (b : Backend σ) : Backend (σ × List Call) where
  load s :=
    let (loaded, s') := b.load s.1
    (loaded, s', s.2 ++ [.load loaded.catalog])
  execute statement s :=
    let (answer, s') := b.execute statement s.1
    (answer, s', s.2 ++ [.execute statement answer])
  createTable create s :=
    let (answer, s') := b.createTable create s.1
    (answer, s', s.2 ++ [.createTable create answer])

end Backend

end QueryFuzz
