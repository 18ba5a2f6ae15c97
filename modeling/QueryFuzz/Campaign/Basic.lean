/-
  QueryFuzz.Campaign.Basic
  ────────────────────────
  **A CAMPAIGN AGAINST ONE DATABASE.**

  A campaign submits one random statement per step and counts the answers.  In
  every step divisible by the schema interval it first creates a random table
  and loads the catalog again.  It ends after its last step or at the first lost
  connection, which is a crash; it fails when the catalog cannot be loaded again
  or when too many steps in a row yield no statement.

      Campaign.start — load the catalog and open the session
      Campaign.run   — all steps
-/
import QueryFuzz.Campaign.Backend
import QueryFuzz.Profile
import QueryFuzz.Session

namespace QueryFuzz

/-! ## §1. Configuration and errors. -/

/-- What a campaign is run with. -/
structure CampaignConfig where
  seed : UInt64
  iterations : Nat
  /-- Whether every statement is logged for all to see. -/
  loud : Bool
  profile : Profile
  /-- Rounds granted to an open-ended loop of dice rolls. -/
  rounds : Nat := Generate.ampleRounds

/-- Why a campaign cannot start or go on. -/
inductive CampaignError where
  | invalidProfile (report : Report)
  | loadFailed (message : String)
  | firstTableFailed (error : ExecError)
  | reloadFailed (message : String)
  | sessionRefused (error : SessionError)
  /-- So many steps in a row yielded no statement. -/
  | noStatements (steps : Nat)
  deriving DecidableEq, Repr

namespace CampaignError

/-- What was being done when the error came up, where that says more. -/
def context? : CampaignError → Option String
  | invalidProfile _ => some "invalid profile"
  | loadFailed _ => some "failed to load catalog"
  | firstTableFailed _ => some "failed to create the first table"
  | reloadFailed _ => some "failed to reload catalog"
  | sessionRefused _ => some "failed to start a generation session"
  | noStatements _ => none

/-- The wording of the error itself. -/
def message : CampaignError → String
  | invalidProfile report => report.render
  | loadFailed message | reloadFailed message => message
  | firstTableFailed error => error.render
  | sessionRefused error => error.message
  | noStatements steps =>
      "statement generation failed " ++ toString steps ++ " times in a row"

end CampaignError

/-- How a part of a campaign ends. -/
inductive Ending (α : Type) where
  | done (a : α)
  | failed (error : CampaignError)
  /-- A generator was halted by a fault. -/
  | halted (why : Fault)

/-- The counts of a run, and the crash that ended it, if one did. -/
structure RunReport where
  tally : Tally := {}
  crash : Option Crash := none
  deriving DecidableEq, Repr

/-! ## §2. Starting. -/

/-- A session with the database it runs against, which is in a state of type `σ`. -/
structure Campaign (σ : Type) where
  session : Session
  db : σ

namespace Campaign

variable {σ : Type}

/-- Log events before there is a session. -/
def logged (s : GenState) (es : List Event) : GenState :=
  { s with log := es.foldl Array.push s.log }

/-- The last part of a start: open the session on the catalog that was loaded. -/
def startOn (config : CampaignConfig) (catalog : Catalog) (db : σ) (words : WordStream)
    (s : GenState) : Ending (Campaign σ) × σ × GenState :=
  match Session.openOn catalog config.profile.generation words s config.rounds with
  | .error e => (.failed (.sessionRefused e), db, s)
  | .ok session =>
      let session := session.note
        (.sessionStarted config.seed.toNat session.catalog.tables.length)
      (.done ⟨session, db⟩, db, session.state)

/-- The rest of a start on an empty database: create the table that was drawn for it, load
the catalog again and open the session. -/
def startWithTable (b : Backend σ) (config : CampaignConfig) (catalog : Catalog) (db : σ)
    (words : WordStream) :
    Outcome CreateTable × GenState → Ending (Campaign σ) × σ × GenState
  | (.halted why, s) => (.halted why, db, s)
  | (.nothing, s) => startOn config catalog db words s
  | (.found create, s) =>
      let s := logged s [.firstTable create.render]
      match b.createTable create db with
      | (.error e, db) => (.failed (.firstTableFailed e), db, s)
      | (.ok (), db) =>
          let (loaded, db) := b.load db
          let s := logged s loaded.events
          match loaded.catalog with
          | .error message => (.failed (.reloadFailed message), db, s)
          | .ok catalog => startOn config catalog db words s

/-- Start a campaign.  An empty database gets one random table first, unless the
profile leaves the schema alone. -/
def start (b : Backend σ) (config : CampaignConfig) (db : σ) (words : WordStream)
    (s : GenState) : Ending (Campaign σ) × σ × GenState :=
  if !config.profile.isValid then (.failed (.invalidProfile config.profile.problems), db, s)
  else
    let (loaded, db) := b.load db
    let s := logged s loaded.events
    match loaded.catalog with
    | .error message => (.failed (.loadFailed message), db, s)
    | .ok catalog =>
        if catalog.hasTables || config.profile.ddlInterval = 0 then
          startOn config catalog db words s
        else
          startWithTable b config catalog db words (Generate.createTable catalog words s)

/-! ## §3. Steps. -/

/-- A campaign between two steps: what was counted, and how many steps in a row
yielded no statement. -/
structure Progress (σ : Type) where
  campaign : Campaign σ
  tally : Tally := {}
  failures : Nat := 0

namespace Progress

/-- Log an event. -/
def note (p : Progress σ) (e : Event) : Progress σ :=
  { p with campaign.session := p.campaign.session.note e }

/-- Change the counts. -/
def count (p : Progress σ) (f : Tally → Tally) : Progress σ := { p with tally := f p.tally }

/-- The database in a new state. -/
def withDb (p : Progress σ) (db : σ) : Progress σ := { p with campaign.db := db }

section Fields

variable (p : Progress σ) (e : Event) (f : Tally → Tally) (db : σ)

@[simp] theorem note_tally : (p.note e).tally = p.tally := rfl

@[simp] theorem note_failures : (p.note e).failures = p.failures := rfl

@[simp] theorem count_campaign : (p.count f).campaign = p.campaign := rfl

@[simp] theorem count_tally : (p.count f).tally = f p.tally := rfl

@[simp] theorem count_failures : (p.count f).failures = p.failures := rfl

@[simp] theorem withDb_session : (p.withDb db).campaign.session = p.campaign.session := rfl

@[simp] theorem withDb_tally : (p.withDb db).tally = p.tally := rfl

@[simp] theorem withDb_failures : (p.withDb db).failures = p.failures := rfl

end Fields

end Progress

/-- How a step, or a part of one, ends. -/
inductive StepEnd (σ : Type) where
  | goOn (p : Progress σ)
  | crashed (p : Progress σ) (crash : Crash)
  | failed (p : Progress σ) (error : CampaignError)
  | halted (p : Progress σ) (why : Fault)

/-- Go on with the rest of a step, unless its first part ended the step. -/
def StepEnd.andThen (e : StepEnd σ) (rest : Progress σ → StepEnd σ) : StepEnd σ :=
  match e with
  | .goOn p => rest p
  | stop => stop

/-- End a step with a crash. -/
def crash (p : Progress σ) (statement message : String) : StepEnd σ :=
  .crashed (p.note (.serverCrashed statement message)) ⟨statement, message⟩

/-- Load the catalog again and put it in place, unless it has no tables. -/
def reload (b : Backend σ) (p : Progress σ) : StepEnd σ :=
  let (loaded, db) := b.load p.campaign.db
  let p := loaded.events.foldl Progress.note (p.withDb db)
  match loaded.catalog with
  | .error message => .failed p (.reloadFailed message)
  | .ok catalog =>
      match p.campaign.session.setCatalog catalog with
      | .error e => .goOn (p.note (.catalogKept e))
      | .ok session => .goOn { p with campaign.session := session }

/-- Create the table that was drawn, and load the catalog again when that succeeded. -/
def placeTable (b : Backend σ) (p : Progress σ) : Outcome CreateTable × Session → StepEnd σ
  | (.halted why, session) => .halted { p with campaign.session := session } why
  | (.nothing, session) => .goOn { p with campaign.session := session }
  | (.found create, session) =>
      let p := { p with campaign.session := session }
      match b.createTable create p.campaign.db with
      | (.ok (), db) =>
          reload b ((p.withDb db).count fun t => { t with tablesCreated := t.tablesCreated + 1 })
      | (.error (.connectionLost message), db) => crash (p.withDb db) create.render message
      | (.error (.internal message), db) =>
          .goOn (((p.withDb db).note (.internalError create.render message)).count fun t =>
            { t with
              internalErrors := t.internalErrors + 1
              ddlFailures := t.ddlFailures + 1 })
      | (.error (.rejected message), db) =>
          .goOn (((p.withDb db).note (.tableRejected create.render message)).count fun t =>
            { t with ddlFailures := t.ddlFailures + 1 })

/-- Create a random table. -/
def changeSchema (b : Backend σ) (p : Progress σ) : StepEnd σ :=
  placeTable b p p.campaign.session.generateTable

/-- The remainder of a division; a fault when it is by zero. -/
def remainder (a b : Nat) : Except Fault Nat :=
  if b = 0 then .error .zeroDivisor else .ok (a % b)

/-- Report progress at every multiple of the interval. -/
def report (config : CampaignConfig) (step : Nat) (p : Progress σ) : StepEnd σ :=
  match remainder (step + 1) config.profile.progressInterval with
  | .error why => .halted p why
  | .ok rest =>
      .goOn (if rest = 0 then p.note (.progress (step + 1) p.tally) else p)

/-- Submit a statement and count the answer. -/
def submit (b : Backend σ) (config : CampaignConfig) (step : Nat) (statement : String)
    (p : Progress σ) : StepEnd σ :=
  let p := (p.count fun t => { t with generated := t.generated + 1 }).note
    (.submitted config.loud step statement)
  match b.execute statement p.campaign.db with
  | (.ok (), db) =>
      report config step ((p.withDb db).count fun t =>
        { t with executedOk := t.executedOk + 1 })
  | (.error (.rejected message), db) =>
      report config step (((p.withDb db).note (.rejected message)).count fun t =>
        { t with rejected := t.rejected + 1 })
  | (.error (.internal message), db) =>
      report config step
        (((p.withDb db).note (.internalError statement message)).count fun t =>
          { t with internalErrors := t.internalErrors + 1 })
  | (.error (.connectionLost message), db) => crash (p.withDb db) statement message

/-- Generate a statement and submit it.  A step without a statement counts as a
failure, and as many of them in a row as the profile allows end the run. -/
def query (b : Backend σ) (config : CampaignConfig) (step : Nat) (p : Progress σ) : StepEnd σ :=
  match p.campaign.session.generate with
  | (.halted why, session) => .halted { p with campaign.session := session } why
  | (.nothing, session) =>
      let p := { (p.count fun t => { t with generationFailures := t.generationFailures + 1 }) with
        campaign.session := session, failures := p.failures + 1 }
      if config.profile.maxConsecutiveFailures ≤ p.failures then
        .failed p (.noStatements p.failures)
      else .goOn p
  | (.found tree, session) =>
      submit b config step tree.render { p with campaign.session := session, failures := 0 }

/-- Whether the schema changes in a step. -/
def changesSchema (config : CampaignConfig) (step : Nat) : Except Fault Bool :=
  if 0 < config.profile.ddlInterval then
    (remainder step config.profile.ddlInterval).map fun rest => decide (rest = 0)
  else .ok false

/-- One step: the schema first, where it is due, and then a statement. -/
def stepOnce (b : Backend σ) (config : CampaignConfig) (step : Nat) (p : Progress σ) :
    StepEnd σ :=
  match changesSchema config step with
  | .error why => .halted p why
  | .ok false => query b config step p
  | .ok true => (changeSchema b p).andThen (query b config step)

/-- At most `remaining` steps, from a step on. -/
def steps (b : Backend σ) (config : CampaignConfig) :
    Nat → Nat → Progress σ → Ending RunReport × Progress σ
  | 0, _, p => (.done ⟨p.tally, none⟩, p)
  | remaining + 1, step, p =>
      match stepOnce b config step p with
      | .goOn p => steps b config remaining (step + 1) p
      | .crashed p crash => (.done ⟨p.tally, some crash⟩, p)
      | .failed p error => (.failed error, p)
      | .halted p why => (.halted why, p)

/-- Run all steps, or as many as there are before a crash, and report. -/
def run (b : Backend σ) (config : CampaignConfig) (c : Campaign σ) :
    Ending RunReport × Campaign σ :=
  match steps b config config.iterations 0 { campaign := c } with
  | (.done r, p) => (.done r, (p.note (.finished r.tally r.crash.isSome)).campaign)
  | (stop, p) => (stop, p.campaign)

end Campaign

end QueryFuzz
