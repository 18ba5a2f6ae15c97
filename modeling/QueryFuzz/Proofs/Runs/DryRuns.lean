/-
  QueryFuzz.Proofs.Runs.DryRuns
  ─────────────────────────────
  **A DRY RUN LOSES NOTHING.**

  Without a database every call succeeds, and the catalog that a load gives is the
  one that the tables created so far have made.  All that can go wrong is that no
  statement comes up.  So the counts of a dry run follow from the number of its
  steps and the interval of schema changes, and its catalog is the one it started
  with, with the created tables behind.

      Tally.Smooth — counts of steps in which nothing failed but generating
      tablesDue    — how many of the first steps change the schema
      Smooth       — a dry run between two steps, on the backend that records

  Main results:
    * `Campaign.stepOnce_smooth` — what one step of a dry run keeps;
    * `Campaign.start_smooth` — what a start establishes;
    * `Campaign.dryRun_outcome` — how dry runs start, how they end and what they report.
-/
import QueryFuzz.Proofs.Faults
import QueryFuzz.Proofs.Growth
import QueryFuzz.Proofs.Runs.Currency

namespace QueryFuzz

open Backend

/-! ## §1. Created tables, and counts where nothing fails. -/

/-- The tables that calls created, in order. -/
def createdTables (calls : List Call) : List CreateTable :=
  calls.filterMap fun
    | .createTable create (.ok ()) => some create
    | _ => none

theorem createdTables_append (before after : List Call) :
    createdTables (before ++ after) = createdTables before ++ createdTables after :=
  List.filterMap_append

/-- Every statement succeeded and so did every schema change; there were `attempts` at a
statement and `created` new tables. -/
structure Tally.Smooth (t : Tally) (attempts created : Nat) : Prop where
  executedOk : t.executedOk = t.generated
  rejected : t.rejected = 0
  internalErrors : t.internalErrors = 0
  ddlFailures : t.ddlFailures = 0
  attempts : t.generated + t.generationFailures = attempts
  tablesCreated : t.tablesCreated = created

namespace Tally.Smooth

variable {t : Tally} {attempts created : Nat}

theorem create (h : t.Smooth attempts created) :
    { t with tablesCreated := t.tablesCreated + 1 : Tally }.Smooth attempts (created + 1) :=
  ⟨h.executedOk, h.rejected, h.internalErrors, h.ddlFailures, h.attempts,
    congrArg (· + 1) h.tablesCreated⟩

theorem execute (h : t.Smooth attempts created) :
    { t with generated := t.generated + 1, executedOk := t.executedOk + 1 : Tally }.Smooth
      (attempts + 1) created := by
  have attempts := h.attempts
  refine ⟨congrArg (· + 1) h.executedOk, h.rejected, h.internalErrors, h.ddlFailures, ?_,
    h.tablesCreated⟩
  show t.generated + 1 + t.generationFailures = _
  omega

theorem miss (h : t.Smooth attempts created) :
    { t with generationFailures := t.generationFailures + 1 : Tally }.Smooth
      (attempts + 1) created :=
  ⟨h.executedOk, h.rejected, h.internalErrors, h.ddlFailures,
    congrArg (· + 1) h.attempts, h.tablesCreated⟩

end Tally.Smooth

/-- How many of the first `steps` steps are multiples of the interval: their quotient,
rounded up; none when the interval is zero. -/
def tablesDue (interval steps : Nat) : Nat := (steps + interval - 1) / interval

theorem tablesDue_zero (interval : Nat) : tablesDue interval 0 = 0 := by
  unfold tablesDue
  by_cases zero : interval = 0
  · rw [zero]
  · exact Nat.div_eq_of_lt (by omega)

/-- One more step is one more table where the step is a multiple of the interval. -/
theorem tablesDue_succ (interval step : Nat) :
    tablesDue interval (step + 1)
      = tablesDue interval step + if 0 < interval ∧ interval ∣ step then 1 else 0 := by
  unfold tablesDue
  cases interval with
  | zero => simp
  | succ k =>
      -- in both quotients the interval can be taken out of the dividend
      have next : step + 1 + (k + 1) - 1 = step + k + 1 := by omega
      have here : step + (k + 1) - 1 = step + k := by omega
      have due : k + 1 ∣ step + k + 1 ↔ k + 1 ∣ step := by
        rw [Nat.add_assoc]
        exact (Nat.dvd_add_iff_left (Nat.dvd_refl (k + 1))).symm
      rw [next, here, Nat.succ_div]
      simp [due]

/-- A valid profile allows for some steps without a statement. -/
theorem Profile.maxConsecutiveFailures_pos {p : Profile} (h : p.isValid = true) :
    0 < p.maxConsecutiveFailures := by
  unfold Profile.isValid Profile.problems at h
  simp only [List.isEmpty_iff, List.append_eq_nil_iff] at h
  obtain ⟨⟨-, failures⟩, -⟩ := h
  refine Nat.pos_of_ne_zero fun zero => ?_
  simp [Report.ofCount, zero] at failures

namespace Campaign

/-! ## §2. One step. -/

section Steps

variable {config : CampaignConfig} {initial : Catalog} {first attempts created step : Nat}
  {p : Progress (Catalog × List Call)}

/-- A dry run under way: the database has grown from the initial catalog by the tables in
the transcript, `first` of which were created before its first step, the session is on the
same catalog, and the counts are smooth. -/
structure Smooth (config : CampaignConfig) (initial : Catalog) (first attempts created : Nat)
    (p : Progress (Catalog × List Call)) : Prop where
  options : p.campaign.session.options = config.profile.generation
  catalog : p.campaign.session.catalog = p.campaign.db.1
  built : p.campaign.db.1.Built
  grown : initial.Grown (createdTables p.campaign.db.2) p.campaign.db.1
  number : (createdTables p.campaign.db.2).length = first + created
  tally : p.tally.Smooth attempts created
  failures : p.failures < config.profile.maxConsecutiveFailures

/-- How a step of a dry run can end: it goes on, no statement came up for too long, or a
generator goes on and on. -/
inductive DryEnds (config : CampaignConfig) (Q : Progress (Catalog × List Call) → Prop) :
    StepEnd (Catalog × List Call) → Prop where
  | goOn {q : Progress (Catalog × List Call)} (keeps : Q q) : DryEnds config Q (.goOn q)
  | given {q : Progress (Catalog × List Call)} :
      DryEnds config Q (.failed q (.noStatements config.profile.maxConsecutiveFailures))
  | endless {q : Progress (Catalog × List Call)} {why : Fault}
      (fault : why = .roundsExhausted
        ∨ why = .levelOverflow ∧ config.profile.generation.Uncapped) :
      DryEnds config Q (.halted q why)

/-- A schema change creates a table and puts the grown catalog in place. -/
theorem changeSchema_smooth (hp : Smooth config initial first attempts created p) :
    ∃ q, changeSchema dryRun.recorded p = .goOn q
      ∧ Smooth config initial first attempts (created + 1) q := by
  obtain ⟨create, session, drawn, new, kept, options⟩ :=
    p.campaign.session.generateTable_new
  rw [hp.catalog] at new
  have grown := hp.grown.create hp.built new
  have tables : (p.campaign.db.1.withTable create.toTable).hasTables = true := by
    rw [hp.built.withTable_of_free new.free new.usable]
    simp [Catalog.hasTables]
  -- of the two calls of this change only the first one made a table
  have calls : createdTables (p.campaign.db.2 ++ [.createTable create (.ok ())]
        ++ [.load (.ok (p.campaign.db.1.withTable create.toTable))])
      = createdTables p.campaign.db.2 ++ [create] := by
    rw [createdTables_append, createdTables_append]
    exact List.append_nil _
  refine ⟨{
      campaign :=
        ⟨{ session with catalog := p.campaign.db.1.withTable create.toTable },
          (p.campaign.db.1.withTable create.toTable,
            p.campaign.db.2 ++ [.createTable create (.ok ())]
              ++ [.load (.ok (p.campaign.db.1.withTable create.toTable))])⟩
      tally := { p.tally with tablesCreated := p.tally.tablesCreated + 1 }
      failures := p.failures }, ?_, ?_⟩
  · unfold changeSchema
    rw [drawn]
    unfold placeTable reload Session.setCatalog
    simp [recorded, dryRun, Progress.withDb, Progress.count, tables]
  · refine ⟨options.trans hp.options, rfl, Catalog.withTable_built _ _, ?_, ?_,
      hp.tally.create, hp.failures⟩
    · rw [calls]
      exact grown
    · rw [calls, List.length_append, hp.number]
      rfl

theorem Smooth.note (hp : Smooth config initial first attempts created p) (e : Event) :
    Smooth config initial first attempts created (p.note e) :=
  ⟨hp.options, hp.catalog, hp.built, hp.grown, hp.number, hp.tally, hp.failures⟩

theorem report_smooth (valid : config.profile.isValid = true)
    (hp : Smooth config initial first attempts created p) :
    DryEnds config (Smooth config initial first attempts created) (report config step p) := by
  have interval := (Profile.promises valid).2
  unfold report remainder
  rw [if_neg interval]
  dsimp only
  split
  · exact .goOn (hp.note _)
  · exact .goOn hp

/-- A statement that is submitted succeeds, and the database stays as it is. -/
theorem submit_smooth (valid : config.profile.isValid = true)
    (hp : Smooth config initial first attempts created p) (statement : String) :
    DryEnds config (Smooth config initial first (attempts + 1) created)
      (submit dryRun.recorded config step statement p) := by
  have calls : createdTables (p.campaign.db.2 ++ [.execute statement (.ok ())])
      = createdTables p.campaign.db.2 := by
    rw [createdTables_append]
    exact List.append_nil _
  let submitted := (p.count fun t => { t with generated := t.generated + 1 }).note
    (.submitted config.loud step statement)
  let answered := (submitted.withDb
    (p.campaign.db.1, p.campaign.db.2 ++ [.execute statement (.ok ())])).count
      fun t => { t with executedOk := t.executedOk + 1 }
  show DryEnds config _ (report config step answered)
  refine report_smooth valid ⟨hp.options, hp.catalog, hp.built, ?_, ?_, hp.tally.execute,
    hp.failures⟩
  · show initial.Grown (createdTables (p.campaign.db.2 ++ _)) p.campaign.db.1
    rw [calls]
    exact hp.grown
  · show (createdTables (p.campaign.db.2 ++ _)).length = _
    rw [calls]
    exact hp.number

/-- A statement that is found succeeds; otherwise one more step in a row has none. -/
theorem query_smooth (valid : config.profile.isValid = true)
    (hp : Smooth config initial first attempts created p) :
    DryEnds config (Smooth config initial first (attempts + 1) created)
      (query dryRun.recorded config step p) := by
  have generation : p.campaign.session.options.isValid = true := by
    rw [hp.options]
    exact (Profile.promises valid).1
  have options := p.campaign.session.generate_options
  have catalog := p.campaign.session.generate_catalog
  have endless := @Session.generate_endless p.campaign.session generation
  rw [hp.options] at options endless
  unfold query
  generalize p.campaign.session.generate = r at options catalog endless
  obtain ⟨o, session⟩ := r
  cases o with
  | halted why => exact .endless (endless rfl)
  | nothing =>
      have few := hp.failures
      dsimp only
      split
      · -- the failure that is one too many is the last one that is allowed
        rename_i many
        have last : p.failures + 1 = config.profile.maxConsecutiveFailures :=
          Nat.le_antisymm few many
        rw [last]
        exact .given
      · rename_i more
        exact .goOn ⟨options, catalog.trans hp.catalog, hp.built, hp.grown, hp.number,
          hp.tally.miss, Nat.lt_of_not_le more⟩
  | found tree =>
      have found : Smooth config initial first attempts created
          { p with campaign.session := session, failures := 0 } :=
        ⟨options, catalog.trans hp.catalog, hp.built, hp.grown, hp.number, hp.tally,
          Profile.maxConsecutiveFailures_pos valid⟩
      exact submit_smooth valid found tree.render

/-- **One step of a dry run**: a table where it is due, and a statement unless none comes
up. -/
theorem stepOnce_smooth (valid : config.profile.isValid = true)
    (hp : Smooth config initial first step
      (tablesDue config.profile.ddlInterval step) p) :
    DryEnds config (Smooth config initial first (step + 1)
        (tablesDue config.profile.ddlInterval (step + 1)))
      (stepOnce dryRun.recorded config step p) := by
  have number := tablesDue_succ config.profile.ddlInterval step
  by_cases due : Due config step
  · obtain ⟨q, goes, hq⟩ := changeSchema_smooth hp
    rw [if_pos (show 0 < _ ∧ _ from due)] at number
    rw [stepOnce_of_due _ _ due, goes, number]
    exact query_smooth valid hq
  · rw [if_neg (show ¬ (0 < _ ∧ _) from due)] at number
    rw [stepOnce_of_not_due _ _ due, number]
    exact query_smooth valid hp

/-- So it is after any number of steps. -/
theorem Reaches.smooth (valid : config.profile.isValid = true)
    {c : Campaign (Catalog × List Call)}
    (start : Smooth config initial first 0 0 { campaign := c }) {n : Nat}
    (h : Reaches dryRun.recorded config c n p) :
    Smooth config initial first n (tablesDue config.profile.ddlInterval n) p := by
  induction h with
  | start =>
      rw [tablesDue_zero]
      exact start
  | step h remaining next ih =>
      have once := stepOnce_smooth valid ih
      rw [next] at once
      cases once with
      | goOn keeps => exact keeps

/-- A run of a dry run ends as its last step does. -/
theorem RunEnds.smooth (valid : config.profile.isValid = true)
    {c : Campaign (Catalog × List Call)} {parts : List (List Call)}
    {e : StepEnd (Catalog × List Call)} (start : Smooth config initial first 0 0 { campaign := c })
    (h : RunEnds dryRun.recorded config c parts e) :
    DryEnds config (Smooth config initial first config.iterations
      (tablesDue config.profile.ddlInterval config.iterations)) e := by
  cases h with
  | whole course all =>
      have last := course.reaches.smooth valid start
      rw [all] at last
      exact .goOn last
  | @cut parts p course remaining stop =>
      have last := stepOnce_smooth valid (course.reaches.smooth valid start)
      generalize stepOnce dryRun.recorded config parts.length p = e at last stop
      cases last with
      | goOn keeps => exact absurd rfl (stop _)
      | given => exact .given
      | endless fault => exact .endless fault

end Steps

/-! ## §3. Starts. -/

section Starts

variable {config : CampaignConfig} {initial catalog : Catalog} {first : Nat} {calls : List Call}

/-- A session on a catalog with tables is opened, and the dry run is under way. -/
theorem startOn_smooth (valid : config.profile.isValid = true) (words : WordStream)
    (s : GenState) (tables : catalog.hasTables = true) (built : catalog.Built)
    (grown : initial.Grown (createdTables calls) catalog)
    (number : (createdTables calls).length = first) :
    ∃ c, (startOn config catalog (catalog, calls) words s).1 = .done c
      ∧ Smooth config initial first 0 0 { campaign := c } := by
  have generation := (Profile.promises valid).1
  unfold startOn Session.openOn
  rw [generation, tables]
  exact ⟨_, rfl, rfl, rfl, built, grown, number, ⟨rfl, rfl, rfl, rfl, rfl, rfl⟩,
    Profile.maxConsecutiveFailures_pos valid⟩

/-- **A dry run starts** unless there are no tables and none may be created; a first table
is created when there are none. -/
theorem start_smooth (d : Draft) (valid : config.profile.isValid = true) (words : WordStream)
    (s : GenState) (opens : d.build.hasTables = true ∨ config.profile.ddlInterval ≠ 0) :
    ∃ c, (start dryRun.recorded config (d.build, []) words s).1 = .done c
      ∧ Smooth config d.build (if d.build.hasTables then 0 else 1) 0 0 { campaign := c } := by
  have load : dryRun.recorded.load (d.build, [])
      = (⟨.ok d.build, []⟩, d.build, [.load (.ok d.build)]) := rfl
  have quiet : logged s [] = s := rfl
  rw [start_of_isValid config words s valid, load]
  dsimp only
  rw [quiet]
  cases tables : d.build.hasTables with
  | true => exact startOn_smooth valid words s tables d.build_built (.refl _) rfl
  | false =>
      have interval : config.profile.ddlInterval ≠ 0 := by
        obtain some | interval := opens
        · rw [tables] at some
          cases some
        · exact interval
      -- a first table is made, since the interval asks for tables at all
      obtain ⟨create, s', found, new⟩ :=
        (Generate.createTable_certain d.build).of_draws (Generate.createTable_new d.build) words s
      have grown := (Catalog.Grown.refl d.build).create d.build_built new
      have some : (d.build.withTable create.toTable).hasTables = true := by
        rw [d.build_built.withTable_of_free new.free new.usable]
        simp [Catalog.hasTables]
      have answered : dryRun.recorded.createTable create (d.build, [.load (.ok d.build)])
          = (.ok (), d.build.withTable create.toTable,
            [.load (.ok d.build), .createTable create (.ok ())]) := rfl
      rw [if_neg (by simpa using interval), found,
        startWithTable_of_created config d.build words s' answered]
      exact startOn_smooth valid words _ some (Catalog.withTable_built _ _) grown rfl

end Starts

/-! ## §4. Runs. -/

/-- **What a dry run under way comes to**: a report, or no statement for too long, or a step
whose generator goes on and on.  A report comes with the catalog that the database has grown
to. -/
theorem run_smooth {config : CampaignConfig} (valid : config.profile.isValid = true)
    {initial : Catalog} {first : Nat} {c : Campaign Catalog} {calls : List Call}
    (start : Smooth config initial first 0 0 { campaign := c.recording calls }) :
    ((∃ r, (run dryRun config c).1 = .done r)
        ∨ (run dryRun config c).1
          = .failed (.noStatements config.profile.maxConsecutiveFailures)
        ∨ ((run dryRun config c).1 = .halted .roundsExhausted
          ∧ ∃ n, Stalled dryRun config c n .roundsExhausted)
        ∨ (run dryRun config c).1 = .halted .levelOverflow
          ∧ config.profile.generation.Uncapped
          ∧ ∃ n, Stalled dryRun config c n .levelOverflow)
      ∧ ∀ r, (run dryRun config c).1 = .done r →
        r.crash = none
          ∧ r.tally.Smooth config.iterations
            (tablesDue config.profile.ddlInterval config.iterations)
          ∧ (run dryRun config c).2.session.catalog = (run dryRun config c).2.db
          ∧ initial.Grown (createdTables (calls ++ transcript dryRun config c))
            (run dryRun config c).2.db
          ∧ (createdTables (calls ++ transcript dryRun config c)).length
            = r.tally.tablesCreated + first := by
  have interval := (Profile.promises valid).2
  -- the run on the recording backend is the run itself, with its calls behind the others
  obtain ⟨parts, e, ends, report, -⟩ := exists_runEnds dryRun.recorded config (c.recording calls)
  have ends := ends.smooth valid start
  rw [run_recorded] at report
  obtain ⟨ending, closed⟩ := Prod.mk.inj report
  have stalled : ∀ why, (run dryRun config c).1 = .halted why →
      ∃ n, Stalled dryRun config c n why := fun why => (run_halted_iff interval).1
  rw [ending] at stalled ⊢
  cases ends with
  | given => exact ⟨.inr (.inl rfl), fun r done => by cases done⟩
  | @endless q why fault =>
      refine ⟨?_, fun r done => by cases done⟩
      obtain rfl | ⟨rfl, uncapped⟩ := fault
      · exact .inr (.inr (.inl ⟨rfl, stalled _ rfl⟩))
      · exact .inr (.inr (.inr ⟨rfl, uncapped, stalled _ rfl⟩))
  | @goOn q keeps =>
      refine ⟨.inl ⟨_, rfl⟩, fun r done => ?_⟩
      obtain rfl := Ending.done.inj done
      have session : (run dryRun config c).2.session = q.campaign.session.note _ :=
        congrArg Campaign.session closed
      have db : ((run dryRun config c).2.db, calls ++ transcript dryRun config c)
          = q.campaign.db := congrArg Campaign.db closed
      obtain ⟨-, catalog, -, grown, number, tally, -⟩ := keeps
      rw [← db] at catalog grown number
      refine ⟨rfl, tally, ?_, grown, ?_⟩
      · rw [session]
        exact catalog
      · rw [number, tally.tablesCreated, Nat.add_comm]

/-- **DRY RUNS.**  Whatever was added to the catalog, under a valid profile a dry run starts
unless there is no table and none may be created.  It reports, or gives up after as many
steps without a statement as it may, or comes to a step whose statement stalls: a loop of
dice rolls goes on after its rounds, or the nesting does under options that do not cap it.
A report tells of no crash and no failure but of generating, of an attempt in each step, and
of a new table in each step where it is due.  The session is then on the catalog of the
database, which has grown by the tables that were created, one of them before the first step
when there was none. -/
theorem dryRun_outcome (d : Draft) {config : CampaignConfig}
    (valid : config.profile.isValid = true) (words : WordStream) (s : GenState) :
    (d.build.hasTables = false → config.profile.ddlInterval = 0 →
        (start dryRun config d.build words s).1 = .failed (.sessionRefused .emptyCatalog))
      ∧ (d.build.hasTables = true ∨ config.profile.ddlInterval ≠ 0 →
        ∃ c, (start dryRun config d.build words s).1 = .done c
          ∧ ((∃ r, (run dryRun config c).1 = .done r)
            ∨ (run dryRun config c).1
              = .failed (.noStatements config.profile.maxConsecutiveFailures)
            ∨ ((run dryRun config c).1 = .halted .roundsExhausted
              ∧ ∃ n, Stalled dryRun config c n .roundsExhausted)
            ∨ (run dryRun config c).1 = .halted .levelOverflow
              ∧ config.profile.generation.Uncapped
              ∧ ∃ n, Stalled dryRun config c n .levelOverflow)
          ∧ ∀ r, (run dryRun config c).1 = .done r →
            let created := createdTables
              (startCalls dryRun config d.build words s ++ transcript dryRun config c)
            r.crash = none
              ∧ r.tally.Smooth config.iterations
                (tablesDue config.profile.ddlInterval config.iterations)
              ∧ (run dryRun config c).2.session.catalog = (run dryRun config c).2.db
              ∧ d.build.Grown created (run dryRun config c).2.db
              ∧ created.length
                = r.tally.tablesCreated + if d.build.hasTables then 0 else 1) := by
  refine ⟨fun none zero => ?_, fun opens => ?_⟩
  · -- no table to start with and none to come: the session is refused
    have generation := (Profile.promises valid).1
    rw [start_of_isValid config words s valid]
    show (if _ then startOn config d.build d.build words s else _).1 = _
    rw [if_pos (by simp [zero])]
    unfold startOn Session.openOn
    rw [generation, none]
    rfl
  · obtain ⟨c', started, smooth⟩ := start_smooth d valid words s opens
    -- the run on the recording server is the run itself, with its calls beside it
    rw [start_recorded dryRun config d.build words s [], List.nil_append] at started
    generalize startCalls dryRun config d.build words s = calls at started ⊢
    generalize start dryRun config d.build words s = r at started ⊢
    obtain ⟨ended, db, s'⟩ := r
    cases ended with
    | failed error => cases started
    | halted why => cases started
    | done c =>
        obtain rfl : c.recording calls = c' := Ending.done.inj started
        exact ⟨c, rfl, run_smooth valid smooth⟩

end Campaign

namespace Sample

/-- Operators and functions, and no tables. -/
def bareDraft : Draft := { draft with tables := [] }

/-- Three steps with a new table in every other one. -/
def dryConfig : CampaignConfig where
  seed := 0
  iterations := 3
  loud := false
  profile := { generation := { maxDepth := some 2, retryCount := 2 }, ddlInterval := 2 }
  rounds := 8

/-- What was come to, unless something failed or was halted. -/
def done? {α : Type} : Ending α → Option α
  | .done a => some a
  | .failed _ => none
  | .halted _ => none

theorem eq_done {α : Type} {e : Ending α} {a : α} (h : done? e = some a) : e = .done a := by
  cases e with
  | done other => rw [Option.some.inj h]
  | failed error => cases h
  | halted why => cases h

theorem exists_done {α : Type} {e : Ending α} (h : (done? e).isSome = true) :
    ∃ a, e = .done a := by
  obtain ⟨a, h⟩ := Option.isSome_iff_exists.1 h
  exact ⟨a, eq_done h⟩

/-- The first table is created before the first step.  The words only ever draw two names,
so the third table takes the first number that is free. -/
theorem dryRun_outcome_bare :
    dryConfig.profile.isValid = true
      ∧ ∃ c r, (Campaign.start Backend.dryRun dryConfig bareDraft.build words {}).1 = .done c
        ∧ (Campaign.run Backend.dryRun dryConfig c).1 = .done r
        ∧ r.crash = none ∧ r.tally.Smooth 3 2
        ∧ (Campaign.run Backend.dryRun dryConfig c).2.session.catalog.tables.length = 3 := by
  have valid : dryConfig.profile.isValid = true := by decide
  obtain ⟨-, starts⟩ := Campaign.dryRun_outcome bareDraft valid words {}
  obtain ⟨c, started, -, reports⟩ := starts (.inr (by decide))
  -- the run of the one campaign that was started reports
  have reported : ((done? (Campaign.start Backend.dryRun dryConfig bareDraft.build words {}).1).bind
      fun c => done? (Campaign.run Backend.dryRun dryConfig c).1).isSome = true := by
    decide +kernel
  have campaign : done? (Ending.done c) = some c := rfl
  rw [started, campaign, Option.bind_some] at reported
  obtain ⟨r, done⟩ := exists_done reported
  obtain ⟨crash, tally, same, grown, number⟩ := reports r done
  refine ⟨valid, c, r, started, done, crash, tally, ?_⟩
  rw [same, grown.tables, List.length_append, List.length_map, number, tally.tablesCreated]
  decide

end Sample

end QueryFuzz
