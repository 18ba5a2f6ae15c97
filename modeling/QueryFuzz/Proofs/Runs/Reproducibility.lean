/-
  QueryFuzz.Proofs.Runs.Reproducibility
  ─────────────────────────────────────
  **A SEED REPLAYS A RUN, HOWEVER LONG IT IS AND WHATEVER IS LOGGED.**

  Two settings say nothing about what a run does.  The number of steps only says
  when it is over: no step looks at how many are left, so a longer run begins with
  all of a shorter one.  And how much is logged does not matter, for the log is
  written and never read: each step does on one log what it does on any other.

      CampaignConfig.lasting   — the configuration with another number of steps
      CampaignConfig.reporting — the configuration that logs other things
      Campaign.launch          — a campaign is started, and run when that succeeds

  Main results:
    * `Campaign.transcript_lasting` — of two runs of a campaign, the longer one begins
      with the calls of the shorter one;
    * `Campaign.run_withLog` — a run does the same on any log, and when it logs other
      things;
    * `Campaign.start_reporting` — so does a start;
    * `Campaign.launch_reproducible` — both for campaigns from their start on.
-/
import Mathlib.Data.List.Infix
import QueryFuzz.Proofs.Blindness
import QueryFuzz.Proofs.Runs.DryRuns

namespace QueryFuzz

open Backend

/-! ## §1. Settings that do not matter. -/

namespace CampaignConfig

/-- The configuration with another number of steps. -/
def lasting (config : CampaignConfig) (iterations : Nat) : CampaignConfig :=
  { config with iterations }

/-- The configuration that shows statements or hides them, and reports progress at another
interval. -/
def reporting (config : CampaignConfig) (loud : Bool) (interval : Nat) : CampaignConfig :=
  { config with loud, profile := { config.profile with progressInterval := interval } }

end CampaignConfig

namespace Campaign

variable {σ : Type}

/-! ## §2. The number of steps. -/

section Lasting

variable {b : Backend σ} {config : CampaignConfig} {c : Campaign σ} {n m : Nat}

/-- A step that is reached in a shorter run is reached in a longer one. -/
theorem Reaches.lasting {k : Nat} {p : Progress σ} (le : n ≤ m)
    (h : Reaches b (config.lasting n) c k p) : Reaches b (config.lasting m) c k p := by
  induction h with
  | start => exact .start
  | @step k p p' h remaining next ih =>
      -- the step itself does not look at the number of steps
      have same : stepOnce b (config.lasting m) k p = .goOn p' := next
      exact ih.step (Nat.lt_of_lt_of_le remaining le) same

/-- **A longer run begins with the calls of a shorter one.** -/
theorem transcript_lasting (b : Backend σ) (config : CampaignConfig) (c : Campaign σ)
    (le : n ≤ m) :
    transcript b (config.lasting n) c <+: transcript b (config.lasting m) c := by
  obtain ⟨parts, e, ends, -, same⟩ := run_ends b (config.lasting n) c
  obtain ⟨parts', e', ends', -, same'⟩ := run_ends b (config.lasting m) c
  rw [same, same']
  refine List.IsPrefix.flatten (List.prefix_iff_getElem?.2 fun k short => ?_)
  -- a part of the shorter run is that of a step, which the longer one reaches as well
  obtain ⟨remaining, p, reached, calls⟩ :=
    ends.getElem?_eq_some_iff.1 (List.getElem?_eq_getElem short)
  exact ends'.getElem?_eq_some_iff.2
    ⟨Nat.lt_of_lt_of_le remaining le, p, reached.lasting le, calls⟩

end Lasting

/-! ## §3. The log. -/

/-- The campaign with another log. -/
def withLog (c : Campaign σ) (log : Array Event) : Campaign σ :=
  { c with session := c.session.withLog log }

/-- The campaign without its log: the database, the catalog in place, the options, and
where in the stream of words the session stands. -/
def unlogged (c : Campaign σ) : Campaign σ := c.withLog #[]

/-- The progress of a campaign with another log. -/
def Progress.withLog (p : Progress σ) (log : Array Event) : Progress σ :=
  { p with campaign := p.campaign.withLog log }

/-- The end of a step with another log. -/
def StepEnd.withLog (log : Array Event) : StepEnd σ → StepEnd σ
  | .goOn p => .goOn (p.withLog log)
  | .crashed p crash => .crashed (p.withLog log) crash
  | .failed p error => .failed (p.withLog log) error
  | .halted p why => .halted (p.withLog log) why

@[simp] theorem Progress.count_withLog (p : Progress σ) (log : Array Event)
    (f : Tally → Tally) : (p.withLog log).count f = (p.count f).withLog log := rfl

@[simp] theorem Progress.withDb_withLog (p : Progress σ) (log : Array Event) (db : σ) :
    (p.withLog log).withDb db = (p.withDb db).withLog log := rfl

/-- An event goes to the end of whatever log there is. -/
@[simp] theorem Progress.note_withLog (p : Progress σ) (log : Array Event) (e : Event) :
    (p.withLog log).note e = (p.note e).withLog (log.push e) := rfl

section Parts

variable (b : Backend σ) (p : Progress σ) (log : Array Event)

theorem foldl_note_withLog (es : List Event) :
    ∀ (p : Progress σ) log, ∃ log',
      es.foldl Progress.note (p.withLog log) = (es.foldl Progress.note p).withLog log' := by
  induction es with
  | nil => exact fun _ log => ⟨log, rfl⟩
  | cons e es ih => exact fun p log => ih (p.note e) (log.push e)

theorem reload_withLog :
    ∃ log', reload b (p.withLog log) = (reload b p).withLog log' := by
  have sameDb : (p.withLog log).campaign.db = p.campaign.db := rfl
  unfold reload
  rw [sameDb]
  generalize b.load p.campaign.db = r
  obtain ⟨loaded, db⟩ := r
  obtain ⟨log', noted⟩ := foldl_note_withLog loaded.events (p.withDb db) log
  dsimp only
  rw [Progress.withDb_withLog, noted]
  generalize loaded.events.foldl Progress.note (p.withDb db) = q
  cases loaded.catalog with
  | error message => exact ⟨log', rfl⟩
  | ok catalog =>
      dsimp only
      unfold Session.setCatalog
      -- either way the log has no say in whether the catalog is put in place
      cases catalog.hasTables with
      | false => exact ⟨_, rfl⟩
      | true => exact ⟨log', rfl⟩

theorem changeSchema_withLog :
    ∃ log', changeSchema b (p.withLog log) = (changeSchema b p).withLog log' := by
  -- the log decides nothing: the same table is drawn, and only the log behind it differs
  obtain ⟨log', drawn⟩ := p.campaign.session.generateTable_withLog log
  have same : (p.withLog log).campaign.session.generateTable = _ := drawn
  unfold changeSchema
  rw [same]
  generalize p.campaign.session.generateTable = r
  obtain ⟨o, session⟩ := r
  cases o with
  | halted why => exact ⟨log', rfl⟩
  | nothing => exact ⟨log', rfl⟩
  | found create =>
      have sameDb : (p.withLog log).campaign.db = p.campaign.db := rfl
      unfold placeTable
      dsimp only
      rw [sameDb]
      generalize b.createTable create p.campaign.db = answered
      obtain ⟨answer, db⟩ := answered
      rcases answer with error | _
      · rcases error with message | message | message
        · exact ⟨_, rfl⟩
        · exact ⟨_, rfl⟩
        · exact ⟨_, rfl⟩
      · let q : Progress σ := ({ p with campaign.session := session }.withDb db).count fun t =>
          { t with tablesCreated := t.tablesCreated + 1 }
        exact reload_withLog b q log'

variable {config : CampaignConfig} {loud : Bool} {interval : Nat}
  (alike : interval = 0 ↔ config.profile.progressInterval = 0) (step : Nat)

include alike

/-- Reports of progress go to the log only, and an interval of zero is a fault, whatever the
other intervals are. -/
theorem report_withLog :
    ∃ log', report (config.reporting loud interval) step (p.withLog log)
      = (report config step p).withLog log' := by
  have same : (config.reporting loud interval).profile.progressInterval = interval := rfl
  unfold report remainder
  rw [same]
  by_cases zero : interval = 0
  · rw [if_pos zero, if_pos (alike.1 zero)]
    exact ⟨log, rfl⟩
  · rw [if_neg zero, if_neg fun h => zero (alike.2 h)]
    dsimp only
    split
    · split
      · exact ⟨_, rfl⟩
      · exact ⟨_, rfl⟩
    · split
      · exact ⟨_, rfl⟩
      · exact ⟨_, rfl⟩

theorem submit_withLog (statement : String) :
    ∃ log', submit b (config.reporting loud interval) step statement (p.withLog log)
      = (submit b config step statement p).withLog log' := by
  -- the statement is logged in another way, and then the same is called
  have noted (f : Tally → Tally) : ((p.withLog log).count f).note
      (.submitted (config.reporting loud interval).loud step statement)
      = ((p.count f).note (.submitted config.loud step statement)).withLog
          (log.push (.submitted loud step statement)) := rfl
  unfold submit
  dsimp only
  rw [noted]
  generalize (p.count _).note _ = q
  generalize log.push _ = log
  have sameDb : (q.withLog log).campaign.db = q.campaign.db := rfl
  rw [sameDb]
  generalize b.execute statement q.campaign.db = answered
  obtain ⟨answer, db⟩ := answered
  simp only [Progress.withDb_withLog, Progress.note_withLog, Progress.count_withLog]
  rcases answer with error | _
  · rcases error with message | message | message
    · exact report_withLog _ _ alike step
    · exact report_withLog _ _ alike step
    · exact ⟨_, rfl⟩
  · exact report_withLog _ _ alike step

theorem query_withLog :
    ∃ log', query b (config.reporting loud interval) step (p.withLog log)
      = (query b config step p).withLog log' := by
  obtain ⟨log', drawn⟩ := p.campaign.session.generate_withLog log
  have same : (p.withLog log).campaign.session.generate = _ := drawn
  unfold query
  rw [same]
  generalize p.campaign.session.generate = r
  obtain ⟨o, session⟩ := r
  cases o with
  | halted why => exact ⟨log', rfl⟩
  | nothing =>
      dsimp only
      by_cases many : config.profile.maxConsecutiveFailures ≤ p.failures + 1
      · refine ⟨log', ?_⟩
        rw [if_pos many]
        exact if_pos many
      · refine ⟨log', ?_⟩
        rw [if_neg many]
        exact if_neg many
  | found tree =>
      exact submit_withLog b { p with campaign.session := session, failures := 0 } log' alike step
        tree.render

/-- **A step does the same on any log**, and when it logs other things. -/
theorem stepOnce_withLog :
    ∃ log', stepOnce b (config.reporting loud interval) step (p.withLog log)
      = (stepOnce b config step p).withLog log' := by
  have schedule : changesSchema (config.reporting loud interval) step
      = changesSchema config step := rfl
  unfold stepOnce
  rw [schedule]
  rcases changesSchema config step with why | changes
  · exact ⟨log, rfl⟩
  cases changes with
  | false => exact query_withLog b p log alike step
  | true =>
      -- only a schema change that goes on leaves the step its statement
      obtain ⟨log', changed⟩ := changeSchema_withLog b p log
      dsimp only
      rw [changed]
      cases changeSchema b p with
      | goOn q => exact query_withLog b q log' alike step
      | crashed q crash => exact ⟨log', rfl⟩
      | failed q error => exact ⟨log', rfl⟩
      | halted q why => exact ⟨log', rfl⟩

theorem steps_withLog :
    ∀ (remaining step : Nat) (p : Progress σ) (log : Array Event),
      ∃ log', steps b (config.reporting loud interval) remaining step (p.withLog log)
        = ((steps b config remaining step p).1,
            (steps b config remaining step p).2.withLog log') := by
  -- by induction on the steps that are left: each goes on with the log of the one before
  intro remaining
  induction remaining with
  | zero => exact fun _ _ log => ⟨log, rfl⟩
  | succ remaining ih =>
      intro step p log
      obtain ⟨log', same⟩ := stepOnce_withLog b p log alike step
      unfold steps
      rw [same]
      cases stepOnce b config step p with
      | goOn q => exact ih (step + 1) q log'
      | crashed q crash => exact ⟨log', rfl⟩
      | failed q error => exact ⟨log', rfl⟩
      | halted q why => exact ⟨log', rfl⟩

end Parts

section Runs

variable (b : Backend σ) {config : CampaignConfig} {loud : Bool} {interval : Nat}
  (alike : interval = 0 ↔ config.profile.progressInterval = 0)

include alike

/-- **A run does the same on any log**, and when it logs other things. -/
theorem run_withLog (c : Campaign σ) (log : Array Event) :
    ∃ log', run b (config.reporting loud interval) (c.withLog log)
      = ((run b config c).1, (run b config c).2.withLog log') := by
  obtain ⟨log', same⟩ :=
    steps_withLog b alike config.iterations 0 { campaign := c } log
  have same' : steps b (config.reporting loud interval)
      (config.reporting loud interval).iterations 0 { campaign := c.withLog log } = _ := same
  unfold run
  rw [same']
  generalize steps b config config.iterations 0 { campaign := c } = r
  obtain ⟨ended, p⟩ := r
  cases ended with
  | done report => exact ⟨_, rfl⟩
  | failed error => exact ⟨log', rfl⟩
  | halted why => exact ⟨log', rfl⟩

/-- Runs of campaigns that agree but for their logs make the same calls, end in the same way
and leave campaigns that agree but for their logs. -/
theorem run_reporting {c c' : Campaign σ} (same : c'.unlogged = c.unlogged) :
    transcript b (config.reporting loud interval) c' = transcript b config c
      ∧ (run b (config.reporting loud interval) c').1 = (run b config c).1
      ∧ (run b (config.reporting loud interval) c').2.unlogged
        = (run b config c).2.unlogged := by
  -- the one campaign is the other with its own log
  obtain ⟨log, rfl⟩ : ∃ log, c' = c.withLog log := by
    have relogged : c'.unlogged.withLog c'.session.state.log
        = c.unlogged.withLog c'.session.state.log := by
      rw [same]
    exact ⟨c'.session.state.log, relogged⟩
  refine ⟨?_, ?_⟩
  · obtain ⟨log', taped⟩ := run_withLog b.recorded alike (c.recording []) log
    have taped' : run b.recorded (config.reporting loud interval)
        ((c.withLog log).recording []) = _ := taped
    unfold transcript
    rw [taped']
    rfl
  · obtain ⟨log', same⟩ := run_withLog b alike c log
    rw [same]
    exact ⟨rfl, rfl⟩

end Runs

/-! ## §4. Starts. -/

section Starts

variable (b : Backend σ) {config config' : CampaignConfig}

/-- All that a session is opened with is its seed, its options and its rounds. -/
theorem startOn_congr (seed : config'.seed = config.seed) (rounds : config'.rounds = config.rounds)
    (generation : config'.profile.generation = config.profile.generation) :
    startOn (σ := σ) config' = startOn config := by
  funext catalog db words s
  unfold startOn
  rw [seed, rounds, generation]

/-- A start looks at what a session is opened with, at what is wrong with the profile and at
the interval of schema changes. -/
theorem start_congr (opens : startOn (σ := σ) config' = startOn config)
    (problems : config'.profile.problems = config.profile.problems)
    (interval : config'.profile.ddlInterval = config.profile.ddlInterval) :
    start b config' = start b config := by
  have valid : config'.profile.isValid = config.profile.isValid :=
    congrArg List.isEmpty problems
  have created : startWithTable b config' = startWithTable b config := by
    funext catalog db words r
    unfold startWithTable
    rw [opens]
  funext db words s
  unfold start
  rw [valid, problems, interval, opens, created]

/-- The number of steps has no part in a start. -/
theorem start_lasting (n : Nat) : start b (config.lasting n) = start b config :=
  start_congr b (startOn_congr rfl rfl rfl) rfl rfl

/-- **A start is the same** under profiles that differ in the interval of reports, unless one
of them is refused for it. -/
theorem start_reporting {loud : Bool} {interval : Nat}
    (alike : interval = 0 ↔ config.profile.progressInterval = 0) :
    start b (config.reporting loud interval) = start b config := by
  have count : Report.ofCount "progress_interval" interval
      = Report.ofCount "progress_interval" config.profile.progressInterval := by
    unfold Report.ofCount
    rw [if_congr alike rfl rfl]
  exact start_congr b (startOn_congr rfl rfl rfl) (congrArg (_ ++ ·) count) rfl

/-- An interval of zero is refused before anything is called. -/
theorem start_of_interval_zero (db : σ) (words : WordStream) (s : GenState)
    (zero : config.profile.progressInterval = 0) :
    start b config db words s = (.failed (.invalidProfile config.profile.problems), db, s) := by
  have invalid : config.profile.isValid = false := by
    unfold Profile.isValid Profile.problems Report.ofCount
    rw [if_pos zero]
    simp
  unfold start
  rw [invalid]
  rfl

end Starts

/-! ## §5. From the start on. -/

section Launches

variable (b : Backend σ) (config : CampaignConfig) (db : σ) (words : WordStream) (s : GenState)

/-- Start a campaign and run it.  There is no campaign left when the start fails. -/
def launch : Ending RunReport × Option (Campaign σ) :=
  match (start b config db words s).1 with
  | .failed error => (.failed error, none)
  | .halted why => (.halted why, none)
  | .done c => ((run b config c).1, some (run b config c).2)

/-- The calls of a start, and of the run behind it if there is one. -/
def launchCalls : List Call :=
  startCalls b config db words s
    ++ match (start b config db words s).1 with
      | .done c => transcript b config c
      | .failed _ => []
      | .halted _ => []

theorem launchCalls_lasting {n m : Nat} (le : n ≤ m) :
    launchCalls b (config.lasting n) db words s
      <+: launchCalls b (config.lasting m) db words s := by
  -- the starts are one, so that only the runs behind them are to be compared
  unfold launchCalls startCalls
  simp only [start_lasting]
  rw [List.prefix_append_right_inj]
  cases (start b config db words s).1 with
  | done c => exact transcript_lasting b config c le
  | failed error => exact List.prefix_rfl
  | halted why => exact List.prefix_rfl

theorem launch_reporting {loud : Bool} {interval : Nat}
    (alike : interval = 0 ↔ config.profile.progressInterval = 0) :
    launchCalls b (config.reporting loud interval) db words s = launchCalls b config db words s
      ∧ (launch b (config.reporting loud interval) db words s).1
        = (launch b config db words s).1
      ∧ (launch b (config.reporting loud interval) db words s).2.map unlogged
        = (launch b config db words s).2.map unlogged := by
  unfold launchCalls launch startCalls
  rw [start_reporting b alike, start_reporting b.recorded alike]
  cases (start b config db words s).1 with
  | done c =>
      obtain ⟨transcripts, ends, leaves⟩ := run_reporting b alike (rfl : c.unlogged = _)
      exact ⟨congrArg _ transcripts, ends, congrArg some leaves⟩
  | failed error => exact ⟨rfl, rfl, rfl⟩
  | halted why => exact ⟨rfl, rfl, rfl⟩

theorem launch_of_interval_zero (zero : config.profile.progressInterval = 0) :
    launchCalls b config db words s = []
      ∧ launch b config db words s
        = (.failed (.invalidProfile config.profile.problems), none) := by
  unfold launchCalls launch startCalls
  rw [start_of_interval_zero b db words s zero,
    start_of_interval_zero b.recorded (db, []) words s zero]
  exact ⟨rfl, rfl⟩

/-- **A SEED REPLAYS A RUN.**  On any database, from any catalog, words and configuration, a
campaign of fewer steps makes the first calls of one with more, from the start on and in each
later run of the same campaign.  Campaigns that differ only in what they log make the same
calls, end with the same report, the same error or the same fault, and leave the same
database, catalog and place in the stream of words; so do all later runs of theirs.  Intervals
of reports are alike here when both or neither are zero: a profile with an interval of zero
is refused before anything is called. -/
theorem launch_reproducible :
    (∀ n m, n ≤ m →
        launchCalls b (config.lasting n) db words s <+: launchCalls b (config.lasting m) db words s
          ∧ ∀ c, transcript b (config.lasting n) c <+: transcript b (config.lasting m) c)
      ∧ (∀ loud interval, (interval = 0 ↔ config.profile.progressInterval = 0) →
        launchCalls b (config.reporting loud interval) db words s
            = launchCalls b config db words s
          ∧ (launch b (config.reporting loud interval) db words s).1
            = (launch b config db words s).1
          ∧ (launch b (config.reporting loud interval) db words s).2.map unlogged
            = (launch b config db words s).2.map unlogged
          ∧ ∀ c c' : Campaign σ, c'.unlogged = c.unlogged →
            transcript b (config.reporting loud interval) c' = transcript b config c
              ∧ (run b (config.reporting loud interval) c').1 = (run b config c).1
              ∧ (run b (config.reporting loud interval) c').2.unlogged
                = (run b config c).2.unlogged)
      ∧ (config.profile.progressInterval = 0 →
        launchCalls b config db words s = []
          ∧ launch b config db words s
            = (.failed (.invalidProfile config.profile.problems), none)) := by
  refine ⟨fun n m le => ⟨launchCalls_lasting b config db words s le,
      fun c => transcript_lasting b config c le⟩, fun loud interval alike => ?_,
    launch_of_interval_zero b config db words s⟩
  obtain ⟨calls, ends, leaves⟩ := launch_reporting b config db words s alike
  exact ⟨calls, ends, leaves, fun c c' same => run_reporting b alike same⟩

end Launches

end Campaign

namespace Sample

/-- Of the sample dry runs of two and of three steps the first makes fewer calls.  Showing
statements and reporting each step leaves all calls and the report as they are, also behind
something that was logged before, and reporting every zero steps is refused. -/
theorem launch_reproducible_bare :
    let launch := fun config => Campaign.launch Backend.dryRun config bareDraft.build words {}
    let calls := fun config =>
      Campaign.launchCalls Backend.dryRun config bareDraft.build words {}
    let c : Campaign Catalog := ⟨session, draft.build⟩
    calls (dryConfig.lasting 2) <+: calls (dryConfig.lasting 3)
      ∧ (calls (dryConfig.lasting 2)).length < (calls (dryConfig.lasting 3)).length
      ∧ calls (dryConfig.reporting true 1) = calls dryConfig
      ∧ (∃ r, (launch (dryConfig.reporting true 1)).1 = .done r
        ∧ (launch dryConfig).1 = .done r)
      ∧ Campaign.transcript Backend.dryRun (dryConfig.reporting true 1)
          (c.withLog #[.generationFailed])
        = Campaign.transcript Backend.dryRun dryConfig c
      ∧ calls (dryConfig.reporting true 0) = [] := by
  obtain ⟨longer, reporting, -⟩ :=
    Campaign.launch_reproducible Backend.dryRun dryConfig bareDraft.build words {}
  obtain ⟨-, -, refused⟩ := Campaign.launch_reproducible Backend.dryRun
    (dryConfig.reporting true 0) bareDraft.build words {}
  obtain ⟨calls, ends, -, later⟩ := reporting true 1 (by decide)
  have reported : (done? (Campaign.launch Backend.dryRun dryConfig bareDraft.build words
      {}).1).isSome = true := by
    decide +kernel
  obtain ⟨r, done⟩ := exists_done reported
  let c : Campaign Catalog := ⟨session, draft.build⟩
  have noted : (c.withLog #[.generationFailed]).unlogged = c.unlogged := rfl
  exact ⟨(longer 2 3 (by decide)).1, by decide +kernel, calls, ⟨r, ends.trans done, done⟩,
    (later c _ noted).1, (refused rfl).1⟩

end Sample

end QueryFuzz
