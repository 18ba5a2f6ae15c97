/-
  QueryFuzz.Proofs.Runs.Currency
  ──────────────────────────────
  **THE SCHEMA CHANGES ON SCHEDULE, AND THE CATALOG IN PLACE IS CURRENT.**

  A session works on a copy of the schema.  The copy is renewed by a load, which
  follows a table that was created and nothing else, may fail, and may bring a
  catalog without tables, which is refused.  Whatever happens, the catalog in
  place is the last one with tables that was loaded, from the start of the
  campaign on, and every statement is generated on it.

      Scheduled — the calls of a step are those that are due in it
      Current   — the catalog in place is the last one that was loaded
      Stated    — a statement was generated on the catalog that was current
      Underway  — a campaign that was started and run, with all its calls

  Main results:
    * `Campaign.stepOnce_scheduled` — every step calls what is due;
    * `Campaign.start_recorded` — recording does not change a start;
    * `Campaign.Underway.current` — a campaign underway is current;
    * `Campaign.keeps_schedule_and_catalog` — so are the moments of its next run.
-/
import QueryFuzz.Proofs.Composition
import QueryFuzz.Proofs.Runs.Course

namespace QueryFuzz

open Backend

/-! ## §1. The schedule. -/

/-- The calls of a schema change: one table, and one load just when it was created. -/
inductive SchemaCalls : List Call → Prop where
  | created (create : CreateTable) (loaded : Except String Catalog) :
      SchemaCalls [.createTable create (.ok ()), .load loaded]
  | failed (create : CreateTable) (error : ExecError) :
      SchemaCalls [.createTable create (.error error)]

/-- The calls of a statement: one, if there is a statement. -/
inductive StatementCalls : List Call → Prop where
  | submitted (statement : String) (answer : Answer) :
      StatementCalls [.execute statement answer]
  | nothing : StatementCalls []

namespace Campaign

/-- What a step may call: a schema change just when it is due, and then a statement.  A
lost connection or a failed load leaves no statement behind the schema change. -/
def Scheduled (config : CampaignConfig) (step : Nat) (calls : List Call) : Prop :=
  ∃ schema statement, calls = schema ++ statement ∧ StatementCalls statement
    ∧ (Due config step → SchemaCalls schema) ∧ (¬ Due config step → schema = [])

variable {σ : Type} {b : Backend σ} {config : CampaignConfig} {c : Campaign σ}

theorem SchemaEnds.calls {p : Progress σ} {made : List Call} {e : StepEnd σ}
    (h : SchemaEnds p made e) : SchemaCalls made := by
  cases h with
  | loaded next => exact .created _ _
  | unloaded next => exact .created _ _
  | refused up next => exact .failed _ _
  | lost next => exact .failed _ _

theorem QueryEnds.calls {p : Progress σ} {made : List Call} {e : StepEnd σ}
    (h : QueryEnds config p made e) : StatementCalls made := by
  cases h with
  | halted fault next => exact .nothing
  | nothing next ends => exact .nothing
  | answered generated up next ends => exact .submitted _ _
  | lost generated next => exact .submitted _ _

theorem StepEnds.scheduled {step : Nat} {p : Progress σ} {made : List Call} {e : StepEnd σ}
    (h : StepEnds b config step p made e) : Scheduled config step made := by
  cases h with
  | plain idle last query =>
      exact ⟨[], made, rfl, query.calls, fun due => absurd due idle, fun _ => rfl⟩
  | cut due last schema stop =>
      exact ⟨made, [], (List.append_nil made).symm, .nothing, fun _ => schema.calls,
        fun idle => absurd due idle⟩
  | whole due first schema last query =>
      exact ⟨_, _, rfl, query.calls, fun _ => schema.calls, fun idle => absurd due idle⟩

/-- **Every step calls what is due in it.** -/
theorem stepOnce_scheduled (b : Backend σ) (config : CampaignConfig) (step : Nat)
    (p : Progress σ) : Scheduled config step (stepCalls b config step p) :=
  (stepOnce_ends b config step p).scheduled

/-! ## §2. The catalog in place. -/

/-- The statement was generated by a session on the last catalog that the calls before it
offered, and mentions entries of that catalog only. -/
def Stated (history : List Call) (statement : String) : Prop :=
  ∃ (s s' : Session) (r : Relation),
    latest? history = some s.catalog ∧ s.generate = (.found r, s') ∧ statement = r.render
      ∧ r.ComposedOf s.catalog

/-- So was every statement among the calls that were made after a history. -/
def AllStated (history made : List Call) : Prop :=
  ∀ before statement answer after, made = before ++ .execute statement answer :: after →
    Stated (history ++ before) statement

theorem allStated_of_silent {history made : List Call}
    (silent : ∀ statement answer, .execute statement answer ∉ made) : AllStated history made := by
  intro before statement answer after split
  refine absurd ?_ (silent statement answer)
  rw [split]
  simp

theorem allStated_execute {history : List Call} {statement : String} {answer : Answer}
    (h : Stated history statement) : AllStated history [.execute statement answer] := by
  intro before other answer' after split
  cases before with
  | nil =>
      injection split with same _
      injection same with same _
      rw [List.append_nil, ← same]
      exact h
  | cons call before => simp at split

theorem AllStated.append {history made more : List Call} (h : AllStated history made)
    (next : AllStated (history ++ made) more) : AllStated history (made ++ more) := by
  intro before statement answer after whole
  -- the statement stands behind the first calls, or among them
  obtain ⟨middle, rfl, rest⟩ | ⟨middle, rfl, rest⟩ := List.append_eq_append_iff.1 whole
  · rw [← List.append_assoc]
    exact next middle statement answer after rest
  · cases middle with
    | nil =>
        have here := next [] statement answer after rest.symm
        rw [List.append_nil, List.append_nil] at here
        exact here
    | cons call middle =>
        injection rest with same _
        subst same
        exact h before statement answer middle rfl

/-- The catalog in place is the last one that the calls so far offered. -/
def Current (c : Campaign (σ × List Call)) : Prop := latest? c.db.2 = some c.session.catalog

theorem recording_current {c : Campaign σ} {calls : List Call} :
    (c.recording calls).Current ↔ latest? calls = some c.session.catalog := Iff.rfl

theorem Progress.recording_current {p : Progress σ} {calls : List Call} :
    (p.recording calls).campaign.Current
      ↔ latest? calls = some p.campaign.session.catalog := Iff.rfl

section Moments

variable {p : Progress σ} {history made : List Call} {e : StepEnd σ}

theorem Progress.Becomes.current {q : Progress σ} (h : p.Becomes made q)
    (current : latest? history = some p.campaign.session.catalog) :
    latest? (history ++ made) = some q.campaign.session.catalog := by
  rw [latest?_append, current, h.catalog]
  cases latest? made with
  | none => rfl
  | some catalog => rfl

theorem SchemaEnds.current (h : SchemaEnds p made e)
    (current : latest? history = some p.campaign.session.catalog) :
    latest? (history ++ made) = some e.progress.campaign.session.catalog :=
  h.becomes.current current

theorem QueryEnds.current (h : QueryEnds config p made e)
    (current : latest? history = some p.campaign.session.catalog) :
    latest? (history ++ made) = some e.progress.campaign.session.catalog := by
  obtain next | ⟨rfl, next⟩ := h.becomes
  · exact next.current current
  · exact next.current current

/-- **A step keeps the catalog in place current**, however it ends. -/
theorem StepEnds.current {step : Nat} (h : StepEnds b config step p made e)
    (current : latest? history = some p.campaign.session.catalog) :
    latest? (history ++ made) = some e.progress.campaign.session.catalog := by
  cases h with
  | plain idle last query => exact query.current current
  | cut due last schema stop => exact schema.current current
  | whole due first schema last query =>
      rw [← List.append_assoc]
      exact query.current (schema.current current)

theorem SchemaEnds.allStated (h : SchemaEnds p made e) : AllStated history made := by
  refine allStated_of_silent fun statement answer => ?_
  cases h <;> simp

theorem QueryEnds.allStated (h : QueryEnds config p made e)
    (current : latest? history = some p.campaign.session.catalog) : AllStated history made := by
  cases h with
  | halted fault next => exact allStated_of_silent fun _ _ h => by cases h
  | nothing next ends => exact allStated_of_silent fun _ _ h => by cases h
  | answered generated up next ends =>
      exact allStated_execute
        ⟨_, _, _, current, generated, rfl, (Session.generate_composed generated).2⟩
  | lost generated next =>
      exact allStated_execute
        ⟨_, _, _, current, generated, rfl, (Session.generate_composed generated).2⟩

/-- **A step submits statements on the catalog that is current**, the one that its own
schema change has just loaded included. -/
theorem StepEnds.allStated {step : Nat} (h : StepEnds b config step p made e)
    (current : latest? history = some p.campaign.session.catalog) : AllStated history made := by
  cases h with
  | plain idle last query => exact query.allStated current
  | cut due last schema stop => exact schema.allStated
  | whole due first schema last query =>
      exact schema.allStated.append (query.allStated (schema.current current))

end Moments

/-! ## §3. Starts. -/

/-- The calls of a start, in order. -/
def startCalls (b : Backend σ) (config : CampaignConfig) (db : σ) (words : WordStream)
    (s : GenState) : List Call :=
  (start b.recorded config (db, []) words s).2.1.2

/-- A session is opened on the catalog that is asked for, which has tables. -/
theorem startOn_done {catalog : Catalog} {db : σ} {words : WordStream} {s : GenState}
    (h : (startOn config catalog db words s).1 = .done c) :
    catalog.hasTables = true ∧ c.session.catalog = catalog := by
  unfold startOn at h
  unfold Session.openOn at h
  cases valid : config.profile.generation.isValid with
  | false => simp [valid] at h
  | true =>
      rw [valid] at h
      cases tables : catalog.hasTables with
      | false => simp [tables] at h
      | true =>
          simp only [tables, Bool.not_true, Bool.false_eq_true, if_false] at h
          obtain rfl := Ending.done.inj h
          exact ⟨rfl, rfl⟩

/-- The outcome of a start on the recording backend. -/
def taped (calls : List Call) :
    Ending (Campaign σ) × σ × GenState →
      Ending (Campaign (σ × List Call)) × (σ × List Call) × GenState
  | (.done c, db, s) => (.done (c.recording calls), (db, calls), s)
  | (.failed error, db, s) => (.failed error, (db, calls), s)
  | (.halted why, db, s) => (.halted why, (db, calls), s)

section Starts

variable (b : Backend σ) (config : CampaignConfig) (catalog : Catalog) (db : σ)
  (words : WordStream) (s : GenState)

theorem startOn_recorded (calls : List Call) :
    startOn config catalog (db, calls) words s
      = taped calls (startOn config catalog db words s) := by
  unfold startOn
  generalize Session.openOn catalog config.profile.generation words s config.rounds = opened
  cases opened with
  | error e => rfl
  | ok session => rfl

/-- A start goes on to a session on the catalog that was loaded last. -/
theorem startOn_current (before : List Call)
    (h : (startOn config catalog db words s).1 = .done c) :
    latest? (before ++ [.load (.ok catalog)]) = some c.session.catalog := by
  obtain ⟨tables, same⟩ := startOn_done h
  have offer : (Call.load (.ok catalog)).offered?
      = if catalog.hasTables then some catalog else none := rfl
  rw [latest?_append, latest?_singleton, offer, tables, same]
  rfl

/-- The rest of a start on an empty database, once the table is created. -/
theorem startWithTable_of_created {τ : Type} {b : Backend τ} {db created : τ}
    {create : CreateTable} (ok : b.createTable create db = (.ok (), created)) :
    startWithTable b config catalog db words (.found create, s)
      = match (b.load created).1.catalog with
        | .error message =>
            (.failed (.reloadFailed message), (b.load created).2,
              logged (logged s [.firstTable create.render]) (b.load created).1.events)
        | .ok catalog =>
            startOn config catalog (b.load created).2 words
              (logged (logged s [.firstTable create.render]) (b.load created).1.events) := by
  unfold startWithTable
  dsimp only
  generalize b.createTable create db = answered at ok ⊢
  subst ok
  rfl

/-- The calls of the rest of a start on an empty database; a campaign that comes of it has
the catalog in place that was loaded last. -/
theorem startWithTable_ends (r : Outcome CreateTable × GenState) :
    ∃ made, (∀ calls, startWithTable b.recorded config catalog (db, calls) words r
          = taped (calls ++ made) (startWithTable b config catalog db words r))
      ∧ ∀ c, (startWithTable b config catalog db words r).1 = .done c →
          latest? (.load (.ok catalog) :: made) = some c.session.catalog := by
  obtain ⟨o, s⟩ := r
  cases o with
  | halted why =>
      refine ⟨[], fun calls => ?_, fun c h => by cases h⟩
      rw [List.append_nil]
      rfl
  | nothing =>
      refine ⟨[], fun calls => ?_, fun c h => ?_⟩
      · rw [List.append_nil]
        exact startOn_recorded config catalog db words s calls
      · exact startOn_current config catalog db words s [] h
  | found create =>
      -- two calls at most: the new table, and once it stands the catalog anew
      have createTable (calls : List Call) : b.recorded.createTable create (db, calls)
          = ((b.createTable create db).1, (b.createTable create db).2,
              calls ++ [.createTable create (b.createTable create db).1]) := rfl
      cases answered : b.createTable create db with
      | mk answer created =>
      rw [answered] at createTable
      rcases answer with error | _
      · refine ⟨[.createTable create (.error error)], ?_, ?_⟩
        · intro calls
          simp only [startWithTable, createTable, answered]
          rfl
        · intro c h
          simp only [startWithTable, answered] at h
          cases h
      · have load (calls : List Call) : b.recorded.load (created, calls)
            = ((b.load created).1, (b.load created).2,
                calls ++ [.load (b.load created).1.catalog]) := rfl
        simp only [startWithTable_of_created config catalog words s (createTable _),
          startWithTable_of_created config catalog words s answered, load]
        generalize b.load created = r
        obtain ⟨⟨loaded, events⟩, db⟩ := r
        cases loaded with
        | error message =>
            refine ⟨[.createTable create (.ok ()), .load (.error message)], fun calls => ?_,
              fun c h => by cases h⟩
            rw [List.append_assoc]
            rfl
        | ok reloaded =>
            refine ⟨[.createTable create (.ok ()), .load (.ok reloaded)], fun calls => ?_,
              fun c h => ?_⟩
            · rw [List.append_assoc]
              exact startOn_recorded config reloaded db words _ _
            · exact startOn_current config reloaded db words _
                [.load (.ok catalog), .createTable create (.ok ())] h

/-- A start under a valid profile loads the catalog first. -/
theorem start_of_isValid {τ : Type} {b : Backend τ} {db : τ}
    (valid : config.profile.isValid = true) :
    start b config db words s
      = match (b.load db).1.catalog with
        | .error message =>
            (.failed (.loadFailed message), (b.load db).2, logged s (b.load db).1.events)
        | .ok catalog =>
            if catalog.hasTables || config.profile.ddlInterval = 0 then
              startOn config catalog (b.load db).2 words (logged s (b.load db).1.events)
            else
              startWithTable b config catalog (b.load db).2 words
                (Generate.createTable catalog words (logged s (b.load db).1.events)) := by
  unfold start
  rw [valid]
  rfl

/-- The calls of a start; a campaign that comes of it has the catalog in place that was
loaded last. -/
theorem exists_start :
    ∃ made, (∀ calls, start b.recorded config (db, calls) words s
          = taped (calls ++ made) (start b config db words s))
      ∧ ∀ c, (start b config db words s).1 = .done c → latest? made = some c.session.catalog := by
  -- the catalog is loaded once, or not at all where the profile is refused
  have load (calls : List Call) : b.recorded.load (db, calls)
      = ((b.load db).1, (b.load db).2, calls ++ [.load (b.load db).1.catalog]) := rfl
  cases valid : config.profile.isValid with
  | false =>
      have refused {τ : Type} (b : Backend τ) (db : τ) : start b config db words s
          = (.failed (.invalidProfile config.profile.problems), db, s) := by
        unfold start
        rw [valid]
        rfl
      refine ⟨[], fun calls => ?_, fun c h => ?_⟩
      · rw [refused, refused, List.append_nil]
        rfl
      · rw [refused] at h
        cases h
  | true =>
      simp only [start_of_isValid config words s valid, load]
      generalize b.load db = r
      obtain ⟨⟨loaded, events⟩, db⟩ := r
      dsimp only
      cases loaded with
      | error message =>
          exact ⟨[.load (.error message)], fun calls => rfl, fun c h => by cases h⟩
      | ok catalog =>
          dsimp only
          split
          · refine ⟨[.load (.ok catalog)], fun calls => ?_, fun c h => ?_⟩
            · exact startOn_recorded config catalog db words _ _
            · exact startOn_current config catalog db words _ [] h
          · obtain ⟨made, recorded, current⟩ := startWithTable_ends b config catalog db words
              (Generate.createTable catalog words (logged s events))
            refine ⟨.load (.ok catalog) :: made, fun calls => ?_, current⟩
            rw [recorded, List.append_assoc]
            rfl

/-- A start on the recording backend records these calls. -/
theorem startCalls_eq {made : List Call}
    (recorded : ∀ calls, start b.recorded config (db, calls) words s
      = taped (calls ++ made) (start b config db words s)) :
    startCalls b config db words s = made := by
  unfold startCalls
  rw [recorded]
  generalize start b config db words s = r
  obtain ⟨ended, db, s⟩ := r
  cases ended <;> rfl

/-- **Recording does not change a start.** -/
theorem start_recorded (calls : List Call) :
    start b.recorded config (db, calls) words s
      = taped (calls ++ startCalls b config db words s) (start b config db words s) := by
  obtain ⟨made, recorded, -⟩ := exists_start b config db words s
  rw [startCalls_eq b config db words s recorded]
  exact recorded calls

/-- A campaign that was started has the catalog in place that was loaded last. -/
theorem start_current (done : (start b config db words s).1 = .done c) :
    latest? (startCalls b config db words s) = some c.session.catalog := by
  obtain ⟨made, recorded, current⟩ := exists_start b config db words s
  rw [startCalls_eq b config db words s recorded]
  exact current c done

end Starts

/-! ## §4. Runs. -/

/-- A campaign that was started and run any number of times, with all its calls. -/
inductive Underway (b : Backend σ) (config : CampaignConfig) :
    Campaign σ → List Call → Prop where
  | started {db : σ} {words : WordStream} {s : GenState} {c : Campaign σ}
      (done : (start b config db words s).1 = .done c) :
      Underway b config c (startCalls b config db words s)
  | ran {c : Campaign σ} {calls : List Call} (h : Underway b config c calls) :
      Underway b config (run b config c).2 (calls ++ transcript b config c)

section Runs

variable {calls : List Call}

/-- After some steps the catalog in place is current, and all statements were made on one
that was. -/
theorem Course.current {parts : List (List Call)} {p : Progress σ}
    (h : Course b config c parts p) (current : latest? calls = some c.session.catalog) :
    latest? (calls ++ parts.flatten) = some p.campaign.session.catalog
      ∧ AllStated calls parts.flatten := by
  induction h with
  | start =>
      rw [List.flatten_nil, List.append_nil]
      exact ⟨current, allStated_of_silent fun _ _ h => by cases h⟩
  | @step parts p q h remaining next ih =>
      have ends := stepOnce_ends b config parts.length p
      rw [next] at ends
      rw [List.flatten_append, List.flatten_singleton, ← List.append_assoc]
      exact ⟨ends.current ih.1, ih.2.append (ends.allStated ih.1)⟩

/-- So it is when the run ends. -/
theorem RunEnds.current {parts : List (List Call)} {e : StepEnd σ}
    (h : RunEnds b config c parts e) (current : latest? calls = some c.session.catalog) :
    latest? (calls ++ parts.flatten) = some e.progress.campaign.session.catalog
      ∧ AllStated calls parts.flatten := by
  cases h with
  | whole course all => exact course.current current
  | @cut parts p course remaining stop =>
      obtain ⟨before, stated⟩ := course.current current
      have ends := stepOnce_ends b config parts.length p
      rw [List.flatten_append, List.flatten_singleton, ← List.append_assoc]
      exact ⟨ends.current before, stated.append (ends.allStated before)⟩

/-- **A run keeps the catalog in place current**, and submits statements on it only. -/
theorem run_current (b : Backend σ) (config : CampaignConfig) {c : Campaign σ}
    (current : latest? calls = some c.session.catalog) :
    latest? (calls ++ transcript b config c) = some (run b config c).2.session.catalog
      ∧ AllStated calls (transcript b config c) := by
  obtain ⟨parts, e, ends, report, same⟩ := run_ends b config c
  obtain ⟨after, stated⟩ := ends.current current
  rw [same, report, StepEnd.closed_catalog]
  exact ⟨after, stated⟩

/-- **A campaign underway is current.** -/
theorem Underway.current (h : Underway b config c calls) :
    latest? calls = some c.session.catalog := by
  induction h with
  | started done => exact start_current b config _ _ _ done
  | ran h ih => exact (run_current b config ih).1

/-- The moments of a run on the recording backend are those of the run itself, each with
the calls made up to it. -/
theorem Reaches.of_recorded {n : Nat} {p : Progress (σ × List Call)}
    (h : Reaches b.recorded config (c.recording calls) n p) :
    ∃ parts q, Course b config c parts q ∧ parts.length = n
      ∧ p = q.recording (calls ++ parts.flatten) := by
  induction h with
  | start =>
      refine ⟨[], { campaign := c }, .start, rfl, ?_⟩
      rw [List.flatten_nil, List.append_nil]
      rfl
  | @step n p p' h remaining next ih =>
      obtain ⟨parts, q, course, rfl, rfl⟩ := ih
      have recorded := stepOnce_recorded b config parts.length q (calls ++ parts.flatten)
      rw [next] at recorded
      cases ended : stepOnce b config parts.length q with
      | goOn q' =>
          rw [ended] at recorded
          refine ⟨_, q', course.step remaining ended, by simp, ?_⟩
          rw [List.flatten_append, List.flatten_singleton, ← List.append_assoc]
          exact StepEnd.goOn.inj recorded
      | crashed q' crash => rw [ended] at recorded; cases recorded
      | failed q' error => rw [ended] at recorded; cases recorded
      | halted q' why => rw [ended] at recorded; cases recorded

/-- **THE SCHEMA CHANGES ON SCHEDULE AND THE CATALOG IS CURRENT** in every run of a campaign
underway.  The calls of the run are those of the steps it reaches, in order; each calls what
is due in it and nothing else.  At every moment — before a step, behind its schema change, at
its end, and when the run is over — the catalog in place is the last one with tables that
was loaded since the campaign was started, and every statement was generated on the catalog
that was current then and mentions entries of it only. -/
theorem keeps_schedule_and_catalog (underway : Underway b config c calls) :
    (∃ parts : List (List Call), transcript b config c = parts.flatten
        ∧ (∀ n part, parts[n]? = some part ↔ n < config.iterations
            ∧ ∃ p, Reaches b config c n p ∧ part = stepCalls b config n p)
        ∧ ∀ n part, parts[n]? = some part → Scheduled config n part)
      ∧ run b.recorded config (c.recording calls)
          = ((run b config c).1,
              (run b config c).2.recording (calls ++ transcript b config c))
      ∧ (c.recording calls).Current
      ∧ (∀ n p, Reaches b.recorded config (c.recording calls) n p →
          p.campaign.Current
            ∧ (changeSchema b.recorded p).progress.campaign.Current
            ∧ (stepOnce b.recorded config n p).progress.campaign.Current)
      ∧ (run b.recorded config (c.recording calls)).2.Current
      ∧ ∀ before statement answer after,
          transcript b config c = before ++ .execute statement answer :: after →
          Stated (calls ++ before) statement := by
  have current := underway.current
  obtain ⟨after, stated⟩ := run_current b config current
  -- the catalog of a moment on the recording backend is that of the same moment of the run
  refine ⟨?_, run_recorded b config c calls, recording_current.2 current,
    fun n p reached => ?_, ?_, stated⟩
  · obtain ⟨parts, e, ends, -, same⟩ := run_ends b config c
    refine ⟨parts, same, fun n part => ends.getElem?_eq_some_iff, fun n part there => ?_⟩
    obtain ⟨-, p, -, rfl⟩ := ends.getElem?_eq_some_iff.1 there
    exact stepOnce_scheduled b config n p
  · obtain ⟨parts, q, course, rfl, rfl⟩ := reached.of_recorded
    have before := (course.current current).1
    refine ⟨Progress.recording_current.2 before, ?_, ?_⟩
    · obtain ⟨made, schema, recorded⟩ := changeSchema_ends b q
      rw [recorded, StepEnd.recording_progress]
      exact Progress.recording_current.2 (schema.current before)
    · rw [stepOnce_recorded, StepEnd.recording_progress]
      exact Progress.recording_current.2 ((stepOnce_ends b config parts.length q).current before)
  · rw [run_recorded]
    exact recording_current.2 after

end Runs

end Campaign

namespace Sample

/-- The second run of the sample campaign creates a table in its first step, too. -/
theorem campaign_keeps_schedule_and_catalog :
    ∃ c calls, Campaign.Underway Backend.dryRun config c calls
      ∧ (c.recording calls).Current
      ∧ ∃ create answer,
          .createTable create answer ∈ Campaign.transcript Backend.dryRun config c := by
  obtain ⟨⟨c, started⟩, -⟩ := config_starts
  have underway := Campaign.Underway.ran (.started started)
  obtain ⟨⟨parts, same, reached, scheduled⟩, -, current, -⟩ :=
    Campaign.keeps_schedule_and_catalog underway
  refine ⟨_, _, underway, current, ?_⟩
  have first := (reached 0 _).2 ⟨by decide, _, .start, rfl⟩
  have due : Campaign.Due config 0 := ⟨by decide, Nat.dvd_zero _⟩
  obtain ⟨schema, statement, calls, -, schemaCalls, -⟩ := scheduled 0 _ first
  rw [same]
  have member : ∀ call ∈ schema, call ∈ parts.flatten := by
    intro call h
    refine List.mem_flatten.2 ⟨_, List.mem_of_getElem? first, ?_⟩
    rw [calls]
    exact List.mem_append_left _ h
  cases schemaCalls due with
  | created create loaded => exact ⟨create, .ok (), member _ List.mem_cons_self⟩
  | failed create error => exact ⟨create, .error error, member _ List.mem_cons_self⟩

end Sample

end QueryFuzz
