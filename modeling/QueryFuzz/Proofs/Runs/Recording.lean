/-
  QueryFuzz.Proofs.Runs.Recording
  ───────────────────────────────
  **WHAT A STEP CALLS, AND HOW IT ENDS.**

  A backend that keeps a transcript answers as the backend itself does, so a step
  on it ends the same and only appends its calls to what was recorded before.
  Two relations list all ways in which the two parts of a step can end, each with
  the calls made on the way; a third one puts them together:

      SchemaEnds — creating the table, and loading the catalog again
      QueryEnds  — generating a statement, and submitting it
      StepEnds   — the schema where it is due, and then the statement
      Ready      — the progress that the statement of a step is generated from

  Main results:
    * `Campaign.stepOnce_recorded` — recording does not change a step;
    * `Campaign.stepOnce_ends` — every step ends in one of the ways listed;
    * `Campaign.stepOnce_halted_iff` — which steps are halted.
-/
import QueryFuzz.Proofs.NewTables
import QueryFuzz.Proofs.Safety

namespace QueryFuzz

open Backend

/-! ## §1. What a call counts, offers and loses. -/

/-- The counts after the answer to a call. -/
def Tally.counting (t : Tally) : Call → Tally
  | .load _ => t
  | .execute _ (.ok ()) =>
      { t with generated := t.generated + 1, executedOk := t.executedOk + 1 }
  | .execute _ (.error (.rejected _)) =>
      { t with generated := t.generated + 1, rejected := t.rejected + 1 }
  | .execute _ (.error (.internal _)) =>
      { t with generated := t.generated + 1, internalErrors := t.internalErrors + 1 }
  | .execute _ (.error (.connectionLost _)) => { t with generated := t.generated + 1 }
  | .createTable _ (.ok ()) => { t with tablesCreated := t.tablesCreated + 1 }
  | .createTable _ (.error (.rejected _)) => { t with ddlFailures := t.ddlFailures + 1 }
  | .createTable _ (.error (.internal _)) =>
      { t with internalErrors := t.internalErrors + 1, ddlFailures := t.ddlFailures + 1 }
  | .createTable _ (.error (.connectionLost _)) => t

namespace Backend.Call

/-- The statement that a call lost the connection with, and the server's last words. -/
def lost? : Call → Option Crash
  | .execute statement (.error (.connectionLost message)) => some ⟨statement, message⟩
  | .createTable create (.error (.connectionLost message)) => some ⟨create.render, message⟩
  | _ => none

/-- The catalog that a load offers; one without tables is no offer. -/
def offered? : Call → Option Catalog
  | .load (.ok catalog) => if catalog.hasTables then some catalog else none
  | _ => none

end Backend.Call

/-- The last catalog that calls offered. -/
def latest? (calls : List Call) : Option Catalog := (calls.filterMap Call.offered?).getLast?

theorem latest?_append (before after : List Call) :
    latest? (before ++ after) = (latest? after).or (latest? before) := by
  unfold latest?
  rw [List.filterMap_append, List.getLast?_append]

theorem latest?_singleton (call : Call) : latest? [call] = call.offered? := by
  unfold latest?
  cases offer : call.offered? with
  | none => rw [List.filterMap_cons_none offer]; rfl
  | some catalog => rw [List.filterMap_cons_some offer]; rfl

theorem Session.draw_catalog {α : Type} (s : Session) (g : Gen α) :
    (s.draw g).2.catalog = s.catalog := by
  rw [draw_eq]

theorem Session.generate_catalog (s : Session) : s.generate.2.catalog = s.catalog :=
  draw_catalog { s with state := s.started } (s.statementGen.noting .generationFailed)

namespace Campaign

variable {σ : Type}

/-- `q` is what `p` becomes by the calls `made`: their answers are counted, and the last
catalog they offered is in place. -/
structure Progress.Becomes (p : Progress σ) (made : List Call) (q : Progress σ) : Prop where
  tally : q.tally = made.foldl Tally.counting p.tally
  catalog : q.campaign.session.catalog = (latest? made).getD p.campaign.session.catalog

/-! ## §2. Recording. -/

/-- The campaign on the recording backend, with the calls recorded so far. -/
def recording (c : Campaign σ) (calls : List Call) : Campaign (σ × List Call) :=
  ⟨c.session, (c.db, calls)⟩

/-- The progress of a campaign on the recording backend. -/
def Progress.recording (p : Progress σ) (calls : List Call) : Progress (σ × List Call) :=
  { campaign := p.campaign.recording calls, tally := p.tally, failures := p.failures }

/-- The end of a step on the recording backend. -/
def StepEnd.recording (calls : List Call) : StepEnd σ → StepEnd (σ × List Call)
  | .goOn p => .goOn (p.recording calls)
  | .crashed p crash => .crashed (p.recording calls) crash
  | .failed p error => .failed (p.recording calls) error
  | .halted p why => .halted (p.recording calls) why

theorem StepEnd.recording_progress (calls : List Call) (e : StepEnd σ) :
    (e.recording calls).progress = e.progress.recording calls := by
  cases e <;> rfl

@[simp] theorem Progress.note_recording (p : Progress σ) (calls : List Call) (e : Event) :
    (p.recording calls).note e = (p.note e).recording calls := rfl

@[simp] theorem Progress.count_recording (p : Progress σ) (calls : List Call)
    (f : Tally → Tally) : (p.recording calls).count f = (p.count f).recording calls := rfl

@[simp] theorem Progress.withDb_recording (p : Progress σ) (calls : List Call)
    (r : σ × List Call) : (p.recording calls).withDb r = (p.withDb r.1).recording r.2 := rfl

section Parts

variable (b : Backend σ) (config : CampaignConfig) (step : Nat) (p : Progress σ)
  (calls : List Call)

theorem foldl_note_recording (es : List Event) :
    ∀ p : Progress σ, es.foldl Progress.note (p.recording calls)
      = (es.foldl Progress.note p).recording calls := by
  induction es with
  | nil => exact fun _ => rfl
  | cons e es ih => exact fun p => ih (p.note e)

theorem reload_recorded :
    reload b.recorded (p.recording calls)
      = (reload b p).recording (calls ++ [.load (b.load p.campaign.db).1.catalog]) := by
  have load : b.recorded.load (p.recording calls).campaign.db
      = ((b.load p.campaign.db).1, (b.load p.campaign.db).2,
          calls ++ [.load (b.load p.campaign.db).1.catalog]) := rfl
  unfold reload
  rw [load]
  generalize b.load p.campaign.db = r
  obtain ⟨loaded, db⟩ := r
  -- the events of the load come first, then its catalog is looked at
  have noted := foldl_note_recording (calls ++ [.load loaded.catalog]) loaded.events
    (p.withDb db)
  dsimp only
  rw [Progress.withDb_recording, noted]
  generalize loaded.events.foldl Progress.note (p.withDb db) = q
  cases loaded.catalog with
  | error message => rfl
  | ok catalog =>
      have set (calls : List Call) : (q.recording calls).campaign.session.setCatalog catalog
          = q.campaign.session.setCatalog catalog := rfl
      dsimp only
      rw [set]
      cases q.campaign.session.setCatalog catalog with
      | error e => rfl
      | ok session => rfl

theorem report_recorded :
    report config step (p.recording calls) = (report config step p).recording calls := by
  unfold report
  cases remainder (step + 1) config.profile.progressInterval with
  | error why => rfl
  | ok rest =>
      dsimp only
      split
      · rfl
      · rfl

theorem submit_recorded (statement : String) :
    submit b.recorded config step statement (p.recording calls)
      = (submit b config step statement p).recording
          (calls ++ [.execute statement (b.execute statement p.campaign.db).1]) := by
  -- the counts and the log are apart from the database that is called
  have same (f : Tally → Tally) (e : Event) :
      ((p.count f).note e).campaign.db = p.campaign.db := rfl
  unfold submit
  dsimp only
  rw [Progress.count_recording, Progress.note_recording, ← same]
  generalize (p.count _).note _ = q
  have execute : b.recorded.execute statement (q.recording calls).campaign.db
      = ((b.execute statement q.campaign.db).1, (b.execute statement q.campaign.db).2,
          calls ++ [.execute statement (b.execute statement q.campaign.db).1]) := rfl
  rw [execute]
  generalize b.execute statement q.campaign.db = r
  obtain ⟨answer, db⟩ := r
  simp only [Progress.withDb_recording, Progress.note_recording, Progress.count_recording]
  rcases answer with error | _
  · rcases error with message | message | message
    · exact report_recorded config step _ _
    · exact report_recorded config step _ _
    · rfl
  · exact report_recorded config step _ _

end Parts

/-! ## §3. How the parts of a step end. -/

/-- How a schema change ends, with the calls it makes. -/
inductive SchemaEnds (p : Progress σ) : List Call → StepEnd σ → Prop where
  /-- The table is created and a catalog comes back. -/
  | loaded {create : CreateTable} {catalog : Catalog} {q : Progress σ}
      (next : p.Becomes [.createTable create (.ok ()), .load (.ok catalog)] q) :
      SchemaEnds p [.createTable create (.ok ()), .load (.ok catalog)] (.goOn q)
  /-- The table is created and no catalog comes back. -/
  | unloaded {create : CreateTable} {message : String} {q : Progress σ}
      (next : p.Becomes [.createTable create (.ok ()), .load (.error message)] q) :
      SchemaEnds p [.createTable create (.ok ()), .load (.error message)]
        (.failed q (.reloadFailed message))
  /-- The table is not created, and the server is still up. -/
  | refused {create : CreateTable} {error : ExecError} {q : Progress σ}
      (up : (Call.createTable create (.error error)).lost? = none)
      (next : p.Becomes [.createTable create (.error error)] q) :
      SchemaEnds p [.createTable create (.error error)] (.goOn q)
  /-- The server is gone. -/
  | lost {create : CreateTable} {message : String} {q : Progress σ}
      (next : p.Becomes [.createTable create (.error (.connectionLost message))] q) :
      SchemaEnds p [.createTable create (.error (.connectionLost message))]
        (.crashed q ⟨create.render, message⟩)

/-- The progress with one more step that yielded no statement in its counts. -/
def Progress.missing (p : Progress σ) : Progress σ :=
  p.count fun t => { t with generationFailures := t.generationFailures + 1 }

/-- How the statement of a step ends, with the calls it makes. -/
inductive QueryEnds (config : CampaignConfig) (p : Progress σ) :
    List Call → StepEnd σ → Prop where
  /-- The generator faults. -/
  | halted {q : Progress σ} {why : Fault} (fault : p.campaign.session.generate.1 = .halted why)
      (next : p.Becomes [] q) :
      QueryEnds config p [] (.halted q why)
  /-- There is no statement; that may have happened too often in a row. -/
  | nothing {q : Progress σ} {e : StepEnd σ} (next : p.missing.Becomes [] q)
      (ends : e = .goOn q ∨ e = .failed q (.noStatements q.failures)) :
      QueryEnds config p [] e
  /-- The statement is answered; a report at a multiple of zero is a fault. -/
  | answered {r : Relation} {s : Session} {answer : Answer} {q : Progress σ} {e : StepEnd σ}
      (generated : p.campaign.session.generate = (.found r, s))
      (up : (Call.execute r.render answer).lost? = none)
      (next : p.Becomes [.execute r.render answer] q)
      (ends : e = .goOn q
        ∨ config.profile.progressInterval = 0 ∧ e = .halted q .zeroDivisor) :
      QueryEnds config p [.execute r.render answer] e
  /-- The server is gone. -/
  | lost {r : Relation} {s : Session} {message : String} {q : Progress σ}
      (generated : p.campaign.session.generate = (.found r, s))
      (next : p.Becomes [.execute r.render (.error (.connectionLost message))] q) :
      QueryEnds config p [.execute r.render (.error (.connectionLost message))]
        (.crashed q ⟨r.render, message⟩)

theorem SchemaEnds.becomes {p : Progress σ} {made : List Call} {e : StepEnd σ}
    (h : SchemaEnds p made e) : p.Becomes made e.progress := by
  cases h with
  | loaded next => exact next
  | unloaded next => exact next
  | refused up next => exact next
  | lost next => exact next

/-- A statement is one call, and where there is none the failure may have been counted. -/
theorem QueryEnds.becomes {config : CampaignConfig} {p : Progress σ} {made : List Call}
    {e : StepEnd σ} (h : QueryEnds config p made e) :
    p.Becomes made e.progress ∨ made = [] ∧ p.missing.Becomes [] e.progress := by
  cases h with
  | halted fault next => exact .inl next
  | nothing next ends =>
      obtain rfl | rfl := ends
      · exact .inr ⟨rfl, next⟩
      · exact .inr ⟨rfl, next⟩
  | answered generated up next ends =>
      obtain rfl | ⟨-, rfl⟩ := ends
      · exact .inl next
      · exact .inl next
  | lost generated next => exact .inl next

theorem Progress.Becomes.trans {p q r : Progress σ} {made more : List Call}
    (h : p.Becomes made q) (next : q.Becomes more r) : p.Becomes (made ++ more) r := by
  refine ⟨?_, ?_⟩
  · rw [List.foldl_append, ← h.tally]
    exact next.tally
  · rw [next.catalog, h.catalog, latest?_append]
    cases latest? more with
    | none => rfl
    | some catalog => rfl

/-- One more call. -/
theorem Progress.Becomes.call {p q r : Progress σ} {made : List Call} (h : p.Becomes made q)
    (call : Call) (tally : r.tally = q.tally.counting call)
    (catalog : r.campaign.session.catalog
      = call.offered?.getD q.campaign.session.catalog) : p.Becomes (made ++ [call]) r := by
  refine h.trans ⟨tally, ?_⟩
  rw [latest?_singleton]
  exact catalog

theorem foldl_note_becomes (es : List Event) :
    ∀ p : Progress σ, p.Becomes [] (es.foldl Progress.note p) := by
  induction es with
  | nil => exact fun _ => ⟨rfl, rfl⟩
  | cons e es ih => exact fun p => ⟨(ih (p.note e)).tally, (ih (p.note e)).catalog⟩

section Ends

variable (b : Backend σ) (config : CampaignConfig) (step : Nat) (p : Progress σ)

theorem reload_ends {p₀ : Progress σ} {create : CreateTable}
    (created : p₀.Becomes [.createTable create (.ok ())] p) :
    SchemaEnds p₀ [.createTable create (.ok ()), .load (b.load p.campaign.db).1.catalog]
      (reload b p) := by
  unfold reload
  generalize b.load p.campaign.db = r
  obtain ⟨loaded, db⟩ := r
  have noted := foldl_note_becomes loaded.events (p.withDb db)
  have prior := created.trans (⟨noted.tally, noted.catalog⟩ : p.Becomes [] _)
  dsimp only
  generalize loaded.events.foldl Progress.note (p.withDb db) = q at prior ⊢
  cases loaded.catalog with
  | error message => exact .unloaded (prior.call (.load (.error message)) rfl rfl)
  | ok catalog =>
      have offer : (Call.load (.ok catalog)).offered?
          = if catalog.hasTables then some catalog else none := rfl
      dsimp only
      unfold Session.setCatalog
      -- a catalog without tables is refused, and the one in place stays
      cases tables : catalog.hasTables with
      | false =>
          rw [tables] at offer
          exact .loaded (prior.call (.load (.ok catalog)) rfl (by rw [offer]; rfl))
      | true =>
          rw [tables] at offer
          exact .loaded (prior.call (.load (.ok catalog)) rfl (by rw [offer]; rfl))

/-- Every schema change makes one of the listed sequences of calls, whether they are
recorded or not. -/
theorem changeSchema_ends :
    ∃ made, SchemaEnds p made (changeSchema b p)
      ∧ ∀ calls, changeSchema b.recorded (p.recording calls)
          = (changeSchema b p).recording (calls ++ made) := by
  -- a table is always found, so there is always a first call
  obtain ⟨create, session, drawn, kept⟩ := p.campaign.session.generateTable_found
  have same (calls : List Call) : (p.recording calls).campaign.session = p.campaign.session := rfl
  have createTable (calls : List Call) :
      b.recorded.createTable create (p.recording calls).campaign.db
        = ((b.createTable create p.campaign.db).1, (b.createTable create p.campaign.db).2,
            calls ++ [.createTable create (b.createTable create p.campaign.db).1]) := rfl
  unfold changeSchema
  simp only [same, drawn]
  unfold placeTable
  dsimp only
  simp only [createTable]
  generalize b.createTable create p.campaign.db = r
  obtain ⟨answer, db⟩ := r
  rcases answer with error | _
  · rcases error with message | message | message
    · refine ⟨[.createTable create (.error (.rejected message))], .refused rfl ⟨rfl, kept⟩, ?_⟩
      exact fun calls => rfl
    · refine ⟨[.createTable create (.error (.internal message))], .refused rfl ⟨rfl, kept⟩, ?_⟩
      exact fun calls => rfl
    · refine ⟨[.createTable create (.error (.connectionLost message))], .lost ⟨rfl, kept⟩, ?_⟩
      exact fun calls => rfl
  · let q : Progress σ := ({ p with campaign.session := session }.withDb db).count fun t =>
      { t with tablesCreated := t.tablesCreated + 1 }
    have created : p.Becomes [.createTable create (.ok ())] q := ⟨rfl, kept⟩
    refine ⟨_, reload_ends b q created, fun calls => ?_⟩
    have next := reload_recorded b q (calls ++ [.createTable create (.ok ())])
    rw [List.append_assoc] at next
    exact next

theorem report_ends :
    (∃ q, report config step p = .goOn q ∧ p.Becomes [] q)
      ∨ config.profile.progressInterval = 0 ∧ report config step p = .halted p .zeroDivisor := by
  unfold report remainder
  by_cases zero : config.profile.progressInterval = 0
  · right
    rw [if_pos zero]
    exact ⟨zero, rfl⟩
  · left
    rw [if_neg zero]
    dsimp only
    split
    · exact ⟨_, rfl, rfl, rfl⟩
    · exact ⟨_, rfl, rfl, rfl⟩

/-- What a statement that is answered ends with, behind the progress report. -/
theorem report_answered {p₀ : Progress σ} {r : Relation} {s : Session} {answer : Answer}
    (generated : p₀.campaign.session.generate = (.found r, s))
    (up : (Call.execute r.render answer).lost? = none)
    (next : p₀.Becomes [.execute r.render answer] p) :
    QueryEnds config p₀ [.execute r.render answer] (report config step p) := by
  obtain ⟨q, goes, noted⟩ | ⟨zero, halts⟩ := report_ends config step p
  · rw [goes]
    exact .answered generated up (next.trans noted) (.inl rfl)
  · rw [halts]
    exact .answered generated up next (.inr ⟨zero, rfl⟩)

theorem submit_ends {p₀ : Progress σ} {r : Relation} {s : Session}
    (generated : p₀.campaign.session.generate = (.found r, s)) (drawn : p₀.Becomes [] p) :
    QueryEnds config p₀ [.execute r.render (b.execute r.render p.campaign.db).1]
      (submit b config step r.render p) := by
  have same (f : Tally → Tally) (e : Event) :
      ((p.count f).note e).campaign.db = p.campaign.db := rfl
  unfold submit
  dsimp only
  rw [same]
  generalize b.execute r.render p.campaign.db = r'
  obtain ⟨answer, db⟩ := r'
  rcases answer with error | _
  · rcases error with message | message | message
    · exact report_answered config step _ generated rfl
        (drawn.call (.execute _ (.error (.rejected message))) rfl rfl)
    · exact report_answered config step _ generated rfl
        (drawn.call (.execute _ (.error (.internal message))) rfl rfl)
    · exact .lost generated (drawn.call (.execute _ (.error (.connectionLost message))) rfl rfl)
  · exact report_answered config step _ generated rfl (drawn.call (.execute _ (.ok ())) rfl rfl)

/-- Every statement makes one of the listed sequences of calls, whether they are recorded
or not. -/
theorem query_ends :
    ∃ made, QueryEnds config p made (query b config step p)
      ∧ ∀ calls, query b.recorded config step (p.recording calls)
          = (query b config step p).recording (calls ++ made) := by
  -- the tape is no part of the session, so the same statement is found on both servers
  have same (calls : List Call) : (p.recording calls).campaign.session = p.campaign.session := rfl
  have kept := p.campaign.session.generate_catalog
  unfold query
  simp only [same]
  generalize drawn : p.campaign.session.generate = r at kept
  obtain ⟨o, session⟩ := r
  dsimp only at kept
  cases o with
  | halted why =>
      refine ⟨[], .halted (congrArg Prod.fst drawn) ⟨rfl, kept⟩, fun calls => ?_⟩
      rw [List.append_nil]
      rfl
  | nothing =>
      let q : Progress σ :=
        { p.missing with campaign.session := session, failures := p.failures + 1 }
      have missing : p.missing.Becomes [] q := ⟨rfl, kept⟩
      dsimp only
      by_cases many : config.profile.maxConsecutiveFailures ≤ p.failures + 1
      · rw [if_pos many]
        refine ⟨[], .nothing missing (.inr rfl), fun calls => ?_⟩
        rw [List.append_nil]
        exact if_pos many
      · rw [if_neg many]
        refine ⟨[], .nothing missing (.inl rfl), fun calls => ?_⟩
        rw [List.append_nil]
        exact if_neg many
  | found tree =>
      let q : Progress σ := { p with campaign.session := session, failures := 0 }
      have fresh : p.Becomes [] q := ⟨rfl, kept⟩
      exact ⟨_, submit_ends b config step q drawn fresh,
        fun calls => submit_recorded b config step q calls tree.render⟩

/-- A fault of the generator halts the step, and nothing else does but a report at a multiple
of zero. -/
theorem query_halted_iff (interval : config.profile.progressInterval ≠ 0) {why : Fault} :
    (∃ q, query b config step p = .halted q why)
      ↔ p.campaign.session.generate.1 = .halted why := by
  constructor
  · rintro ⟨q, halted⟩
    obtain ⟨made, ends, -⟩ := query_ends b config step p
    rw [halted] at ends
    cases ends with
    | halted fault next => exact fault
    | nothing next ends =>
        rcases ends with goes | fails
        · cases goes
        · cases fails
    | answered generated up next ends =>
        rcases ends with goes | ⟨zero, -⟩
        · cases goes
        · exact absurd zero interval
  · intro fault
    unfold query
    generalize p.campaign.session.generate = r at fault ⊢
    obtain ⟨o, session⟩ := r
    obtain rfl : o = .halted why := fault
    exact ⟨_, rfl⟩

/-- Schema changes are halted by nothing: a new table is always found. -/
theorem changeSchema_ne_halted {q : Progress σ} {why : Fault} :
    changeSchema b p ≠ .halted q why := by
  intro halted
  obtain ⟨made, ends, -⟩ := changeSchema_ends b p
  rw [halted] at ends
  cases ends

end Ends

/-! ## §4. Steps. -/

/-- Whether the schema changes in a step: the step is a multiple of the interval, and the
interval is not zero. -/
def Due (config : CampaignConfig) (step : Nat) : Prop :=
  0 < config.profile.ddlInterval ∧ config.profile.ddlInterval ∣ step

/-- How a step ends, with the calls it makes. -/
inductive StepEnds (b : Backend σ) (config : CampaignConfig) (step : Nat) (p : Progress σ) :
    List Call → StepEnd σ → Prop where
  /-- The step is a statement only. -/
  | plain {made : List Call} {e : StepEnd σ} (idle : ¬ Due config step)
      (last : query b config step p = e) (query : QueryEnds config p made e) :
      StepEnds b config step p made e
  /-- The schema change ends the step. -/
  | cut {made : List Call} {e : StepEnd σ} (due : Due config step)
      (last : changeSchema b p = e) (schema : SchemaEnds p made e) (stop : ∀ q, e ≠ .goOn q) :
      StepEnds b config step p made e
  /-- The schema changes, and then there is a statement. -/
  | whole {made more : List Call} {q : Progress σ} {e : StepEnd σ} (due : Due config step)
      (first : changeSchema b p = .goOn q) (schema : SchemaEnds p made (.goOn q))
      (last : query b config step q = e) (query : QueryEnds config q more e) :
      StepEnds b config step p (made ++ more) e

/-- The statement of a step is generated from this progress: behind the schema change where
one is due, and at once where none is. -/
def Ready (b : Backend σ) (config : CampaignConfig) (step : Nat) (p q : Progress σ) : Prop :=
  Due config step ∧ changeSchema b p = .goOn q ∨ ¬ Due config step ∧ q = p

section Steps

variable (b : Backend σ) (config : CampaignConfig) (step : Nat) (p : Progress σ)

theorem changesSchema_of_due {config : CampaignConfig} {step : Nat} (due : Due config step) :
    changesSchema config step = .ok true := by
  unfold changesSchema remainder
  rw [if_pos due.1, if_neg (Nat.pos_iff_ne_zero.1 due.1)]
  show Except.ok (decide (step % config.profile.ddlInterval = 0)) = _
  rw [decide_eq_true (Nat.mod_eq_zero_of_dvd due.2)]

theorem changesSchema_of_not_due {config : CampaignConfig} {step : Nat}
    (idle : ¬ Due config step) : changesSchema config step = .ok false := by
  unfold changesSchema remainder
  by_cases interval : 0 < config.profile.ddlInterval
  · rw [if_pos interval, if_neg (Nat.pos_iff_ne_zero.1 interval)]
    show Except.ok (decide (step % config.profile.ddlInterval = 0)) = _
    rw [decide_eq_false fun h => idle ⟨interval, Nat.dvd_of_mod_eq_zero h⟩]
  · rw [if_neg interval]

theorem stepOnce_of_due {config : CampaignConfig} {step : Nat} (due : Due config step) :
    stepOnce b config step p = (changeSchema b p).andThen (query b config step) := by
  unfold stepOnce
  rw [changesSchema_of_due due]

theorem stepOnce_of_not_due {config : CampaignConfig} {step : Nat} (idle : ¬ Due config step) :
    stepOnce b config step p = query b config step p := by
  unfold stepOnce
  rw [changesSchema_of_not_due idle]

section Ready

variable {b config step p} {q : Progress σ}

theorem Ready.unique {q' : Progress σ} (h : Ready b config step p q)
    (h' : Ready b config step p q') : q = q' := by
  rcases h with ⟨due, next⟩ | ⟨idle, rfl⟩
  · rcases h' with ⟨-, next'⟩ | ⟨idle, -⟩
    · exact StepEnd.goOn.inj (next.symm.trans next')
    · exact absurd due idle
  · rcases h' with ⟨due, -⟩ | ⟨-, rfl⟩
    · exact absurd due idle
    · rfl

theorem Ready.stepOnce_eq (h : Ready b config step p q) :
    stepOnce b config step p = query b config step q := by
  rcases h with ⟨due, next⟩ | ⟨idle, rfl⟩
  · rw [stepOnce_of_due b p due, next]
    rfl
  · exact stepOnce_of_not_due b q idle

end Ready

/-- A step comes to its statement, or ends with its schema change. -/
theorem ready_or_cut :
    (∃ q, Ready b config step p q)
      ∨ stepOnce b config step p = changeSchema b p ∧ ∀ q, changeSchema b p ≠ .goOn q := by
  by_cases due : Due config step
  · by_cases stop : ∀ q, changeSchema b p ≠ .goOn q
    · refine .inr ⟨?_, stop⟩
      rw [stepOnce_of_due b p due]
      cases ended : changeSchema b p with
      | goOn q => exact absurd ended (stop q)
      | crashed q crash => rfl
      | failed q error => rfl
      | halted q why => rfl
    · obtain ⟨q, next⟩ : ∃ q, changeSchema b p = .goOn q := by simpa using stop
      exact .inl ⟨q, .inl ⟨due, next⟩⟩
  · exact .inl ⟨p, .inr ⟨due, rfl⟩⟩

/-- **A step is halted just when the generator of its statement is.** -/
theorem stepOnce_halted_iff (interval : config.profile.progressInterval ≠ 0) {why : Fault} :
    (∃ q, stepOnce b config step p = .halted q why)
      ↔ ∃ m, Ready b config step p m ∧ m.campaign.session.generate.1 = .halted why := by
  constructor
  · rintro ⟨q, halted⟩
    rcases ready_or_cut b config step p with ⟨m, ready⟩ | ⟨cut, -⟩
    · rw [ready.stepOnce_eq] at halted
      exact ⟨m, ready, (query_halted_iff b config step m interval).1 ⟨q, halted⟩⟩
    · rw [cut] at halted
      exact absurd halted (changeSchema_ne_halted b p)
  · rintro ⟨m, ready, fault⟩
    rw [ready.stepOnce_eq]
    exact (query_halted_iff b config step m interval).2 fault

/-- Every step makes one of the listed sequences of calls, whether they are recorded or
not. -/
theorem exists_stepEnds :
    ∃ made, StepEnds b config step p made (stepOnce b config step p)
      ∧ ∀ calls, stepOnce b.recorded config step (p.recording calls)
          = (stepOnce b config step p).recording (calls ++ made) := by
  by_cases due : Due config step
  · -- only a schema change that goes on leaves the step its statement
    simp only [stepOnce_of_due _ _ due]
    obtain ⟨made, schema, recorded⟩ := changeSchema_ends b p
    simp only [recorded]
    generalize first : changeSchema b p = e at schema
    cases e with
    | goOn q =>
        obtain ⟨more, query, recorded⟩ := query_ends b config step q
        refine ⟨made ++ more, .whole due first schema rfl query, fun calls => ?_⟩
        rw [← List.append_assoc]
        exact recorded (calls ++ made)
    | crashed q crash =>
        exact ⟨made, .cut due first schema (fun _ h => by cases h), fun _ => rfl⟩
    | failed q error =>
        exact ⟨made, .cut due first schema (fun _ h => by cases h), fun _ => rfl⟩
    | halted q why =>
        exact ⟨made, .cut due first schema (fun _ h => by cases h), fun _ => rfl⟩
  · simp only [stepOnce_of_not_due _ _ due]
    obtain ⟨made, query, recorded⟩ := query_ends b config step p
    exact ⟨made, .plain due rfl query, recorded⟩

/-- The calls of a step, in order. -/
def stepCalls : List Call :=
  (stepOnce b.recorded config step (p.recording [])).progress.campaign.db.2

/-- A step on the recording backend records these calls. -/
theorem stepCalls_eq {made : List Call}
    (recorded : ∀ calls, stepOnce b.recorded config step (p.recording calls)
      = (stepOnce b config step p).recording (calls ++ made)) :
    stepCalls b config step p = made := by
  unfold stepCalls
  rw [recorded, StepEnd.recording_progress]
  rfl

/-- **Recording does not change a step**: its calls come behind those of earlier steps. -/
theorem stepOnce_recorded (calls : List Call) :
    stepOnce b.recorded config step (p.recording calls)
      = (stepOnce b config step p).recording (calls ++ stepCalls b config step p) := by
  obtain ⟨made, -, recorded⟩ := exists_stepEnds b config step p
  rw [stepCalls_eq b config step p recorded]
  exact recorded calls

/-- **Every step ends in one of the ways listed**, with the calls listed for it. -/
theorem stepOnce_ends :
    StepEnds b config step p (stepCalls b config step p) (stepOnce b config step p) := by
  obtain ⟨made, ends, recorded⟩ := exists_stepEnds b config step p
  rw [stepCalls_eq b config step p recorded]
  exact ends

end Steps

end Campaign

end QueryFuzz
