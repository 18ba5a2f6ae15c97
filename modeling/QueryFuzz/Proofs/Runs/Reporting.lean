/-
  QueryFuzz.Proofs.Runs.Reporting
  ───────────────────────────────
  **WHICH STEPS REPORT PROGRESS.**

  A report is logged at the end of a step, when the interval divides the number of
  steps that are done by then.  A step that yields no statement ends before it comes
  to that, and so does one that crashes or fails.  So a run that misses steps may
  report less often than its interval says, or not at all.

      reports             — the progress reports of a log, in order
      Backend.Discreet    — a database that reports no progress when it is loaded
      StepEnd.reported    — the report that is due at the end of a step
      Campaign.ReportedAt — a step of a run that reports, with its counts

  Main results:
    * `Campaign.query_reports` — what a step reports when it comes to its statement;
    * `Campaign.Reaches.reportsOf` — what has been reported before each step;
    * `Campaign.run_reports` — what a run reports, and when it reports at every
      multiple of its interval.
-/
import Mathlib.Data.Nat.Factorization.Basic
import QueryFuzz.Proofs.Remarks
import QueryFuzz.Proofs.Runs.GivingUp

namespace QueryFuzz

open Backend

/-! ## §1. Reports in a log. -/

/-- What a progress report says: how many steps are done, and the counts. -/
def Event.reported? : Event → Option (Nat × Tally)
  | progress step tally => some (step, tally)
  | _ => none

/-- The event reports no progress. -/
def Event.Silent (e : Event) : Prop := e.reported? = none

theorem Event.silent_of_isRemark (e : Event) (remark : e.isRemark = true) : e.Silent := by
  cases e with
  | progress step tally => cases remark
  | _ => rfl

/-- The progress reports of a log, in order. -/
def reports (log : Array Event) : List (Nat × Tally) := log.toList.filterMap Event.reported?

theorem reports_push (log : Array Event) (step : Nat) (tally : Tally) :
    reports (log.push (.progress step tally)) = reports log ++ [(step, tally)] := by
  simp [reports, Event.reported?]

/-- What reports no progress adds nothing to the reports. -/
theorem Adds.reports_eq {log log' : Array Event} (h : Adds Event.Silent log log') :
    reports log' = reports log := by
  obtain ⟨es, same, silent⟩ := h
  have none : es.filterMap Event.reported? = [] := List.filterMap_eq_nil_iff.2 silent
  rw [reports, same, List.filterMap_append, none, List.append_nil]
  rfl

/-- The database reports no progress when it is loaded. -/
def Backend.Discreet {σ : Type} (b : Backend σ) : Prop :=
  ∀ db, ∀ e ∈ (b.load db).1.events, e.Silent

namespace Campaign

variable {σ : Type} {b : Backend σ} {config : CampaignConfig} {c : Campaign σ}

/-- What has been logged. -/
def Progress.log (p : Progress σ) : Array Event := p.campaign.session.state.log

/-! ## §2. What a step reports. -/

section Silent

/-- A remark of a generator reports no progress. -/
theorem generate_silent (s : Session) :
    Adds Event.Silent s.state.log s.generate.2.state.log :=
  s.generate_adds.mono Event.silent_of_isRemark

theorem note_silent (p : Progress σ) {e : Event} (silent : e.Silent) :
    Adds Event.Silent p.log (p.note e).log := .push p.log silent

theorem foldl_note_silent (es : List Event) :
    (∀ e ∈ es, e.Silent) → ∀ p : Progress σ,
      Adds Event.Silent p.log (es.foldl Progress.note p).log := by
  induction es with
  | nil =>
      intro _ p
      exact .refl _ _
  | cons e es ih =>
      intro silent p
      obtain ⟨first, others⟩ := List.forall_mem_cons.1 silent
      exact (note_silent p first).trans (ih others (p.note e))

theorem reload_silent (discreet : b.Discreet) (p : Progress σ) :
    Adds Event.Silent p.log (reload b p).progress.log := by
  unfold reload
  have silent := discreet p.campaign.db
  generalize b.load p.campaign.db = r at silent
  obtain ⟨loaded, db⟩ := r
  have noted : Adds Event.Silent p.log (loaded.events.foldl Progress.note (p.withDb db)).log :=
    foldl_note_silent loaded.events silent (p.withDb db)
  dsimp only
  generalize loaded.events.foldl Progress.note (p.withDb db) = q at noted ⊢
  cases loaded.catalog with
  | error message => exact noted
  | ok catalog =>
      dsimp only
      cases set : q.campaign.session.setCatalog catalog with
      | error e => exact noted.trans (note_silent q rfl)
      | ok session =>
          -- the session keeps its state, and with it the log
          unfold Session.setCatalog at set
          split at set
          · obtain rfl := Except.ok.inj set
            exact noted
          · cases set

theorem placeTable_silent (discreet : b.Discreet) (p : Progress σ)
    {r : Outcome CreateTable × Session} (drawn : Adds Event.Silent p.log r.2.state.log) :
    Adds Event.Silent p.log (placeTable b p r).progress.log := by
  unfold placeTable
  obtain ⟨o, session⟩ := r
  cases o with
  | halted why => exact drawn
  | nothing => exact drawn
  | found create =>
      dsimp only
      generalize b.createTable create p.campaign.db = r
      obtain ⟨answer, db⟩ := r
      rcases answer with error | _
      · rcases error with message | message | message
        · exact drawn.trans (.push _ rfl)
        · exact drawn.trans (.push _ rfl)
        · exact drawn.trans (.push _ rfl)
      · exact drawn.trans (reload_silent discreet _)

/-- **A schema change reports nothing**, however it ends. -/
theorem changeSchema_silent (discreet : b.Discreet) (p : Progress σ) :
    Adds Event.Silent p.log (changeSchema b p).progress.log :=
  placeTable_silent discreet p
    (p.campaign.session.generateTable_adds.mono Event.silent_of_isRemark)

end Silent

/-- The report that is due at the end of a step, where the step goes on. -/
def StepEnd.reported (config : CampaignConfig) (step : Nat) : StepEnd σ → List (Nat × Tally)
  | .goOn p => if config.profile.progressInterval ∣ step + 1 then [(step + 1, p.tally)] else []
  | .crashed _ _ => []
  | .failed _ _ => []
  | .halted _ _ => []

/-- The last part of a step reports just what is due. -/
theorem report_reports (config : CampaignConfig) (step : Nat) (p : Progress σ) :
    reports (report config step p).progress.log
      = reports p.log ++ (report config step p).reported config step := by
  unfold report remainder
  by_cases zero : config.profile.progressInterval = 0
  · rw [if_pos zero]
    exact (List.append_nil _).symm
  · rw [if_neg zero]
    dsimp only
    by_cases due : config.profile.progressInterval ∣ step + 1
    · rw [if_pos (Nat.mod_eq_zero_of_dvd due)]
      show reports (p.log.push _) = _
      rw [reports_push, StepEnd.reported, if_pos due]
      rfl
    · have rest : (step + 1) % config.profile.progressInterval ≠ 0 := by
        intro h
        exact due (Nat.dvd_of_mod_eq_zero h)
      rw [if_neg rest, StepEnd.reported, if_neg due]
      exact (List.append_nil _).symm

/-- Whatever is answered to a statement, only what is due is reported. -/
theorem submit_reports (b : Backend σ) (config : CampaignConfig) (step : Nat) (statement : String)
    (p : Progress σ) :
    reports (submit b config step statement p).progress.log
      = reports p.log ++ (submit b config step statement p).reported config step := by
  unfold submit
  dsimp only
  generalize made : ((p.count fun t => { t with generated := t.generated + 1 }).note
    (.submitted config.loud step statement)) = q
  have submitted : reports q.log = reports p.log := by
    rw [← made]
    exact Adds.reports_eq (.push p.log rfl)
  rw [← submitted]
  generalize b.execute statement q.campaign.db = r
  obtain ⟨answer, db⟩ := r
  rcases answer with error | _
  · rcases error with message | message | message
    · exact (report_reports config step _).trans
        (congrArg (· ++ _) (Adds.reports_eq (.push q.log rfl)))
    · exact (report_reports config step _).trans
        (congrArg (· ++ _) (Adds.reports_eq (.push q.log rfl)))
    · -- a lost connection ends the step before its report
      show reports (q.log.push (.serverCrashed statement message)) = reports q.log ++ []
      rw [List.append_nil]
      exact Adds.reports_eq (.push q.log rfl)
  · exact report_reports config step _

/-- **Without a statement a step reports nothing**, whether or not a report is due. -/
theorem query_silent (b : Backend σ) (config : CampaignConfig) (step : Nat) {p : Progress σ}
    (nothing : p.campaign.session.generate.1 = .nothing) :
    reports (query b config step p).progress.log = reports p.log := by
  have silent := generate_silent p.campaign.session
  unfold query
  generalize p.campaign.session.generate = r at nothing silent
  obtain ⟨o, session⟩ := r
  obtain rfl : o = .nothing := nothing
  dsimp only
  split
  · exact silent.reports_eq
  · exact silent.reports_eq

/-- **With a statement it reports what is due** at its end. -/
theorem query_reports (b : Backend σ) (config : CampaignConfig) (step : Nat) {p : Progress σ}
    (some : p.campaign.session.generate.1 ≠ .nothing) :
    reports (query b config step p).progress.log
      = reports p.log ++ (query b config step p).reported config step := by
  have silent := generate_silent p.campaign.session
  unfold query
  generalize p.campaign.session.generate = r at some silent
  obtain ⟨o, session⟩ := r
  cases o with
  | halted why => exact silent.reports_eq.trans (List.append_nil _).symm
  | nothing => exact absurd rfl some
  | found tree =>
      have kept : reports session.state.log = reports p.log := silent.reports_eq
      rw [← kept]
      exact submit_reports b config step tree.render _

/-! ## §3. What a run reports. -/

/-- The step of the run reports these counts: it goes on, it has yielded a statement, and the
interval divides the number of steps that are done behind it. -/
structure ReportedAt (b : Backend σ) (config : CampaignConfig) (c : Campaign σ) (n : Nat)
    (tally : Tally) : Prop where
  due : config.profile.progressInterval ∣ n + 1
  stated : ¬ Missed b config c n
  done : n < config.iterations ∧ ∃ p q, Reaches b config c n p
    ∧ stepOnce b config n p = .goOn q ∧ q.tally = tally

/-- The list has the reports of the steps before a number, in their order and no others. -/
structure ReportsOf (b : Backend σ) (config : CampaignConfig) (c : Campaign σ) (n : Nat)
    (L : List (Nat × Tally)) : Prop where
  ascending : L.Pairwise fun earlier later => earlier.1 < later.1
  exactly : ∀ k tally, (k, tally) ∈ L ↔ ∃ m, k = m + 1 ∧ m < n ∧ ReportedAt b config c m tally

section Runs

variable {n : Nat} {p q : Progress σ} {L : List (Nat × Tally)}

theorem ReportsOf.none : ReportsOf b config c 0 [] where
  ascending := .nil
  exactly := by
    intro k tally
    constructor
    · intro member
      cases member
    · rintro ⟨m, -, less, -⟩
      cases less

/-- Steps that report nothing leave the list as it is. -/
theorem ReportsOf.skip (h : ReportsOf b config c n L) {n' : Nat} (le : n ≤ n')
    (silent : ∀ m tally, n ≤ m → m < n' → ¬ ReportedAt b config c m tally) :
    ReportsOf b config c n' L where
  ascending := h.ascending
  exactly := by
    intro k tally
    rw [h.exactly]
    constructor
    · rintro ⟨m, same, less, reported⟩
      exact ⟨m, same, by omega, reported⟩
    · rintro ⟨m, same, less, reported⟩
      refine ⟨m, same, ?_, reported⟩
      apply Nat.lt_of_not_le
      intro behind
      exact silent m tally behind less reported

/-- A step that reports comes last. -/
theorem ReportsOf.add (h : ReportsOf b config c n L) {tally : Tally}
    (reported : ReportedAt b config c n tally) :
    ReportsOf b config c (n + 1) (L ++ [(n + 1, tally)]) where
  ascending := by
    refine List.pairwise_append.2 ⟨h.ascending, List.pairwise_singleton .., ?_⟩
    rintro ⟨k, earlier⟩ member r last
    obtain ⟨m, rfl, less, -⟩ := (h.exactly k earlier).1 member
    obtain rfl := List.mem_singleton.1 last
    exact Nat.succ_lt_succ less
  exactly := by
    intro k other
    rw [List.mem_append, h.exactly, List.mem_singleton]
    constructor
    · rintro (⟨m, same, less, there⟩ | last)
      · exact ⟨m, same, by omega, there⟩
      · obtain ⟨rfl, rfl⟩ := Prod.mk.inj last
        exact ⟨n, rfl, Nat.lt_succ_self n, reported⟩
    · rintro ⟨m, rfl, less, there⟩
      by_cases here : m = n
      · subst here
        -- a step is reached and ends in one way only
        obtain ⟨-, p, q, reached, next, rfl⟩ := reported.done
        obtain ⟨-, p', q', reached', next', rfl⟩ := there.done
        obtain rfl := reached.unique reached'
        obtain rfl := StepEnd.goOn.inj (next.symm.trans next')
        exact .inr rfl
      · exact .inl ⟨m, rfl, by omega, there⟩

/-- What a step adds to the reports: nothing where it misses or ends the run, and what is due
where it goes on with a statement. -/
theorem Reaches.step_reports (discreet : b.Discreet) (h : Reaches b config c n p)
    (remaining : n < config.iterations) :
    (¬ Missed b config c n ∧ reports (stepOnce b config n p).progress.log
        = reports p.log ++ (stepOnce b config n p).reported config n)
      ∨ (Missed b config c n ∨ ∀ q, stepOnce b config n p ≠ .goOn q)
        ∧ reports (stepOnce b config n p).progress.log = reports p.log := by
  rcases ready_or_cut b config n p with ⟨m, ready⟩ | ⟨cut, stop⟩
  · -- the step comes to its statement; a schema change before it has reported nothing
    have missed := h.missed_iff remaining ready
    have schema : reports m.log = reports p.log := by
      rcases ready with ⟨-, next⟩ | ⟨-, rfl⟩
      · have silent := (changeSchema_silent discreet p).reports_eq
        rw [next] at silent
        exact silent
      · rfl
    rw [ready.stepOnce_eq, ← schema, missed]
    by_cases nothing : m.campaign.session.generate.1 = .nothing
    · exact .inr ⟨.inl nothing, query_silent b config n nothing⟩
    · exact .inl ⟨nothing, query_reports b config n nothing⟩
  · -- the schema change ends the run
    right
    rw [cut]
    exact ⟨.inr stop, (changeSchema_silent discreet p).reports_eq⟩

/-- **What has been reported before a step** are the reports of the steps before it. -/
theorem Reaches.reportsOf (discreet : b.Discreet) (h : Reaches b config c n p) :
    ∃ L, reports p.log = reports c.session.state.log ++ L
      ∧ ReportsOf b config c n L := by
  induction h with
  | start => exact ⟨[], (List.append_nil _).symm, .none⟩
  | @step n p q h remaining next ih =>
      obtain ⟨L, before, reportsOf⟩ := ih
      have step := h.step_reports discreet remaining
      rw [next] at step
      rcases step with ⟨stated, made⟩ | ⟨stop, made⟩
      · -- the report of this step, if one is due, comes behind those of the steps before
        have here : reports q.log
            = reports c.session.state.log ++ (L ++ (StepEnd.goOn q).reported config n) := by
          rw [← List.append_assoc, ← before]
          exact made
        by_cases due : config.profile.progressInterval ∣ n + 1
        · rw [StepEnd.reported, if_pos due] at here
          exact ⟨_, here, reportsOf.add ⟨due, stated, remaining, p, q, h, next, rfl⟩⟩
        · rw [StepEnd.reported, if_neg due, List.append_nil] at here
          refine ⟨L, here, reportsOf.skip (Nat.le_succ n) ?_⟩
          intro m tally first last reported
          obtain rfl : m = n := by omega
          exact due reported.due
      · refine ⟨L, made.trans before, reportsOf.skip (Nat.le_succ n) ?_⟩
        intro m tally first last reported
        obtain rfl : m = n := by omega
        rcases stop with missed | stop
        · exact reported.stated missed
        · exact stop q rfl

/-- What a run logs at its end reports no progress. -/
theorem StepEnd.closed_silent (e : StepEnd σ) :
    reports e.closed.session.state.log = reports e.progress.log := by
  cases e with
  | goOn p => exact Adds.reports_eq (.push p.log rfl)
  | crashed p crash => exact Adds.reports_eq (.push p.log rfl)
  | failed p error => rfl
  | halted p why => rfl

/-- A run reports at all its steps that report. -/
theorem run_reportsOf (discreet : b.Discreet) (config : CampaignConfig) (c : Campaign σ) :
    ∃ L, reports (run b config c).2.session.state.log = reports c.session.state.log ++ L
      ∧ ReportsOf b config c config.iterations L := by
  obtain ⟨parts, e, ends, ended, -⟩ := run_ends b config c
  rw [ended]
  cases ends with
  | @whole parts p course all =>
      obtain ⟨L, before, reportsOf⟩ := course.reaches.reportsOf discreet
      rw [all] at reportsOf
      exact ⟨L, (StepEnd.closed_silent _).trans before, reportsOf⟩
  | @cut parts p course remaining stop =>
      obtain ⟨L, before, reportsOf⟩ := course.reaches.reportsOf discreet
      have step := course.reaches.step_reports discreet remaining
      have made : reports (stepOnce b config parts.length p).progress.log = reports p.log := by
        rcases step with ⟨-, made⟩ | ⟨-, made⟩
        · rw [made]
          cases ended : stepOnce b config parts.length p with
          | goOn q => exact absurd ended (stop q)
          | crashed q crash => exact List.append_nil _
          | failed q error => exact List.append_nil _
          | halted q why => exact List.append_nil _
        · exact made
      refine ⟨L, (StepEnd.closed_silent _).trans (made.trans before), ?_⟩
      -- no step comes behind the one that ended the run
      refine reportsOf.skip (Nat.le_of_lt remaining) ?_
      intro m tally first last reported
      obtain ⟨-, q, r, reached, next, -⟩ := reported.done
      by_cases here : m = parts.length
      · subst here
        rw [reached.unique course.reaches] at next
        exact stop r next
      · obtain ⟨q', r', early, goes⟩ := reached.goOn_of_lt (Nat.lt_of_le_of_ne first (Ne.symm here))
        rw [early.unique course.reaches] at goes
        exact stop r' goes

/-- In a run that does all its steps, each of them goes on. -/
theorem goOn_of_done {tally : Tally} (done : (run b config c).1 = .done ⟨tally, none⟩)
    (remaining : n < config.iterations) :
    ∃ p q, Reaches b config c n p ∧ stepOnce b config n p = .goOn q := by
  obtain ⟨parts, e, ends, ended, -⟩ := run_ends b config c
  rw [ended] at done
  cases ends with
  | whole course all =>
      rw [← all] at remaining
      exact course.reaches.goOn_of_lt remaining
  | @cut parts p course some stop =>
      rcases StepEnd.eq_of_ending_done done with ⟨q, goes, -⟩ | ⟨q, crash, -, report⟩
      · exact absurd goes (stop q)
      · cases report

/-- A number of steps stands in a report just when the last of them reports. -/
theorem ReportsOf.mem_steps (h : ReportsOf b config c config.iterations L) {k : Nat} :
    k ∈ L.map Prod.fst ↔ ∃ m tally, k = m + 1 ∧ ReportedAt b config c m tally := by
  constructor
  · intro listed
    obtain ⟨⟨k, tally⟩, member, rfl⟩ := List.mem_map.1 listed
    obtain ⟨m, same, -, reported⟩ := (h.exactly k tally).1 member
    exact ⟨m, tally, same, reported⟩
  · rintro ⟨m, tally, same, reported⟩
    have member : (k, tally) ∈ L := (h.exactly k tally).2 ⟨m, same, reported.done.1, reported⟩
    exact List.mem_map.2 ⟨(k, tally), member, rfl⟩

/-- The multiples of the interval up to the number of steps. -/
def multiples (config : CampaignConfig) : Finset Nat :=
  ((Finset.range config.iterations).filter fun n => config.profile.progressInterval ∣ n + 1).image
    Nat.succ

theorem card_multiples (config : CampaignConfig) :
    (multiples config).card = config.iterations / config.profile.progressInterval := by
  unfold multiples
  rw [Finset.card_image_of_injective _ Nat.succ_injective, Nat.card_multiples]

theorem mem_multiples {k : Nat} : k ∈ multiples config ↔
    ∃ n, n < config.iterations ∧ config.profile.progressInterval ∣ n + 1 ∧ k = n + 1 := by
  unfold multiples
  simp [eq_comm, and_assoc]

/-- Each report stands at a multiple of its own, so there are no more of them than multiples,
and as many just when there is one at each. -/
theorem ReportsOf.length_le (h : ReportsOf b config c config.iterations L) :
    L.length ≤ config.iterations / config.profile.progressInterval
      ∧ (L.length = config.iterations / config.profile.progressInterval
        ↔ ∀ n, n < config.iterations → config.profile.progressInterval ∣ n + 1 →
          ∃ tally, ReportedAt b config c n tally) := by
  -- the steps of the reports ascend, so they are counted as a set of multiples of the interval
  have apart : (L.map Prod.fst).Nodup := by
    refine List.Pairwise.imp ?_ (List.pairwise_map.2 h.ascending)
    intro i j less same
    omega
  have length : (L.map Prod.fst).toFinset.card = L.length := by
    rw [List.toFinset_card_of_nodup apart, List.length_map]
  have within : (L.map Prod.fst).toFinset ⊆ multiples config := by
    intro k member
    obtain ⟨m, tally, same, reported⟩ := h.mem_steps.1 (List.mem_toFinset.1 member)
    exact mem_multiples.2 ⟨m, reported.done.1, reported.due, same⟩
  rw [← length, ← card_multiples]
  refine ⟨Finset.card_le_card within, ?_⟩
  constructor
  · -- as many reports as multiples leave no multiple without one
    intro full n remaining due
    have same := Finset.eq_of_subset_of_card_le within (Nat.le_of_eq full.symm)
    have member : n + 1 ∈ (L.map Prod.fst).toFinset := by
      rw [same]
      exact mem_multiples.2 ⟨n, remaining, due, rfl⟩
    obtain ⟨m, tally, next, reported⟩ := h.mem_steps.1 (List.mem_toFinset.1 member)
    obtain rfl := Nat.succ.inj next
    exact ⟨tally, reported⟩
  · intro all
    congr 1
    refine Finset.Subset.antisymm within ?_
    intro k member
    obtain ⟨n, remaining, due, same⟩ := mem_multiples.1 member
    obtain ⟨tally, reported⟩ := all n remaining due
    exact List.mem_toFinset.2 (h.mem_steps.2 ⟨n, tally, same, reported⟩)

/-- **WHAT A RUN REPORTS.**  The reports of a run come in the order of its steps, each with the
counts behind its step: there is one for every step that goes on with a statement and makes
the number of steps a multiple of the interval, and there are no others.  A run that does all
its steps reports no more often than there are multiples, and just as often when none of the
steps at a multiple missed. -/
theorem run_reports (discreet : b.Discreet) (config : CampaignConfig) (c : Campaign σ) :
    ∃ L, reports (run b config c).2.session.state.log = reports c.session.state.log ++ L
      ∧ (L.Pairwise fun earlier later => earlier.1 < later.1)
      ∧ (∀ k tally, (k, tally) ∈ L ↔ ∃ n, k = n + 1 ∧ ReportedAt b config c n tally)
      ∧ ∀ tally, (run b config c).1 = .done ⟨tally, none⟩ →
          L.length ≤ config.iterations / config.profile.progressInterval
            ∧ (L.length = config.iterations / config.profile.progressInterval
              ↔ ∀ n, n < config.iterations → config.profile.progressInterval ∣ n + 1 →
                ¬ Missed b config c n) := by
  obtain ⟨L, made, reportsOf⟩ := run_reportsOf discreet config c
  refine ⟨L, made, reportsOf.ascending, ?_, ?_⟩
  · intro k tally
    rw [reportsOf.exactly]
    constructor
    · rintro ⟨n, same, -, reported⟩
      exact ⟨n, same, reported⟩
    · rintro ⟨n, same, reported⟩
      exact ⟨n, same, reported.done.1, reported⟩
  · intro tally done
    obtain ⟨most, full⟩ := reportsOf.length_le
    refine ⟨most, full.trans ?_⟩
    constructor
    · intro all n remaining due
      obtain ⟨tally, reported⟩ := all n remaining due
      exact reported.stated
    · intro stated n remaining due
      obtain ⟨p, q, reached, next⟩ := goOn_of_done done remaining
      exact ⟨q.tally, due, stated n remaining due, remaining, p, q, reached, next, rfl⟩

end Runs

end Campaign

namespace Sample

/-- Three steps with a report at each of them, half of which ask for an INSERT. -/
def sparingConfig : CampaignConfig where
  seed := 1
  iterations := 3
  loud := false
  profile :=
    { generation := { insertProb := Gen.half, retryCount := 1, maxDepth := some 1 }
      ddlInterval := 0
      progressInterval := 1 }
  rounds := 8

/-- The step that reads the greatest words asks for a query, the others for an INSERT. -/
def sparingWords : WordStream := fun i => if i = 3 ∨ i = 4 then 0xFFFFFFFF else 0

/-- A run that is done, with its reports before and behind it. -/
def reportsOfRun (c : Campaign (Catalog × List Answer)) :
    Option RunReport × List (Nat × Tally) × List (Nat × Tally) :=
  (done? (Campaign.run scripted sparingConfig c).1, reports c.session.state.log,
    reports (Campaign.run scripted sparingConfig c).2.session.state.log)

theorem scripted_discreet : scripted.Discreet := by
  intro db e member
  cases member

/-- All three steps are done, but only the one with a statement reports. -/
theorem sparing_run_reports :
    ∃ c, (Campaign.start scripted sparingConfig (gauge.build, []) sparingWords {}).1 = .done c
      ∧ (Campaign.run scripted sparingConfig c).1
        = .done ⟨{ generated := 1, generationFailures := 2, executedOk := 1 }, none⟩
      ∧ reports (Campaign.run scripted sparingConfig c).2.session.state.log
        = [(2, { generated := 1, generationFailures := 1, executedOk := 1 })]
      ∧ ∃ n, n < 3 ∧ Campaign.Missed scripted sparingConfig c n := by
  have evaluated : (done? (Campaign.start scripted sparingConfig (gauge.build, []) sparingWords
      {}).1).map reportsOfRun
        = some (some ⟨{ generated := 1, generationFailures := 2, executedOk := 1 }, none⟩, [],
          [(2, { generated := 1, generationFailures := 1, executedOk := 1 })]) := by
    decide +kernel
  obtain ⟨c, started, runs⟩ := Option.map_eq_some_iff.1 evaluated
  obtain ⟨ran, logs⟩ := Prod.mk.inj runs
  obtain ⟨before, behind⟩ := Prod.mk.inj logs
  have ran := eq_done ran
  obtain ⟨L, made, -, -, finished⟩ := Campaign.run_reports scripted_discreet sparingConfig c
  rw [before, List.nil_append] at made
  have one : L.length = 1 := by
    rw [← made, behind]
    rfl
  refine ⟨c, eq_done started, ran, behind, ?_⟩
  -- one report is fewer than there are steps, so some step missed
  by_contra all
  have three : L.length = 3 / 1 := by
    apply (finished _ ran).2.2
    intro n remaining _ missed
    exact all ⟨n, remaining, missed⟩
  omega

end Sample

end QueryFuzz
