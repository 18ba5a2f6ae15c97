/-
  QueryFuzz.Proofs.Runs.GivingUp
  ──────────────────────────────
  **WHEN A RUN FAILS.**

  A run counts the steps in a row that yield no statement.  A statement starts the
  count anew, whatever is answered to it; a schema change between two of the steps
  leaves it alone.  So before each step the count is the length of the streak of
  steps without a statement that has just been gone through, and as soon as such a
  streak is as long as the limit allows, the run is given up.  The only other way
  to fail is a created table behind which no catalog comes back.

      Streak    — how many of the last numbers have a property
      Missed    — a step that was reached and yielded no statement
      Exhausted — so many steps in a row, up to this one, that none is left

  Main results:
    * `Campaign.query_attempt` — what a step does to the count;
    * `Campaign.Reaches.streak` — the count is the length of the streak;
    * `Campaign.run_fails` — when a run fails, where, and with which error.
-/
import QueryFuzz.Proofs.Runs.Crashes
import QueryFuzz.Proofs.Runs.DryRuns

namespace QueryFuzz

open Backend

/-! ## §1. Streaks. -/

/-- The last `k` of the numbers below `n` have a property, and the one before them has not. -/
structure Streak (P : Nat → Prop) (n k : Nat) : Prop where
  le : k ≤ n
  recent : ∀ i, n - k ≤ i → i < n → P i
  broken : k < n → ¬ P (n - k - 1)

namespace Streak

variable {P : Nat → Prop} {n k : Nat}

theorem none : Streak P 0 0 where
  le := Nat.le_refl 0
  recent := by omega
  broken := by omega

/-- One more number with the property makes a streak longer. -/
theorem longer (h : Streak P n k) (hit : P n) : Streak P (n + 1) (k + 1) where
  le := Nat.succ_le_succ h.le
  recent := by
    intro i first last
    by_cases here : i = n
    · subst here
      exact hit
    · exact h.recent i (by omega) (by omega)
  broken := by
    intro less
    have place : n + 1 - (k + 1) - 1 = n - k - 1 := by omega
    rw [place]
    exact h.broken (by omega)

/-- A number without it is where the next streak starts. -/
theorem restart (miss : ¬ P n) : Streak P (n + 1) 0 where
  le := Nat.zero_le _
  recent := by omega
  broken := fun _ => miss

/-- A streak is at least as long as any row of last numbers that have the property. -/
theorem le_iff (h : Streak P n k) {m : Nat} :
    m ≤ k ↔ m ≤ n ∧ ∀ i, n - m ≤ i → i < n → P i := by
  have whole := h.le
  constructor
  · intro few
    refine ⟨by omega, ?_⟩
    intro i first last
    exact h.recent i (by omega) last
  · rintro ⟨few, all⟩
    -- were the row longer, it would cover the number that broke the streak
    apply Nat.le_of_not_lt
    intro longer
    exact h.broken (by omega) (all _ (by omega) (by omega))

end Streak

namespace Campaign

variable {σ : Type} {b : Backend σ} {config : CampaignConfig} {c : Campaign σ}

/-! ## §2. What a step does to the count. -/

/-- The end is not a failure, and its count is `k`. -/
structure StepEnd.Counts (e : StepEnd σ) (k : Nat) : Prop where
  failures : e.progress.failures = k
  kept : ∀ q error, e ≠ .failed q error

theorem report_counts (config : CampaignConfig) (step : Nat) (p : Progress σ) :
    (report config step p).Counts p.failures := by
  unfold report
  cases remainder (step + 1) config.profile.progressInterval with
  | error why =>
      constructor
      · rfl
      · intro q error h
        cases h
  | ok rest =>
      constructor
      · show (ite _ _ _ : Progress σ).failures = _
        split
        · rfl
        · rfl
      · intro q error h
        cases h

/-- **Whatever is answered to a statement**, the count stays as it is. -/
theorem submit_counts (b : Backend σ) (config : CampaignConfig) (step : Nat) (statement : String)
    (p : Progress σ) : (submit b config step statement p).Counts p.failures := by
  unfold submit
  dsimp only
  generalize b.execute statement _ = r
  obtain ⟨answer, db⟩ := r
  rcases answer with error | _
  · rcases error with message | message | message
    · exact report_counts config step _
    · exact report_counts config step _
    · constructor
      · rfl
      · intro q error h
        cases h
  · exact report_counts config step _

theorem foldl_note_failures (es : List Event) :
    ∀ p : Progress σ, (es.foldl Progress.note p).failures = p.failures := by
  induction es with
  | nil =>
      intro p
      rfl
  | cons e es ih =>
      intro p
      exact ih (p.note e)

theorem reload_failures (b : Backend σ) (p : Progress σ) :
    (reload b p).progress.failures = p.failures := by
  unfold reload
  generalize b.load p.campaign.db = r
  obtain ⟨loaded, db⟩ := r
  have noted := foldl_note_failures loaded.events (p.withDb db)
  dsimp only
  generalize loaded.events.foldl Progress.note (p.withDb db) = q at noted ⊢
  cases loaded.catalog with
  | error message => exact noted
  | ok catalog =>
      dsimp only
      cases q.campaign.session.setCatalog catalog with
      | error e => exact noted
      | ok session => exact noted

theorem placeTable_failures (b : Backend σ) (p : Progress σ) (r : Outcome CreateTable × Session) :
    (placeTable b p r).progress.failures = p.failures := by
  unfold placeTable
  obtain ⟨o, session⟩ := r
  cases o with
  | halted why => rfl
  | nothing => rfl
  | found create =>
      dsimp only
      generalize b.createTable create p.campaign.db = r
      obtain ⟨answer, db⟩ := r
      rcases answer with error | _
      · rcases error with message | message | message
        · rfl
        · rfl
        · rfl
      · exact reload_failures b _

/-- **A schema change leaves the count alone**, however it ends. -/
theorem changeSchema_failures (b : Backend σ) (p : Progress σ) :
    (changeSchema b p).progress.failures = p.failures :=
  placeTable_failures b p _

/-- How the statement of a step ends, and what becomes of the count. -/
inductive Attempt (config : CampaignConfig) (p : Progress σ) : StepEnd σ → Prop where
  /-- The generator faults. -/
  | halted {q : Progress σ} {why : Fault} (fault : p.campaign.session.generate.1 = .halted why) :
      Attempt config p (.halted q why)
  /-- There is no statement, and the limit is not reached yet. -/
  | missed {q : Progress σ} (nothing : p.campaign.session.generate.1 = .nothing)
      (count : q.failures = p.failures + 1)
      (few : q.failures < config.profile.maxConsecutiveFailures) : Attempt config p (.goOn q)
  /-- There is no statement, and the limit is reached. -/
  | gaveUp {q : Progress σ} (nothing : p.campaign.session.generate.1 = .nothing)
      (count : q.failures = p.failures + 1)
      (many : config.profile.maxConsecutiveFailures ≤ q.failures) :
      Attempt config p (.failed q (.noStatements q.failures))
  /-- There is a statement. -/
  | produced {r : Relation} {e : StepEnd σ} (found : p.campaign.session.generate.1 = .found r)
      (restart : e.Counts 0) : Attempt config p e

/-- **What a step does to the count** when it comes to its statement. -/
theorem query_attempt (b : Backend σ) (config : CampaignConfig) (step : Nat) (p : Progress σ) :
    Attempt config p (query b config step p) := by
  unfold query
  generalize generated : p.campaign.session.generate = r
  have outcome : p.campaign.session.generate.1 = r.1 := by rw [generated]
  obtain ⟨o, session⟩ := r
  cases o with
  | halted why => exact .halted outcome
  | nothing =>
      dsimp only
      by_cases many : config.profile.maxConsecutiveFailures ≤ p.failures + 1
      · rw [if_pos many]
        exact .gaveUp outcome rfl many
      · rw [if_neg many]
        exact .missed outcome rfl (Nat.lt_of_not_le many)
  | found tree => exact .produced outcome (submit_counts b config step tree.render _)

/-- The schema change before a statement does not touch the count. -/
theorem Ready.failures {step : Nat} {p q : Progress σ} (h : Ready b config step p q) :
    q.failures = p.failures := by
  rcases h with ⟨-, next⟩ | ⟨-, rfl⟩
  · have same := changeSchema_failures b p
    rw [next] at same
    exact same
  · rfl

/-! ## §3. Loads that fail. -/

section Loads

variable {p : Progress σ} {made : List Call} {e : StepEnd σ} {message : String}

theorem QueryEnds.load_not_mem {answer : Except String Catalog} (h : QueryEnds config p made e) :
    .load answer ∉ made := by
  cases h <;> simp

/-- A load that fails ends the schema change, and nothing else makes it fail. -/
theorem SchemaEnds.unloaded_iff (h : SchemaEnds p made e) :
    .load (.error message) ∈ made ↔ ∃ q, e = .failed q (.reloadFailed message) := by
  cases h with
  | loaded next => simp
  | unloaded next => simp [eq_comm]
  | refused up next => simp
  | lost next => simp

/-- The table before it was created. -/
theorem SchemaEnds.eq_of_unloaded (h : SchemaEnds p made e)
    (member : .load (.error message) ∈ made) :
    ∃ create, made = [.createTable create (.ok ()), .load (.error message)] := by
  cases h with
  | loaded next => simp at member
  | @unloaded create other q next =>
      have same : message = other := by simpa using member
      rw [same]
      exact ⟨create, rfl⟩
  | refused up next => simp at member
  | lost next => simp at member

theorem SchemaEnds.eq_reloadFailed {q : Progress σ} {error : CampaignError}
    (h : SchemaEnds p made (.failed q error)) : ∃ message, error = .reloadFailed message := by
  cases h with
  | unloaded next => exact ⟨_, rfl⟩

theorem QueryEnds.ne_reloadFailed {q : Progress σ} (h : QueryEnds config p made e) :
    e ≠ .failed q (.reloadFailed message) := by
  intro same
  cases h with
  | halted fault next => cases same
  | nothing next ends =>
      rcases ends with rfl | rfl
      · cases same
      · cases same
  | answered generated up next ends =>
      rcases ends with rfl | ⟨-, rfl⟩
      · cases same
      · cases same
  | lost generated next => cases same

/-- So it is in a step, whose statement comes behind a schema change that went on. -/
theorem StepEnds.unloaded_iff {step : Nat} (h : StepEnds b config step p made e) :
    .load (.error message) ∈ made ↔ ∃ q, e = .failed q (.reloadFailed message) := by
  cases h with
  | plain idle last query =>
      constructor
      · intro member
        exact absurd member query.load_not_mem
      · rintro ⟨q, same⟩
        exact absurd same query.ne_reloadFailed
  | cut due last schema stop => exact schema.unloaded_iff
  | whole due first schema last query =>
      constructor
      · intro member
        rcases List.mem_append.1 member with early | late
        · obtain ⟨q, same⟩ := schema.unloaded_iff.1 early
          cases same
        · exact absurd late query.load_not_mem
      · rintro ⟨q, same⟩
        exact absurd same query.ne_reloadFailed

theorem StepEnds.eq_of_unloaded {step : Nat} (h : StepEnds b config step p made e)
    (member : .load (.error message) ∈ made) :
    ∃ create, made = [.createTable create (.ok ()), .load (.error message)] := by
  cases h with
  | plain idle last query => exact absurd member query.load_not_mem
  | cut due last schema stop => exact schema.eq_of_unloaded member
  | whole due first schema last query =>
      rcases List.mem_append.1 member with early | late
      · obtain ⟨q, same⟩ := schema.unloaded_iff.1 early
        cases same
      · exact absurd late query.load_not_mem

end Loads

/-! ## §4. The count along a run. -/

/-- The run reaches the step and comes to its statement, but none is generated. -/
def Missed (b : Backend σ) (config : CampaignConfig) (c : Campaign σ) (n : Nat) : Prop :=
  n < config.iterations ∧ ∃ p q, Reaches b config c n p ∧ Ready b config n p q
    ∧ q.campaign.session.generate.1 = .nothing

/-- This step of the run and as many right before it as make the limit all missed. -/
def Exhausted (b : Backend σ) (config : CampaignConfig) (c : Campaign σ) (n : Nat) : Prop :=
  config.profile.maxConsecutiveFailures ≤ n + 1
    ∧ ∀ i, n + 1 - config.profile.maxConsecutiveFailures ≤ i → i < n + 1 → Missed b config c i

section Runs

variable {n : Nat} {p q : Progress σ}

/-- A step that was reached missed just when nothing is generated from its progress. -/
theorem Reaches.missed_iff (h : Reaches b config c n p) (remaining : n < config.iterations)
    (ready : Ready b config n p q) :
    Missed b config c n ↔ q.campaign.session.generate.1 = .nothing := by
  constructor
  · rintro ⟨-, p', q', reached, ready', nothing⟩
    obtain rfl := reached.unique h
    obtain rfl := ready'.unique ready
    exact nothing
  · intro nothing
    exact ⟨remaining, p, q, h, ready, nothing⟩

/-- **The count is the length of the streak** of steps that missed, and below the limit. -/
theorem Reaches.streak (limit : 0 < config.profile.maxConsecutiveFailures)
    (h : Reaches b config c n p) :
    Streak (Missed b config c) n p.failures
      ∧ p.failures < config.profile.maxConsecutiveFailures := by
  -- by induction on the steps gone through; only a step that goes on matters
  induction h with
  | start => exact ⟨.none, limit⟩
  | @step n p q h remaining next ih =>
      obtain ⟨streak, -⟩ := ih
      rcases ready_or_cut b config n p with ⟨m, ready⟩ | ⟨cut, stop⟩
      · have attempt := query_attempt b config n m
        rw [← ready.stepOnce_eq, next] at attempt
        have missed := h.missed_iff remaining ready
        cases attempt with
        | missed nothing count few =>
            refine ⟨?_, few⟩
            rw [count, ready.failures]
            exact streak.longer (missed.2 nothing)
        | produced found restart =>
            have count : q.failures = 0 := restart.failures
            rw [count]
            refine ⟨.restart ?_, limit⟩
            intro h
            rw [missed.1 h] at found
            cases found
      · rw [cut] at next
        exact absurd next (stop q)

/-- The row of steps that missed is as long as the limit just when the count gets there. -/
theorem Reaches.exhausted_iff (limit : 0 < config.profile.maxConsecutiveFailures)
    (h : Reaches b config c n p) (missed : Missed b config c n) :
    Exhausted b config c n ↔ config.profile.maxConsecutiveFailures ≤ p.failures + 1 :=
  ((h.streak limit).1.longer missed).le_iff.symm

theorem Exhausted.missed (limit : 0 < config.profile.maxConsecutiveFailures)
    (h : Exhausted b config c n) : Missed b config c n :=
  h.2 n (by omega) (by omega)

/-! ## §5. Runs that fail. -/

/-- A campaign underway has a limit: none is started under a profile without one. -/
theorem Underway.limit {calls : List Call} (h : Underway b config c calls) :
    0 < config.profile.maxConsecutiveFailures := by
  induction h with
  | started done =>
      apply Profile.maxConsecutiveFailures_pos
      cases valid : config.profile.isValid with
      | true => rfl
      | false =>
          unfold start at done
          rw [valid] at done
          cases done
  | ran h ih => exact ih

/-- The calls of a step that is reached stand in the transcript, one behind the other. -/
theorem Reaches.stepCalls_infix (h : Reaches b config c n p) (remaining : n < config.iterations) :
    stepCalls b config n p <:+: transcript b config c := by
  obtain ⟨parts, e, ends, -, same⟩ := run_ends b config c
  have there := ends.getElem?_eq_some_iff.2 ⟨remaining, p, h, rfl⟩
  rw [same]
  exact List.infix_of_mem_flatten (List.mem_of_getElem? there)

/-- **A run fails for want of a catalog** just when a load behind a created table does. -/
theorem run_reloadFailed_iff {message : String} :
    (run b config c).1 = .failed (.reloadFailed message) ↔
      ∃ create, [.createTable create (.ok ()), .load (.error message)]
        <:+: transcript b config c := by
  constructor
  · intro failed
    obtain ⟨n, p, q, remaining, reached, failed⟩ := run_failed_iff.1 failed
    have ends := stepOnce_ends b config n p
    obtain ⟨create, calls⟩ := ends.eq_of_unloaded (ends.unloaded_iff.2 ⟨q, failed⟩)
    refine ⟨create, ?_⟩
    rw [← calls]
    exact reached.stepCalls_infix remaining
  · rintro ⟨create, part⟩
    have member : .load (.error message) ∈ transcript b config c := part.subset (by simp)
    obtain ⟨n, p, remaining, reached, member⟩ := mem_transcript member
    obtain ⟨q, failed⟩ := (stepOnce_ends b config n p).unloaded_iff.1 member
    exact run_failed_iff.2 ⟨n, p, q, remaining, reached, failed⟩

/-- A step fails for want of a catalog, or because it is the last one of too many. -/
theorem Reaches.exhausted_of_failed (limit : 0 < config.profile.maxConsecutiveFailures)
    (h : Reaches b config c n p) (remaining : n < config.iterations) {error : CampaignError}
    (failed : stepOnce b config n p = .failed q error) :
    (∃ message, error = .reloadFailed message)
      ∨ error = .noStatements config.profile.maxConsecutiveFailures
        ∧ Exhausted b config c n := by
  rcases ready_or_cut b config n p with ⟨m, ready⟩ | ⟨cut, -⟩
  · right
    have attempt := query_attempt b config n m
    rw [← ready.stepOnce_eq, failed] at attempt
    cases attempt with
    | gaveUp nothing count many =>
        have missed := (h.missed_iff remaining ready).2 nothing
        have few := (h.streak limit).2
        rw [ready.failures] at count
        have exactly : q.failures = config.profile.maxConsecutiveFailures := by omega
        rw [exactly]
        exact ⟨rfl, (h.exhausted_iff limit missed).2 (by omega)⟩
    | produced found restart => exact absurd rfl (restart.kept q error)
  · left
    obtain ⟨made, schema, -⟩ := changeSchema_ends b p
    rw [← cut, failed] at schema
    exact schema.eq_reloadFailed

/-- The last one of too many fails. -/
theorem Exhausted.failed (limit : 0 < config.profile.maxConsecutiveFailures)
    (h : Exhausted b config c n) :
    ∃ p q, n < config.iterations ∧ Reaches b config c n p
      ∧ stepOnce b config n p
        = .failed q (.noStatements config.profile.maxConsecutiveFailures) := by
  have missed := h.missed limit
  obtain ⟨remaining, p, m, reached, ready, nothing⟩ := missed
  -- the step finds nothing, and the failures before it are as many as the limit leaves
  have many := (reached.exhausted_iff limit (h.missed limit)).1 h
  have few := (reached.streak limit).2
  have same := ready.failures
  have attempt := query_attempt b config n m
  rw [← ready.stepOnce_eq] at attempt
  generalize ended : stepOnce b config n p = e at attempt
  cases attempt with
  | halted fault =>
      rw [nothing] at fault
      cases fault
  | missed _ count few => omega
  | @gaveUp q _ count _ =>
      have exactly : q.failures = config.profile.maxConsecutiveFailures := by omega
      refine ⟨p, q, remaining, reached, ?_⟩
      rw [ended, exactly]
  | produced found restart =>
      rw [nothing] at found
      cases found

/-- **A run is given up** just when it comes to such a step. -/
theorem run_noStatements_iff (limit : 0 < config.profile.maxConsecutiveFailures) {steps : Nat} :
    (run b config c).1 = .failed (.noStatements steps) ↔
      steps = config.profile.maxConsecutiveFailures ∧ ∃ n, Exhausted b config c n := by
  constructor
  · intro failed
    obtain ⟨n, p, q, remaining, reached, failed⟩ := run_failed_iff.1 failed
    rcases reached.exhausted_of_failed limit remaining failed with ⟨message, other⟩ | ⟨same, all⟩
    · cases other
    · exact ⟨CampaignError.noStatements.inj same, n, all⟩
  · rintro ⟨rfl, n, all⟩
    obtain ⟨p, q, remaining, reached, failed⟩ := all.failed limit
    exact run_failed_iff.2 ⟨n, p, q, remaining, reached, failed⟩

/-- No step comes after the one in which the run is given up. -/
theorem Exhausted.last (limit : 0 < config.profile.maxConsecutiveFailures)
    (h : Exhausted b config c n) {m : Nat} (reached : Reaches b config c m p) : m ≤ n := by
  apply Nat.le_of_not_lt
  intro later
  obtain ⟨q, r, -, stopped, failed⟩ := h.failed limit
  obtain ⟨q', next, early, goes⟩ := reached.goOn_of_lt later
  rw [early.unique stopped, failed] at goes
  cases goes

/-- **WHEN A RUN FAILS.**  A run fails just when a load behind a table that it created does,
or when it comes to a step such that this one and the steps right before it, as many as the
limit, all yielded no statement.  In the first case the error is that of the load; in the
second one it names the limit, and the step is the last one of the run and the first one of
its kind.  Before every step the count is the length of the streak of steps without a
statement: a statement starts it anew, whatever the database answers, and a schema change
leaves it alone.  Profiles with a limit of zero are not valid, so there is no run with one. -/
theorem run_fails (b : Backend σ) (c : Campaign σ)
    (limit : 0 < config.profile.maxConsecutiveFailures) :
    ((∃ error, (run b config c).1 = .failed error) ↔
        (∃ create message, [.createTable create (.ok ()), .load (.error message)]
          <:+: transcript b config c)
        ∨ ∃ n, Exhausted b config c n)
      ∧ (∀ create message, [.createTable create (.ok ()), .load (.error message)]
            <:+: transcript b config c →
          (run b config c).1 = .failed (.reloadFailed message))
      ∧ (∀ n, Exhausted b config c n →
          (∃ error, (run b config c).1 = .failed error
            ∧ error.message = "statement generation failed "
              ++ toString config.profile.maxConsecutiveFailures ++ " times in a row")
          ∧ (∀ m p, Reaches b config c m p → m ≤ n)
          ∧ ∀ m, Exhausted b config c m → n ≤ m)
      ∧ (∀ n p, Reaches b config c n p → Streak (Missed b config c) n p.failures)
      ∧ (∀ (b : Backend σ) n p r, p.campaign.session.generate.1 = .found r →
          (query b config n p).progress.failures = 0)
      ∧ ∀ (b : Backend σ) p, (changeSchema b p).progress.failures = p.failures := by
  refine ⟨⟨?_, ?_⟩, ?_, ?_, ?_, ?_, changeSchema_failures⟩
  · -- a run fails where a reload fails or the failures are used up, and only there
    rintro ⟨error, failed⟩
    obtain ⟨n, p, q, remaining, reached, stopped⟩ := run_failed_iff.1 failed
    rcases reached.exhausted_of_failed limit remaining stopped with ⟨message, rfl⟩ | ⟨-, all⟩
    · obtain ⟨create, part⟩ := run_reloadFailed_iff.1 failed
      exact .inl ⟨create, message, part⟩
    · exact .inr ⟨n, all⟩
  · rintro (⟨create, message, part⟩ | all)
    · exact ⟨_, run_reloadFailed_iff.2 ⟨create, part⟩⟩
    · exact ⟨_, (run_noStatements_iff limit).2 ⟨rfl, all⟩⟩
  · intro create message part
    exact run_reloadFailed_iff.2 ⟨create, part⟩
  · intro n all
    refine ⟨⟨_, (run_noStatements_iff limit).2 ⟨rfl, n, all⟩, rfl⟩, ?_, ?_⟩
    · intro m p reached
      exact all.last limit reached
    · intro m other
      obtain ⟨-, p, -, reached, -⟩ := all.missed limit
      exact other.last limit reached
  · intro n p reached
    exact (reached.streak limit).1
  · intro b n p r found
    -- a statement that was found is no miss, whatever the server answers
    have attempt := query_attempt b config n p
    generalize query b config n p = e at attempt ⊢
    cases attempt with
    | halted fault =>
        rw [found] at fault
        cases fault
    | missed nothing count few =>
        rw [found] at nothing
        cases nothing
    | gaveUp nothing count many =>
        rw [found] at nothing
        cases nothing
    | produced _ restart => exact restart.failures

end Runs

end Campaign

namespace Sample

/-- One table of one computed column, which no INSERT can be made for. -/
def gauge : Draft := { tables := [⟨"g", [⟨"x", .int, .notWritable⟩]⟩] }

/-- Ten steps, half of which ask for an INSERT, with a new table in every other one. -/
def tiredConfig : CampaignConfig where
  seed := 0
  iterations := 10
  loud := false
  profile :=
    { generation := { insertProb := Gen.half, retryCount := 1, maxDepth := some 1 }
      ddlInterval := 2
      maxConsecutiveFailures := 3 }
  rounds := 8

/-- The step that reads the greatest words asks for a query, all others for an INSERT. -/
def tiredWords : WordStream := fun i => if i < 3 ∨ 20 < i then 0 else 0xFFFFFFFF

/-- The new tables of steps 0, 2 and 4 are rejected. -/
def readOnly : List Answer := List.replicate 3 (.error (.rejected "read only"))

/-- What a run failed with. -/
def failed? {α : Type} : Ending α → Option CampaignError
  | .done _ => none
  | .failed error => some error
  | .halted _ => none

theorem eq_failed {α : Type} {e : Ending α} {error : CampaignError}
    (h : failed? e = some error) : e = .failed error := by
  cases e with
  | done a => cases h
  | failed other => rw [Option.some.inj h]
  | halted why => cases h

/-- Step 1 yields a statement, and all others none, so the run is given up in step 4. -/
theorem tired_run_fails :
    ∃ c n error, (Campaign.start scripted tiredConfig (gauge.build, readOnly) tiredWords {}).1
          = .done c
      ∧ Campaign.Exhausted scripted tiredConfig c n
      ∧ (Campaign.run scripted tiredConfig c).1 = .failed error
      ∧ error.message = "statement generation failed 3 times in a row" := by
  have evaluated : ((done? (Campaign.start scripted tiredConfig (gauge.build, readOnly)
      tiredWords {}).1).bind fun c => failed? (Campaign.run scripted tiredConfig c).1)
        = some (.noStatements 3) := by decide +kernel
  obtain ⟨c, done, failed⟩ := Option.bind_eq_some_iff.1 evaluated
  have started := eq_done done
  have failed := eq_failed failed
  obtain ⟨fails, reloads, exhausted, -⟩ :=
    Campaign.run_fails scripted c (Campaign.Underway.started started).limit
  -- it is not for want of a catalog that the run failed
  rcases fails.1 ⟨_, failed⟩ with ⟨create, message, part⟩ | ⟨n, all⟩
  · rw [reloads create message part] at failed
    cases failed
  · obtain ⟨⟨error, given, message⟩, -⟩ := exhausted n all
    exact ⟨c, n, error, started, all, given, message.trans (by decide)⟩

end Sample

end QueryFuzz
