/-
  QueryFuzz.Proofs.Runs.Course
  ────────────────────────────
  **THE COURSE OF A RUN, STEP BY STEP.**

  A run takes one step after the other until all are done or one of them does not
  go on.  `Course` follows it with the calls of each step, `RunEnds` says where it
  stops.  What one step keeps, so does a course, and the run ends as its last step
  does.

      Stalled — a step that was reached, where a fault halts the generator

  Main results:
    * `Campaign.run_ends` — the run is a course up to its last step, and its
      transcript consists of the calls of its steps;
    * `Campaign.run_recorded` — recording does not change a run;
    * `Campaign.run_halted_iff` — a run is halted where a step that it reaches stalls.
-/
import QueryFuzz.Proofs.Runs.Recording

namespace QueryFuzz.Campaign

open Backend

variable {σ : Type} {b : Backend σ} {config : CampaignConfig} {c : Campaign σ}

/-! ## §1. Courses. -/

/-- The progress after some steps, with the calls of each of them. -/
inductive Course (b : Backend σ) (config : CampaignConfig) (c : Campaign σ) :
    List (List Call) → Progress σ → Prop where
  | start : Course b config c [] { campaign := c }
  | step {parts : List (List Call)} {p q : Progress σ} (h : Course b config c parts p)
      (remaining : parts.length < config.iterations)
      (next : stepOnce b config parts.length p = .goOn q) :
      Course b config c (parts ++ [stepCalls b config parts.length p]) q

theorem Course.reaches {parts : List (List Call)} {p : Progress σ}
    (h : Course b config c parts p) : Reaches b config c parts.length p := by
  induction h with
  | start => exact .start
  | step h remaining next ih =>
      rw [List.length_append]
      exact ih.step remaining next

theorem Reaches.course {n : Nat} {p : Progress σ} (h : Reaches b config c n p) :
    ∃ parts, parts.length = n ∧ Course b config c parts p := by
  induction h with
  | start => exact ⟨[], rfl, .start⟩
  | @step n p q h remaining next ih =>
      obtain ⟨parts, rfl, course⟩ := ih
      exact ⟨parts ++ [stepCalls b config parts.length p], by simp, course.step remaining next⟩

/-! ## §2. How a run ends. -/

/-- What a run reports that ends with a step. -/
def StepEnd.ending : StepEnd σ → Ending RunReport
  | .goOn p => .done ⟨p.tally, none⟩
  | .crashed p crash => .done ⟨p.tally, some crash⟩
  | .failed _ error => .failed error
  | .halted _ why => .halted why

/-- The campaign behind a run that ends with a step: a report is logged. -/
def StepEnd.closed : StepEnd σ → Campaign σ
  | .goOn p => (p.note (.finished p.tally false)).campaign
  | .crashed p _ => (p.note (.finished p.tally true)).campaign
  | .failed p _ => p.campaign
  | .halted p _ => p.campaign

/-- A run that reports has done all its steps, or crashed. -/
theorem StepEnd.eq_of_ending_done {e : StepEnd σ} {r : RunReport} (done : e.ending = .done r) :
    (∃ p, e = .goOn p ∧ r = ⟨p.tally, none⟩)
      ∨ ∃ p crash, e = .crashed p crash ∧ r = ⟨p.tally, some crash⟩ := by
  cases e with
  | goOn p => exact .inl ⟨p, rfl, (Ending.done.inj done).symm⟩
  | crashed p crash => exact .inr ⟨p, crash, rfl, (Ending.done.inj done).symm⟩
  | failed p error => cases done
  | halted p why => cases done

theorem StepEnd.ending_eq_failed_iff {e : StepEnd σ} {error : CampaignError} :
    e.ending = .failed error ↔ ∃ p, e = .failed p error := by
  cases e <;> simp [StepEnd.ending]

theorem StepEnd.ending_eq_halted_iff {e : StepEnd σ} {why : Fault} :
    e.ending = .halted why ↔ ∃ p, e = .halted p why := by
  cases e <;> simp [StepEnd.ending]

theorem StepEnd.recording_ending (calls : List Call) (e : StepEnd σ) :
    (e.recording calls).ending = e.ending := by
  cases e <;> rfl

theorem StepEnd.recording_closed (calls : List Call) (e : StepEnd σ) :
    (e.recording calls).closed = e.closed.recording calls := by
  cases e <;> rfl

theorem StepEnd.closed_catalog (e : StepEnd σ) :
    e.closed.session.catalog = e.progress.campaign.session.catalog := by
  cases e <;> rfl

/-- The last step of a run and the calls of all its steps: either all steps went on, or
the last one did not. -/
inductive RunEnds (b : Backend σ) (config : CampaignConfig) (c : Campaign σ) :
    List (List Call) → StepEnd σ → Prop where
  | whole {parts : List (List Call)} {p : Progress σ} (course : Course b config c parts p)
      (all : parts.length = config.iterations) : RunEnds b config c parts (.goOn p)
  | cut {parts : List (List Call)} {p : Progress σ} (course : Course b config c parts p)
      (remaining : parts.length < config.iterations)
      (stop : ∀ q, stepOnce b config parts.length p ≠ .goOn q) :
      RunEnds b config c (parts ++ [stepCalls b config parts.length p])
        (stepOnce b config parts.length p)

/-- One more step of `steps` that does not go on. -/
theorem steps_of_stop {b : Backend σ} {remaining step : Nat} {p : Progress σ} {e : StepEnd σ}
    (last : stepOnce b config step p = e) (stop : ∀ q, e ≠ .goOn q) :
    steps b config (remaining + 1) step p = (e.ending, e.progress) := by
  unfold steps
  rw [last]
  cases e with
  | goOn q => exact absurd rfl (stop q)
  | crashed q crash => rfl
  | failed q error => rfl
  | halted q why => rfl

/-- One more step of `steps` that goes on. -/
theorem steps_of_goOn {b : Backend σ} {remaining step : Nat} {p q : Progress σ}
    (next : stepOnce b config step p = .goOn q) :
    steps b config (remaining + 1) step p = steps b config remaining (step + 1) q := by
  rw [steps, next]

theorem run_of_steps {b : Backend σ} {c : Campaign σ} {e : StepEnd σ}
    (h : steps b config config.iterations 0 { campaign := c } = (e.ending, e.progress)) :
    run b config c = (e.ending, e.closed) := by
  unfold run
  rw [h]
  cases e <;> rfl

/-- From any point of a course, the remaining steps lead to an end of the run, recorded or
not. -/
theorem Course.steps_end :
    ∀ (remaining : Nat) {parts : List (List Call)} {p : Progress σ},
      Course b config c parts p → parts.length + remaining = config.iterations →
      ∃ all e, RunEnds b config c all e
        ∧ steps b config remaining parts.length p = (e.ending, e.progress)
        ∧ ∀ calls, steps b.recorded config remaining parts.length
              (p.recording (calls ++ parts.flatten))
            = (e.ending, e.progress.recording (calls ++ all.flatten)) := by
  -- by induction on the steps that are left; each that goes on adds its part to the course
  intro remaining
  induction remaining with
  | zero =>
      intro parts p course all
      exact ⟨parts, .goOn p, .whole course all, rfl, fun calls => rfl⟩
  | succ remaining ih =>
      intro parts p course total
      have some : parts.length < config.iterations := by omega
      have recorded := stepOnce_recorded b config parts.length p
      generalize ended : stepOnce b config parts.length p = e at recorded
      by_cases stop : ∀ q, e ≠ .goOn q
      · refine ⟨parts ++ [stepCalls b config parts.length p], e, ?_, ?_, fun calls => ?_⟩
        · rw [← ended] at stop ⊢
          exact .cut course some stop
        · exact steps_of_stop ended stop
        · have last := recorded (calls ++ parts.flatten)
          rw [steps_of_stop last (by cases e <;> simp_all [StepEnd.recording]),
            StepEnd.recording_ending, StepEnd.recording_progress]
          simp [List.append_assoc]
      · obtain ⟨q, rfl⟩ : ∃ q, e = .goOn q := by simpa using stop
        obtain ⟨all, e, ends, plain, taped⟩ :=
          ih (course.step some ended) (by rw [List.length_append]; simp; omega)
        rw [List.length_append] at plain taped
        refine ⟨all, e, ends, ?_, fun calls => ?_⟩
        · rw [steps_of_goOn ended]
          exact plain
        · rw [steps_of_goOn (recorded (calls ++ parts.flatten))]
          have := taped calls
          simpa [List.append_assoc] using this

/-- The calls of a run, in order. -/
def transcript (b : Backend σ) (config : CampaignConfig) (c : Campaign σ) : List Call :=
  (run b.recorded config (c.recording [])).2.db.2

/-- A run ends with a step, recorded or not, behind the calls of all its steps. -/
theorem exists_runEnds (b : Backend σ) (config : CampaignConfig) (c : Campaign σ) :
    ∃ parts e, RunEnds b config c parts e ∧ run b config c = (e.ending, e.closed)
      ∧ ∀ calls, run b.recorded config (c.recording calls)
          = (e.ending, e.closed.recording (calls ++ parts.flatten)) := by
  have first : Course b config c [] { campaign := c } := .start
  obtain ⟨parts, e, ends, plain, taped⟩ := first.steps_end config.iterations (Nat.zero_add _)
  refine ⟨parts, e, ends, run_of_steps plain, fun calls => ?_⟩
  have same := taped calls
  rw [List.flatten_nil, List.append_nil, ← StepEnd.recording_progress,
    ← StepEnd.recording_ending (calls ++ parts.flatten)] at same
  rw [run_of_steps same, StepEnd.recording_ending, StepEnd.recording_closed]

/-- **A run is a course up to its last step**, ends as that step does, and calls what its
steps call. -/
theorem run_ends (b : Backend σ) (config : CampaignConfig) (c : Campaign σ) :
    ∃ parts e, RunEnds b config c parts e ∧ run b config c = (e.ending, e.closed)
      ∧ transcript b config c = parts.flatten := by
  obtain ⟨parts, e, ends, plain, taped⟩ := exists_runEnds b config c
  refine ⟨parts, e, ends, plain, ?_⟩
  unfold transcript
  rw [taped []]
  rfl

/-- **Recording does not change a run**: its calls come behind those of earlier runs. -/
theorem run_recorded (b : Backend σ) (config : CampaignConfig) (c : Campaign σ)
    (calls : List Call) :
    run b.recorded config (c.recording calls)
      = ((run b config c).1, (run b config c).2.recording (calls ++ transcript b config c)) := by
  obtain ⟨parts, e, -, plain, taped⟩ := exists_runEnds b config c
  unfold transcript
  rw [taped calls, taped [], plain]
  rfl

/-! ## §3. Runs from a step that is reached. -/

theorem Reaches.steps_eq {n : Nat} {p : Progress σ} (h : Reaches b config c n p) :
    n ≤ config.iterations
      ∧ steps b config config.iterations 0 { campaign := c }
        = steps b config (config.iterations - n) n p := by
  induction h with
  | start => exact ⟨Nat.zero_le _, rfl⟩
  | @step n p q h remaining next ih =>
      refine ⟨remaining, ih.2.trans ?_⟩
      obtain ⟨m, more⟩ : ∃ m, config.iterations - n = m + 1 := ⟨config.iterations - n - 1, by omega⟩
      rw [more, steps_of_goOn next]
      congr 1
      omega

/-- A step that is reached and does not go on ends the run. -/
theorem Reaches.run_of_stop {n : Nat} {p : Progress σ} (h : Reaches b config c n p)
    (remaining : n < config.iterations) {e : StepEnd σ} (last : stepOnce b config n p = e)
    (stop : ∀ q, e ≠ .goOn q) : run b config c = (e.ending, e.closed) := by
  refine run_of_steps ?_
  obtain ⟨m, more⟩ : ∃ m, config.iterations - n = m + 1 := ⟨config.iterations - n - 1, by omega⟩
  rw [h.steps_eq.2, more, steps_of_stop last stop]

/-- **A run ends without a report** just when a step that it reaches ends so. -/
theorem run_ending_iff {ending : Ending RunReport} (silent : ∀ r, ending ≠ .done r) :
    (run b config c).1 = ending ↔
      ∃ n p, n < config.iterations ∧ Reaches b config c n p
        ∧ (stepOnce b config n p).ending = ending := by
  constructor
  · intro ended
    obtain ⟨parts, e, ends, report, -⟩ := run_ends b config c
    rw [report] at ended
    cases ends with
    | whole course all => exact absurd ended.symm (silent _)
    | @cut parts p course remaining stop =>
        exact ⟨parts.length, p, remaining, course.reaches, ended⟩
  · rintro ⟨n, p, remaining, reached, ended⟩
    -- a step that goes on would be reported if it were the last
    have stop : ∀ q, stepOnce b config n p ≠ .goOn q := by
      intro q goes
      rw [goes] at ended
      exact silent _ ended.symm
    exact (congrArg Prod.fst (reached.run_of_stop remaining rfl stop)).trans ended

/-- A run fails just when one of its steps does. -/
theorem run_failed_iff {error : CampaignError} :
    (run b config c).1 = .failed error ↔
      ∃ n p q, n < config.iterations ∧ Reaches b config c n p
        ∧ stepOnce b config n p = .failed q error := by
  rw [run_ending_iff fun _ h => by cases h]
  simp only [StepEnd.ending_eq_failed_iff, exists_and_left]

/-- The run comes to the statement of this step, and a fault halts its generator. -/
def Stalled (b : Backend σ) (config : CampaignConfig) (c : Campaign σ) (n : Nat) (why : Fault) :
    Prop :=
  n < config.iterations ∧ ∃ p q, Reaches b config c n p ∧ Ready b config n p q
    ∧ q.campaign.session.generate.1 = .halted why

/-- **A run is halted just when the generator of a statement that it comes to is.** -/
theorem run_halted_iff (interval : config.profile.progressInterval ≠ 0) {why : Fault} :
    (run b config c).1 = .halted why ↔ ∃ n, Stalled b config c n why := by
  rw [run_ending_iff fun _ h => by cases h]
  simp only [StepEnd.ending_eq_halted_iff, stepOnce_halted_iff _ _ _ _ interval, Stalled,
    exists_and_left]

/-- A step is reached with one progress only. -/
theorem Reaches.unique {n : Nat} {p q : Progress σ} (h : Reaches b config c n p)
    (h' : Reaches b config c n q) : p = q := by
  induction h generalizing q with
  | start => cases h'; rfl
  | @step n p p' h remaining next ih =>
      cases h' with
      | step other _ next' =>
          obtain rfl := ih other
          exact StepEnd.goOn.inj (next.symm.trans next')

/-- Every step before one that is reached is reached and goes on. -/
theorem Reaches.goOn_of_lt {n : Nat} {p : Progress σ} (h : Reaches b config c n p) {k : Nat}
    (lt : k < n) :
    ∃ q q', Reaches b config c k q ∧ stepOnce b config k q = .goOn q' := by
  induction h with
  | start => cases lt
  | @step n p p' h remaining next ih =>
      obtain before | rfl := Nat.lt_succ_iff_lt_or_eq.1 lt
      · exact ih before
      · exact ⟨p, p', h, next⟩

/-- The parts of a course are the calls of the steps it went through. -/
theorem Course.reaches_of_getElem? {parts : List (List Call)} {p : Progress σ}
    (h : Course b config c parts p) {n : Nat} {part : List Call} (there : parts[n]? = some part) :
    ∃ q, Reaches b config c n q ∧ part = stepCalls b config n q := by
  induction h with
  | start => cases there
  | @step parts p q h remaining next ih =>
      by_cases before : n < parts.length
      · rw [List.getElem?_append_left before] at there
        exact ih there
      · rw [List.getElem?_append_right (Nat.le_of_not_lt before), List.getElem?_singleton] at there
        split at there
        · obtain rfl : n = parts.length := by omega
          exact ⟨p, h.reaches, (Option.some.inj there).symm⟩
        · cases there

/-- **The parts of a run are the calls of the steps it reaches**, one part for each. -/
theorem RunEnds.getElem?_eq_some_iff {parts : List (List Call)} {e : StepEnd σ}
    (h : RunEnds b config c parts e) {n : Nat} {part : List Call} :
    parts[n]? = some part
      ↔ n < config.iterations ∧ ∃ p, Reaches b config c n p ∧ part = stepCalls b config n p := by
  -- the parts of the course come from the steps before, and the last part from the last step
  have forward (part : List Call) (there : parts[n]? = some part) :
      n < config.iterations ∧ ∃ p, Reaches b config c n p ∧ part = stepCalls b config n p := by
    have short : n < parts.length := (List.getElem?_eq_some_iff.1 there).1
    cases h with
    | whole course all => exact ⟨all ▸ short, course.reaches_of_getElem? there⟩
    | @cut parts p course remaining stop =>
        rw [List.length_append, List.length_singleton] at short
        refine ⟨by omega, ?_⟩
        by_cases before : n < parts.length
        · rw [List.getElem?_append_left before] at there
          exact course.reaches_of_getElem? there
        · obtain rfl : n = parts.length := by omega
          rw [List.getElem?_concat_length] at there
          exact ⟨p, course.reaches, (Option.some.inj there).symm⟩
  refine ⟨forward part, ?_⟩
  rintro ⟨remaining, q, reached, rfl⟩
  -- a step that is reached is not behind the last one
  have short : n < parts.length := by
    cases h with
    | whole course all => rw [all]; exact remaining
    | @cut parts p course some stop =>
        rw [List.length_append, List.length_singleton]
        refine Nat.lt_succ_of_le (Nat.le_of_not_lt fun behind => ?_)
        obtain ⟨q, q', early, goes⟩ := reached.goOn_of_lt behind
        rw [early.unique course.reaches] at goes
        exact stop q' goes
  have there := List.getElem?_eq_getElem short
  obtain ⟨-, p, same, calls⟩ := forward _ there
  rw [there, calls, same.unique reached]

/-- When all steps went on, the run is done without a crash. -/
theorem Reaches.run_of_all {p : Progress σ} (h : Reaches b config c config.iterations p) :
    (run b config c).1 = .done ⟨p.tally, none⟩ := by
  have all := h.steps_eq.2
  rw [Nat.sub_self] at all
  rw [run_of_steps (e := .goOn p) all]
  rfl

end QueryFuzz.Campaign
