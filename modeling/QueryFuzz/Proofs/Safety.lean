/-
  QueryFuzz.Proofs.Safety
  ───────────────────────
  **NOTHING FAULTS UNDER ACCEPTED PROFILES.**

  A profile that is accepted has its knobs in range, so no interval is zero where
  it divides, and the sessions of a campaign fault only where an open-ended loop
  of dice rolls goes on after its rounds.  A step counts at most two of
  everything: an internal error of a schema change and one of a statement.

  Main results:
    * `Campaign.stepOnce_keeps` — one step of a campaign keeps the invariant;
    * `Campaign.never_faults` — neither sessions nor campaigns fault.
-/
import QueryFuzz.Campaign.Basic
import QueryFuzz.Json5.Profile
import QueryFuzz.Proofs.Sessions

namespace QueryFuzz

/-! ## §1. Profiles and counts. -/

/-- A profile that is read from a text, or a preset. -/
def Profile.Accepted (p : Profile) : Prop :=
  (∃ text, Profile.ofText text = .ok p) ∨ p ∈ [{}, Profile.noDdl, Profile.shallow]

/-- Texts are checked, and the presets are in range. -/
theorem Profile.isValid_of_ofText {text : String} {p : Profile}
    (h : Profile.ofText text = .ok p) : p.isValid = true := by
  unfold Profile.ofText at h
  generalize Json5.ofText text = parsed at h
  cases parsed with
  | none => cases h
  | some v =>
      dsimp only at h
      generalize Profile.ofJson5 v = read at h
      cases read with
      | error flaw => cases h
      | ok q =>
          dsimp only at h
          split at h
          · rename_i valid
            rw [← Except.ok.inj h]
            exact valid
          · cases h

theorem Profile.Accepted.isValid {p : Profile} (h : p.Accepted) : p.isValid = true := by
  obtain ⟨text, read⟩ | preset := h
  · exact Profile.isValid_of_ofText read
  · have presets : ∀ q ∈ [{}, Profile.noDdl, Profile.shallow], q.isValid = true := by decide
    exact presets p preset

/-- What a valid profile promises. -/
theorem Profile.promises {p : Profile} (h : p.isValid = true) :
    p.generation.isValid = true ∧ p.progressInterval ≠ 0 := by
  unfold Profile.isValid Profile.problems at h
  simp only [List.isEmpty_iff, List.append_eq_nil_iff, List.map_eq_nil_iff] at h
  obtain ⟨⟨generation, -⟩, progress⟩ := h
  refine ⟨by rw [Options.isValid, generation]; rfl, fun zero => ?_⟩
  simp [Report.ofCount, zero] at progress

/-- No count is greater than `n`. -/
structure Tally.AtMost (t : Tally) (n : Nat) : Prop where
  generated : t.generated ≤ n
  generationFailures : t.generationFailures ≤ n
  executedOk : t.executedOk ≤ n
  rejected : t.rejected ≤ n
  internalErrors : t.internalErrors ≤ n
  tablesCreated : t.tablesCreated ≤ n
  ddlFailures : t.ddlFailures ≤ n

/-- No count grew by more than one. -/
structure Tally.Follows (t t' : Tally) : Prop where
  generated : t'.generated ≤ t.generated + 1
  generationFailures : t'.generationFailures ≤ t.generationFailures + 1
  executedOk : t'.executedOk ≤ t.executedOk + 1
  rejected : t'.rejected ≤ t.rejected + 1
  internalErrors : t'.internalErrors ≤ t.internalErrors + 1
  tablesCreated : t'.tablesCreated ≤ t.tablesCreated + 1
  ddlFailures : t'.ddlFailures ≤ t.ddlFailures + 1

theorem Tally.AtMost.mono {t : Tally} {m n : Nat} (h : t.AtMost m) (hmn : m ≤ n) :
    t.AtMost n := by
  obtain ⟨h₁, h₂, h₃, h₄, h₅, h₆, h₇⟩ := h
  constructor <;> omega

theorem Tally.AtMost.follow {t t' : Tally} {n : Nat} (h : t.AtMost n) (next : t.Follows t') :
    t'.AtMost (n + 1) := by
  obtain ⟨h₁, h₂, h₃, h₄, h₅, h₆, h₇⟩ := h
  obtain ⟨n₁, n₂, n₃, n₄, n₅, n₆, n₇⟩ := next
  constructor <;> omega

/-! ## §2. Steps of a campaign. -/

namespace Campaign

variable {σ : Type}

/-- A profile in range with a cap on the depth. -/
structure Capped (config : CampaignConfig) (D : Nat) : Prop where
  valid : config.profile.isValid = true
  cap : config.profile.generation.maxDepth = some D
  low : D ≤ 2 ^ 32 - 3

/-- Between two steps the session has the options of the profile, no count is greater
than `counted`, and at most `failed` steps in a row failed. -/
structure Intact (config : CampaignConfig) (counted failed : Nat) (p : Progress σ) :
    Prop where
  options : p.campaign.session.options = config.profile.generation
  counted : p.tally.AtMost counted
  failed : p.failures ≤ failed

/-- The progress that a step ends with. -/
def StepEnd.progress : StepEnd σ → Progress σ
  | .goOn p => p
  | .crashed p _ => p
  | .failed p _ => p
  | .halted p _ => p

/-- However the step ends, `Q` holds of its progress, and no fault but the end of the
rounds halts it. -/
structure StepEnd.Keeps (Q : Progress σ → Prop) (e : StepEnd σ) : Prop where
  progress : Q e.progress
  fault : ∀ p why, e = .halted p why → why = .roundsExhausted

section Steps

variable {config : CampaignConfig} {D counted failed : Nat} {p : Progress σ}

theorem goOn_keeps {Q : Progress σ → Prop} (h : Q p) : (StepEnd.goOn p).Keeps Q :=
  ⟨h, fun _ _ e => by cases e⟩

theorem failed_keeps {Q : Progress σ → Prop} (h : Q p) (error : CampaignError) :
    (StepEnd.failed p error).Keeps Q :=
  ⟨h, fun _ _ e => by cases e⟩

theorem Intact.note (hp : Intact config counted failed p) (e : Event) :
    Intact config counted failed (p.note e) :=
  ⟨hp.options, hp.counted, hp.failed⟩

theorem Intact.withDb (hp : Intact config counted failed p) (db : σ) :
    Intact config counted failed (p.withDb db) :=
  ⟨hp.options, hp.counted, hp.failed⟩

/-- Progress that follows, in a session of the same options. -/
theorem Intact.follow {q : Progress σ} (hp : Intact config counted failed p)
    (options : q.campaign.session.options = p.campaign.session.options)
    (failures : q.failures = p.failures) (next : p.tally.Follows q.tally) :
    Intact config (counted + 1) failed q :=
  ⟨options.trans hp.options, hp.counted.follow next, failures ▸ hp.failed⟩

theorem Intact.mono {more : Nat} (hp : Intact config counted failed p) (h : counted ≤ more) :
    Intact config more failed p :=
  ⟨hp.options, hp.counted.mono h, hp.failed⟩

theorem crash_keeps (hp : Intact config counted failed p) (statement message : String) :
    (crash p statement message).Keeps (Intact config counted failed) :=
  ⟨hp.note _, fun _ _ e => by cases e⟩

theorem reload_keeps (b : Backend σ) (hp : Intact config counted failed p) :
    (reload b p).Keeps (Intact config counted failed) := by
  unfold reload
  generalize b.load p.campaign.db = r
  obtain ⟨loaded, db⟩ := r
  dsimp only
  have noted : ∀ (es : List Event) {q : Progress σ}, Intact config counted failed q →
      Intact config counted failed (es.foldl Progress.note q) := by
    intro es
    induction es with
    | nil => exact fun h => h
    | cons e es ih => exact fun h => ih (h.note e)
  have loadedIntact := noted loaded.events (hp.withDb db)
  split
  · exact failed_keeps loadedIntact _
  · split
    · exact goOn_keeps (loadedIntact.note _)
    · rename_i session set
      exact goOn_keeps ⟨(Session.setCatalog_options set).trans loadedIntact.options,
        loadedIntact.counted, loadedIntact.failed⟩

/-- A schema change counts at most one of everything, and faults only where the draw of
the table did. -/
theorem placeTable_keeps (b : Backend σ) (hp : Intact config counted failed p)
    {r : Outcome CreateTable × Session}
    (same : r.2.options = p.campaign.session.options) (sound : ∀ why, r.1 ≠ .halted why) :
    (placeTable b p r).Keeps (Intact config (counted + 1) failed) := by
  obtain ⟨o, session⟩ := r
  have drawn : Intact config counted failed { p with campaign.session := session } :=
    ⟨same.trans hp.options, hp.counted, hp.failed⟩
  cases o with
  | halted why => exact absurd rfl (sound why)
  | nothing => exact goOn_keeps (drawn.mono (Nat.le_succ counted))
  | found create =>
      unfold placeTable
      dsimp only
      generalize b.createTable create _ = answer
      obtain ⟨answer, db⟩ := answer
      have answered := drawn.withDb db
      split
      · rename_i h
        injection h with _ h
        subst h
        refine reload_keeps b (answered.follow rfl rfl ?_)
        constructor <;> simp
      · rename_i h
        injection h with _ h
        subst h
        exact crash_keeps (answered.mono (Nat.le_succ counted)) _ _
      · rename_i h
        injection h with _ h
        subst h
        refine goOn_keeps (answered.follow rfl rfl ?_)
        constructor <;> simp
      · rename_i h
        injection h with _ h
        subst h
        refine goOn_keeps (answered.follow rfl rfl ?_)
        constructor <;> simp

theorem changeSchema_keeps (b : Backend σ) (hp : Intact config counted failed p) :
    (changeSchema b p).Keeps (Intact config (counted + 1) failed) :=
  placeTable_keeps b hp (Session.generateTable_options p.campaign.session)
    (Session.generateTable_ne_halted p.campaign.session)

/-- What the first part of a step keeps, the rest may use. -/
theorem StepEnd.Keeps.andThen {Q R : Progress σ → Prop} {e : StepEnd σ}
    {rest : Progress σ → StepEnd σ} (he : e.Keeps Q) (stop : ∀ q, Q q → R q)
    (hrest : ∀ q, Q q → (rest q).Keeps R) : (e.andThen rest).Keeps R := by
  obtain ⟨progress, fault⟩ := he
  cases e with
  | goOn q => exact hrest q progress
  | crashed q crash => exact ⟨stop q progress, fun _ _ h => by cases h⟩
  | failed q error => exact ⟨stop q progress, fun _ _ h => by cases h⟩
  | halted q why => exact ⟨stop q progress, fault⟩

/-- Progress is reported without a division by zero. -/
theorem report_keeps (hc : Capped config D) (step : Nat)
    (hp : Intact config counted failed p) :
    (report config step p).Keeps (Intact config counted failed) := by
  have interval := (Profile.promises hc.valid).2
  unfold report remainder
  rw [if_neg interval]
  refine goOn_keeps ?_
  split
  · exact hp.note _
  · exact hp

theorem submit_keeps (hc : Capped config D) (b : Backend σ) (step : Nat) (statement : String)
    (hp : Intact config counted failed p) :
    (submit b config step statement p).Keeps (Intact config (counted + 1) failed) := by
  unfold submit
  dsimp only
  generalize b.execute statement _ = answer
  obtain ⟨answer, db⟩ := answer
  -- a statement counts as generated, and once more under its answer
  split
  · refine report_keeps hc step (hp.follow rfl rfl ?_)
    constructor <;> simp
  · refine report_keeps hc step (hp.follow rfl rfl ?_)
    constructor <;> simp
  · refine report_keeps hc step (hp.follow rfl rfl ?_)
    constructor <;> simp
  · refine crash_keeps (hp.follow ?_ ?_ ?_) _ _
    · rfl
    · rfl
    · constructor <;> simp

/-- A statement counts at most one of everything, and a step without one is one more
failure in a row. -/
theorem query_keeps (hc : Capped config D) (b : Backend σ) (step : Nat)
    (hp : Intact config counted failed p) :
    (query b config step p).Keeps (Intact config (counted + 1) (failed + 1)) := by
  have same := Session.generate_options p.campaign.session
  -- under the depth cap the rounds are all that can halt the generator
  have sound : ∀ why, p.campaign.session.generate.1 = .halted why → why = .roundsExhausted := by
    intro why
    refine (Session.Reaches.start (s := p.campaign.session)).generate_fault ?_ ?_ hc.low
    · rw [hp.options]
      exact (Profile.promises hc.valid).1
    · rw [hp.options]
      exact hc.cap
  unfold query
  generalize p.campaign.session.generate = r at same sound
  obtain ⟨o, session⟩ := r
  have drawn : session.options = config.profile.generation := same.trans hp.options
  cases o with
  | halted why =>
      refine ⟨⟨drawn, hp.counted.mono (Nat.le_succ counted), Nat.le_succ_of_le hp.failed⟩, ?_⟩
      intro q w h
      injection h with _ h
      exact sound w (by rw [h])
  | nothing =>
      have counts : p.tally.Follows { p.tally with
          generationFailures := p.tally.generationFailures + 1 } := by
        constructor <;> simp
      have next : Intact config (counted + 1) (failed + 1)
          { p with
            campaign.session := session
            tally := { p.tally with generationFailures := p.tally.generationFailures + 1 }
            failures := p.failures + 1 } :=
        ⟨drawn, hp.counted.follow counts, Nat.succ_le_succ hp.failed⟩
      dsimp only
      split
      · exact failed_keeps next _
      · exact goOn_keeps next
  | found tree =>
      have fresh : Intact config counted (failed + 1)
          { p with campaign.session := session, failures := 0 } :=
        ⟨drawn, hp.counted, Nat.zero_le _⟩
      exact submit_keeps hc b step tree.render fresh

/-- The schema changes in steps at its interval, which is not zero where it divides. -/
theorem changesSchema_ne_error (config : CampaignConfig) (step : Nat) (why : Fault) :
    changesSchema config step ≠ .error why := by
  unfold changesSchema remainder
  split
  · rename_i interval
    rw [if_neg (Nat.pos_iff_ne_zero.1 interval)]
    exact fun h => by cases h
  · exact fun h => by cases h

/-- **One step keeps the invariant**: it counts at most two of everything, and is halted by
nothing but the end of the rounds. -/
theorem stepOnce_keeps (hc : Capped config D) (b : Backend σ) (step : Nat)
    (hp : Intact config counted failed p) :
    (stepOnce b config step p).Keeps (Intact config (counted + 2) (failed + 1)) := by
  have never := changesSchema_ne_error config step
  unfold stepOnce
  split
  · exact absurd ‹_› (never _)
  · have once := query_keeps hc b step hp
    exact ⟨once.progress.mono (Nat.le_succ _), once.fault⟩
  · refine (changeSchema_keeps b hp).andThen (fun q hq => ?_) fun q hq =>
      query_keeps hc b step hq
    exact ⟨hq.options, hq.counted.mono (Nat.le_succ _), Nat.le_succ_of_le hq.failed⟩

end Steps

/-! ## §3. Runs of a campaign. -/

section Runs

variable {config : CampaignConfig} {D : Nat}

/-- The progress that a campaign can have made before a step. -/
inductive Reaches (b : Backend σ) (config : CampaignConfig) (c : Campaign σ) :
    Nat → Progress σ → Prop where
  | start : Reaches b config c 0 { campaign := c }
  | step {n : Nat} {p p' : Progress σ} (h : Reaches b config c n p)
      (remaining : n < config.iterations) (next : stepOnce b config n p = .goOn p') :
      Reaches b config c (n + 1) p'

/-- After `n` steps no count is greater than `2 * n`. -/
theorem Reaches.intact (hc : Capped config D) {b : Backend σ} {c : Campaign σ}
    (options : c.session.options = config.profile.generation) {n : Nat} {p : Progress σ}
    (h : Reaches b config c n p) : n ≤ config.iterations ∧ Intact config (2 * n) n p := by
  induction h with
  | start =>
      refine ⟨Nat.zero_le _, options, ?_, Nat.le_refl 0⟩
      constructor <;> exact Nat.le_refl 0
  | @step n p p' h remaining next ih =>
      have once := (stepOnce_keeps hc b n ih.2).progress
      rw [next] at once
      exact ⟨remaining, once⟩

/-- The steps of a run keep the options of the session, and end in no fault but the end of
the rounds. -/
theorem steps_keeps (hc : Capped config D) (b : Backend σ) :
    ∀ (remaining step : Nat) {counted failed : Nat} {p : Progress σ},
      Intact config counted failed p →
      (steps b config remaining step p).2.campaign.session.options = config.profile.generation
        ∧ ∀ why, (steps b config remaining step p).1 = .halted why → why = .roundsExhausted := by
  intro remaining
  induction remaining with
  | zero =>
      intro step counted failed p hp
      exact ⟨hp.options, fun why h => by cases h⟩
  | succ remaining ih =>
      intro step counted failed p hp
      have once := stepOnce_keeps hc b step hp
      unfold steps
      generalize stepOnce b config step p = e at once
      have kept := once.progress.options
      cases e with
      | goOn q => exact ih (step + 1) once.progress
      | crashed q crash => exact ⟨kept, fun why h => by cases h⟩
      | failed q error => exact ⟨kept, fun why h => by cases h⟩
      | halted q w =>
          refine ⟨kept, fun why h => ?_⟩
          injection h with h
          rw [← h]
          exact once.fault q w rfl

theorem run_keeps (hc : Capped config D) (b : Backend σ) {c : Campaign σ}
    (options : c.session.options = config.profile.generation) :
    (run b config c).2.session.options = config.profile.generation
      ∧ ∀ why, (run b config c).1 = .halted why → why = .roundsExhausted := by
  have first := ((Reaches.start (b := b) (c := c)).intact hc options).2
  have all := steps_keeps hc b config.iterations 0 first
  unfold run
  generalize steps b config config.iterations 0 { campaign := c } = r at all
  obtain ⟨e, q⟩ := r
  cases e with
  | done r => exact ⟨all.1, fun why h => by cases h⟩
  | failed error => exact ⟨all.1, fun why h => by cases h⟩
  | halted w =>
      refine ⟨all.1, fun why h => ?_⟩
      injection h with h
      exact all.2 why (by rw [h])

/-- A campaign, and what any number of runs made of it, however they ended. -/
inductive Reruns (b : Backend σ) (config : CampaignConfig) (c : Campaign σ) :
    Campaign σ → Prop where
  | opened : Reruns b config c c
  | again {d : Campaign σ} (h : Reruns b config c d) : Reruns b config c (run b config d).2

/-- No run changes the options of the session. -/
theorem Reruns.options (hc : Capped config D) {b : Backend σ} {c d : Campaign σ}
    (h : Reruns b config c d) (options : c.session.options = config.profile.generation) :
    d.session.options = config.profile.generation := by
  induction h with
  | opened => exact options
  | again _ ih => exact (run_keeps hc b ih).1

/-- A start that does not fault, and opens its session with the options of the profile. -/
def Opened (config : CampaignConfig) : Ending (Campaign σ) → Prop
  | .done c => c.session.options = config.profile.generation
  | .failed _ => True
  | .halted _ => False

theorem startOn_opened (config : CampaignConfig) (catalog : Catalog) (db : σ)
    (words : WordStream) (s : GenState) :
    Opened config (startOn config catalog db words s).1 := by
  unfold startOn
  split
  · trivial
  · rename_i session opened
    exact (Session.openOn_options opened).1

theorem startWithTable_opened (b : Backend σ) (config : CampaignConfig) (catalog : Catalog)
    (db : σ) (words : WordStream) {r : Outcome CreateTable × GenState}
    (sound : ∀ why, r.1 ≠ .halted why) :
    Opened config (startWithTable b config catalog db words r).1 := by
  obtain ⟨o, s⟩ := r
  cases o with
  | halted why => exact absurd rfl (sound why)
  | nothing => exact startOn_opened config catalog db words s
  | found create =>
      unfold startWithTable
      dsimp only
      split
      · trivial
      split
      · trivial
      · exact startOn_opened config _ _ words _

/-- No start faults, whatever the profile: the one thing it draws is a new table. -/
theorem start_opened (b : Backend σ) (config : CampaignConfig) (db : σ)
    (words : WordStream) (s : GenState) : Opened config (start b config db words s).1 := by
  unfold start
  split
  · trivial
  dsimp only
  split
  · trivial
  split
  · exact startOn_opened config _ _ words _
  · exact startWithTable_opened b config _ _ words
      (Generate.createTable_draws _ words _).2.2

end Runs

/-- The counts of a campaign fit into 64 bits. -/
def Countable (p : Progress σ) : Prop :=
  p.tally.AtMost (2 ^ 64 - 1) ∧ p.failures ≤ 2 ^ 64 - 1

theorem Intact.countable {config : CampaignConfig} {counted failed : Nat} {p : Progress σ}
    (h : Intact config counted failed p) (hcounted : counted < 2 ^ 64)
    (hfailed : failed < 2 ^ 64) : Countable p := by
  have := h.failed
  exact ⟨h.counted.mono (by omega), by omega⟩

/-- **NOTHING FAULTS UNDER AN ACCEPTED PROFILE** with a cap on the depth.  No start of a
campaign faults; its first run and every later one ends in no fault but the end of the
rounds that a loop of dice rolls is granted, whatever the answers of its backend, and no
count overflows, before a step or behind it.  The same holds of sessions that are opened
under such options, whatever is generated and whichever catalogs are put in place. -/
theorem never_faults {config : CampaignConfig} {D : Nat} (accepted : config.profile.Accepted)
    (cap : config.profile.generation.maxDepth = some D) (low : D ≤ 2 ^ 32 - 3)
    (most : config.iterations < 2 ^ 63) (b : Backend σ) (db : σ) (words : WordStream)
    (state : GenState) :
    (∀ why, (start b config db words state).1 ≠ .halted why)
      ∧ (∀ c d, (start b config db words state).1 = .done c → Reruns b config c d →
          (∀ why, (run b config d).1 = .halted why → why = .roundsExhausted)
          ∧ ∀ n p, Reaches b config d n p →
              n + 1 < 2 ^ 64 ∧ Countable p
                ∧ (n < config.iterations → Countable (stepOnce b config n p).progress))
      ∧ ∀ catalog rounds s t,
          Session.openOn catalog config.profile.generation words state rounds = .ok s →
          s.Reaches t →
          (∀ why, t.generate.1 = .halted why → why = .roundsExhausted)
            ∧ ∀ why, t.generateTable.1 ≠ .halted why := by
  have hc : Capped config D := ⟨accepted.isValid, cap, low⟩
  have opened := start_opened b config db words state
  refine ⟨fun why h => ?_, fun c d h reruns => ?_, fun catalog rounds s t h reached => ?_⟩
  · rw [h] at opened
    exact opened
  · rw [h] at opened
    have options := reruns.options hc opened
    refine ⟨(run_keeps hc b options).2, fun n p reached => ?_⟩
    obtain ⟨bound, intact⟩ := reached.intact hc options
    refine ⟨by omega, intact.countable (by omega) (by omega), fun remaining => ?_⟩
    exact (stepOnce_keeps hc b n intact).progress.countable (by omega) (by omega)
  · obtain ⟨options, valid⟩ := Session.openOn_options h
    refine ⟨fun why => reached.generate_fault ?_ ?_ low, t.generateTable_ne_halted⟩
    · rw [options, valid]
    · rw [options, cap]

end Campaign

namespace Sample

/-- Three steps of small statements. -/
def config : CampaignConfig where
  seed := 0
  iterations := 3
  loud := false
  profile := .shallow

/-- The campaign starts against a dry run, and its session is opened. -/
theorem config_starts :
    (∃ c, (Campaign.start Backend.dryRun config draft.build words {}).1 = .done c)
      ∧ ∃ s, Session.openOn draft.build config.profile.generation words {} = .ok s := by
  have valid : config.profile.isValid = true ∧ config.profile.generation.isValid = true := by
    decide
  have tables : draft.build.hasTables = true := by decide +kernel
  constructor
  · simp [Campaign.start, Campaign.startOn, Session.openOn, Backend.dryRun, valid, tables]
  · simp [Session.openOn, valid, tables]

theorem campaign_never_faults :
    ∃ c, (Campaign.start Backend.dryRun config draft.build words {}).1 = .done c
      ∧ (∀ why, (Campaign.run Backend.dryRun config c).1 = .halted why → why = .roundsExhausted)
      ∧ (∀ why, (Campaign.run Backend.dryRun config
            (Campaign.run Backend.dryRun config c).2).1 = .halted why → why = .roundsExhausted)
      ∧ Campaign.Countable (Campaign.stepOnce Backend.dryRun config 0 { campaign := c }).progress
      ∧ ∃ s, Session.openOn draft.build config.profile.generation words {} = .ok s
        ∧ ∀ why, s.generate.2.generateTable.1 ≠ .halted why := by
  have accepted : config.profile.Accepted := Or.inr (by decide)
  obtain ⟨-, campaigns, sessions⟩ := Campaign.never_faults (D := 6) accepted rfl (by decide)
    (by decide) Backend.dryRun draft.build words {}
  obtain ⟨⟨c, started⟩, s, opened⟩ := config_starts
  obtain ⟨faults, counts⟩ := campaigns c c started .opened
  have later := (campaigns c _ started (.again .opened)).1
  refine ⟨c, started, faults, later, (counts 0 _ .start).2.2 (by decide), s, opened, ?_⟩
  exact (sessions draft.build _ s _ opened (.generate .start)).2

end Sample

end QueryFuzz
