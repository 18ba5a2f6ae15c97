/-
  QueryFuzz.Proofs.Runs.Accounting
  ────────────────────────────────
  **THE REPORT OF A RUN ACCOUNTS FOR ITS CALLS.**

  Two classifications of errors share a count, and a step can be left in five
  places, but every answer is counted once and nothing else is: the counts of a
  report are the numbers of calls that were answered in each way.  What is
  generated is submitted, and a step that gets to its statement counts as one
  attempt, whether it yields a statement or not.

      Tally.Accounts   — the counts are the numbers of answers among the calls
      Tally.attempts   — statements generated, and steps that yielded none

  Main results:
    * `Campaign.StepEnds.accounts` — what one step adds to both;
    * `Campaign.run_accounted` — the report of a run accounts for its transcript.
-/
import QueryFuzz.Proofs.Runs.Crashes

namespace QueryFuzz

open Backend

/-! ## §1. Lists of answers. -/

theorem executions_append (before after : List Call) :
    executions (before ++ after) = executions before ++ executions after :=
  List.filterMap_append

theorem creations_append (before after : List Call) :
    creations (before ++ after) = creations before ++ creations after :=
  List.filterMap_append

/-! ## §2. Counts. -/

namespace Tally

/-- The counts are the numbers of answers of each kind: of those to the statements that
were executed, and of those to the tables that were to be created. -/
structure Accounts (t : Tally) (executed created : List Answer) : Prop where
  generated : t.generated = executed.length
  executedOk : t.executedOk = executed.countP Answer.isOk
  rejected : t.rejected = executed.countP Answer.isRejected
  internalErrors : t.internalErrors
    = executed.countP Answer.isInternal + created.countP Answer.isInternal
  tablesCreated : t.tablesCreated = created.countP Answer.isOk
  ddlFailures : t.ddlFailures
    = created.countP Answer.isRejected + created.countP Answer.isInternal

/-- The steps that got to generating a statement, with one or without. -/
def attempts (t : Tally) : Nat := t.generated + t.generationFailures

section Counting

variable {t : Tally} {executed created : List Answer}

/-- One more statement is executed. -/
theorem Accounts.execute (h : t.Accounts executed created) (statement : String)
    (answer : Answer) :
    (t.counting (.execute statement answer)).Accounts (executed ++ [answer]) created := by
  obtain ⟨generated, executedOk, rejected, internalErrors, tablesCreated, ddlFailures⟩ := h
  rcases answer with error | _
  · rcases error with message | message | message
    · constructor <;> simp [counting, Answer.isOk, Answer.isRejected, Answer.isInternal, *]
    · -- the count of internal errors is a sum over statements and tables
      constructor <;> simp [counting, Answer.isOk, Answer.isRejected, Answer.isInternal, *]
      omega
    · constructor <;> simp [counting, Answer.isOk, Answer.isRejected, Answer.isInternal, *]
  · constructor <;> simp [counting, Answer.isOk, Answer.isRejected, Answer.isInternal, *]

/-- One more table is to be created. -/
theorem Accounts.createTable (h : t.Accounts executed created) (create : CreateTable)
    (answer : Answer) :
    (t.counting (.createTable create answer)).Accounts executed (created ++ [answer]) := by
  obtain ⟨generated, executedOk, rejected, internalErrors, tablesCreated, ddlFailures⟩ := h
  rcases answer with error | _
  · rcases error with message | message | message
    · constructor <;> simp [counting, Answer.isOk, Answer.isRejected, Answer.isInternal, *]
      omega
    · constructor <;> simp [counting, Answer.isOk, Answer.isRejected, Answer.isInternal, *] <;>
        omega
    · constructor <;> simp [counting, Answer.isOk, Answer.isRejected, Answer.isInternal, *]
  · constructor <;> simp [counting, Answer.isOk, Answer.isRejected, Answer.isInternal, *]

/-- One more call. -/
theorem Accounts.call {calls : List Call} (h : t.Accounts (executions calls) (creations calls))
    (call : Call) :
    (t.counting call).Accounts (executions (calls ++ [call])) (creations (calls ++ [call])) := by
  rw [executions_append, creations_append]
  cases call with
  | load answer =>
      show t.Accounts (executions calls ++ []) (creations calls ++ [])
      rw [List.append_nil, List.append_nil]
      exact h
  | execute statement answer =>
      show (t.counting _).Accounts (executions calls ++ [answer]) (creations calls ++ [])
      rw [List.append_nil]
      exact h.execute statement answer
  | createTable create answer =>
      show (t.counting _).Accounts (executions calls ++ []) (creations calls ++ [answer])
      rw [List.append_nil]
      exact h.createTable create answer

/-- Any number of calls. -/
theorem Accounts.calls :
    ∀ (made : List Call) {t : Tally} {calls : List Call},
      t.Accounts (executions calls) (creations calls) →
      (made.foldl counting t).Accounts (executions (calls ++ made)) (creations (calls ++ made))
  | [], t, calls, h => by
      rw [List.append_nil]
      exact h
  | call :: made, t, calls, h => by
      have rest := Accounts.calls made (h.call call)
      rw [List.append_assoc] at rest
      exact rest

/-- A statement that is executed is an attempt, and no other call is one. -/
theorem attempts_counting (t : Tally) (call : Call) :
    (t.counting call).attempts = t.attempts + (executions [call]).length := by
  rcases call with answer | ⟨statement, answer⟩ | ⟨create, answer⟩
  · rfl
  · have generated : (t.counting (.execute statement answer)).generated = t.generated + 1
        ∧ (t.counting (.execute statement answer)).generationFailures = t.generationFailures := by
      rcases answer with (message | message | message) | _ <;> exact ⟨rfl, rfl⟩
    unfold attempts
    rw [generated.1, generated.2]
    show _ = _ + 1
    omega
  · rcases answer with (message | message | message) | _ <;> rfl

theorem attempts_foldl_counting (made : List Call) :
    ∀ t : Tally, (made.foldl counting t).attempts = t.attempts + (executions made).length := by
  induction made with
  | nil => exact fun _ => rfl
  | cons call made ih =>
      intro t
      have split : executions (call :: made) = executions [call] ++ executions made :=
        executions_append [call] made
      rw [List.foldl_cons, ih, attempts_counting, split, List.length_append]
      omega

end Counting

end Tally

namespace Campaign

variable {σ : Type} {b : Backend σ} {config : CampaignConfig} {c : Campaign σ}

/-! ## §3. Steps. -/

theorem Progress.Becomes.accounts {p q : Progress σ} {made calls : List Call}
    (h : p.Becomes made q) (before : p.tally.Accounts (executions calls) (creations calls)) :
    q.tally.Accounts (executions (calls ++ made)) (creations (calls ++ made)) := by
  rw [h.tally]
  exact before.calls made

theorem Progress.Becomes.attempts {p q : Progress σ} {made : List Call} (h : p.Becomes made q) :
    q.tally.attempts = p.tally.attempts + (executions made).length := by
  rw [h.tally]
  exact Tally.attempts_foldl_counting made p.tally

theorem SchemaEnds.attempts {p : Progress σ} {made : List Call} {e : StepEnd σ}
    (h : SchemaEnds p made e) : e.progress.tally.attempts = p.tally.attempts := by
  rw [h.becomes.attempts]
  cases h <;> rfl

/-- A statement is accounted for by its one call; where there is none, nothing but the
failure is counted. -/
theorem QueryEnds.accounts {p : Progress σ} {made calls : List Call} {e : StepEnd σ}
    (h : QueryEnds config p made e)
    (before : p.tally.Accounts (executions calls) (creations calls)) :
    e.progress.tally.Accounts (executions (calls ++ made)) (creations (calls ++ made)) := by
  obtain next | ⟨rfl, next⟩ := h.becomes
  · exact next.accounts before
  · have missing : p.missing.tally.Accounts (executions calls) (creations calls) :=
      ⟨before.generated, before.executedOk, before.rejected, before.internalErrors,
        before.tablesCreated, before.ddlFailures⟩
    exact next.accounts missing

/-- Unless it faults, the statement of a step is one attempt. -/
theorem QueryEnds.attempts {p : Progress σ} {made : List Call} {e : StepEnd σ}
    (h : QueryEnds config p made e) (sound : ∀ q why, e ≠ .halted q why) :
    e.progress.tally.attempts = p.tally.attempts + 1 := by
  cases h with
  | halted fault next => exact absurd rfl (sound _ _)
  | nothing next ends =>
      have missing : p.missing.tally.attempts = p.tally.attempts + 1 := rfl
      obtain rfl | rfl := ends
      · exact next.attempts.trans missing
      · exact next.attempts.trans missing
  | answered generated up next ends =>
      obtain rfl | ⟨-, rfl⟩ := ends
      · exact next.attempts
      · exact absurd rfl (sound _ _)
  | lost generated next => exact next.attempts

/-- **A step accounts for its calls.** -/
theorem StepEnds.accounts {step : Nat} {p : Progress σ} {made calls : List Call} {e : StepEnd σ}
    (h : StepEnds b config step p made e)
    (before : p.tally.Accounts (executions calls) (creations calls)) :
    e.progress.tally.Accounts (executions (calls ++ made)) (creations (calls ++ made)) := by
  cases h with
  | plain idle last query => exact query.accounts before
  | cut due last schema stop => exact schema.becomes.accounts before
  | whole due first schema last query =>
      rw [← List.append_assoc]
      exact query.accounts (schema.becomes.accounts before)

/-- Unless it faults, a step is one attempt or ends with its schema change. -/
theorem StepEnds.attempts {step : Nat} {p : Progress σ} {made : List Call} {e : StepEnd σ}
    (h : StepEnds b config step p made e) (sound : ∀ q why, e ≠ .halted q why) :
    e.progress.tally.attempts = p.tally.attempts + 1
      ∨ SchemaEnds p made e ∧ ∀ q, e ≠ .goOn q := by
  cases h with
  | plain idle last query => exact .inl (query.attempts sound)
  | cut due last schema stop => exact .inr ⟨schema, stop⟩
  | whole due first schema last query =>
      have changed : _ = p.tally.attempts := schema.attempts
      exact .inl ((query.attempts sound).trans (congrArg (· + 1) changed))

/-- A step that goes on is one attempt. -/
theorem StepEnds.attempts_of_goOn {step : Nat} {p q : Progress σ} {made : List Call}
    (h : StepEnds b config step p made (.goOn q)) : q.tally.attempts = p.tally.attempts + 1 := by
  obtain one | ⟨-, stop⟩ := h.attempts (fun _ _ h => by cases h)
  · exact one
  · exact absurd rfl (stop q)

/-- So is one that loses the connection with its statement. -/
theorem StepEnds.attempts_of_execute {step : Nat} {p q : Progress σ} {made : List Call}
    {crash : Crash} (h : StepEnds b config step p made (.crashed q crash)) {statement : String}
    {answer : Answer} (member : .execute statement answer ∈ made) :
    q.tally.attempts = p.tally.attempts + 1 := by
  obtain one | ⟨schema, -⟩ := h.attempts (fun _ _ h => by cases h)
  · exact one
  · exact absurd member schema.execute_not_mem

/-- One that loses it with its table is none. -/
theorem StepEnds.attempts_of_createTable {step : Nat} {p q : Progress σ} {made : List Call}
    {crash : Crash} (h : StepEnds b config step p made (.crashed q crash)) {create : CreateTable}
    {message : String} (member : .createTable create (.error (.connectionLost message)) ∈ made) :
    q.tally.attempts = p.tally.attempts := by
  cases h with
  | plain idle last query => exact absurd member query.createTable_not_mem
  | cut due last schema stop => exact schema.attempts
  | whole due first schema last query =>
      have up : Up _ := schema.tells
      obtain early | late := List.mem_append.1 member
      · cases up _ early
      · exact absurd late query.createTable_not_mem

/-! ## §4. Runs. -/

/-- After some steps their calls are accounted for, and each of them was an attempt. -/
theorem Course.accounts {parts : List (List Call)} {p : Progress σ}
    (h : Course b config c parts p) :
    p.tally.Accounts (executions parts.flatten) (creations parts.flatten)
      ∧ p.tally.attempts = parts.length := by
  induction h with
  | start => exact ⟨⟨rfl, rfl, rfl, rfl, rfl, rfl⟩, rfl⟩
  | @step parts p q h remaining next ih =>
      have ends := stepOnce_ends b config parts.length p
      rw [next] at ends
      rw [List.flatten_append, List.flatten_singleton, List.length_append]
      exact ⟨ends.accounts ih.1, by rw [ends.attempts_of_goOn, ih.2]; rfl⟩

theorem RunEnds.accounts {parts : List (List Call)} {e : StepEnd σ}
    (h : RunEnds b config c parts e) :
    e.progress.tally.Accounts (executions parts.flatten) (creations parts.flatten) := by
  cases h with
  | whole course all => exact course.accounts.1
  | @cut parts p course remaining stop =>
      rw [List.flatten_append, List.flatten_singleton]
      exact (stepOnce_ends b config parts.length p).accounts course.accounts.1

/-- All steps of a run without a crash were attempts. -/
theorem RunEnds.attempts_of_goOn {parts : List (List Call)} {e : StepEnd σ} {p : Progress σ}
    (h : RunEnds b config c parts e) (went : e = .goOn p) :
    p.tally.attempts = config.iterations := by
  cases h with
  | whole course all =>
      obtain rfl := StepEnd.goOn.inj went
      exact course.accounts.2.trans all
  | cut course remaining stop => exact absurd went (stop p)

/-- Every step before one that is reached was an attempt. -/
theorem Reaches.attempts {n : Nat} {p : Progress σ} (h : Reaches b config c n p) :
    p.tally.attempts = n := by
  obtain ⟨parts, rfl, course⟩ := h.course
  exact course.accounts.2

section Lost

variable {n : Nat} {p : Progress σ} {r : RunReport} {message : String}

/-- When a statement lost the connection, its step was the last attempt. -/
theorem Reaches.attempts_of_execute (h : Reaches b config c n p) (remaining : n < config.iterations)
    (done : (run b config c).1 = .done r) {statement : String}
    (member : .execute statement (.error (.connectionLost message)) ∈ stepCalls b config n p) :
    r.tally.attempts = n + 1 := by
  obtain ⟨q, crashed, ended⟩ := h.run_of_lost remaining member rfl
  obtain rfl := Ending.done.inj (done.symm.trans ended)
  have ends := stepOnce_ends b config n p
  rw [crashed] at ends
  rw [ends.attempts_of_execute member, h.attempts]

/-- When a table lost it, the step before was. -/
theorem Reaches.attempts_of_createTable (h : Reaches b config c n p)
    (remaining : n < config.iterations) (done : (run b config c).1 = .done r) {create : CreateTable}
    (member : .createTable create (.error (.connectionLost message)) ∈ stepCalls b config n p) :
    r.tally.attempts = n := by
  obtain ⟨q, crashed, ended⟩ := h.run_of_lost remaining member rfl
  obtain rfl := Ending.done.inj (done.symm.trans ended)
  have ends := stepOnce_ends b config n p
  rw [crashed] at ends
  rw [ends.attempts_of_createTable member, h.attempts]

end Lost

/-- **THE REPORT OF A RUN ACCOUNTS FOR ITS CALLS**, whatever they were answered.  Its counts
are the numbers of answers of each kind, and every statement that was generated was
submitted.  Its attempts are the steps that got to their statements: all steps without a
crash, those up to step `n` and that one when its statement lost the connection, and those
before it when its table did. -/
theorem run_accounted {r : RunReport} (done : (run b config c).1 = .done r) :
    r.tally.Accounts (executions (transcript b config c)) (creations (transcript b config c))
      ∧ (r.crash = none → r.tally.attempts = config.iterations)
      ∧ (∀ crash, r.crash = some crash → ∃ n p, n < config.iterations ∧ Reaches b config c n p
          ∧ ∃ call ∈ stepCalls b config n p, call.lost? = some crash)
      ∧ ∀ n p, n < config.iterations → Reaches b config c n p → ∀ message,
          (∀ statement,
            .execute statement (.error (.connectionLost message)) ∈ stepCalls b config n p →
            r.tally.attempts = n + 1)
          ∧ ∀ create,
            .createTable create (.error (.connectionLost message)) ∈ stepCalls b config n p →
            r.tally.attempts = n := by
  obtain ⟨parts, e, ends, report, same⟩ := run_ends b config c
  -- the tape of the run tells both: what was counted, and which call lost the connection
  have accounts := ends.accounts
  have tells := ends.tells
  rw [← same] at accounts tells
  have ended : e.ending = .done r := by rw [← done, report]
  refine ⟨?_, fun none => ?_, fun crash named => ?_, fun n p remaining reached message =>
    ⟨fun statement member => reached.attempts_of_execute remaining done member,
      fun create member => reached.attempts_of_createTable remaining done member⟩⟩
  · -- the counts are those of the last step, however it ended
    obtain ⟨p, rfl, rfl⟩ | ⟨p, crash, rfl, rfl⟩ := StepEnd.eq_of_ending_done ended
    · exact accounts
    · exact accounts
  · obtain ⟨p, went, rfl⟩ | ⟨p, crash, -, rfl⟩ := StepEnd.eq_of_ending_done ended
    · exact ends.attempts_of_goOn went
    · cases none
  · obtain ⟨p, -, rfl⟩ | ⟨p, other, rfl, rfl⟩ := StepEnd.eq_of_ending_done ended
    · cases named
    · -- the call that the crash names was made in a step that was reached
      obtain rfl := Option.some.inj named
      obtain ⟨call, member, lost⟩ := LostLast.exists_mem tells
      obtain ⟨n, p, remaining, reached, member⟩ := mem_transcript member
      exact ⟨n, p, remaining, reached, call, member, lost⟩

end Campaign

namespace Sample

theorem scripted_accounted :
    scriptedReport.tally.Accounts
        (executions (Campaign.transcript scripted scriptedConfig scriptedCampaign))
        (creations (Campaign.transcript scripted scriptedConfig scriptedCampaign))
      ∧ ∃ n p, Campaign.Reaches scripted scriptedConfig scriptedCampaign n p
        ∧ ∃ call ∈ Campaign.stepCalls scripted scriptedConfig n p,
          call.lost? = scriptedReport.crash := by
  obtain ⟨accounts, -, crashes, -⟩ := Campaign.run_accounted scripted_run
  obtain ⟨n, p, -, reached, call⟩ := crashes _ rfl
  exact ⟨accounts, n, p, reached, call⟩

end Sample

end QueryFuzz
