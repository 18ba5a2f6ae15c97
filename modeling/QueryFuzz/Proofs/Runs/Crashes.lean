/-
  QueryFuzz.Proofs.Runs.Crashes
  ─────────────────────────────
  **A LOST CONNECTION ENDS THE RUN, AND NOTHING LESS DOES.**

  Both calls of a step may lose the connection.  Whichever it is, no call comes
  after it, and the report holds the text that the call was made with and the
  server's last words.  An answer that the server survived ends nothing: behind a
  table that was not created the step goes on to its statement, and behind a
  statement the run goes on to its next step.

      StepEnd.Tells — an end says truly which of the calls lost the connection

  Main results:
    * `Campaign.stepOnce_tells` — every step ends so;
    * `Campaign.RunEnds.tells` — so does every run;
    * `Campaign.crashes_detected` — reports, calls and answers agree.
-/
import QueryFuzz.Proofs.Runs.Course

namespace QueryFuzz

open Backend

/-! ## §1. Calls and their answers. -/

namespace Answer

/-- The statement was carried out. -/
def isOk : Answer → Bool
  | .ok () => true
  | .error _ => false

/-- An ordinary error. -/
def isRejected : Answer → Bool
  | .error (.rejected _) => true
  | _ => false

/-- The engine reported a fault of its own. -/
def isInternal : Answer → Bool
  | .error (.internal _) => true
  | _ => false

theorem eq_of_isRejected {answer : Answer} (h : answer.isRejected = true) :
    ∃ message, answer = .error (.rejected message) := by
  rcases answer with (message | message | message) | _
  · exact ⟨message, rfl⟩
  · cases h
  · cases h
  · cases h

theorem eq_of_isInternal {answer : Answer} (h : answer.isInternal = true) :
    ∃ message, answer = .error (.internal message) := by
  rcases answer with (message | message | message) | _
  · cases h
  · exact ⟨message, rfl⟩
  · cases h
  · cases h

end Answer

/-- The answers to the statements that were executed. -/
def executions (calls : List Call) : List Answer :=
  calls.filterMap fun
    | .execute _ answer => some answer
    | _ => none

/-- The answers to the tables that were to be created. -/
def creations (calls : List Call) : List Answer :=
  calls.filterMap fun
    | .createTable _ answer => some answer
    | _ => none

theorem mem_executions {calls : List Call} {answer : Answer} :
    answer ∈ executions calls ↔ ∃ statement, .execute statement answer ∈ calls := by
  unfold executions
  rw [List.mem_filterMap]
  constructor
  · rintro ⟨call, member, same⟩
    cases call with
    | load loaded => cases same
    | execute statement other =>
        obtain rfl := Option.some.inj same
        exact ⟨statement, member⟩
    | createTable create other => cases same
  · rintro ⟨statement, member⟩
    exact ⟨_, member, rfl⟩

theorem mem_creations {calls : List Call} {answer : Answer} :
    answer ∈ creations calls ↔ ∃ create, .createTable create answer ∈ calls := by
  unfold creations
  rw [List.mem_filterMap]
  constructor
  · rintro ⟨call, member, same⟩
    cases call with
    | load loaded => cases same
    | execute statement other => cases same
    | createTable create other =>
        obtain rfl := Option.some.inj same
        exact ⟨create, member⟩
  · rintro ⟨create, member⟩
    exact ⟨_, member, rfl⟩

/-! ## §2. Calls that lost the connection. -/

/-- None of the calls lost the connection. -/
def Up (calls : List Call) : Prop := ∀ call ∈ calls, call.lost? = none

/-- The last call lost the connection, as the crash says, and none before it did. -/
def LostLast (calls : List Call) (crash : Crash) : Prop :=
  ∃ before call, calls = before ++ [call] ∧ call.lost? = some crash ∧ Up before

/-- The server survived what it was asked to do, and did not do it. -/
def ExecError.Survived (error : ExecError) : Prop :=
  ∃ message, error = .rejected message ∨ error = .internal message

theorem up_nil : Up [] := by
  intro call h
  cases h

theorem Up.append {before after : List Call} (h : Up before) (next : Up after) :
    Up (before ++ after) := by
  intro call member
  obtain first | second := List.mem_append.1 member
  · exact h call first
  · exact next call second

theorem up_singleton {call : Call} (h : call.lost? = none) : Up [call] := by
  intro other member
  rw [List.mem_singleton.1 member]
  exact h

theorem lostLast_singleton {call : Call} {crash : Crash} (h : call.lost? = some crash) :
    LostLast [call] crash :=
  ⟨[], call, rfl, h, up_nil⟩

theorem Up.lostLast {before after : List Call} {crash : Crash} (h : Up before)
    (last : LostLast after crash) : LostLast (before ++ after) crash := by
  obtain ⟨more, call, rfl, lost, up⟩ := last
  exact ⟨before ++ more, call, by rw [List.append_assoc], lost, h.append up⟩

theorem LostLast.exists_mem {calls : List Call} {crash : Crash} (h : LostLast calls crash) :
    ∃ call ∈ calls, call.lost? = some crash := by
  obtain ⟨before, call, rfl, lost, -⟩ := h
  exact ⟨call, List.mem_append_right _ List.mem_cons_self, lost⟩

/-- Whoever lost the connection is the last call. -/
theorem LostLast.eq_of_mem {calls : List Call} {crash other : Crash} (h : LostLast calls crash)
    {call : Call} (member : call ∈ calls) (lost : call.lost? = some other) :
    calls.getLast? = some call ∧ other = crash := by
  obtain ⟨before, last, rfl, same, up⟩ := h
  obtain earlier | latest := List.mem_append.1 member
  · rw [up call earlier] at lost
    cases lost
  · obtain rfl := List.mem_singleton.1 latest
    rw [same] at lost
    exact ⟨List.getLast?_concat, (Option.some.inj lost).symm⟩

theorem ExecError.Survived.execute {error : ExecError} (h : error.Survived) (statement : String) :
    (Call.execute statement (.error error)).lost? = none := by
  obtain ⟨message, rfl | rfl⟩ := h
  · rfl
  · rfl

theorem ExecError.Survived.createTable {error : ExecError} (h : error.Survived)
    (create : CreateTable) : (Call.createTable create (.error error)).lost? = none := by
  obtain ⟨message, rfl | rfl⟩ := h
  · rfl
  · rfl

namespace Campaign

variable {σ : Type} {b : Backend σ} {config : CampaignConfig} {c : Campaign σ}

/-! ## §3. Steps. -/

/-- The end of a step, or of a run, says truly which of the calls lost the connection: the
last one in a crash, and none otherwise. -/
def StepEnd.Tells (calls : List Call) : StepEnd σ → Prop
  | .goOn _ => Up calls
  | .crashed _ crash => LostLast calls crash
  | .failed _ _ => Up calls
  | .halted _ _ => Up calls

/-- An end behind a call that lost the connection is a crash. -/
theorem StepEnd.Tells.eq_crashed {calls : List Call} {e : StepEnd σ} (h : e.Tells calls)
    {call : Call} {crash : Crash} (member : call ∈ calls) (lost : call.lost? = some crash) :
    ∃ q, e = .crashed q crash := by
  cases e with
  | crashed q other =>
      obtain rfl := (LostLast.eq_of_mem h member lost).2
      exact ⟨q, rfl⟩
  | goOn q => rw [h call member] at lost; cases lost
  | failed q error => rw [h call member] at lost; cases lost
  | halted q why => rw [h call member] at lost; cases lost

/-- Calls before that lost nothing make no difference. -/
theorem StepEnd.Tells.after {before calls : List Call} {e : StepEnd σ} (h : e.Tells calls)
    (up : Up before) : e.Tells (before ++ calls) := by
  cases e with
  | goOn q => exact up.append h
  | crashed q crash => exact up.lostLast h
  | failed q error => exact up.append h
  | halted q why => exact up.append h

theorem SchemaEnds.tells {p : Progress σ} {made : List Call} {e : StepEnd σ}
    (h : SchemaEnds p made e) : e.Tells made := by
  cases h with
  | loaded next => exact (up_singleton rfl).append (up_singleton rfl)
  | unloaded next => exact (up_singleton rfl).append (up_singleton rfl)
  | refused up next => exact up_singleton up
  | lost next => exact lostLast_singleton rfl

theorem QueryEnds.tells {p : Progress σ} {made : List Call} {e : StepEnd σ}
    (h : QueryEnds config p made e) : e.Tells made := by
  cases h with
  | halted fault next => exact up_nil
  | nothing next ends =>
      obtain rfl | rfl := ends
      · exact up_nil
      · exact up_nil
  | answered generated up next ends =>
      obtain rfl | ⟨-, rfl⟩ := ends
      · exact up_singleton up
      · exact up_singleton up
  | lost generated next => exact lostLast_singleton rfl

theorem StepEnds.tells {step : Nat} {p : Progress σ} {made : List Call} {e : StepEnd σ}
    (h : StepEnds b config step p made e) : e.Tells made := by
  cases h with
  | plain idle last query => exact query.tells
  | cut due last schema stop => exact schema.tells
  | whole due first schema last query =>
      have up : Up _ := schema.tells
      exact query.tells.after up

/-- **Every step tells which of its calls lost the connection.** -/
theorem stepOnce_tells (b : Backend σ) (config : CampaignConfig) (step : Nat) (p : Progress σ) :
    (stepOnce b config step p).Tells (stepCalls b config step p) :=
  (stepOnce_ends b config step p).tells

theorem QueryEnds.createTable_not_mem {p : Progress σ} {made : List Call} {e : StepEnd σ}
    (h : QueryEnds config p made e) {create : CreateTable} {answer : Answer} :
    .createTable create answer ∉ made := by
  cases h <;> simp

theorem SchemaEnds.execute_not_mem {p : Progress σ} {made : List Call} {e : StepEnd σ}
    (h : SchemaEnds p made e) {statement : String} {answer : Answer} :
    .execute statement answer ∉ made := by
  cases h <;> simp

/-- A schema change that is not carried out, with the server still up, goes on. -/
theorem SchemaEnds.goOn_of_survived {p : Progress σ} {made : List Call} {e : StepEnd σ}
    (h : SchemaEnds p made e) {create : CreateTable} {error : ExecError}
    (survived : error.Survived) (member : .createTable create (.error error) ∈ made) :
    ∃ q, e = .goOn q := by
  cases h with
  | loaded next => exact ⟨_, rfl⟩
  | unloaded next => simp at member
  | refused up next => exact ⟨_, rfl⟩
  | lost next =>
      have up := survived.createTable create
      rw [List.mem_singleton.1 member] at up
      cases up

/-- A statement that was answered, with the server still up, goes on. -/
theorem QueryEnds.goOn_of_survived {p : Progress σ} {made : List Call} {e : StepEnd σ}
    (h : QueryEnds config p made e) (interval : config.profile.progressInterval ≠ 0)
    {statement : String} {error : ExecError} (survived : error.Survived)
    (member : .execute statement (.error error) ∈ made) : ∃ q, e = .goOn q := by
  cases h with
  | halted fault next => cases member
  | nothing next ends => cases member
  | answered generated up next ends =>
      obtain rfl | ⟨zero, -⟩ := ends
      · exact ⟨_, rfl⟩
      · exact absurd zero interval
  | lost generated next =>
      have up := survived.execute statement
      rw [List.mem_singleton.1 member] at up
      cases up

/-- A table that was not created, with the server still up, leaves the step its statement. -/
theorem query_of_survived {step : Nat} {p : Progress σ} {create : CreateTable}
    {error : ExecError} (survived : error.Survived)
    (member : .createTable create (.error error) ∈ stepCalls b config step p) :
    ∃ q, changeSchema b p = .goOn q ∧ stepOnce b config step p = query b config step q := by
  have ends := stepOnce_ends b config step p
  generalize stepCalls b config step p = made at ends member
  cases ends with
  | plain idle last query => exact absurd member query.createTable_not_mem
  | cut due last schema stop =>
      obtain ⟨q, goes⟩ := schema.goOn_of_survived survived member
      exact absurd goes (stop q)
  | whole due first schema last query => exact ⟨_, first, last.symm⟩

/-- A statement that was answered, with the server still up, leaves the run its next step. -/
theorem goOn_of_survived {step : Nat} {p : Progress σ}
    (interval : config.profile.progressInterval ≠ 0) {statement : String} {error : ExecError}
    (survived : error.Survived)
    (member : .execute statement (.error error) ∈ stepCalls b config step p) :
    ∃ q, stepOnce b config step p = .goOn q := by
  have ends := stepOnce_ends b config step p
  generalize stepCalls b config step p = made at ends member
  cases ends with
  | plain idle last query => exact query.goOn_of_survived interval survived member
  | cut due last schema stop => exact absurd member schema.execute_not_mem
  | whole due first schema last query =>
      obtain early | late := List.mem_append.1 member
      · exact absurd early schema.execute_not_mem
      · exact query.goOn_of_survived interval survived late

/-! ## §4. Runs. -/

theorem Course.up {parts : List (List Call)} {p : Progress σ} (h : Course b config c parts p) :
    Up parts.flatten := by
  induction h with
  | start => exact up_nil
  | @step parts p q h remaining next ih =>
      have tells := stepOnce_tells b config parts.length p
      rw [next] at tells
      rw [List.flatten_append, List.flatten_singleton]
      exact ih.append tells

/-- **Every run tells which of its calls lost the connection.** -/
theorem RunEnds.tells {parts : List (List Call)} {e : StepEnd σ} (h : RunEnds b config c parts e) :
    e.Tells parts.flatten := by
  cases h with
  | whole course all => exact course.up
  | @cut parts p course remaining stop =>
      rw [List.flatten_append, List.flatten_singleton]
      exact (stepOnce_tells b config parts.length p).after course.up

/-- A run whose connection is lost in a step ends with that step. -/
theorem Reaches.run_of_lost {n : Nat} {p : Progress σ} (h : Reaches b config c n p)
    (remaining : n < config.iterations) {call : Call} {crash : Crash}
    (member : call ∈ stepCalls b config n p) (lost : call.lost? = some crash) :
    ∃ q, stepOnce b config n p = .crashed q crash
      ∧ (run b config c).1 = .done ⟨q.tally, some crash⟩ := by
  obtain ⟨q, crashed⟩ := (stepOnce_tells b config n p).eq_crashed member lost
  have ended := h.run_of_stop remaining crashed (fun _ h => by cases h)
  exact ⟨q, crashed, congrArg Prod.fst ended⟩

/-- Every call of a run is a call of a step that the run reached. -/
theorem mem_transcript {call : Call} (h : call ∈ transcript b config c) :
    ∃ n p, n < config.iterations ∧ Reaches b config c n p ∧ call ∈ stepCalls b config n p := by
  obtain ⟨parts, e, ends, -, same⟩ := run_ends b config c
  rw [same] at h
  obtain ⟨part, listed, member⟩ := List.mem_flatten.1 h
  obtain ⟨n, there⟩ := List.getElem?_of_mem listed
  obtain ⟨remaining, p, reached, rfl⟩ := ends.getElem?_eq_some_iff.1 there
  exact ⟨n, p, remaining, reached, member⟩

/-- **CRASHES ARE DETECTED.**  A report names a crash just when a call lost the connection;
that call is the last one, and the crash holds the text it was made with and the message it
was answered with.  A run in which a connection was lost never fails.  An answer that the
server survived ends nothing early: a table that was not created leaves its step the
statement, and a statement leaves the run its next step, or its report after the last one. -/
theorem crashes_detected (b : Backend σ) (config : CampaignConfig) (c : Campaign σ) :
    (∀ r, (run b config c).1 = .done r →
        (r.crash.isSome = true ↔ ∃ call ∈ transcript b config c, call.lost?.isSome = true)
        ∧ ∀ crash, r.crash = some crash → LostLast (transcript b config c) crash)
      ∧ (∀ call ∈ transcript b config c, call.lost?.isSome = true →
          ∃ r, (run b config c).1 = .done r ∧ r.crash = call.lost?)
      ∧ (∀ call ∈ transcript b config c,
          ∃ n p, n < config.iterations ∧ Reaches b config c n p
            ∧ call ∈ stepCalls b config n p)
      ∧ (∀ n p, n < config.iterations → Reaches b config c n p → ∀ error, error.Survived →
          (∀ create, .createTable create (.error error) ∈ stepCalls b config n p →
            ∃ q, changeSchema b p = .goOn q ∧ stepOnce b config n p = query b config n q)
          ∧ (∀ statement, .execute statement (.error error) ∈ stepCalls b config n p →
            config.profile.progressInterval ≠ 0 → ∃ q, Reaches b config c (n + 1) q))
      ∧ ∀ p, Reaches b config c config.iterations p →
          (run b config c).1 = .done ⟨p.tally, none⟩ := by
  obtain ⟨parts, e, ends, report, same⟩ := run_ends b config c
  have tells : e.Tells (transcript b config c) := same ▸ ends.tells
  refine ⟨fun r done => ?_, fun call member lost => ?_, fun call => mem_transcript,
    fun n p remaining reached error survived => ⟨fun create => query_of_survived survived,
      fun statement member interval => ?_⟩, fun p reached => reached.run_of_all⟩
  · -- a report is of all steps, or of a crash; either tells which call lost the connection
    have ended : e.ending = .done r := by rw [← done, report]
    obtain ⟨p, rfl, rfl⟩ | ⟨p, crash, rfl, rfl⟩ := StepEnd.eq_of_ending_done ended
    · refine ⟨⟨fun h => (by cases h), fun ⟨call, member, lost⟩ => ?_⟩, fun _ h => by cases h⟩
      rw [tells call member] at lost
      cases lost
    · obtain ⟨call, member, lost⟩ := LostLast.exists_mem tells
      refine ⟨⟨fun _ => ⟨call, member, by rw [lost]; rfl⟩, fun _ => rfl⟩, fun other h => ?_⟩
      obtain rfl := Option.some.inj h
      exact tells
  · -- no other end comes behind a lost connection
    obtain ⟨crash, named⟩ := Option.isSome_iff_exists.1 lost
    obtain ⟨p, rfl⟩ := tells.eq_crashed member named
    exact ⟨⟨p.tally, some crash⟩, congrArg Prod.fst report, named.symm⟩
  · obtain ⟨q, next⟩ := goOn_of_survived interval survived member
    exact ⟨q, reached.step remaining next⟩

end Campaign

namespace Sample

/-- A database whose catalog stays, and that answers from a script before it carries out
whatever it is asked for. -/
def scripted : Backend (Catalog × List Answer) where
  load s := (⟨.ok s.1, []⟩, s)
  execute _ s := (s.2.headD (.ok ()), s.1, s.2.tail)
  createTable _ s := (s.2.headD (.ok ()), s.1, s.2.tail)

/-- A fault of the engine, an ordinary error and a success before the server is gone. -/
def script : List Answer :=
  [.error (.internal "caught panic"), .error (.rejected "type mismatch"), .ok (),
    .error (.connectionLost "connection reset")]

/-- Four steps with a new table in every other one. -/
def scriptedConfig : CampaignConfig where
  seed := 0
  iterations := 4
  loud := false
  profile := { ddlInterval := 2 }

/-- The sample session against the scripted database. -/
def scriptedCampaign : Campaign (Catalog × List Answer) := ⟨session, (draft.build, script)⟩

/-- What was reported. -/
def report? : Ending RunReport → Option RunReport
  | .done r => some r
  | .failed _ => none
  | .halted _ => none

/-- The server goes away in step 2, while its table is created. -/
def scriptedReport : RunReport where
  tally :=
    { generated := 2, executedOk := 1, rejected := 1, internalErrors := 1, ddlFailures := 1 }
  crash := some ⟨"create table table_999999 (col_1 string)", "connection reset"⟩

theorem scripted_run :
    (Campaign.run scripted scriptedConfig scriptedCampaign).1 = .done scriptedReport := by
  have reported : report? (Campaign.run scripted scriptedConfig scriptedCampaign).1
      = some scriptedReport := by decide +kernel
  generalize (Campaign.run scripted scriptedConfig scriptedCampaign).1 = ended at reported ⊢
  cases ended with
  | done r => rw [Option.some.inj reported]
  | failed error => cases reported
  | halted why => cases reported

theorem scripted_crashes_detected :
    (∃ crash, scriptedReport.crash = some crash
        ∧ LostLast (Campaign.transcript scripted scriptedConfig scriptedCampaign) crash)
      ∧ (∃ q, Campaign.stepOnce scripted scriptedConfig 0 { campaign := scriptedCampaign }
          = Campaign.query scripted scriptedConfig 0 q)
      ∧ ∃ q, Campaign.Reaches scripted scriptedConfig scriptedCampaign 1 q := by
  obtain ⟨reports, -, -, survives, -⟩ :=
    Campaign.crashes_detected scripted scriptedConfig scriptedCampaign
  have first := survives 0 _ (by decide) .start
  -- the table of step 0 ends in a fault, and its statement is rejected
  obtain ⟨answer, member, internal⟩ : ∃ answer ∈ creations (Campaign.stepCalls scripted
      scriptedConfig 0 { campaign := scriptedCampaign }), answer.isInternal = true :=
    List.any_eq_true.1 (by decide +kernel)
  obtain ⟨message, rfl⟩ := Answer.eq_of_isInternal internal
  obtain ⟨create, created⟩ := mem_creations.1 member
  obtain ⟨q, -, goes⟩ := (first _ ⟨_, .inr rfl⟩).1 create created
  obtain ⟨answer, member, rejected⟩ : ∃ answer ∈ executions (Campaign.stepCalls scripted
      scriptedConfig 0 { campaign := scriptedCampaign }), answer.isRejected = true :=
    List.any_eq_true.1 (by decide +kernel)
  obtain ⟨message, rfl⟩ := Answer.eq_of_isRejected rejected
  obtain ⟨statement, executed⟩ := mem_executions.1 member
  exact ⟨⟨_, rfl, (reports _ scripted_run).2 _ rfl⟩, ⟨q, goes⟩,
    (first _ ⟨_, .inl rfl⟩).2 statement executed (by decide)⟩

end Sample

end QueryFuzz
