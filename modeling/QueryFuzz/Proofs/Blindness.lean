/-
  QueryFuzz.Proofs.Blindness
  ──────────────────────────
  **THE LOG IS WRITTEN AND NEVER READ.**

  Generators share one state with the log.  A generator that is started on
  another log ends the same, and leaves the same state but for the log: the words
  taken, the names handed out and the effort counted do not depend on what was
  logged before.  No step of a generator looks at the log, and what is put together
  from blind generators is blind.

      GenState.withLog — the state with another log
      Gen.Blind g      — whatever the log was, `g` does the same

  Main results:
    * `Gen.Assembled.blind` — what is put together from the steps is blind;
    * `Session.generate_withLog`, `Session.generateTable_withLog` — so are sessions.
-/
import QueryFuzz.Proofs.Assembly
import QueryFuzz.Proofs.Sessions

namespace QueryFuzz

/-- The state with another log. -/
def GenState.withLog (s : GenState) (log : Array Event) : GenState := { s with log }

namespace Gen

variable {α β : Type}

/-! ## §1. Generators. -/

/-- Whatever the log was, the generator ends the same and leaves the same state but for the
log. -/
def Blind (g : Gen α) : Prop :=
  ∀ words s log, ∃ log',
    g words (s.withLog log) = ((g words s).1, (g words s).2.withLog log')

theorem Blind.bind {g : Gen α} {f : α → Gen β} (hg : g.Blind) (hf : ∀ a, (f a).Blind) :
    (g >>= f).Blind := by
  intro words s log
  obtain ⟨log₁, same⟩ := hg words s log
  rw [bind_run, bind_run, same]
  generalize g words s = r
  obtain ⟨o, s'⟩ := r
  cases o with
  | found a =>
      -- the second generator goes on with whatever log the first one leaves
      exact hf a words s' log₁
  | nothing => exact ⟨log₁, rfl⟩
  | halted why => exact ⟨log₁, rfl⟩

theorem Blind.orElse {g h : Gen α} (hg : g.Blind) (hh : h.Blind) : (g.orElse h).Blind := by
  intro words s log
  obtain ⟨log₁, same⟩ := hg words s log
  unfold Gen.orElse
  rw [same]
  generalize g words s = r
  obtain ⟨o, s'⟩ := r
  cases o with
  | found a => exact ⟨log₁, rfl⟩
  | nothing => exact hh words s' log₁
  | halted why => exact ⟨log₁, rfl⟩

/-- **What is put together from the steps is blind.** -/
theorem Assembled.blind {g : Gen α} (h : g.Assembled) : g.Blind := by
  induction h with
  | pure a => exact fun _ _ log => ⟨log, rfl⟩
  | nothing => exact fun _ _ log => ⟨log, rfl⟩
  | halt why => exact fun _ _ log => ⟨log, rfl⟩
  | word => exact fun _ _ log => ⟨log, rfl⟩
  | fresh stem => exact fun _ _ log => ⟨log, rfl⟩
  | @note e remark => exact fun _ _ log => ⟨log.push e, rfl⟩
  | enter => exact fun _ _ log => ⟨log, rfl⟩
  | reach level => exact fun _ _ log => ⟨log, rfl⟩
  | bind first rest hg hf => exact hg.bind hf
  | orElse first second hg hh => exact hg.orElse hh

end Gen

/-! ## §2. Sessions. -/

namespace Session

/-- The session with another log. -/
def withLog (s : Session) (log : Array Event) : Session :=
  { s with state := s.state.withLog log }

/-- A session draws the same whatever was logged before. -/
theorem draw_withLog {α : Type} {g : Gen α} (blind : g.Blind) (s : Session)
    (log : Array Event) :
    ∃ log', (s.withLog log).draw g = ((s.draw g).1, (s.draw g).2.withLog log') := by
  obtain ⟨log', same⟩ := blind s.words s.state log
  have drawn : g (s.withLog log).words (s.withLog log).state = _ := same
  refine ⟨log', ?_⟩
  rw [draw_eq, draw_eq, drawn]
  rfl

/-- **The statement of a session does not depend on its log.** -/
theorem generate_withLog (s : Session) (log : Array Event) :
    ∃ log', (s.withLog log).generate = (s.generate.1, s.generate.2.withLog log') :=
  draw_withLog s.statementGen_assembled.blind { s with state := s.started } log

/-- **The new table of a session does not depend on its log.** -/
theorem generateTable_withLog (s : Session) (log : Array Event) :
    ∃ log', (s.withLog log).generateTable
      = (s.generateTable.1, s.generateTable.2.withLog log') :=
  draw_withLog (Generate.createTable_assembled s.catalog).blind s log

end Session

end QueryFuzz
