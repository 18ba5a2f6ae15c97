/-
  QueryFuzz.Proofs.Remarks
  ────────────────────────
  **WHAT GENERATORS LOG.**

  Generators write into the log that everything else is written into.  They only
  add to it, and only remarks: that some place, or a whole statement, was given up
  after all attempts.  Whatever else is in the log was put there around them.

      Adds           — a log goes on with further events of some kind
      Gen.Remarks g  — all that `g` does to the log is to add remarks

  Main results:
    * `Gen.Assembled.remarks` — what is put together from the steps only adds remarks;
    * `Session.generate_adds`, `Session.generateTable_adds` — so do sessions.
-/
import QueryFuzz.Proofs.Assembly
import QueryFuzz.Proofs.Sessions

namespace QueryFuzz

/-! ## §1. Logs that go on. -/

/-- The second log is the first one with further events behind, all of them with a property. -/
def Adds (P : Event → Prop) (log log' : Array Event) : Prop :=
  ∃ es, log'.toList = log.toList ++ es ∧ ∀ e ∈ es, P e

namespace Adds

variable {P : Event → Prop} {log log₁ log₂ : Array Event}

theorem refl (P : Event → Prop) (log : Array Event) : Adds P log log := by
  refine ⟨[], (List.append_nil _).symm, ?_⟩
  intro e member
  cases member

theorem trans (h₁ : Adds P log log₁) (h₂ : Adds P log₁ log₂) : Adds P log log₂ := by
  obtain ⟨es₁, same₁, all₁⟩ := h₁
  obtain ⟨es₂, same₂, all₂⟩ := h₂
  refine ⟨es₁ ++ es₂, ?_, List.forall_mem_append.2 ⟨all₁, all₂⟩⟩
  rw [same₂, same₁, List.append_assoc]

theorem push (log : Array Event) {e : Event} (h : P e) : Adds P log (log.push e) :=
  ⟨[e], Array.toList_push, List.forall_mem_singleton.2 h⟩

theorem mono {Q : Event → Prop} (h : Adds P log log₁) (weaker : ∀ e, P e → Q e) :
    Adds Q log log₁ := by
  obtain ⟨es, same, all⟩ := h
  exact ⟨es, same, fun e member => weaker e (all e member)⟩

end Adds

namespace Gen

variable {α β : Type}

/-! ## §2. Generators. -/

/-- All that the generator does to the log is to add remarks, however it ends. -/
def Remarks (g : Gen α) : Prop :=
  ∀ words s, Adds (fun e => e.isRemark = true) s.log (g words s).2.log

theorem Remarks.bind {g : Gen α} {f : α → Gen β} (hg : g.Remarks) (hf : ∀ a, (f a).Remarks) :
    (g >>= f).Remarks := by
  intro words s
  have first := hg words s
  rw [bind_run]
  generalize g words s = r at first ⊢
  obtain ⟨o, s'⟩ := r
  -- what was logged before the generator ended stays, whatever comes of it
  cases o with
  | found a => exact first.trans (hf a words s')
  | nothing => exact first
  | halted why => exact first

theorem Remarks.orElse {g h : Gen α} (hg : g.Remarks) (hh : h.Remarks) :
    (g.orElse h).Remarks := by
  intro words s
  have first := hg words s
  unfold Gen.orElse
  generalize g words s = r at first ⊢
  obtain ⟨o, s'⟩ := r
  cases o with
  | found a => exact first
  | nothing => exact first.trans (hh words s')
  | halted why => exact first

/-- **What is put together from the steps only adds remarks to the log.** -/
theorem Assembled.remarks {g : Gen α} (h : g.Assembled) : g.Remarks := by
  induction h with
  | pure a => exact fun _ s => .refl _ s.log
  | nothing => exact fun _ s => .refl _ s.log
  | halt why => exact fun _ s => .refl _ s.log
  | word => exact fun _ s => .refl _ s.log
  | fresh stem => exact fun _ s => .refl _ s.log
  | note remark => exact fun _ s => .push s.log remark
  | enter => exact fun _ s => .refl _ s.log
  | reach level => exact fun _ s => .refl _ s.log
  | bind first rest hg hf => exact hg.bind hf
  | orElse first second hg hh => exact hg.orElse hh

end Gen

/-! ## §3. Sessions. -/

theorem Session.draw_adds {α : Type} {g : Gen α} (remarks : g.Remarks) (s : Session) :
    Adds (fun e => e.isRemark = true) s.state.log (s.draw g).2.state.log := by
  rw [Session.draw_eq]
  exact remarks s.words s.state

/-- **A statement of a session adds remarks to its log.** -/
theorem Session.generate_adds (s : Session) :
    Adds (fun e => e.isRemark = true) s.state.log s.generate.2.state.log :=
  Session.draw_adds s.statementGen_assembled.remarks { s with state := s.started }

/-- **So does a new table.** -/
theorem Session.generateTable_adds (s : Session) :
    Adds (fun e => e.isRemark = true) s.state.log s.generateTable.2.state.log :=
  Session.draw_adds (Generate.createTable_assembled s.catalog).remarks s

end QueryFuzz
