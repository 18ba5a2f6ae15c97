/-
  QueryFuzz.Proofs.Termination
  ────────────────────────────
  **GENERATION UNDER A HARD DEPTH CAP ENDS ON EVERY STREAM.**

  For a session with valid options and a cap on the depth: the bounds of
  `Proofs.DepthCap` and `Proofs.Height` hold of every statement, and a run
  whose two open-ended loops stop within the rounds that are granted is the
  run of every larger grant (`Proofs.Patience`), so the bound on the calls is
  one on the whole work of the run.
-/
import QueryFuzz.Proofs.DepthCap
import QueryFuzz.Proofs.Height
import QueryFuzz.Proofs.Patience

namespace QueryFuzz

/-- The generator of a session's statements stays within the bounds of the cap: what the
session allows for in height is more than any cap asks for. -/
theorem Session.statementGen_within {s : Session} {D : Nat}
    (hs : Generate.Capped s.setting D) :
    (s.statementGen.noting .generationFailed).Within (s.setting.load.statement D) (D + 2) := by
  have low := hs.low
  have ample : D + 3 ≤ Generate.ampleNesting := by
    unfold Generate.ampleNesting
    omega
  exact (Generate.statement_within hs ample).noting _

/-- What generating a statement costs, and the one fault that it may end in. -/
theorem Session.generate_within {s : Session} {D : Nat} (hs : Generate.Capped s.setting D) :
    s.generate.2.state.entered ≤ s.state.entered + s.setting.load.statement D
      ∧ s.generate.2.state.deepest ≤ max s.state.deepest (D + 2)
      ∧ ∀ why, s.generate.1 = .halted why → why = .roundsExhausted := by
  rw [Session.generate_eq]
  exact Session.statementGen_within hs s.words s.started

/-- **GENERATION IS BOUNDED BY THE DEPTH CAP** on every stream, failed attempts included.
No scope is opened below level `D + 2`; statements are at most `3 * D + 4` high; the
generators that are called are at most `Load.statement D` many, which depends on the
cap, the attempts, the rows, the arguments, the targets and the granted rounds alone; and
unless one of the two open-ended loops goes on after its rounds, generation ends just
as it does with more rounds. -/
theorem Session.generate_bounded {s : Session} {D : Nat} (valid : s.options.isValid = true)
    (cap : s.options.maxDepth = some D) (low : D ≤ 2 ^ 32 - 3) :
    s.generate.2.state.deepest ≤ max s.state.deepest (D + 2)
      ∧ (∀ r s', s.generate = (.found r, s') → r.height ≤ 3 * D + 4)
      ∧ s.generate.2.state.entered ≤ s.state.entered + s.setting.load.statement D
      ∧ (∀ why, s.generate.1 = .halted why → why = .roundsExhausted)
      ∧ (s.generate.1 ≠ .halted .roundsExhausted → ∀ rounds, s.rounds ≤ rounds →
          (s.granting rounds).generate = (s.generate.1, s.generate.2.granting rounds)) := by
  obtain ⟨entered, deepest, faults⟩ := Session.generate_within ⟨valid, cap, low⟩
  refine ⟨deepest, fun r s' h => ?_, entered, faults, fun ended rounds more => ?_⟩
  · have := Session.height_le_of_generate cap h
    omega
  · exact Session.generate_granting more ended

theorem Sample.session_bounded :
    ∃ r s', Sample.session.generate = (.found r, s') ∧ s'.state.deepest ≤ 6 ∧ r.height ≤ 16
      ∧ s'.state.entered ≤ Sample.session.setting.load.statement 4
      ∧ ∀ rounds, Sample.session.rounds ≤ rounds →
        (Sample.session.granting rounds).generate = (.found r, s'.granting rounds) := by
  obtain ⟨r, s', h⟩ := Sample.session_generates
  obtain ⟨deepest, height, entered, -, granting⟩ :=
    Session.generate_bounded (s := Sample.session) (D := 4) (by decide +kernel) rfl (by decide)
  rw [h] at deepest entered granting
  refine ⟨r, s', h, ?_, height r s' h, ?_, granting (by simp)⟩
  · exact Nat.le_trans deepest (by decide)
  · exact Nat.le_trans entered (Nat.le_of_eq (Nat.zero_add _))

end QueryFuzz
