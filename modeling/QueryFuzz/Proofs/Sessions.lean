/-
  QueryFuzz.Proofs.Sessions
  ─────────────────────────
  **WHAT A SESSION CAN BECOME.**

  Statements and new tables are generated and catalogs are put in place, in any
  order (`Session.Reaches`).  Whatever comes of it, the session keeps the options
  that it was opened with, which are valid, so with a hard depth cap no draw is
  from an empty range, no chance lies outside [0, 1], no scope is too deep to
  count and no join cuts behind the end of its references.

  Main results:
    * `Session.generateTable_ne_halted` — new tables never fault;
    * `Session.Reaches.generate_fault` — statements end in no fault but the end of
      the rounds that an open-ended loop of dice rolls is granted.
-/
import QueryFuzz.Proofs.Termination

namespace QueryFuzz

/-! ## §1. New tables. -/

namespace Generate

/-- Nothing faults. -/
def Never (_ : Fault) : Prop := False

theorem freeName_draws (c : Catalog) :
    ∀ draws, (freeName c draws).Draws (fun _ => True) Never
  | 0 => Gen.pure_draws trivial
  | draws + 1 => by
      have number : (Gen.below nameNumbers).Draws (fun n => n < nameNumbers) Never :=
        (Gen.below_draws nameNumbers).mono (fun _ h => h) fun _ h => absurd h.2 (by decide)
      refine number.bind fun n _ => ?_
      split
      · exact freeName_draws c draws
      · exact Gen.pure_draws trivial

theorem plainColumn_draws (number : Nat) :
    (plainColumn number).Draws (fun _ => True) Never :=
  sqlType_draws.bind fun _ _ => Gen.coin_draws.bind fun _ _ => Gen.pure_draws trivial

theorem computedColumn_draws (columns : List ColumnDef) :
    (computedColumn columns).Draws (fun _ => True) Never :=
  (Gen.pick_draws (intColumns columns)).bind fun _ _ =>
    (Gen.die_draws_of_ne_zero (by decide)).bind fun _ _ => Gen.pure_draws trivial

/-- A new table is drawn without faults, whatever the catalog. -/
theorem createTable_draws (c : Catalog) : (createTable c).Draws (fun _ => True) Never := by
  refine (freeName_draws c nameDraws).bind fun name _ => ?_
  refine (Gen.die_draws_of_ne_zero (by decide)).bind fun count _ => ?_
  refine (Gen.traverse_draws plainColumn_draws _).bind fun columns _ => ?_
  refine (Gen.chance_draws_of_isProbability (by decide +kernel)).bind fun computes _ => ?_
  split
  · have computed : (((fun d => [d]) <$> computedColumn columns).orElse (pure [])).Draws
        (fun _ => True) Never :=
      ((computedColumn_draws columns).map fun _ _ => trivial).orElse (Gen.pure_draws trivial)
    exact computed.bind fun _ _ => Gen.pure_draws trivial
  · exact Gen.pure_draws trivial

end Generate

/-! ## §2. Sessions. -/

namespace Session

/-- What a session can become while statements and tables are generated and catalogs
are put in place, in any order. -/
inductive Reaches (s : Session) : Session → Prop where
  | start : Reaches s s
  | generate {t : Session} (h : Reaches s t) : Reaches s t.generate.2
  | generateTable {t : Session} (h : Reaches s t) : Reaches s t.generateTable.2
  | setCatalog {t t' : Session} {catalog : Catalog} (h : Reaches s t)
      (set : t.setCatalog catalog = .ok t') : Reaches s t'

/-- A draw keeps the options. -/
theorem draw_options {α : Type} (s : Session) (g : Gen α) : (s.draw g).2.options = s.options := by
  rw [draw_eq]

theorem generate_options (s : Session) : s.generate.2.options = s.options :=
  draw_options { s with state := s.started } (s.statementGen.noting .generationFailed)

theorem generateTable_options (s : Session) : s.generateTable.2.options = s.options :=
  draw_options s (Generate.createTable s.catalog)

theorem setCatalog_options {s s' : Session} {catalog : Catalog}
    (h : s.setCatalog catalog = .ok s') : s'.options = s.options := by
  unfold setCatalog at h
  split at h
  · injection h with h
    rw [← h]
  · cases h

/-- Whatever a session becomes, it keeps its options. -/
theorem Reaches.options {s t : Session} (h : s.Reaches t) : t.options = s.options := by
  induction h with
  | start => rfl
  | generate h ih => rw [generate_options, ih]
  | generateTable h ih => rw [generateTable_options, ih]
  | setCatalog h set ih => rw [setCatalog_options set, ih]

/-- A session that is open has valid options. -/
theorem openOn_options {catalog : Catalog} {options : Options} {words : WordStream}
    {state : GenState} {rounds : Nat} {s : Session}
    (h : openOn catalog options words state rounds = .ok s) :
    s.options = options ∧ options.isValid = true := by
  unfold openOn at h
  cases valid : options.isValid with
  | false => simp [valid] at h
  | true =>
      rw [valid] at h
      cases tables : catalog.hasTables with
      | false => simp [tables] at h
      | true =>
          simp only [tables, Bool.not_true, Bool.false_eq_true, if_false] at h
          injection h with h
          exact ⟨h ▸ rfl, rfl⟩

/-- A session faults on a draw only where the draw does. -/
theorem draw_ne_halted {α : Type} {Q : α → Prop} (s : Session) {g : Gen α}
    (hg : g.Draws Q Generate.Never) (why : Fault) : (s.draw g).1 ≠ .halted why := by
  rw [draw_eq]
  exact (hg s.words s.state).2.2 why

/-- A new table never faults. -/
theorem generateTable_ne_halted (s : Session) (why : Fault) :
    s.generateTable.1 ≠ .halted why :=
  s.draw_ne_halted (Generate.createTable_draws s.catalog) why

/-- Whatever a session with valid options and a cap becomes, the one fault that its
statements may end in is the end of the rounds. -/
theorem Reaches.generate_fault {s t : Session} (h : s.Reaches t) {D : Nat}
    (valid : s.options.isValid = true) (cap : s.options.maxDepth = some D)
    (low : D ≤ 2 ^ 32 - 3) {why : Fault} (fault : t.generate.1 = .halted why) :
    why = .roundsExhausted := by
  have capped : Generate.Capped t.setting D := by
    refine ⟨?_, ?_, low⟩
    · show t.options.isValid = true
      rw [h.options, valid]
    · show t.options.maxDepth = some D
      rw [h.options, cap]
  exact (generate_within capped).2.2 why fault

end Session

end QueryFuzz
