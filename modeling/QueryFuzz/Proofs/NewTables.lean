/-
  QueryFuzz.Proofs.NewTables
  ──────────────────────────
  **A NEW TABLE IS ALWAYS FOUND.**

  Most generators may find nothing and leave it to their callers to try again.
  A new table comes up at the first attempt, whatever the catalog and the words:
  the base types to pick from are some, and an attempt at a computed column
  that finds nothing falls back to no such column.

      Gen.Certain g Q — whatever the words, `g` finds a value of which `Q` holds

  Main results:
    * `Generate.createTable_certain` — the generator of new tables finds one;
    * `Session.generateTable_found` — so does every session, in its catalog.
-/
import QueryFuzz.Proofs.Sessions

namespace QueryFuzz

/-! ## §1. The rules. -/

namespace Gen

variable {α β : Type}

/-- Whatever the words, the generator finds a value of which `Q` holds. -/
def Certain (g : Gen α) (Q : α → Prop) : Prop :=
  ∀ words s, ∃ a s', g words s = (.found a, s') ∧ Q a

section Rules

variable {g : Gen α} {Q : α → Prop} {R : β → Prop}

theorem pure_certain {a : α} (h : Q a) : (pure a : Gen α).Certain Q :=
  fun _ s => ⟨a, s, rfl, h⟩

theorem word_certain : word.Certain fun _ => True :=
  fun words s => ⟨words s.taken, { s with taken := s.taken + 1 }, rfl, trivial⟩

theorem Certain.bind {f : α → Gen β} (hg : g.Certain Q) (hf : ∀ a, Q a → (f a).Certain R) :
    (g >>= f).Certain R := by
  intro words s
  obtain ⟨a, s', found, ha⟩ := hg words s
  rw [bind_found found]
  exact hf a ha words s'

/-- What is found keeps what is known of the draw. -/
theorem Certain.of_draws {F : Fault → Prop} (hg : g.Certain fun _ => True) (h : g.Draws Q F) :
    g.Certain Q := by
  intro words s
  obtain ⟨a, s', found, -⟩ := hg words s
  refine ⟨a, s', found, (h words s).2.1 a ?_⟩
  rw [found]

/-- The second generator has to find something only where the first one does not. -/
theorem Certain.orElse {h : Gen α} (hg : g.Draws Q Generate.Never) (hh : h.Certain Q) :
    (g.orElse h).Certain Q := by
  intro words s
  obtain ⟨-, drawn, sound⟩ := hg words s
  unfold Gen.orElse
  generalize g words s = r at drawn sound ⊢
  obtain ⟨o, s'⟩ := r
  cases o with
  | found a => exact ⟨a, s', rfl, drawn a rfl⟩
  | nothing => exact hh words s'
  | halted why => exact (sound why rfl).elim

theorem traverse_certain {f : α → Gen β} (hf : ∀ a, (f a).Certain R) :
    ∀ as : List α, (traverse f as).Certain fun _ => True
  | [] => pure_certain trivial
  | a :: as => (hf a).bind fun _ _ => (traverse_certain hf as).bind fun _ _ => pure_certain trivial

end Rules

/-! ## §2. Dice, chances and picks. -/

theorem scaled_certain {base : Nat} {digit : Gen Nat} (h : digit.Certain fun _ => True) (n : Nat) :
    (scaled base digit n).Certain fun _ => True := by
  unfold scaled
  refine h.bind fun x _ => ?_
  dsimp only
  split
  · refine h.bind fun y _ => ?_
    split
    · exact pure_certain trivial
    · exact pure_certain trivial
  · exact pure_certain trivial

/-- A draw from some values finds one of them. -/
theorem below_certain {n : Nat} (hn : n ≠ 0) : (below n).Certain fun k => k < n := by
  apply Certain.of_draws _ (below_draws n)
  unfold below
  rw [if_neg hn]
  split
  · exact scaled_certain (word_certain.bind fun _ _ => pure_certain trivial) n
  · have pair : doubleWord.Certain fun _ => True :=
      word_certain.bind fun _ _ => word_certain.bind fun _ _ => pure_certain trivial
    exact scaled_certain pair n

theorem die_certain {n : Nat} (hn : n ≠ 0) : (die n).Certain fun _ => True :=
  (below_certain hn).bind fun _ _ => pure_certain trivial

theorem chance_certain {p : Double} (hp : p.isProbability = true) :
    (chance p).Certain fun _ => True := by
  unfold chance
  rw [hp]
  split
  · exact pure_certain trivial
  · exact word_certain.bind fun _ _ => word_certain.bind fun _ _ => pure_certain trivial

/-- A pick from a list with elements finds one. -/
theorem pick_certain {choices : List α} (some : choices ≠ []) :
    (pick choices).Certain fun _ => True := by
  have length : choices.length ≠ 0 := fun h => some (List.length_eq_zero_iff.1 h)
  have nonempty : choices.isEmpty = false := by simpa using some
  unfold pick
  rw [nonempty]
  refine (below_certain length).bind fun i hi => ?_
  rw [List.getElem?_eq_getElem hi]
  exact pure_certain trivial

end Gen

/-! ## §3. New tables. -/

namespace Generate

theorem sqlType_certain : sqlType.Certain fun _ => True := by
  have base : baseType.Certain fun _ => True := Gen.pick_certain (by decide)
  exact base.bind fun _ _ => Gen.pure_certain trivial

/-- When all draws of a name are taken, the first free number is left. -/
theorem freeName_certain (c : Catalog) :
    ∀ draws, (freeName c draws).Certain fun _ => True
  | 0 => Gen.pure_certain trivial
  | draws + 1 => by
      refine (Gen.below_certain (by decide : nameNumbers ≠ 0)).bind fun n _ => ?_
      split
      · exact freeName_certain c draws
      · exact Gen.pure_certain trivial

theorem plainColumn_certain (number : Nat) : (plainColumn number).Certain fun _ => True :=
  sqlType_certain.bind fun _ _ =>
    (Gen.chance_certain (by decide)).bind fun _ _ => Gen.pure_certain trivial

/-- **A new table is always found**, whatever the catalog. -/
theorem createTable_certain (c : Catalog) : (createTable c).Certain fun _ => True := by
  refine (freeName_certain c nameDraws).bind fun name _ => ?_
  refine (Gen.die_certain (by decide)).bind fun count _ => ?_
  refine (Gen.traverse_certain plainColumn_certain _).bind fun columns _ => ?_
  refine (Gen.chance_certain (by decide +kernel)).bind fun computes _ => ?_
  split
  · -- without an integer column there is nothing to compute from
    have attempt : ((fun d => [d]) <$> computedColumn columns).Draws (fun _ => True) Never :=
      (computedColumn_draws columns).map fun _ _ => trivial
    exact (Gen.Certain.orElse attempt (Gen.pure_certain trivial)).bind fun _ _ =>
      Gen.pure_certain trivial
  · exact Gen.pure_certain trivial

end Generate

/-- **A session always finds a new table**, and keeps its catalog. -/
theorem Session.generateTable_found (s : Session) :
    ∃ create s', s.generateTable = (.found create, s') ∧ s'.catalog = s.catalog := by
  obtain ⟨create, state, found, -⟩ := Generate.createTable_certain s.catalog s.words s.state
  refine ⟨create, { s with state := state }, ?_, rfl⟩
  show s.draw (Generate.createTable s.catalog) = _
  rw [draw_eq, found]

end QueryFuzz
