/-
  QueryFuzz.Proofs.Patience
  ─────────────────────────
  **MORE ROUNDS CHANGE NOTHING BUT THE END OF THE ROUNDS.**

  Two loops of dice rolls have no bound of their own, and a session grants them
  a number of rounds.  The number is no part of what the generators mean: a
  run in which no loop comes to the end of its rounds is the same run, word
  for word and event for event, whatever larger number is granted.

      Gen.Outlasts g' g — `g'` does what `g` does, unless the rounds of `g` end

  Main result:
    * `Session.generate_granting` — of a session's statements.
-/
import QueryFuzz.Proofs.Soundness

namespace QueryFuzz.Gen

variable {α β : Type}

/-! ## §1. The rules. -/

/-- The second generator runs out of rounds, or the first one does the same. -/
def Outlasts (g' g : Gen α) : Prop :=
  ∀ words s, (g words s).1 = .halted .roundsExhausted ∨ g' words s = g words s

section Rules

variable {g g' : Gen α}

theorem Outlasts.refl (g : Gen α) : g.Outlasts g := fun _ _ => Or.inr rfl

theorem outlasts_exhausted (g' : Gen α) : g'.Outlasts (halt .roundsExhausted) :=
  fun _ _ => Or.inl rfl

theorem Outlasts.bind {f f' : α → Gen β} (hg : g'.Outlasts g)
    (hf : ∀ a, (f' a).Outlasts (f a)) : (g' >>= f').Outlasts (g >>= f) := by
  intro words s
  rw [bind_run, bind_run]
  obtain ended | same := hg words s
  · left
    generalize g words s = r at ended ⊢
    obtain ⟨o, s'⟩ := r
    cases ended
    rfl
  · rw [same]
    generalize g words s = r
    obtain ⟨o, s'⟩ := r
    cases o with
    | found a => exact hf a words s'
    | nothing => exact Or.inr rfl
    | halted why => exact Or.inr rfl

/-- What comes before an open-ended loop is the same. -/
theorem Outlasts.after {f f' : α → Gen β} (hf : ∀ a, (f' a).Outlasts (f a)) :
    (g >>= f').Outlasts (g >>= f) :=
  (Outlasts.refl g).bind hf

theorem Outlasts.map (hg : g'.Outlasts g) (f : α → β) : (f <$> g').Outlasts (f <$> g) :=
  hg.bind fun a => Outlasts.refl (pure (f a))

theorem Outlasts.orElse {h h' : Gen α} (hg : g'.Outlasts g) (hh : h'.Outlasts h) :
    (g'.orElse h').Outlasts (g.orElse h) := by
  intro words s
  unfold Gen.orElse
  obtain ended | same := hg words s
  · left
    generalize g words s = r at ended ⊢
    obtain ⟨o, s'⟩ := r
    cases ended
    rfl
  · rw [same]
    generalize g words s = r
    obtain ⟨o, s'⟩ := r
    cases o with
    | found a => exact Or.inr rfl
    | nothing => exact hh words s'
    | halted why => exact Or.inr rfl

theorem Outlasts.noting (hg : g'.Outlasts g) (e : Event) :
    (g'.noting e).Outlasts (g.noting e) :=
  hg.orElse (.refl _)

theorem Outlasts.retry (hg : g'.Outlasts g) (n : Nat) :
    (Gen.retry n g').Outlasts (Gen.retry n g) := by
  induction n with
  | zero => exact .refl _
  | succ n ih =>
      rw [retry_succ, retry_succ]
      exact hg.orElse ih

theorem Outlasts.times (hg : g'.Outlasts g) (n : Nat) :
    (Gen.times n g').Outlasts (Gen.times n g) := by
  induction n with
  | zero => exact .refl _
  | succ n ih => exact hg.bind fun a => ih.map _

theorem Outlasts.traverse {f f' : α → Gen β} (hf : ∀ a, (f' a).Outlasts (f a)) :
    ∀ as, (Gen.traverse f' as).Outlasts (Gen.traverse f as)
  | [] => .refl _
  | a :: as => (hf a).bind fun _ => (Outlasts.traverse hf as).map _

end Rules

end QueryFuzz.Gen

namespace QueryFuzz

namespace Generate

/-! ## §2. The generators. -/

/-- The setting that grants another number of rounds. -/
def Setting.granting (S : Setting) (rounds : Nat) : Setting := { S with rounds }

/-- The generators of one height outlast those of another setting. -/
structure Lower.Outlasts (lower' lower : Lower) : Prop where
  scalar : ∀ scope t, (lower'.scalar scope t).Outlasts (lower.scalar scope t)
  predicate : ∀ scope, (lower'.predicate scope).Outlasts (lower.predicate scope)
  source : ∀ scope, (lower'.source scope).Outlasts (lower.source scope)
  returning : ∀ scope desired,
    (lower'.returning scope desired).Outlasts (lower.returning scope desired)

section Outlasts

variable {S : Setting} {rounds : Nat} {lower lower' : Lower}

theorem moreTypes_outlasts {few many : Nat} (h : few ≤ many) :
    (moreTypes many).Outlasts (moreTypes few) := by
  induction few generalizing many with
  | zero => exact Gen.outlasts_exhausted _
  | succ few ih =>
      obtain ⟨many, rfl⟩ : ∃ m, many = m + 1 := ⟨many - 1, by omega⟩
      refine .after fun roll => ?_
      split
      · exact .refl _
      · exact .after fun t => (ih (Nat.le_of_succ_le_succ h)).map _

theorem desiredOrRandom_outlasts {few many : Nat} (h : few ≤ many) :
    ∀ desired, (desiredOrRandom many desired).Outlasts (desiredOrRandom few desired)
  | some [] => .refl _
  | some (_ :: _) => .refl _
  | none => .after fun _ => (moreTypes_outlasts h).map _

theorem orderTerms_outlasts (hl : lower'.Outlasts lower) (scope : Scope) {few many : Nat}
    (h : few ≤ many) : (orderTerms lower' scope many).Outlasts (orderTerms lower scope few) := by
  induction few generalizing many with
  | zero => exact Gen.outlasts_exhausted _
  | succ few ih =>
      obtain ⟨many, rfl⟩ : ∃ m, many = m + 1 := ⟨many - 1, by omega⟩
      refine .after fun heads => ?_
      cases heads with
      | false => exact .refl _
      | true => exact (hl.scalar scope .any).bind fun e => (ih (Nat.le_of_succ_le_succ h)).map _

theorem binary_outlasts (hl : lower'.Outlasts lower) (scope : Scope) (t : SqlType) :
    (binary (S.granting rounds) lower' scope t).Outlasts (binary S lower scope t) :=
  .after fun _ => .after fun _ => .after fun op =>
    (hl.scalar scope op.left).bind fun _ => (hl.scalar scope op.right).map _

theorem call_outlasts (hl : lower'.Outlasts lower) (scope : Scope) (t : SqlType) :
    (call (S.granting rounds) lower' scope t).Outlasts (call S lower scope t) :=
  .after fun _ => .after fun _ => .after fun _ =>
    (Gen.Outlasts.traverse (hl.scalar scope) _).map _

theorem select_outlasts (hl : lower'.Outlasts lower) (more : S.rounds ≤ rounds) (scope : Scope)
    (desired : Option (List SqlType)) :
    (select (S.granting rounds) lower' scope desired).Outlasts
      (select S lower scope desired) := by
  refine .after fun _ => (hl.source scope).bind fun p => ?_
  obtain ⟨inner, source⟩ := p
  have items : (selectList (S.granting rounds) lower' inner desired).Outlasts
      (selectList S lower inner desired) :=
    .after fun _ => (desiredOrRandom_outlasts more desired).bind fun types =>
      .traverse (hl.scalar inner) types
  have condition : (filter lower' inner).Outlasts (filter lower inner) := by
    refine .after fun heads => ?_
    cases heads with
    | false => exact .refl _
    | true => exact (hl.predicate inner).map _
  refine items.bind fun _ => condition.bind fun _ => ?_
  exact (orderTerms_outlasts hl inner more).bind fun _ => .refl _

theorem attempt_outlasts (hl : lower'.Outlasts lower) (more : S.rounds ≤ rounds) (scope : Scope)
    (requested picked : SqlType) :
    (attempt (S.granting rounds) lower' scope requested picked).Outlasts
      (attempt S lower scope requested picked) := by
  unfold attempt
  show Gen.Outlasts (if scope.atDepthLimit S.options = true then _ else _) _
  split
  · exact .refl _
  refine .after fun _ => ?_
  split
  · exact .after fun _ => (hl.scalar scope .bool).bind fun _ =>
      (hl.scalar scope picked).bind fun _ => (hl.scalar scope picked).map _
  refine .after fun _ => ?_
  split
  · exact .after fun _ => (hl.scalar scope picked).bind fun _ => (hl.scalar scope picked).map _
  refine .after fun _ => ?_
  split
  · exact .refl _
  refine .after fun _ => ?_
  split
  · exact binary_outlasts hl scope requested
  refine .after fun _ => ?_
  split
  · exact call_outlasts hl scope requested
  refine .after fun _ => ?_
  split
  · exact .after fun _ => (select_outlasts hl more scope _).bind fun _ => .refl _
  · exact .refl _

theorem scalar_outlasts (hl : lower'.Outlasts lower) (more : S.rounds ≤ rounds) (scope : Scope)
    (t : SqlType) :
    (scalar (S.granting rounds) lower' scope t).Outlasts (scalar S lower scope t) :=
  .after fun _ => .after fun picked => .after fun inner =>
    ((attempt_outlasts hl more inner t picked).retry _).noting _

theorem predicate_outlasts (hl : lower'.Outlasts lower) (more : S.rounds ≤ rounds)
    (scope : Scope) :
    (predicate (S.granting rounds) lower' scope).Outlasts (predicate S lower scope) := by
  refine .after fun _ => ?_
  show Gen.Outlasts (if scope.atDepthLimit S.options = true then _ else _) _
  split
  · exact hl.scalar scope .bool
  refine .after fun inner => (Gen.Outlasts.retry (.after fun first => ?_) _).noting _
  split
  · exact binary_outlasts hl inner .bool
  refine .after fun second => ?_
  split
  · exact hl.scalar inner .bool
  · exact .after fun _ => (select_outlasts hl more inner none).map _

theorem source_outlasts (hl : lower'.Outlasts lower) (scope : Scope) :
    (source (S.granting rounds) lower' scope).Outlasts (source S lower scope) := by
  refine .after fun _ => .after fun joined => ?_
  split
  · refine .after fun _ => .after fun inner => ?_
    refine (hl.source inner).bind fun left => (hl.source inner).bind fun right => ?_
    exact .after fun _ => .after fun _ => (hl.predicate _).map _
  · exact .refl _

theorem values_outlasts (hl : lower'.Outlasts lower) (more : S.rounds ≤ rounds) (scope : Scope)
    (desired : Option (List SqlType)) :
    (values (S.granting rounds) lower' scope desired).Outlasts (values S lower scope desired) :=
  .after fun _ => .after fun inner => (desiredOrRandom_outlasts more desired).bind fun types =>
    .after fun count => (Gen.Outlasts.times (.traverse (hl.scalar inner) types) count).map _

theorem returning_outlasts (hl : lower'.Outlasts lower) (more : S.rounds ≤ rounds)
    (scope : Scope) (desired : Option (List SqlType)) :
    (returning (S.granting rounds) lower' scope desired).Outlasts
      (returning S lower scope desired) := by
  refine .after fun _ => ?_
  show Gen.Outlasts (if desired = some [] then _ else
    if scope.atDepthLimit S.options = true then _ else _) _
  split
  · exact .refl _
  split
  · exact values_outlasts hl more scope desired
  refine (Gen.Outlasts.retry (.after fun _ => ?_) _).noting _
  split
  · refine .after fun _ => .after fun inner => ?_
    refine (desiredOrRandom_outlasts more desired).bind fun types => ?_
    exact (hl.returning inner _).bind fun _ => (hl.returning inner _).bind fun _ => .refl _
  refine .after fun _ => ?_
  split
  · exact values_outlasts hl more scope desired
  · exact (select_outlasts hl more scope desired).map _

/-- **Towers outlast towers of fewer rounds**, height by height. -/
theorem tower_outlasts (more : S.rounds ≤ rounds) (n : Nat) :
    (tower (S.granting rounds) n).Outlasts (tower S n) := by
  induction n with
  | zero => exact ⟨fun _ _ => .refl _, fun _ => .refl _, fun _ => .refl _, fun _ _ => .refl _⟩
  | succ n ih =>
      exact
        { scalar := fun scope t => scalar_outlasts ih more scope t
          predicate := fun scope => predicate_outlasts ih more scope
          source := fun scope => source_outlasts ih scope
          returning := fun scope desired => returning_outlasts ih more scope desired }

theorem statement_outlasts (hl : lower'.Outlasts lower) (scope : Scope) :
    (statement (S.granting rounds) lower' scope).Outlasts (statement S lower scope) := by
  refine .after fun _ => .after fun inserting => ?_
  cases inserting with
  | false => exact hl.returning scope none
  | true =>
      refine .after fun _ => .after fun table => .after fun targets => ?_
      split
      · exact .refl _
      · exact (hl.returning scope _).map _

end Outlasts

end Generate

/-! ## §3. Sessions. -/

/-- The session that grants another number of rounds. -/
def Session.granting (s : Session) (rounds : Nat) : Session := { s with rounds }

/-- **A statement that no loop ran out of rounds for is generated with more rounds, too**,
and leaves the same state behind. -/
theorem Session.generate_granting {s : Session} {rounds : Nat} (more : s.rounds ≤ rounds)
    (h : s.generate.1 ≠ .halted .roundsExhausted) :
    (s.granting rounds).generate = (s.generate.1, s.generate.2.granting rounds) := by
  have outlasts : ((s.granting rounds).statementGen.noting .generationFailed).Outlasts
      (s.statementGen.noting .generationFailed) := by
    have lower := Generate.tower_outlasts (S := s.setting) more Generate.ampleNesting
    exact (Generate.statement_outlasts lower Generate.Scope.root).noting _
  rw [Session.generate_eq] at h ⊢
  rw [Session.generate_eq]
  obtain ended | same := outlasts s.words s.started
  · exact absurd ended h
  · unfold Session.granting Session.started at same ⊢
    dsimp only at same ⊢
    rw [same]

end QueryFuzz
