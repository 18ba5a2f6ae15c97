/-
  QueryFuzz.Proofs.Mirroring
  ──────────────────────────
  **GENERATION DOES NOT LOOK AT NAMES.**

  Generators choose by position, by type and by dice.  Over a schema under other
  names they therefore take the same words, hand out the same aliases, enter the
  same generators and log the same events, and find what they found before under
  those other names.  No two names have to stay apart for that.  There is one rule
  for each way to put generators together, and one lemma for each generator.

      g'.Mirrors f g — on all words, from all states, `g'` does what `g` does, and
                       finds `f a` where `g` finds `a`

  Main results:
    * `Generate.tower_mirrors` — all generators mirror themselves over another schema;
    * `Session.generate_rename` — so do sessions.
-/
import QueryFuzz.Proofs.Effort
import QueryFuzz.Proofs.Renaming

namespace QueryFuzz

/-- What comes of an outcome when something is made of what was found. -/
def Outcome.map {α β : Type} (f : α → β) : Outcome α → Outcome β
  | .found a => .found (f a)
  | .nothing => .nothing
  | .halted why => .halted why

namespace Gen

variable {α β γ δ : Type}

/-! ## §1. The rules. -/

/-- Whatever the words and the state are, the first generator leaves the state that the
second one leaves and ends as it does, with `f a` in the place of `a`. -/
def Mirrors (g' : Gen β) (f : α → β) (g : Gen α) : Prop :=
  ∀ words s, g' words s = ((g words s).1.map f, (g words s).2)

section Rules

variable {g : Gen α} {g' : Gen β} {f : α → β}

theorem pure_mirrors {a : α} {b : β} (h : f a = b) :
    (pure b : Gen β).Mirrors f (pure a : Gen α) := by
  intro words s
  rw [← h]
  rfl

theorem nothing_mirrors : (nothing : Gen β).Mirrors f (nothing : Gen α) := fun _ _ => rfl

theorem halt_mirrors {why : Fault} : (halt why : Gen β).Mirrors f (halt why : Gen α) :=
  fun _ _ => rfl

/-- A generator that mentions no names is its own mirror image. -/
theorem Mirrors.refl (g : Gen α) : g.Mirrors id g := by
  intro words s
  generalize g words s = r
  obtain ⟨o, s'⟩ := r
  cases o <;> rfl

theorem Mirrors.bind {k : α → Gen γ} {k' : β → Gen δ} {h : γ → δ} (hg : g'.Mirrors f g)
    (hk : ∀ a, g.MayFind a → (k' (f a)).Mirrors h (k a)) :
    (g' >>= k').Mirrors h (g >>= k) := by
  intro words s
  -- the rest is compared only for what `g` finds from here
  have found : ∀ a, (g words s).1 = .found a → (k' (f a)).Mirrors h (k a) :=
    fun a ha => hk a ⟨words, s, ha⟩
  rw [bind_run, bind_run, hg words s]
  generalize g words s = r at found
  obtain ⟨o, s'⟩ := r
  cases o with
  | found a => exact found a rfl words s'
  | nothing => rfl
  | halted why => rfl

/-- The same draws come before both. -/
theorem Mirrors.after {k : α → Gen γ} {k' : α → Gen δ} {h : γ → δ}
    (hk : ∀ a, (k' a).Mirrors h (k a)) : (g >>= k').Mirrors h (g >>= k) :=
  (Mirrors.refl g).bind fun a _ => hk a

theorem Mirrors.map {F : α → γ} {F' : β → δ} {h : γ → δ} (hg : g'.Mirrors f g)
    (same : ∀ a, h (F a) = F' (f a)) : (F' <$> g').Mirrors h (F <$> g) :=
  hg.bind fun a _ => pure_mirrors (same a)

/-- A test that comes out the same on both sides. -/
theorem Mirrors.ite {p : Prop} [Decidable p] {h : Gen α} {h' : Gen β} (hg : g'.Mirrors f g)
    (hh : h'.Mirrors f h) : (if p then g' else h').Mirrors f (if p then g else h) := by
  by_cases hp : p
  · rw [if_pos hp, if_pos hp]
    exact hg
  · rw [if_neg hp, if_neg hp]
    exact hh

theorem Mirrors.orElse {h : Gen α} {h' : Gen β} (hg : g'.Mirrors f g) (hh : h'.Mirrors f h) :
    (g'.orElse h').Mirrors f (g.orElse h) := by
  intro words s
  unfold Gen.orElse
  rw [hg words s]
  generalize g words s = r
  obtain ⟨o, s'⟩ := r
  cases o with
  | found a => rfl
  | nothing => exact hh words s'
  | halted why => rfl

theorem Mirrors.noting (hg : g'.Mirrors f g) (e : Event) :
    (g'.noting e).Mirrors f (g.noting e) :=
  hg.orElse (.after fun _ => nothing_mirrors)

theorem Mirrors.retry (hg : g'.Mirrors f g) (n : Nat) :
    (Gen.retry n g').Mirrors f (Gen.retry n g) := by
  induction n with
  | zero => exact nothing_mirrors
  | succ n ih =>
      rw [retry_succ, retry_succ]
      exact hg.orElse ih

theorem Mirrors.times (hg : g'.Mirrors f g) (n : Nat) :
    (Gen.times n g').Mirrors (List.map f) (Gen.times n g) := by
  induction n with
  | zero => exact pure_mirrors rfl
  | succ n ih => exact hg.bind fun a _ => ih.map fun _ => rfl

theorem traverse_mirrors {k : γ → Gen α} {k' : γ → Gen β} (hk : ∀ c, (k' c).Mirrors f (k c)) :
    ∀ cs, (traverse k' cs).Mirrors (List.map f) (traverse k cs)
  | [] => pure_mirrors rfl
  | c :: cs => (hk c).bind fun _ _ => (traverse_mirrors hk cs).map fun _ => rfl

/-- Elements are picked by their places. -/
theorem pick_mirrors (f : α → β) (choices : List α) :
    (pick (choices.map f)).Mirrors f (pick choices) := by
  unfold pick
  rw [List.isEmpty_map, List.length_map]
  refine .ite nothing_mirrors (.after fun i => ?_)
  rw [List.getElem?_map]
  cases choices[i]? with
  | none => exact nothing_mirrors
  | some a => exact pure_mirrors rfl

end Rules

end Gen

namespace Generate

open Gen (pure_mirrors nothing_mirrors halt_mirrors pick_mirrors traverse_mirrors)

/-! ## §2. Settings and scopes. -/

/-- The setting over the schema under other names. -/
def Setting.rename (ρ : Renaming) (S : Setting) : Setting :=
  { S with catalog := S.catalog.rename ρ }

/-- The scope that sees the same references, their tables under other names. -/
def Scope.rename (ρ : Renaming) (scope : Scope) : Scope :=
  { scope with refs := scope.refs.map (TableRef.rename ρ) }

/-- A FROM item with the scope that sees it. -/
def renameSource (ρ : Renaming) (found : Scope × Relation) : Scope × Relation :=
  (found.1.rename ρ, found.2.rename ρ)

section Mirrors

variable {ρ : Renaming} {S : Setting} {lower lower' : Lower}

theorem Scope.rename_seeing (scope : Scope) (refs : List TableRef) :
    (scope.seeing refs).rename ρ = (scope.rename ρ).seeing (refs.map (TableRef.rename ρ)) := by
  unfold Scope.rename seeing
  rw [List.map_append]

theorem push_mirrors (scope : Scope) :
    (scope.rename ρ).push.Mirrors (Scope.rename ρ) scope.push :=
  .ite (.after fun _ => pure_mirrors rfl) halt_mirrors

theorem refsFrom_mirrors (scope : Scope) (start : Nat) :
    ((scope.rename ρ).refsFrom start).Mirrors (List.map (TableRef.rename ρ))
      (scope.refsFrom start) := by
  unfold Scope.refsFrom Scope.rename
  rw [List.length_map]
  exact .ite (pure_mirrors List.map_drop) halt_mirrors

theorem refers_mirrors (scope : Scope) :
    (refers (scope.rename ρ)).Mirrors id (refers scope) := by
  unfold refers Scope.rename
  rw [List.isEmpty_map]
  exact .refl _

/-- What a sound generator finds behind FROM is a table or a join. -/
theorem Derives.isItem {scope : Scope} {r : Relation} {k k' : Nat}
    (d : Derives S (.source scope r) k k') : r.isItem = true := by
  generalize hj : Judgement.source scope r = j at d
  induction d with
  | skip le d ih => exact ih hj
  | table listed =>
      cases hj
      rfl
  | join above shallow hleft hright hon =>
      cases hj
      rfl
  | _ => cases hj

theorem Lower.Sound.isItem (hs : lower.Sound S) {scope : Scope} {p : Scope × Relation}
    (h : (lower.source scope).MayFind p) : p.2.isItem = true := by
  obtain ⟨k, k', -, d⟩ := Gen.Finds.mayFind (hs.source scope) h
  exact d.isItem

/-! ## §3. Expressions. -/

/-- The generators of one height mirror others over the schema under other names. -/
structure Lower.Mirrors (ρ : Renaming) (lower' lower : Lower) : Prop where
  scalar : ∀ scope t,
    (lower'.scalar (scope.rename ρ) t).Mirrors (Scalar.rename ρ) (lower.scalar scope t)
  predicate : ∀ scope,
    (lower'.predicate (scope.rename ρ)).Mirrors (Scalar.rename ρ) (lower.predicate scope)
  source : ∀ scope,
    (lower'.source (scope.rename ρ)).Mirrors (renameSource ρ) (lower.source scope)
  returning : ∀ scope desired,
    (lower'.returning (scope.rename ρ) desired).Mirrors (Relation.rename ρ)
      (lower.returning scope desired)

theorem const_mirrors (t : SqlType) :
    (const (S.rename ρ) t).Mirrors (Scalar.rename ρ) (const S t) :=
  .after fun _ => .after fun _ => .after fun _ =>
    .ite (pure_mirrors rfl) (.after fun _ => pure_mirrors rfl)

/-- Whether a column serves depends on its type, which stays as it was. -/
theorem columnRef_mirrors (scope : Scope) (t : SqlType) :
    (columnRef (scope.rename ρ) t).Mirrors (Scalar.rename ρ) (columnRef scope t) := by
  refine .after fun _ => (pick_mirrors (TableRef.rename ρ) scope.refs).bind fun ref _ => ?_
  refine (pick_mirrors (Column.rename ρ) ref.table.columns).bind fun column _ => ?_
  exact .ite (pure_mirrors rfl) nothing_mirrors

theorem case_mirrors (hl : lower'.Mirrors ρ lower) (scope : Scope) (t : SqlType) :
    (case lower' (scope.rename ρ) t).Mirrors (Scalar.rename ρ) (case lower scope t) :=
  .after fun _ => (hl.scalar scope .bool).bind fun _ _ => (hl.scalar scope t).bind fun _ _ =>
    (hl.scalar scope t).map fun _ => rfl

theorem coalesce_mirrors (hl : lower'.Mirrors ρ lower) (scope : Scope) (t : SqlType) :
    (coalesce lower' (scope.rename ρ) t).Mirrors (Scalar.rename ρ) (coalesce lower scope t) :=
  .after fun _ => (hl.scalar scope t).bind fun _ _ => (hl.scalar scope t).map fun _ => rfl

/-- Operators are looked up by the type of their result. -/
theorem binary_mirrors (hl : lower'.Mirrors ρ lower) (scope : Scope) (t : SqlType) :
    (binary (S.rename ρ) lower' (scope.rename ρ) t).Mirrors (Scalar.rename ρ)
      (binary S lower scope t) := by
  refine .after fun _ => .after fun t => ?_
  have listed : (S.rename ρ).catalog.operatorsFor t
      = (S.catalog.operatorsFor t).map (Operator.rename ρ) := S.catalog.operatorsFor_rename t
  rw [listed]
  refine (pick_mirrors (Operator.rename ρ) _).bind fun op _ => ?_
  exact (hl.scalar scope op.left).bind fun _ _ => (hl.scalar scope op.right).map fun _ => rfl

theorem row_mirrors (hl : lower'.Mirrors ρ lower) (scope : Scope) (types : List SqlType) :
    (row lower' (scope.rename ρ) types).Mirrors (List.map (Scalar.rename ρ))
      (row lower scope types) :=
  traverse_mirrors (hl.scalar scope) types

/-- So are functions. -/
theorem call_mirrors (hl : lower'.Mirrors ρ lower) (scope : Scope) (t : SqlType) :
    (call (S.rename ρ) lower' (scope.rename ρ) t).Mirrors (Scalar.rename ρ)
      (call S lower scope t) := by
  refine .after fun _ => .after fun t => ?_
  have listed : (S.rename ρ).catalog.functionsFor t
      = (S.catalog.functionsFor t).map (SqlFunction.rename ρ) := S.catalog.functionsFor_rename t
  rw [listed]
  refine (pick_mirrors (SqlFunction.rename ρ) _).bind fun f _ => ?_
  exact (row_mirrors hl scope f.inputs).map fun args => Scalar.rename_call f args

theorem orderTerms_mirrors (hl : lower'.Mirrors ρ lower) (scope : Scope) :
    ∀ rounds, (orderTerms lower' (scope.rename ρ) rounds).Mirrors (List.map (Scalar.rename ρ))
      (orderTerms lower scope rounds)
  | 0 => halt_mirrors
  | rounds + 1 => by
      refine .after fun heads => .ite ?_ (pure_mirrors rfl)
      exact (hl.scalar scope .any).bind fun _ _ =>
        (orderTerms_mirrors hl scope rounds).map fun _ => rfl

theorem filter_mirrors (hl : lower'.Mirrors ρ lower) (scope : Scope) :
    (filter lower' (scope.rename ρ)).Mirrors (Option.map (Scalar.rename ρ))
      (filter lower scope) :=
  .after fun _ => .ite ((hl.predicate scope).map fun _ => rfl) (pure_mirrors rfl)

theorem select_mirrors (hl : lower'.Mirrors ρ lower) (scope : Scope)
    (desired : Option (List SqlType)) :
    (select (S.rename ρ) lower' (scope.rename ρ) desired).Mirrors (Select.rename ρ)
      (select S lower scope desired) := by
  refine .after fun _ => (hl.source scope).bind fun p _ => ?_
  obtain ⟨inner, source⟩ := p
  have items : (selectList (S.rename ρ) lower' (inner.rename ρ) desired).Mirrors
      (List.map (Scalar.rename ρ)) (selectList S lower inner desired) :=
    .after fun _ => .after fun types => row_mirrors hl inner types
  refine items.bind fun items _ => (filter_mirrors hl inner).bind fun condition _ => ?_
  refine (orderTerms_mirrors hl inner S.rounds).bind fun orderBy _ => ?_
  refine .after fun distinct => .after fun l => pure_mirrors ?_
  exact Select.rename_mk distinct items source condition orderBy l

theorem existence_mirrors (hl : lower'.Mirrors ρ lower) (scope : Scope) :
    (existence (S.rename ρ) lower' (scope.rename ρ)).Mirrors (Scalar.rename ρ)
      (existence S lower scope) :=
  .after fun _ => (select_mirrors hl scope none).map fun _ => rfl

theorem subquery_mirrors (hl : lower'.Mirrors ρ lower) (scope : Scope) (t : SqlType) :
    (subquery (S.rename ρ) lower' (scope.rename ρ) t).Mirrors (Scalar.rename ρ)
      (subquery S lower scope t) := by
  refine .after fun _ => (select_mirrors hl scope (some [t])).bind fun q _ => ?_
  rw [q.items_rename]
  cases q.items with
  | nil => exact nothing_mirrors
  | cons item rest =>
      refine pure_mirrors ?_
      show Scalar.subquery ((q.withLimit (some 1)).rename ρ) item.type = _
      rw [q.rename_withLimit, item.type_rename]

theorem attempt_mirrors (hl : lower'.Mirrors ρ lower) (scope : Scope)
    (requested picked : SqlType) :
    (attempt (S.rename ρ) lower' (scope.rename ρ) requested picked).Mirrors (Scalar.rename ρ)
      (attempt S lower scope requested picked) := by
  refine .ite ?_ ?_
  · exact (refers_mirrors scope).bind fun _ _ =>
      .ite (columnRef_mirrors scope requested) (const_mirrors picked)
  refine .after fun _ => .ite (case_mirrors hl scope picked) ?_
  refine .after fun _ => .ite (coalesce_mirrors hl scope picked) ?_
  refine (refers_mirrors scope).bind fun _ _ => .ite (columnRef_mirrors scope requested) ?_
  refine .after fun _ => .ite (binary_mirrors hl scope requested) ?_
  refine .after fun _ => .ite (call_mirrors hl scope requested) ?_
  exact .after fun _ => .ite (subquery_mirrors hl scope picked) (const_mirrors picked)

theorem scalar_mirrors (hl : lower'.Mirrors ρ lower) (scope : Scope) (t : SqlType) :
    (scalar (S.rename ρ) lower' (scope.rename ρ) t).Mirrors (Scalar.rename ρ)
      (scalar S lower scope t) := by
  refine .after fun _ => .after fun picked => (push_mirrors scope).bind fun inner _ => ?_
  exact ((attempt_mirrors hl inner t picked).retry _).noting _

theorem predicate_mirrors (hl : lower'.Mirrors ρ lower) (scope : Scope) :
    (predicate (S.rename ρ) lower' (scope.rename ρ)).Mirrors (Scalar.rename ρ)
      (predicate S lower scope) := by
  refine .after fun _ => .ite (hl.scalar scope .bool) ?_
  refine (push_mirrors scope).bind fun inner _ => ?_
  have once : (predicateAttempt (S.rename ρ) lower' (inner.rename ρ)).Mirrors (Scalar.rename ρ)
      (predicateAttempt S lower inner) :=
    .after fun _ => .ite (binary_mirrors hl inner .bool)
      (.after fun _ => .ite (hl.scalar inner .bool) (existence_mirrors hl inner))
  exact (once.retry _).noting _

/-! ## §4. Row sources and statements. -/

theorem tableRef_mirrors (scope : Scope) :
    (tableRef (S.rename ρ) (scope.rename ρ)).Mirrors
      (fun p => (p.1.rename ρ, p.2.rename ρ)) (tableRef S scope) := by
  refine .after fun _ => (pick_mirrors (Table.rename ρ) S.catalog.tables).bind fun table _ => ?_
  refine .after fun name => (push_mirrors scope).bind fun inner _ => pure_mirrors ?_
  rw [inner.rename_seeing]
  rfl

/-- The columns of a join are those of its sides, which are FROM items themselves. -/
theorem join_mirrors (hl : lower'.Mirrors ρ lower) (hs : lower.Sound S) (scope : Scope) :
    (join lower' (scope.rename ρ)).Mirrors (renameSource ρ) (join lower scope) := by
  refine .after fun _ => (push_mirrors scope).bind fun inner _ => ?_
  refine (hl.source inner).bind fun p hp => (hl.source inner).bind fun q hq => ?_
  obtain ⟨leftScope, lhs⟩ := p
  obtain ⟨rightScope, rhs⟩ := q
  have inherited : (inner.rename ρ).refs.length = inner.refs.length := List.length_map _
  -- of the sides it matters what they are: nameless columns would not be renamed
  have columns : (lhs.columns ++ rhs.columns).map (Column.rename ρ)
      = (lhs.rename ρ).columns ++ (rhs.rename ρ).columns := by
    rw [List.map_append, Relation.columns_rename (hs.isItem hp),
      Relation.columns_rename (hs.isItem hq)]
  dsimp only [renameSource]
  rw [inherited]
  refine (refsFrom_mirrors leftScope _).bind fun left _ => ?_
  refine (refsFrom_mirrors rightScope _).bind fun right _ => ?_
  have both := inner.rename_seeing (ρ := ρ) (left ++ right)
  rw [List.map_append] at both
  rw [← both]
  refine (hl.predicate _).map fun on => ?_
  rw [← columns]
  rfl

theorem source_mirrors (hl : lower'.Mirrors ρ lower) (hs : lower.Sound S) (scope : Scope) :
    (source (S.rename ρ) lower' (scope.rename ρ)).Mirrors (renameSource ρ)
      (source S lower scope) :=
  .after fun _ => .after fun _ =>
    .ite (join_mirrors hl hs scope) ((tableRef_mirrors scope).map fun _ => rfl)

theorem values_mirrors (hl : lower'.Mirrors ρ lower) (scope : Scope)
    (desired : Option (List SqlType)) :
    (values (S.rename ρ) lower' (scope.rename ρ) desired).Mirrors (Relation.rename ρ)
      (values S lower scope desired) := by
  refine .after fun _ => (push_mirrors scope).bind fun inner _ => ?_
  refine .after fun types => .after fun count => ?_
  exact ((row_mirrors hl inner types).times count).map fun rows => Relation.rename_values rows

theorem setOp_mirrors (hl : lower'.Mirrors ρ lower) (scope : Scope)
    (desired : Option (List SqlType)) :
    (setOp (S.rename ρ) lower' (scope.rename ρ) desired).Mirrors (Relation.rename ρ)
      (setOp S lower scope desired) := by
  refine .after fun _ => (push_mirrors scope).bind fun inner _ => .after fun types => ?_
  refine (hl.returning inner _).bind fun _ _ => (hl.returning inner _).bind fun _ _ => ?_
  exact .after fun _ => pure_mirrors rfl

theorem returning_mirrors (hl : lower'.Mirrors ρ lower) (scope : Scope)
    (desired : Option (List SqlType)) :
    (returning (S.rename ρ) lower' (scope.rename ρ) desired).Mirrors (Relation.rename ρ)
      (returning S lower scope desired) := by
  refine .after fun _ => .ite nothing_mirrors (.ite (values_mirrors hl scope desired) ?_)
  have once : (returningAttempt (S.rename ρ) lower' (scope.rename ρ) desired).Mirrors
      (Relation.rename ρ) (returningAttempt S lower scope desired) :=
    .after fun _ => .ite (setOp_mirrors hl scope desired)
      (.after fun _ => .ite (values_mirrors hl scope desired)
        ((select_mirrors hl scope desired).map fun _ => rfl))
  exact (once.retry _).noting _

/-- **The generators mirror themselves over a schema under other names**, at every height. -/
theorem tower_mirrors (ρ : Renaming) (S : Setting) (n : Nat) :
    (tower (S.rename ρ) n).Mirrors ρ (tower S n) := by
  induction n with
  | zero =>
      exact ⟨fun _ _ => halt_mirrors, fun _ => halt_mirrors, fun _ => halt_mirrors,
        fun _ _ => halt_mirrors⟩
  | succ n ih =>
      exact
        { scalar := scalar_mirrors ih
          predicate := predicate_mirrors ih
          source := source_mirrors ih (tower_sound S n)
          returning := returning_mirrors ih }

/-- Whether an INSERT names a column depends on its type and writability. -/
theorem insertTargets_mirrors : ∀ columns : List Column,
    (insertTargets (columns.map (Column.rename ρ))).Mirrors (List.map (Column.rename ρ))
      (insertTargets columns)
  | [] => pure_mirrors rfl
  | c :: columns => by
      refine .after fun named => (insertTargets_mirrors columns).map fun targets => ?_
      cases named <;> rfl

theorem insert_mirrors (hl : lower'.Mirrors ρ lower) (scope : Scope) :
    (insert (S.rename ρ) lower' (scope.rename ρ)).Mirrors (Relation.rename ρ)
      (insert S lower scope) := by
  refine .after fun _ => (pick_mirrors (Table.rename ρ) S.catalog.tables).bind fun table _ => ?_
  refine (insertTargets_mirrors table.columns).bind fun targets _ => ?_
  have types : (targets.map (Column.rename ρ)).map Column.type = targets.map Column.type := by
    rw [List.map_map]
    rfl
  rw [List.isEmpty_map, types]
  exact .ite nothing_mirrors ((hl.returning scope _).map fun _ => rfl)

theorem statement_mirrors (hl : lower'.Mirrors ρ lower) (scope : Scope) :
    (statement (S.rename ρ) lower' (scope.rename ρ)).Mirrors (Relation.rename ρ)
      (statement S lower scope) :=
  .after fun _ => .after fun _ => .ite (insert_mirrors hl scope) (hl.returning scope none)

end Mirrors

end Generate

/-! ## §5. Sessions. -/

/-- The session over the schema under other names. -/
def Session.rename (ρ : Renaming) (s : Session) : Session :=
  { s with catalog := s.catalog.rename ρ }

/-- A draw that mirrors another finds its image, and leaves the same session but for the
catalog. -/
theorem Session.draw_rename {α β : Type} {f : α → β} {g : Gen α} {g' : Gen β}
    (mirrors : g'.Mirrors f g) (ρ : Renaming) (s : Session) :
    (s.rename ρ).draw g' = ((s.draw g).1.map f, (s.draw g).2.rename ρ) := by
  have drawn : g' (s.rename ρ).words (s.rename ρ).state = _ := mirrors s.words s.state
  rw [draw_eq, draw_eq, drawn]
  rfl

/-- **GENERATION IS BLIND TO NAMES.**  Over a catalog under other names a session generates
what it generates over the catalog, under those names: it finds the renamed statement where
it found one, nothing where it found nothing, and leaves the same state, so that the same
words were taken.  The aliases of a statement stay as they were.  And the catalog that is
built under other names is the built one under those names. -/
theorem Session.generate_rename (ρ : Renaming) (s : Session) :
    (s.rename ρ).generate = (s.generate.1.map (Relation.rename ρ), s.generate.2.rename ρ)
      ∧ (∀ r : Relation, (r.rename ρ).aliases = r.aliases)
      ∧ ∀ d : Draft, (d.rename ρ).build = d.build.rename ρ := by
  refine ⟨?_, fun r => r.aliases_rename, fun d => d.build_rename⟩
  have lower := Generate.tower_mirrors ρ s.setting Generate.ampleNesting
  have statements : (s.rename ρ).statementGen.Mirrors (Relation.rename ρ) s.statementGen :=
    Generate.statement_mirrors (S := s.setting) lower Generate.Scope.root
  -- both sessions start from one state, since the catalog is no part of it
  exact draw_rename (statements.noting .generationFailed) ρ { s with state := s.started }

namespace Sample

/-- One name for all tables, one for all columns, and so on. -/
def anonymous : Renaming where
  table _ := "t"
  column _ := "c"
  operator _ := "?"
  function _ := "f"

/-- The sample session generates over the anonymous schema, too. -/
theorem session_generate_rename :
    (session.rename anonymous).catalog = (draft.rename anonymous).build
      ∧ ∃ r s', session.generate = (.found r, s')
          ∧ (session.rename anonymous).generate
              = (.found (r.rename anonymous), s'.rename anonymous) := by
  obtain ⟨generated, -, built⟩ := Session.generate_rename anonymous session
  obtain ⟨r, s', h⟩ := session_generates
  refine ⟨(built draft).symm, r, s', h, ?_⟩
  rw [generated, h]
  rfl

end Sample

end QueryFuzz
