/-
  QueryFuzz.Proofs.Assembly
  ─────────────────────────
  **WHAT GENERATORS ARE MADE OF.**

  A generator is a function of the words and of the whole state, the log included.
  The generators of this library are none but those that are put together from a
  few steps: take a word, hand out a name, remark that something was given up,
  count.  What holds of each step and is kept where two generators are put
  together holds of all of them, by induction on how they were put together.

      Event.isRemark  — the events that generators log
      Gen.Assembled g — `g` is put together from these steps

  Main results:
    * `Generate.tower_assembled`, `Generate.createTable_assembled` — all generators are;
    * `Session.statementGen_assembled` — so is the generator of a session's statements.
-/
import QueryFuzz.Session

namespace QueryFuzz

/-- The remark that a generator gave something up. -/
def Event.isRemark : Event → Bool
  | scalarExhausted .. => true
  | predicateExhausted .. => true
  | statementExhausted .. => true
  | generationFailed => true
  | _ => false

namespace Gen

/-! ## §1. The steps, and how they are put together. -/

/-- The generator is put together from steps that take a word, hand out a name, log a
remark, count, or end at once: one after the other, or one in the place of another that
found nothing. -/
inductive Assembled : {α : Type} → Gen α → Prop where
  | pure {α : Type} (a : α) : Assembled (pure a : Gen α)
  | nothing {α : Type} : Assembled (nothing : Gen α)
  | halt {α : Type} (why : Fault) : Assembled (halt why : Gen α)
  | word : Assembled word
  | fresh (stem : String) : Assembled (fresh stem)
  | note {e : Event} (remark : e.isRemark = true) : Assembled (note e)
  | enter : Assembled enter
  | reach (level : Nat) : Assembled (reach level)
  | bind {α β : Type} {g : Gen α} {f : α → Gen β} (first : Assembled g)
      (rest : ∀ a, Assembled (f a)) : Assembled (g >>= f)
  | orElse {α : Type} {g h : Gen α} (first : Assembled g) (second : Assembled h) :
      Assembled (g.orElse h)

variable {α β : Type}

section Rules

variable {g : Gen α}

theorem Assembled.entered {f : Unit → Gen β} (hf : (f ()).Assembled) :
    (Gen.enter >>= f).Assembled :=
  Assembled.enter.bind fun _ => hf

theorem Assembled.map (hg : g.Assembled) (f : α → β) : (f <$> g).Assembled :=
  hg.bind fun a => .pure (f a)

theorem Assembled.noting (hg : g.Assembled) {e : Event} (remark : e.isRemark = true) :
    (g.noting e).Assembled :=
  hg.orElse ((Assembled.note remark).bind fun _ => .nothing)

theorem Assembled.retry (hg : g.Assembled) (n : Nat) : (Gen.retry n g).Assembled := by
  induction n with
  | zero => exact .nothing
  | succ n ih =>
      rw [retry_succ]
      exact hg.orElse ih

theorem Assembled.times (hg : g.Assembled) (n : Nat) : (Gen.times n g).Assembled := by
  induction n with
  | zero => exact .pure []
  | succ n ih => exact hg.bind fun a => ih.map _

theorem traverse_assembled {f : α → Gen β} (hf : ∀ a, (f a).Assembled) (as : List α) :
    (Gen.traverse f as).Assembled := by
  induction as with
  | nil => exact .pure []
  | cons a as ih => exact (hf a).bind fun _ => ih.map _

end Rules

/-! ## §2. Dice, chances and picks. -/

theorem scaled_assembled {digit : Gen Nat} (h : digit.Assembled) (base n : Nat) :
    (scaled base digit n).Assembled := by
  unfold scaled
  refine h.bind fun x => ?_
  dsimp only
  split
  · refine h.bind fun y => ?_
    split
    · exact .pure _
    · exact .pure _
  · exact .pure _

theorem below_assembled (n : Nat) : (below n).Assembled := by
  unfold below
  split
  · exact .halt _
  · split
    · exact scaled_assembled (Assembled.word.map _) _ n
    · exact scaled_assembled (Assembled.word.bind fun _ => Assembled.word.map _) _ n

theorem die_assembled (n : Nat) : (die n).Assembled := (below_assembled n).map _

theorem chance_assembled (p : Double) : (chance p).Assembled := by
  unfold chance
  split
  · exact .pure true
  · split
    · exact Assembled.word.bind fun _ => Assembled.word.map _
    · exact .halt _

theorem coin_assembled : coin.Assembled := chance_assembled half

theorem pick_assembled (choices : List α) : (pick choices).Assembled := by
  unfold pick
  split
  · exact .nothing
  · refine (below_assembled _).bind fun i => ?_
    split
    · exact .pure _
    · exact .nothing

end Gen

namespace Generate

open Gen (die_assembled chance_assembled coin_assembled pick_assembled traverse_assembled)

/-! ## §3. Choices. -/

theorem sqlType_assembled : sqlType.Assembled := (pick_assembled BaseType.concrete).map _

theorem resolve_assembled (t : SqlType) : (resolve t).Assembled := by
  unfold resolve
  split
  · exact sqlType_assembled
  · exact .pure t

theorem moreTypes_assembled (rounds : Nat) : (moreTypes rounds).Assembled := by
  induction rounds with
  | zero => exact .halt _
  | succ rounds ih =>
      refine (die_assembled 6).bind fun roll => ?_
      split
      · exact .pure []
      · exact sqlType_assembled.bind fun t => ih.map _

theorem desiredOrRandom_assembled (rounds : Nat) :
    ∀ desired, (desiredOrRandom rounds desired).Assembled
  | some [] => .nothing
  | some (_ :: _) => .pure _
  | none => sqlType_assembled.bind fun _ => (moreTypes_assembled rounds).map _

theorem push_assembled (scope : Scope) : scope.push.Assembled := by
  unfold Scope.push
  split
  · exact (Gen.Assembled.reach _).bind fun _ => .pure _
  · exact .halt _

theorem refsFrom_assembled (scope : Scope) (start : Nat) : (scope.refsFrom start).Assembled := by
  unfold Scope.refsFrom
  split
  · exact .pure _
  · exact .halt _

theorem onOne_assembled (sides : Nat) : (onOne sides).Assembled := (die_assembled sides).map _

theorem onOneOrTwo_assembled : onOneOrTwo.Assembled := (die_assembled 6).map _

theorem damped_assembled (level : Nat) {test : Gen Bool} (h : test.Assembled) :
    (damped level test).Assembled := by
  refine (die_assembled 6).bind fun roll => ?_
  split
  · exact h
  · exact .pure false

theorem refers_assembled (scope : Scope) : (refers scope).Assembled := by
  unfold refers
  split
  · exact .pure false
  · exact (die_assembled 20).map _

theorem joins_assembled (S : Setting) (scope : Scope) : (joins S scope).Assembled := by
  unfold joins
  split
  · exact .pure false
  · refine (die_assembled 6).bind fun roll => ?_
    split
    · exact (die_assembled 6).map _
    · exact .pure false

theorem literalValue_assembled : ∀ base, (literalValue base).Assembled
  | .int => (die_assembled 6).map _
  | .bool => coin_assembled.map _
  | .string => coin_assembled.map _
  | .any => coin_assembled.map _

theorem nullLiteral_assembled (S : Setting) (t : SqlType) : (nullLiteral S t).Assembled := by
  unfold nullLiteral
  split
  · exact chance_assembled _
  · exact .pure false

theorem limit_assembled (S : Setting) : (limit S).Assembled := by
  refine (chance_assembled _).bind fun limited => ?_
  split
  · exact (die_assembled _).map _
  · exact .pure none

theorem isNamed_assembled (c : Column) : (isNamed c).Assembled := by
  unfold isNamed
  split
  · split
    · exact .pure true
    · exact coin_assembled
  · exact .pure false

theorem insertTargets_assembled (columns : List Column) :
    (insertTargets columns).Assembled := by
  induction columns with
  | nil => exact .pure []
  | cons c columns ih => exact (isNamed_assembled c).bind fun _ => ih.map _

/-! ## §4. Expressions, row sources and statements. -/

/-- The generators of one height are put together from the steps. -/
structure Lower.Assembled (lower : Lower) : Prop where
  scalar : ∀ scope t, (lower.scalar scope t).Assembled
  predicate : ∀ scope, (lower.predicate scope).Assembled
  source : ∀ scope, (lower.source scope).Assembled
  returning : ∀ scope desired, (lower.returning scope desired).Assembled

section Assembled

variable {S : Setting} {lower : Lower}

theorem const_assembled (t : SqlType) : (const S t).Assembled := by
  refine .entered ((resolve_assembled t).bind fun t => ?_)
  refine (nullLiteral_assembled S t).bind fun isNull => ?_
  split
  · exact .pure _
  · exact (literalValue_assembled t.base).map _

theorem columnRef_assembled (scope : Scope) (t : SqlType) : (columnRef scope t).Assembled := by
  refine .entered ((pick_assembled _).bind fun ref => (pick_assembled _).bind fun column => ?_)
  split
  · exact .pure _
  · exact .nothing

theorem case_assembled (hl : lower.Assembled) (scope : Scope) (t : SqlType) :
    (case lower scope t).Assembled :=
  .entered ((hl.scalar scope .bool).bind fun _ => (hl.scalar scope t).bind fun _ =>
    (hl.scalar scope t).map _)

theorem coalesce_assembled (hl : lower.Assembled) (scope : Scope) (t : SqlType) :
    (coalesce lower scope t).Assembled :=
  .entered ((hl.scalar scope t).bind fun _ => (hl.scalar scope t).map _)

theorem binary_assembled (hl : lower.Assembled) (scope : Scope) (t : SqlType) :
    (binary S lower scope t).Assembled :=
  .entered ((resolve_assembled t).bind fun _ => (pick_assembled _).bind fun op =>
    (hl.scalar scope op.left).bind fun _ => (hl.scalar scope op.right).map _)

theorem row_assembled (hl : lower.Assembled) (scope : Scope) (types : List SqlType) :
    (row lower scope types).Assembled := traverse_assembled (hl.scalar scope) types

theorem call_assembled (hl : lower.Assembled) (scope : Scope) (t : SqlType) :
    (call S lower scope t).Assembled :=
  .entered ((resolve_assembled t).bind fun _ => (pick_assembled _).bind fun f =>
    (row_assembled hl scope f.inputs).map _)

theorem selectList_assembled (hl : lower.Assembled) (scope : Scope)
    (desired : Option (List SqlType)) : (selectList S lower scope desired).Assembled :=
  .entered ((desiredOrRandom_assembled _ desired).bind fun types => row_assembled hl scope types)

theorem filter_assembled (hl : lower.Assembled) (scope : Scope) :
    (filter lower scope).Assembled := by
  refine coin_assembled.bind fun heads => ?_
  split
  · exact (hl.predicate scope).map _
  · exact .pure none

theorem orderTerms_assembled (hl : lower.Assembled) (scope : Scope) (rounds : Nat) :
    (orderTerms lower scope rounds).Assembled := by
  induction rounds with
  | zero => exact .halt _
  | succ rounds ih =>
      refine coin_assembled.bind fun heads => ?_
      split
      · exact (hl.scalar scope .any).bind fun _ => ih.map _
      · exact .pure []

theorem select_assembled (hl : lower.Assembled) (scope : Scope)
    (desired : Option (List SqlType)) : (select S lower scope desired).Assembled := by
  refine .entered ((hl.source scope).bind fun p => ?_)
  obtain ⟨inner, source⟩ := p
  refine (selectList_assembled hl inner desired).bind fun _ => ?_
  refine (filter_assembled hl inner).bind fun _ => (orderTerms_assembled hl inner _).bind fun _ => ?_
  exact (chance_assembled _).bind fun _ => (limit_assembled S).map _

theorem existence_assembled (hl : lower.Assembled) (scope : Scope) :
    (existence S lower scope).Assembled := .entered ((select_assembled hl scope none).map _)

theorem subquery_assembled (hl : lower.Assembled) (scope : Scope) (t : SqlType) :
    (subquery S lower scope t).Assembled := by
  refine .entered ((select_assembled hl scope _).bind fun q => ?_)
  split
  · exact .nothing
  · exact .pure _

theorem attempt_assembled (hl : lower.Assembled) (scope : Scope) (requested picked : SqlType) :
    (attempt S lower scope requested picked).Assembled := by
  unfold attempt
  split
  · refine (refers_assembled scope).bind fun _ => ?_
    split
    · exact columnRef_assembled scope requested
    · exact const_assembled picked
  refine (damped_assembled _ (onOne_assembled 9)).bind fun _ => ?_
  split
  · exact case_assembled hl scope picked
  refine (damped_assembled _ (onOne_assembled 42)).bind fun _ => ?_
  split
  · exact coalesce_assembled hl scope picked
  refine (refers_assembled scope).bind fun _ => ?_
  split
  · exact columnRef_assembled scope requested
  refine (damped_assembled _ (onOne_assembled 9)).bind fun _ => ?_
  split
  · exact binary_assembled hl scope requested
  refine (damped_assembled _ (onOne_assembled 9)).bind fun _ => ?_
  split
  · exact call_assembled hl scope requested
  refine (damped_assembled _ (onOne_assembled 6)).bind fun _ => ?_
  split
  · exact subquery_assembled hl scope picked
  · exact const_assembled picked

/-- An expression that is given up is remarked. -/
theorem scalar_assembled (hl : lower.Assembled) (scope : Scope) (t : SqlType) :
    (scalar S lower scope t).Assembled :=
  .entered ((resolve_assembled t).bind fun picked => (push_assembled scope).bind fun inner =>
    ((attempt_assembled hl inner t picked).retry _).noting rfl)

theorem predicateAttempt_assembled (hl : lower.Assembled) (scope : Scope) :
    (predicateAttempt S lower scope).Assembled := by
  refine (die_assembled 6).bind fun first => ?_
  split
  · exact binary_assembled hl scope .bool
  refine (die_assembled 6).bind fun second => ?_
  split
  · exact hl.scalar scope .bool
  · exact existence_assembled hl scope

/-- So is a predicate. -/
theorem predicate_assembled (hl : lower.Assembled) (scope : Scope) :
    (predicate S lower scope).Assembled := by
  apply Gen.Assembled.entered
  split
  · exact hl.scalar scope .bool
  · exact (push_assembled scope).bind fun inner =>
      ((predicateAttempt_assembled hl inner).retry _).noting rfl

theorem tableRef_assembled (scope : Scope) : (tableRef S scope).Assembled :=
  .entered ((pick_assembled _).bind fun _ => (Gen.Assembled.fresh _).bind fun _ =>
    (push_assembled scope).map _)

theorem join_assembled (hl : lower.Assembled) (scope : Scope) : (join lower scope).Assembled := by
  refine .entered ((push_assembled scope).bind fun inner => ?_)
  refine (hl.source inner).bind fun left => (hl.source inner).bind fun right => ?_
  exact (refsFrom_assembled _ _).bind fun _ => (refsFrom_assembled _ _).bind fun _ =>
    (hl.predicate _).map _

theorem source_assembled (hl : lower.Assembled) (scope : Scope) :
    (source S lower scope).Assembled := by
  refine .entered ((joins_assembled S scope).bind fun joined => ?_)
  split
  · exact join_assembled hl scope
  · exact (tableRef_assembled scope).map _

theorem values_assembled (hl : lower.Assembled) (scope : Scope)
    (desired : Option (List SqlType)) : (values S lower scope desired).Assembled :=
  .entered ((push_assembled scope).bind fun inner =>
    (desiredOrRandom_assembled _ desired).bind fun types => (die_assembled _).bind fun count =>
      ((row_assembled hl inner types).times count).map _)

theorem setOp_assembled (hl : lower.Assembled) (scope : Scope)
    (desired : Option (List SqlType)) : (setOp S lower scope desired).Assembled :=
  .entered ((push_assembled scope).bind fun inner =>
    (desiredOrRandom_assembled _ desired).bind fun _ => (hl.returning inner _).bind fun _ =>
      (hl.returning inner _).bind fun _ => (pick_assembled _).map _)

theorem returningAttempt_assembled (hl : lower.Assembled) (scope : Scope)
    (desired : Option (List SqlType)) : (returningAttempt S lower scope desired).Assembled := by
  refine (damped_assembled _ onOneOrTwo_assembled).bind fun _ => ?_
  split
  · exact setOp_assembled hl scope desired
  refine onOneOrTwo_assembled.bind fun _ => ?_
  split
  · exact values_assembled hl scope desired
  · exact (select_assembled hl scope desired).map _

/-- A statement that is given up is remarked, too. -/
theorem returning_assembled (hl : lower.Assembled) (scope : Scope)
    (desired : Option (List SqlType)) : (returning S lower scope desired).Assembled := by
  apply Gen.Assembled.entered
  split
  · exact .nothing
  split
  · exact values_assembled hl scope desired
  · exact ((returningAttempt_assembled hl scope desired).retry _).noting rfl

/-- **The generators are put together from the steps**, at every height. -/
theorem tower_assembled (S : Setting) (n : Nat) : (tower S n).Assembled := by
  refine tower_induction (P := Lower.Assembled) ?_ (fun n ih => ?_) n
  · exact ⟨fun _ _ => .halt _, fun _ => .halt _, fun _ => .halt _, fun _ _ => .halt _⟩
  · exact
      { scalar := scalar_assembled ih
        predicate := predicate_assembled ih
        source := source_assembled ih
        returning := returning_assembled ih }

theorem insert_assembled (hl : lower.Assembled) (scope : Scope) :
    (insert S lower scope).Assembled := by
  refine .entered ((pick_assembled _).bind fun table => ?_)
  refine (insertTargets_assembled table.columns).bind fun targets => ?_
  split
  · exact .nothing
  · exact (hl.returning scope _).map _

theorem statement_assembled (hl : lower.Assembled) (scope : Scope) :
    (statement S lower scope).Assembled := by
  refine .entered ((chance_assembled _).bind fun inserting => ?_)
  split
  · exact insert_assembled hl scope
  · exact hl.returning scope none

end Assembled

/-! ## §5. New tables. -/

theorem freeName_assembled (c : Catalog) (draws : Nat) : (freeName c draws).Assembled := by
  induction draws with
  | zero => exact .pure _
  | succ draws ih =>
      refine (Gen.below_assembled _).bind fun n => ?_
      split
      · exact ih
      · exact .pure _

theorem plainColumn_assembled (number : Nat) : (plainColumn number).Assembled :=
  sqlType_assembled.bind fun _ => coin_assembled.map _

theorem computedColumn_assembled (columns : List ColumnDef) :
    (computedColumn columns).Assembled :=
  (pick_assembled _).bind fun _ => (die_assembled 6).map _

/-- **So is the generator of new tables.** -/
theorem createTable_assembled (c : Catalog) : (createTable c).Assembled := by
  refine (freeName_assembled c _).bind fun name => (die_assembled _).bind fun count => ?_
  refine (traverse_assembled plainColumn_assembled _).bind fun columns => ?_
  refine (chance_assembled _).bind fun computes => ?_
  split
  · exact (((computedColumn_assembled columns).map _).orElse (.pure [])).map _
  · exact .pure _

end Generate

/-- **So is the generator of a session's statements**, which remarks that a statement was
given up. -/
theorem Session.statementGen_assembled (s : Session) :
    (s.statementGen.noting .generationFailed).Assembled := by
  have lower := Generate.tower_assembled s.setting Generate.ampleNesting
  have statements : s.statementGen.Assembled :=
    Generate.statement_assembled lower Generate.Scope.root
  exact statements.noting rfl

end QueryFuzz
