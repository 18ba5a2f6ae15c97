/-
  QueryFuzz.Proofs.DepthCap
  ─────────────────────────
  **THE HARD DEPTH CAP BOUNDS EVERY RUN.**

  With a hard cap `D` on the depth a generator is called at level `D + 1` at
  most, opens scopes of level `D + 2` at most, and calls a bounded number of
  generators.  The measure is the distance to the cap, with an overshoot for
  each kind of generator, as they test the cap at different places: expressions
  after they opened their scope, predicates and FROM items before, queries not
  at all.

  Main results:
    * `tower_within` — a tower as high as the distance to the cap never runs out;
    * `statement_within` — the bounds of a whole statement.
-/
import QueryFuzz.Proofs.Effort

namespace QueryFuzz.Generate

/-! ## §1. Room under the cap. -/

/-- Valid options with a hard cap on the depth, so low that the levels can be counted. -/
structure Capped (S : Setting) (D : Nat) : Prop where
  valid : S.options.isValid = true
  cap : S.options.maxDepth = some D
  low : D ≤ 2 ^ 32 - 3

theorem Capped.atDepthLimit {S : Setting} {D : Nat} (h : Capped S D) (scope : Scope) :
    scope.atDepthLimit S.options = decide (D ≤ scope.level) := by
  unfold Scope.atDepthLimit
  rw [h.cap]
  rfl

/-- The level and the height at which an expression may be asked for: it opens a scope
before it tests the cap, so just below the cap it ends at once. -/
def ScalarRoom (D level height : Nat) : Prop :=
  level ≤ D + 1 ∧ (D ≤ level ∧ 1 ≤ height ∨ D - level + 2 ≤ height)

/-- The level and the height at which a predicate may be asked for; at the cap it still
asks for an expression. -/
def PredicateRoom (D level height : Nat) : Prop := level ≤ D + 1 ∧ D - level + 2 ≤ height

/-- The level and the height at which a FROM item may be asked for. -/
def SourceRoom (D level height : Nat) : Prop := level ≤ D ∧ D - level + 2 ≤ height

/-- The level and the height at which a statement that returns rows may be asked for. -/
def ReturningRoom (D level height : Nat) : Prop := level ≤ D ∧ D - level + 3 ≤ height

/-- Generators with room for a height enter no more than the bound of that height, and
open no scope below level `D + 2`. -/
structure Lower.Within (S : Setting) (D height : Nat) (lower : Lower) : Prop where
  scalar : ∀ scope t, ScalarRoom D scope.level height →
    (lower.scalar scope t).Within (S.load.calls height) (D + 2)
  predicate : ∀ scope, PredicateRoom D scope.level height →
    (lower.predicate scope).Within (S.load.calls height) (D + 2)
  source : ∀ scope, SourceRoom D scope.level height →
    (lower.source scope).Within (S.load.calls height) (D + 2)
  returning : ∀ scope desired, Narrow S.load desired → ReturningRoom D scope.level height →
    (lower.returning scope desired).Within (S.load.calls height) (D + 2)

section Within

variable {S : Setting} {D height : Nat} {lower : Lower}

/-- Opening a scope whose parent lies at most one level below the cap. -/
theorem Capped.pushed {β : Type} (h : Capped S D) {scope : Scope} {f : Scope → Gen β} {c : Nat}
    (hscope : scope.level ≤ D + 1) (hf : (f scope.child).Within c (D + 2)) :
    (scope.push >>= f).Within c (D + 2) := by
  have low := h.low
  have counted : scope.level < Scope.deepestLevel := by
    unfold Scope.deepestLevel
    omega
  have opened : scope.push.Within 0 (D + 2) := by
    unfold Scope.push
    rw [if_pos counted]
    intro words s
    refine ⟨Nat.le_refl _, ?_, fun _ h => by injection h⟩
    show max s.deepest (scope.level + 1) ≤ _
    omega
  refine (opened.bind fun inner hinner => ?_).mono (Nat.le_of_eq (Nat.zero_add c))
  obtain ⟨-, -, rfl, -⟩ := Gen.Finds.mayFind (fun k => push_finds scope k) hinner
  exact hf

/-- Types for a query: no more than the width, and no fault but the end of the rounds. -/
theorem types_draws (S : Setting) {desired : Option (List SqlType)}
    (hd : Narrow S.load desired) :
    (desiredOrRandom S.rounds desired).Draws (fun types => types.length ≤ S.load.width)
      Gen.RoundsOnly :=
  (desiredOrRandom_draws S.rounds desired).mono (fun _ h => h.1.length_le hd h.2) fun _ h => h

/-! ## §2. Expressions and queries. -/

theorem const_within (hS : Capped S D) (t : SqlType) : (const S t).Within 1 (D + 2) := by
  refine .entered (c := 0) (.drawn (resolve_draws t) fun t _ => ?_)
  refine .drawn ((nullLiteral_draws S t).mono (fun _ h => h) fun _ h => ?_) fun null _ => ?_
  · rw [hS.valid] at h
    cases h
  · split
    · exact Gen.pure_within _
    · exact .drawn (literalValue_draws t.base) fun v _ => Gen.pure_within _

theorem columnRef_within (scope : Scope) (t : SqlType) :
    (columnRef scope t).Within 1 (D + 2) := by
  refine .entered (c := 0) (.drawn (Gen.pick_draws scope.refs) fun ref _ => ?_)
  refine .drawn (Gen.pick_draws ref.table.columns) fun column _ => ?_
  split
  · exact Gen.pure_within _
  · exact Gen.nothing_within

theorem case_within (hl : lower.Within S D height) {scope : Scope} (t : SqlType)
    (room : ScalarRoom D scope.level height) :
    (case lower scope t).Within (3 + 3 * S.load.calls height) (D + 2) := by
  have branch := fun t => hl.scalar scope t room
  refine (Gen.Within.entered ((branch .bool).bind fun _ _ => (branch t).bind fun _ _ =>
    (branch t).map _)).mono ?_
  omega

theorem coalesce_within (hl : lower.Within S D height) {scope : Scope} (t : SqlType)
    (room : ScalarRoom D scope.level height) :
    (coalesce lower scope t).Within (3 + 2 * S.load.calls height) (D + 2) := by
  have operand := hl.scalar scope t room
  refine (Gen.Within.entered (operand.bind fun _ _ => operand.map _)).mono ?_
  omega

theorem binary_within (hl : lower.Within S D height) {scope : Scope} (t : SqlType)
    (room : ScalarRoom D scope.level height) :
    (binary S lower scope t).Within (3 + 2 * S.load.calls height) (D + 2) := by
  have operands : (binary S lower scope t).Within
      (1 + (S.load.calls height + S.load.calls height)) (D + 2) := by
    refine .entered (.drawn (resolve_draws t) fun t _ => ?_)
    refine .drawn (Gen.pick_draws (S.catalog.operatorsFor t)) fun op _ => ?_
    exact (hl.scalar scope op.left room).bind fun _ _ => (hl.scalar scope op.right room).map _
  exact operands.mono (by omega)

theorem row_within (hl : lower.Within S D height) {scope : Scope} (types : List SqlType)
    (room : ScalarRoom D scope.level height) :
    (row lower scope types).Within (types.length * S.load.calls height) (D + 2) :=
  Gen.traverse_within types fun t _ => hl.scalar scope t room

theorem call_within (hl : lower.Within S D height) {scope : Scope} (t : SqlType)
    (room : ScalarRoom D scope.level height) :
    (call S lower scope t).Within (3 + S.load.mostArguments * S.load.calls height)
      (D + 2) := by
  have arguments : (call S lower scope t).Within
      (1 + S.load.mostArguments * S.load.calls height) (D + 2) := by
    refine .entered (.drawn (resolve_draws t) fun t _ => ?_)
    refine .drawn (Gen.pick_draws (S.catalog.functionsFor t)) fun f hf => ?_
    refine Gen.Within.mono ((row_within hl f.inputs room).map _) ?_
    exact Nat.mul_le_mul_right _ (inputs_le_mostArguments hf)
  exact arguments.mono (by omega)

/-- Sort terms: one expression for each round. -/
theorem orderTerms_within (hl : lower.Within S D height) {scope : Scope}
    (room : ScalarRoom D scope.level height) (rounds : Nat) :
    (orderTerms lower scope rounds).Within (rounds * S.load.calls height) (D + 2) := by
  induction rounds with
  | zero => exact Gen.exhausted_within
  | succ rounds ih =>
      refine .drawn Gen.coin_draws fun heads _ => ?_
      cases heads with
      | false => exact Gen.pure_within _
      | true =>
          refine ((hl.scalar scope .any room).bind fun _ _ => ih.map _).mono ?_
          rw [Nat.succ_mul]
          omega

theorem filter_within (hl : lower.Within S D height) {scope : Scope}
    (room : PredicateRoom D scope.level height) :
    (filter lower scope).Within (S.load.calls height) (D + 2) := by
  refine .drawn Gen.coin_draws fun heads _ => ?_
  cases heads with
  | false => exact Gen.pure_within _
  | true => exact (hl.predicate scope room).map _

theorem selectList_within (hl : lower.Within S D height) {scope : Scope}
    {desired : Option (List SqlType)} (hd : Narrow S.load desired)
    (room : ScalarRoom D scope.level height) :
    (selectList S lower scope desired).Within (1 + S.load.width * S.load.calls height)
      (D + 2) := by
  refine .entered (.drawn (types_draws S hd) fun types htypes => ?_)
  exact (row_within hl types room).mono (Nat.mul_le_mul_right _ htypes)

/-- A query asks for a FROM item on its own level, and for all else one level below,
whatever FROM brought into view. -/
theorem select_within (hS : Capped S D) (hs : lower.Sound S) (hl : lower.Within S D height)
    {scope : Scope} {desired : Option (List SqlType)} (hd : Narrow S.load desired)
    (room : SourceRoom D scope.level height) :
    (select S lower scope desired).Within
      (2 + (S.load.width + S.load.rounds + 2) * S.load.calls height) (D + 2) := by
  have parts : (select S lower scope desired).Within
      (1 + (S.load.calls height + (1 + S.load.width * S.load.calls height
        + (S.load.calls height + (S.rounds * S.load.calls height + 0))))) (D + 2) := by
    refine .entered ((hl.source scope room).bind fun p hp => ?_)
    obtain ⟨inner, source⟩ := p
    obtain ⟨-, -, hinner, -⟩ := Gen.Finds.mayFind (fun k => hs.source scope k) hp
    simp only at hinner
    subst hinner
    obtain ⟨above, high⟩ := room
    -- whatever FROM brought into view, the rest of the query lies one level below
    have below : ScalarRoom D (scope.level + 1) height := ⟨by omega, by omega⟩
    have predicates : PredicateRoom D (scope.level + 1) height := ⟨by omega, by omega⟩
    refine (selectList_within hl hd below).bind fun items _ => ?_
    refine (filter_within hl predicates).bind fun condition _ => ?_
    refine (orderTerms_within hl below S.rounds).bind fun orderBy _ => ?_
    have inRange := inRange_of_isValid hS.valid
    refine .drawn (Gen.chance_draws_of_isProbability inRange.distinctProb) fun distinct _ => ?_
    refine .drawn ((limit_draws S).mono (fun _ h => h) fun _ h => ?_) fun _ _ =>
      Gen.pure_within _
    rw [hS.valid] at h
    cases h
  refine parts.mono ?_
  have rounds : S.load.rounds = S.rounds := rfl
  rw [Nat.add_mul, Nat.add_mul, rounds]
  omega

theorem subquery_within (hS : Capped S D) (hs : lower.Sound S) (hl : lower.Within S D height)
    {scope : Scope} (t : SqlType) (room : SourceRoom D scope.level height) :
    (subquery S lower scope t).Within
      (3 + (S.load.width + S.load.rounds + 2) * S.load.calls height) (D + 2) := by
  have single : Narrow S.load (some [t]) := by
    intro ts hts
    injection hts with hts
    subst hts
    exact Nat.le_max_left ..
  have query := select_within hS hs hl single room
  refine (Gen.Within.entered (query.bind (m := 0) fun q _ => ?_)).mono (by omega)
  split
  · exact Gen.nothing_within
  · exact Gen.pure_within _

theorem existence_within (hS : Capped S D) (hs : lower.Sound S) (hl : lower.Within S D height)
    {scope : Scope} (room : SourceRoom D scope.level height) :
    (existence S lower scope).Within
      (3 + (S.load.width + S.load.rounds + 2) * S.load.calls height) (D + 2) := by
  have any : Narrow S.load none := fun _ h => by cases h
  have query := select_within hS hs hl any room
  exact (Gen.Within.entered (query.map _)).mono (by omega)

/-- One attempt at an expression, in the scope that was opened for it: at the cap only
the leaves are left. -/
theorem attempt_within (hS : Capped S D) (hs : lower.Sound S) (hl : lower.Within S D height)
    {scope : Scope} (requested picked : SqlType)
    (room : scope.level < D → D - scope.level + 2 ≤ height) :
    (attempt S lower scope requested picked).Within
      (S.load.attempt (S.load.calls height)) (D + 2) := by
  have leaf : 1 ≤ S.load.attempt (S.load.calls height) := by
    unfold Load.attempt
    omega
  have few : ∀ n, n ≤ 3 → 3 + n * S.load.calls height ≤ S.load.attempt (S.load.calls height) :=
    fun n hn => Load.le_attempt _ (by unfold Load.fanOut; omega)
  have arguments : S.load.mostArguments ≤ S.load.fanOut := by
    unfold Load.fanOut
    omega
  refine attempt_of (P := (Gen.Within · _ (D + 2))) .drawn ((columnRef_within scope requested).mono leaf)
    ((const_within hS picked).mono leaf) fun limit _ => ?_
  -- above the cap there is a level left for the operands, and for FROM in a query
  have above : scope.level < D := by simpa [hS.atDepthLimit] using limit
  have operands : ScalarRoom D scope.level height := ⟨by omega, Or.inr (room above)⟩
  have queries : SourceRoom D scope.level height := ⟨by omega, room above⟩
  refine ⟨?_, ?_, ?_, ?_, ?_⟩
  · exact (case_within hl picked operands).mono (few 3 (by omega))
  · exact (coalesce_within hl picked operands).mono (few 2 (by omega))
  · exact (binary_within hl requested operands).mono (few 2 (by omega))
  · exact (call_within hl requested operands).mono (Load.le_attempt _ arguments)
  · exact (subquery_within hS hs hl picked queries).mono
      (Load.le_attempt _ (Load.width_le_fanOut _))

theorem scalar_within (hS : Capped S D) (hs : lower.Sound S) (hl : lower.Within S D height)
    {scope : Scope} (t : SqlType) (room : ScalarRoom D scope.level (height + 1)) :
    (scalar S lower scope t).Within (S.load.calls (height + 1)) (D + 2) := by
  obtain ⟨above, high⟩ := room
  refine .entered (.drawn (resolve_draws t) fun picked _ => hS.pushed above ?_)
  refine ((attempt_within hS hs hl t picked ?_).retry _).noting _
  show scope.level + 1 < D → D - (scope.level + 1) + 2 ≤ height
  omega

theorem predicateAttempt_within (hS : Capped S D) (hs : lower.Sound S)
    (hl : lower.Within S D height) {scope : Scope} (room : SourceRoom D scope.level height) :
    (predicateAttempt S lower scope).Within (S.load.attempt (S.load.calls height))
      (D + 2) := by
  obtain ⟨above, high⟩ := room
  have operands : ScalarRoom D scope.level height := ⟨by omega, Or.inr high⟩
  have few : ∀ n, n ≤ 2 → 3 + n * S.load.calls height ≤ S.load.attempt (S.load.calls height) :=
    fun n hn => Load.le_attempt _ (by unfold Load.fanOut; omega)
  refine predicateAttempt_of (P := (Gen.Within · _ (D + 2))) .drawn ?_ ?_ ?_
  · exact (binary_within hl .bool operands).mono (few 2 (by omega))
  · have := few 1 (by omega)
    exact (hl.scalar scope .bool operands).mono (by omega)
  · exact (existence_within hS hs hl ⟨above, high⟩).mono
      (Load.le_attempt _ (Load.width_le_fanOut _))

theorem predicate_within (hS : Capped S D) (hs : lower.Sound S) (hl : lower.Within S D height)
    {scope : Scope} (room : PredicateRoom D scope.level (height + 1)) :
    (predicate S lower scope).Within (S.load.calls (height + 1)) (D + 2) := by
  obtain ⟨above, high⟩ := room
  have retries := (inRange_of_isValid hS.valid).retryCount
  have once := Load.attempt_le_calls (l := S.load) retries height
  have few : 3 + 1 * S.load.calls height ≤ S.load.attempt (S.load.calls height) :=
    Load.le_attempt _ (by unfold Load.fanOut; omega)
  unfold predicate
  rw [hS.atDepthLimit]
  refine Gen.Within.entered ?_
  split
  · rename_i limit
    -- at the cap the predicate is an expression, which then ends at once
    have limit : D ≤ scope.level := by simpa using limit
    refine (hl.scalar scope .bool ⟨above, Or.inl ⟨limit, by omega⟩⟩).mono ?_
    have := Nat.le_mul_of_pos_left (S.load.attempt (S.load.calls height))
      (Nat.pos_of_ne_zero retries)
    show _ ≤ S.options.retryCount * _
    omega
  · rename_i limit
    have limit : scope.level < D := by simpa using limit
    refine hS.pushed above ?_
    refine ((predicateAttempt_within hS hs hl ?_).retry _).noting _
    exact ⟨limit, by show D - (scope.level + 1) + 2 ≤ height; omega⟩

/-! ## §3. FROM items and statements. -/

theorem tableRef_within (hS : Capped S D) {scope : Scope} (above : scope.level ≤ D) :
    (tableRef S scope).Within 1 (D + 2) := by
  refine .entered (c := 0) (.drawn (Gen.pick_draws S.catalog.tables) fun table _ => ?_)
  refine (Gen.fresh_within aliasStem).bind (c := 0) (m := 0) fun name _ => ?_
  exact hS.pushed (Nat.le_succ_of_le above) (Gen.pure_within _)

/-- A join asks for its sides one level below, and cuts from their scopes a part that
is there. -/
theorem join_within (hS : Capped S D) (hs : lower.Sound S) (hl : lower.Within S D height)
    {scope : Scope} (above : scope.level < D) (high : D - scope.level + 2 ≤ height + 1) :
    (join lower scope).Within (1 + 3 * S.load.calls height) (D + 2) := by
  have parts : (join lower scope).Within
      (1 + (S.load.calls height + (S.load.calls height + S.load.calls height))) (D + 2) := by
    have side : SourceRoom D scope.child.level height := by
      show scope.level + 1 ≤ D ∧ D - (scope.level + 1) + 2 ≤ height
      omega
    refine .entered (hS.pushed (by omega) ?_)
    refine (hl.source scope.child side).bind fun p hp => ?_
    obtain ⟨leftScope, lhs⟩ := p
    obtain ⟨-, -, hleft, -⟩ := Gen.Finds.mayFind (fun k => hs.source scope.child k) hp
    refine (hl.source scope.child side).bind fun p hp => ?_
    obtain ⟨rightScope, rhs⟩ := p
    obtain ⟨-, -, hright, -⟩ := Gen.Finds.mayFind (fun k => hs.source scope.child k) hp
    simp only at hleft hright
    dsimp only
    refine .drawn (refsFrom_draws scope.child.child hleft) fun left _ => ?_
    refine .drawn (refsFrom_draws scope.child.child hright) fun right _ => ?_
    refine (hl.predicate _ ?_).map _
    show scope.level + 1 ≤ D + 1 ∧ D - (scope.level + 1) + 2 ≤ height
    omega
  exact parts.mono (by omega)

theorem source_within (hS : Capped S D) (hs : lower.Sound S) (hl : lower.Within S D height)
    {scope : Scope} (room : SourceRoom D scope.level (height + 1)) :
    (source S lower scope).Within (S.load.calls (height + 1)) (D + 2) := by
  obtain ⟨above, high⟩ := room
  have retries := (inRange_of_isValid hS.valid).retryCount
  have once := Load.attempt_le_calls (l := S.load) retries height
  have few : 3 + 3 * S.load.calls height ≤ S.load.attempt (S.load.calls height) :=
    Load.le_attempt _ (by unfold Load.fanOut; omega)
  have parts : (source S lower scope).Within (1 + (1 + 3 * S.load.calls height)) (D + 2) := by
    refine .entered (.drawn (joins_draws S scope) fun joined hjoined => ?_)
    split
    · have limit := (hjoined ‹_›).1
      rw [hS.atDepthLimit] at limit
      exact join_within hS hs hl (by simpa using limit) high
    · exact ((tableRef_within hS above).map _).mono (by omega)
  exact parts.mono (by omega)

/-- Rows of a VALUES: for each one expression for each type. -/
theorem values_within (hS : Capped S D) (hl : lower.Within S D height) {scope : Scope}
    {desired : Option (List SqlType)} (hd : Narrow S.load desired)
    (room : ReturningRoom D scope.level (height + 1)) :
    (values S lower scope desired).Within (S.load.attempt (S.load.calls height)) (D + 2) := by
  obtain ⟨above, high⟩ := room
  have inRange := inRange_of_isValid hS.valid
  have parts : (values S lower scope desired).Within
      (1 + (S.load.attempt (S.load.calls height) - 3)) (D + 2) := by
    refine .entered (hS.pushed (by omega) (.drawn (types_draws S hd) fun types htypes => ?_))
    refine .drawn ((Gen.die_draws S.options.maxValuesRows).mono (fun _ h => h)
      fun _ h => absurd h.2 inRange.maxValuesRows) fun count hcount => ?_
    have cells : ScalarRoom D scope.child.level height := by
      show scope.level + 1 ≤ D + 1
        ∧ (D ≤ scope.level + 1 ∧ 1 ≤ height ∨ D - (scope.level + 1) + 2 ≤ height)
      omega
    refine (((row_within hl types cells).times count).map _).mono ?_
    have fits : count * types.length ≤ S.load.fanOut :=
      Load.rows_le_fanOut hcount.2 htypes
    have := Load.le_attempt (S.load.calls height) fits
    rw [← Nat.mul_assoc]
    omega
  refine parts.mono ?_
  unfold Load.attempt
  omega

/-- A set operation asks both sides for the same types. -/
theorem setOp_within (hS : Capped S D) (hl : lower.Within S D height) {scope : Scope}
    {desired : Option (List SqlType)} (hd : Narrow S.load desired) (above : scope.level < D)
    (high : D - scope.level + 3 ≤ height + 1) :
    (setOp S lower scope desired).Within (3 + 2 * S.load.calls height) (D + 2) := by
  have parts : (setOp S lower scope desired).Within
      (1 + (S.load.calls height + (S.load.calls height + 0))) (D + 2) := by
    refine .entered (hS.pushed (by omega) (.drawn (types_draws S hd) fun types htypes => ?_))
    have narrow : Narrow S.load (some types) := by
      intro ts hts
      injection hts with hts
      exact hts ▸ htypes
    have side : ReturningRoom D scope.child.level height := by
      show scope.level + 1 ≤ D ∧ D - (scope.level + 1) + 3 ≤ height
      omega
    refine (hl.returning _ _ narrow side).bind fun left _ => ?_
    refine (hl.returning _ _ narrow side).bind fun right _ => ?_
    exact .drawn (Gen.pick_draws SetOperator.all) fun op _ => Gen.pure_within _
  exact parts.mono (by omega)

theorem returningAttempt_within (hS : Capped S D) (hs : lower.Sound S)
    (hl : lower.Within S D height) {scope : Scope} {desired : Option (List SqlType)}
    (hd : Narrow S.load desired) (above : scope.level < D)
    (high : D - scope.level + 3 ≤ height + 1) :
    (returningAttempt S lower scope desired).Within (S.load.attempt (S.load.calls height))
      (D + 2) := by
  refine .drawn (damped_draws onOneOrTwo_draws) fun _ _ => ?_
  split
  · exact (setOp_within hS hl hd above high).mono
      (Load.le_attempt _ (by unfold Load.fanOut; omega))
  refine .drawn onOneOrTwo_draws fun _ _ => ?_
  split
  · exact values_within hS hl hd ⟨by omega, high⟩
  · refine ((select_within hS hs hl hd ⟨by omega, by omega⟩).map _).mono ?_
    have := Load.le_attempt (S.load.calls height) (Load.width_le_fanOut S.load)
    omega

theorem returning_within (hS : Capped S D) (hs : lower.Sound S) (hl : lower.Within S D height)
    {scope : Scope} {desired : Option (List SqlType)} (hd : Narrow S.load desired)
    (room : ReturningRoom D scope.level (height + 1)) :
    (returning S lower scope desired).Within (S.load.calls (height + 1)) (D + 2) := by
  have retries := (inRange_of_isValid hS.valid).retryCount
  unfold returning
  rw [hS.atDepthLimit]
  refine Gen.Within.entered ?_
  split
  · exact Gen.nothing_within
  split
  · exact (values_within hS hl hd room).mono
      (Nat.le_mul_of_pos_left _ (Nat.pos_of_ne_zero retries))
  · rename_i limit
    have above : scope.level < D := by simpa using limit
    exact ((returningAttempt_within hS hs hl hd above room.2).retry _).noting _

/-! ## §4. The tower and statements. -/

/-- **A tower that is as high as the distance to the cap never runs out**: its generators
stay within the bounds of that distance, however much higher it is. -/
theorem tower_within (hS : Capped S D) :
    ∀ {height n : Nat}, height ≤ n → (tower S n).Within S D height := by
  intro height
  induction height with
  | zero =>
      -- no kind of generator has room without height
      intro n _
      refine ⟨fun _ _ room => ?_, fun _ room => ?_, fun _ room => ?_, fun _ _ _ room => ?_⟩
      · unfold ScalarRoom at room
        omega
      · unfold PredicateRoom at room
        omega
      · unfold SourceRoom at room
        omega
      · unfold ReturningRoom at room
        omega
  | succ height ih =>
      intro n hn
      obtain ⟨n, rfl⟩ : ∃ m, n = m + 1 := ⟨n - 1, by omega⟩
      have hl := ih (Nat.le_of_succ_le_succ hn)
      have hs := tower_sound S n
      exact
        { scalar := fun scope t room => scalar_within hS hs hl t room
          predicate := fun scope room => predicate_within hS hs hl room
          source := fun scope room => source_within hS hs hl room
          returning := fun scope desired hd room => returning_within hS hs hl hd room }

/-- **The bounds of a statement.** -/
theorem statement_within (hS : Capped S D) {n : Nat} (hn : D + 3 ≤ n) :
    (statement S (tower S n) Scope.root).Within (S.load.statement D) (D + 2) := by
  have hl := tower_within hS hn
  have inRange := inRange_of_isValid hS.valid
  have room : ReturningRoom D Scope.root.level (D + 3) := by
    show 0 ≤ D ∧ D - 0 + 3 ≤ D + 3
    omega
  have body : (statement S (tower S n) Scope.root).Within
      (1 + (1 + S.load.calls (D + 3))) (D + 2) := by
    refine .entered (.drawn (Gen.chance_draws_of_isProbability inRange.insertProb)
      fun inserting _ => ?_)
    cases inserting with
    | false =>
        exact (hl.returning _ none (fun _ h => by cases h) room).mono (Nat.le_add_left _ _)
    | true =>
        refine .entered (.drawn (Gen.pick_draws S.catalog.tables) fun table listed => ?_)
        refine .drawn (insertTargets_draws table.columns) fun targets htargets => ?_
        split
        · exact Gen.nothing_within
        refine (hl.returning _ _ ?_ room).map _
        intro ts hts
        injection hts with hts
        subst hts
        rw [List.length_map]
        have := targets_le_mostTargets listed htargets
        show _ ≤ max 1 (max S.catalog.mostTargets _)
        omega
  refine body.mono ?_
  unfold Load.statement
  omega

end Within

end QueryFuzz.Generate
