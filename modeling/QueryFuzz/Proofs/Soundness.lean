/-
  QueryFuzz.Proofs.Soundness
  ──────────────────────────
  **THE GENERATORS KEEP TO THE GRAMMAR.**

  One lemma for each generator: whatever it finds is derived, given that what
  the generators below it find is (`Lower.Sound`).  By induction on the height
  of the tower this holds of all of them (`tower_sound`), hence of a session's
  statements (`Session.generate_derived`).
-/
import QueryFuzz.Proofs.Derivation
import QueryFuzz.Session

namespace QueryFuzz

namespace Generate

/-! ## §1. Leaves and scopes. -/

/-- What the generators of one height find is derived. -/
structure Lower.Sound (S : Setting) (lower : Lower) : Prop where
  scalar : ∀ scope t k,
    (lower.scalar scope t).Finds k fun e k' => Derives S (.scalar scope t e) k k'
  predicate : ∀ scope k,
    (lower.predicate scope).Finds k fun e k' => Derives S (.predicate scope e) k k'
  source : ∀ scope k, (lower.source scope).Finds k fun p k' =>
    p.1 = scope.child.seeing p.2.leaves ∧ Derives S (.source scope p.2) k k'
  returning : ∀ scope desired k, (lower.returning scope desired).Finds k fun r k' =>
    Derives S (.returning scope desired r) k k'

section Sound

variable {S : Setting} {lower : Lower}

theorem push_finds (scope : Scope) (k : Nat) :
    scope.push.Finds k fun inner k' => inner = scope.child ∧ k' = k := by
  unfold Scope.push
  split
  · intro words s hs
    refine ⟨Nat.le_of_eq hs.symm, fun inner h => ⟨?_, hs⟩⟩
    injection h with h
    exact h.symm
  · exact Gen.halt_finds

/-- The references behind those that a child scope started with. -/
theorem refsFrom_draws (scope : Scope) {inner : Scope} {refs : List TableRef} {F : Fault → Prop}
    (h : inner = scope.seeing refs) :
    (inner.refsFrom scope.refs.length).Draws (fun tail => tail = refs) F := by
  subst h
  unfold Scope.refsFrom
  rw [if_pos (by simp [Scope.seeing])]
  exact Gen.pure_draws (by simp [Scope.seeing])

theorem damped_draws {level : Nat} {test : Gen Bool} {F : Fault → Prop}
    (htest : test.Draws (fun _ => True) F) :
    (damped level test).Draws (fun passed => passed = true → level < 6) F := by
  refine (Gen.die_draws_of_ne_zero (by decide)).bind fun roll hroll => ?_
  split
  · exact htest.mono (fun _ _ _ => by omega) fun _ h => h
  · exact Gen.pure_draws fun h => by cases h

theorem onOne_draws {sides : Nat} (hsides : sides ≠ 0) {F : Fault → Prop} :
    (onOne sides).Draws (fun _ => True) F :=
  (Gen.die_draws_of_ne_zero hsides).bind fun _ _ => Gen.pure_draws trivial

theorem onOneOrTwo_draws {F : Fault → Prop} : onOneOrTwo.Draws (fun _ => True) F :=
  (Gen.die_draws_of_ne_zero (by decide)).bind fun _ _ => Gen.pure_draws trivial

theorem refers_draws (scope : Scope) {F : Fault → Prop} :
    (refers scope).Draws (fun _ => True) F := by
  unfold refers
  split
  · exact Gen.pure_draws trivial
  · exact (Gen.die_draws_of_ne_zero (by decide)).bind fun _ _ => Gen.pure_draws trivial

/-- A FROM item becomes a join only above the depth limit and below level nine. -/
theorem joins_draws (S : Setting) (scope : Scope) {F : Fault → Prop} :
    (joins S scope).Draws
      (fun joined => joined = true → scope.atDepthLimit S.options = false ∧ scope.level < 9)
      F := by
  unfold joins
  split
  · exact Gen.pure_draws fun h => by cases h
  · rename_i above
    refine (Gen.die_draws_of_ne_zero (by decide)).bind fun roll hroll => ?_
    split
    · refine (Gen.die_draws_of_ne_zero (by decide)).bind fun second _ => Gen.pure_draws fun _ => ?_
      exact ⟨by simpa using above, by omega⟩
    · exact Gen.pure_draws fun h => by cases h

theorem const_sound (scope : Scope) (requested picked : SqlType) (k : Nat) :
    (const S picked).Finds k fun e k' => Derives S (.attempt scope requested picked e) k k' := by
  refine .entered (.drawn (F := fun _ => True) (resolve_draws picked) fun t ht => ?_)
  refine .drawn (nullLiteral_draws S t) fun null hnull => ?_
  cases null with
  | true => exact Gen.pure_finds (.const ht (Or.inl ⟨rfl, hnull⟩))
  | false =>
      refine .drawn (F := fun _ => True) (literalValue_draws t.base) fun v hv => ?_
      exact Gen.pure_finds (.const ht (Or.inr ⟨hv, hnull⟩))

theorem columnRef_sound (scope : Scope) (requested picked : SqlType) (k : Nat) :
    (columnRef scope requested).Finds k fun e k' =>
      Derives S (.attempt scope requested picked e) k k' := by
  refine .entered (.drawn (F := fun _ => True) (Gen.pick_draws scope.refs) fun ref href => ?_)
  refine .drawn (F := fun _ => True) (Gen.pick_draws ref.table.columns) fun column hcolumn => ?_
  split
  · rename_i serves
    exact Gen.pure_finds (.column href hcolumn serves)
  · exact Gen.nothing_finds

/-! ## §2. Draws choose a construct. -/

section Attempts

variable {P : Gen Scalar → Prop} {F : Fault → Prop} {scope : Scope} {requested picked : SqlType}

/-- **An attempt at an expression is a construct that draws chose**: what is kept where a
draw comes first holds of the attempt, if it holds of the leaves and, above the depth limit
and the level below which dice are damped out, of each construct. -/
theorem attempt_of
    (drawn : ∀ {test : Gen Bool} {Q : Bool → Prop} {f : Bool → Gen Scalar},
      test.Draws Q F → (∀ passed, Q passed → P (f passed)) → P (test >>= f))
    (column : P (columnRef scope requested)) (const : P (const S picked))
    (constructs : scope.atDepthLimit S.options = false → scope.level < 6 →
      P (case lower scope picked) ∧ P (coalesce lower scope picked)
        ∧ P (binary S lower scope requested) ∧ P (call S lower scope requested)
        ∧ P (subquery S lower scope picked)) :
    P (attempt S lower scope requested picked) := by
  unfold attempt
  split
  · refine drawn (refers_draws scope) fun _ _ => ?_
    split
    · exact column
    · exact const
  · rename_i limit
    -- a test that passes proves its level, so the constructs may be asked for behind it only
    have chosen := constructs (by simpa using limit)
    have nested : ∀ sides, sides ≠ 0 → (damped scope.level (onOne sides)).Draws
        (fun passed => passed = true → scope.level < 6) F :=
      fun sides hsides => damped_draws (onOne_draws hsides)
    refine drawn (nested 9 (by decide)) fun _ shallow => ?_
    split
    · exact (chosen (shallow ‹_›)).1
    refine drawn (nested 42 (by decide)) fun _ shallow => ?_
    split
    · exact (chosen (shallow ‹_›)).2.1
    refine drawn (refers_draws scope) fun _ _ => ?_
    split
    · exact column
    refine drawn (nested 9 (by decide)) fun _ shallow => ?_
    split
    · exact (chosen (shallow ‹_›)).2.2.1
    refine drawn (nested 9 (by decide)) fun _ shallow => ?_
    split
    · exact (chosen (shallow ‹_›)).2.2.2.1
    refine drawn (nested 6 (by decide)) fun _ shallow => ?_
    split
    · exact (chosen (shallow ‹_›)).2.2.2.2
    · exact const

/-- So is an attempt at a predicate. -/
theorem predicateAttempt_of
    (drawn : ∀ {roll : Gen Nat} {Q : Nat → Prop} {f : Nat → Gen Scalar},
      roll.Draws Q F → (∀ n, Q n → P (f n)) → P (roll >>= f))
    (comparison : P (binary S lower scope .bool)) (truth : P (lower.scalar scope .bool))
    (existence : P (existence S lower scope)) : P (predicateAttempt S lower scope) := by
  unfold predicateAttempt
  refine drawn (Gen.die_draws_of_ne_zero (by decide)) fun first _ => ?_
  split
  · exact comparison
  refine drawn (Gen.die_draws_of_ne_zero (by decide)) fun second _ => ?_
  split
  · exact truth
  · exact existence

end Attempts

/-! ## §3. Expressions and queries. -/

theorem case_sound (hl : lower.Sound S) {scope : Scope} {requested picked : SqlType}
    (above : scope.atDepthLimit S.options = false) (shallow : scope.level < 6) (k : Nat) :
    (case lower scope picked).Finds k fun e k' =>
      Derives S (.attempt scope requested picked e) k k' := by
  refine .entered ((hl.scalar scope .bool k).bind fun condition k₁ _ hcondition => ?_)
  refine (hl.scalar scope picked k₁).bind fun yes k₂ _ hyes => ?_
  refine (hl.scalar scope picked k₂).bind fun no k₃ _ hno => ?_
  exact Gen.pure_finds (.case above shallow hcondition hyes hno)

theorem coalesce_sound (hl : lower.Sound S) {scope : Scope} {requested picked : SqlType}
    (above : scope.atDepthLimit S.options = false) (shallow : scope.level < 6) (k : Nat) :
    (coalesce lower scope picked).Finds k fun e k' =>
      Derives S (.attempt scope requested picked e) k k' := by
  refine .entered ((hl.scalar scope picked k).bind fun first k₁ _ hfirst => ?_)
  refine (hl.scalar scope picked k₁).bind fun second k₂ _ hsecond => ?_
  exact Gen.pure_finds (.coalesce above shallow hfirst hsecond)

theorem binary_sound (hl : lower.Sound S) (scope : Scope) (request : SqlType) (k : Nat) :
    (binary S lower scope request).Finds k fun e k' =>
      Derives S (.binary scope request e) k k' := by
  refine .entered (.drawn (F := fun _ => True) (resolve_draws request) fun t ht => ?_)
  refine .drawn (F := fun _ => True) (Gen.pick_draws (S.catalog.operatorsFor t)) fun op hop => ?_
  refine (hl.scalar scope op.left k).bind fun left k₁ _ hleft => ?_
  refine (hl.scalar scope op.right k₁).bind fun right k₂ _ hright => ?_
  exact Gen.pure_finds (.binary ht hop hleft hright)

theorem row_sound (hl : lower.Sound S) (scope : Scope) (types : List SqlType) :
    ∀ k, (row lower scope types).Finds k fun es k' => Derives S (.row scope types es) k k' := by
  induction types with
  | nil => exact fun k => Gen.pure_finds .rowNil
  | cons t types ih =>
      intro k
      refine (hl.scalar scope t k).bind fun e k₁ _ he => ?_
      exact (ih k₁).bind fun es k₂ _ hes => Gen.pure_finds (.rowCons he hes)

theorem call_sound (hl : lower.Sound S) {scope : Scope} {requested picked : SqlType}
    (above : scope.atDepthLimit S.options = false) (shallow : scope.level < 6) (k : Nat) :
    (call S lower scope requested).Finds k fun e k' =>
      Derives S (.attempt scope requested picked e) k k' := by
  refine .entered (.drawn (F := fun _ => True) (resolve_draws requested) fun t ht => ?_)
  refine .drawn (F := fun _ => True) (Gen.pick_draws (S.catalog.functionsFor t)) fun f hf => ?_
  refine (row_sound hl scope f.inputs k).bind fun args k₁ _ hargs => ?_
  exact Gen.pure_finds (.call above shallow ht hf hargs)

theorem orderTerms_sound (hl : lower.Sound S) (scope : Scope) (rounds : Nat) :
    ∀ k, (orderTerms lower scope rounds).Finds k fun es k' =>
      Derives S (.terms scope es) k k' := by
  induction rounds with
  | zero => exact fun k => Gen.halt_finds
  | succ rounds ih =>
      intro k
      refine .drawn (F := fun _ => True) Gen.coin_draws fun heads _ => ?_
      cases heads with
      | false => exact Gen.pure_finds .termsNil
      | true =>
          refine (hl.scalar scope .any k).bind fun e k₁ _ he => ?_
          exact (ih k₁).bind fun es k₂ _ hes => Gen.pure_finds (.termsCons he hes)

theorem filter_sound (hl : lower.Sound S) (scope : Scope) (k : Nat) :
    (filter lower scope).Finds k fun condition k' =>
      Derives S (.filter scope condition) k k' := by
  refine .drawn (F := fun _ => True) Gen.coin_draws fun heads _ => ?_
  cases heads with
  | false => exact Gen.pure_finds .noFilter
  | true => exact (hl.predicate scope k).map fun e k' he => .filter he

theorem select_sound (hl : lower.Sound S) (scope : Scope) (desired : Option (List SqlType))
    (k : Nat) :
    (select S lower scope desired).Finds k fun q k' =>
      Derives S (.select scope desired q) k k' := by
  refine .entered ((hl.source scope k).bind fun p k₁ _ hp => ?_)
  obtain ⟨inner, source⟩ := p
  obtain ⟨hinner, hsource⟩ := hp
  simp only at hinner hsource
  subst hinner
  dsimp only
  refine Gen.Finds.bind (Q := fun items k' => ∃ types, Served desired types
    ∧ Derives S (.row (scope.child.seeing source.leaves) types items) k₁ k') ?_ ?_
  · refine .entered (.drawn (desiredOrRandom_draws S.rounds desired) fun types htypes => ?_)
    exact (row_sound hl _ types k₁).mono fun items k' _ h => ⟨types, htypes.1, h⟩
  · rintro items k₂ - ⟨types, served, hitems⟩
    refine (filter_sound hl _ k₂).bind fun condition k₃ _ hfilter => ?_
    refine (orderTerms_sound hl _ S.rounds k₃).bind fun orderBy k₄ _ horder => ?_
    refine .drawn (Gen.chance_draws S.options.distinctProb) fun distinct hdistinct => ?_
    refine .drawn (limit_draws S) fun limit hlimit => ?_
    exact Gen.pure_finds (.select served hsource hitems hfilter horder hdistinct hlimit)

theorem subquery_sound (hl : lower.Sound S) {scope : Scope} {requested picked : SqlType}
    (above : scope.atDepthLimit S.options = false) (shallow : scope.level < 6) (k : Nat) :
    (subquery S lower scope picked).Finds k fun e k' =>
      Derives S (.attempt scope requested picked e) k k' := by
  refine .entered ((select_sound hl scope (some [picked]) k).bind fun q k₁ _ hq => ?_)
  split
  · exact Gen.nothing_finds
  · rename_i hitems
    exact Gen.pure_finds (.subquery above shallow hq hitems)

/-- One attempt at an expression: whatever draws chose is a construct of the grammar. -/
theorem attempt_sound (hl : lower.Sound S) (scope : Scope) (requested picked : SqlType)
    (k : Nat) :
    (attempt S lower scope requested picked).Finds k fun e k' =>
      Derives S (.attempt scope requested picked e) k k' := by
  refine attempt_of
    (P := fun g => g.Finds k fun e k' => Derives S (.attempt scope requested picked e) k k')
    (F := fun _ => True) .drawn (columnRef_sound scope requested picked k)
    (const_sound scope requested picked k) fun above shallow => ?_
  have operator : (binary S lower scope requested).Finds k fun e k' =>
      Derives S (.attempt scope requested picked e) k k' :=
    (binary_sound hl scope requested k).mono fun _ _ _ => .operator above shallow
  exact ⟨case_sound hl above shallow k, coalesce_sound hl above shallow k, operator,
    call_sound hl above shallow k, subquery_sound hl above shallow k⟩

theorem scalar_sound (hl : lower.Sound S) (scope : Scope) (t : SqlType) (k : Nat) :
    (scalar S lower scope t).Finds k fun e k' => Derives S (.scalar scope t e) k k' := by
  refine .entered (.drawn (F := fun _ => True) (resolve_draws t) fun picked hpicked => ?_)
  refine (push_finds scope k).bind fun inner k₁ _ h => ?_
  obtain ⟨rfl, rfl⟩ := h
  refine (Gen.Finds.retry _ fun k' hk' => ?_).noting _
  exact (attempt_sound hl scope.child t picked k').mono fun e k'' _ he =>
    .skip hk' (.scalar hpicked he)

theorem predicate_sound (hl : lower.Sound S) (scope : Scope) (k : Nat) :
    (predicate S lower scope).Finds k fun e k' => Derives S (.predicate scope e) k k' := by
  refine .entered ?_
  split
  · rename_i limit
    exact (hl.scalar scope .bool k).mono fun e k' _ he => .predicateAtLimit limit he
  · rename_i limit
    have above : scope.atDepthLimit S.options = false := by simpa using limit
    refine (push_finds scope k).bind fun inner k₁ _ h => ?_
    obtain ⟨rfl, rfl⟩ := h
    refine (Gen.Finds.retry _ fun k' hk' => ?_).noting _
    refine Gen.Finds.mono (Q := fun e k'' => Derives S (.predicate scope e) k' k'') ?_
      fun e k'' _ he => .skip hk' he
    refine predicateAttempt_of
      (P := fun g => g.Finds k' fun e k'' => Derives S (.predicate scope e) k' k'')
      (F := fun _ => True) .drawn ?_ ?_ ?_
    · exact (binary_sound hl scope.child .bool k').mono fun e k'' _ he => .comparison above he
    · exact (hl.scalar scope.child .bool k').mono fun e k'' _ he => .truth above he
    · exact .entered ((select_sound hl scope.child none k').bind fun q k'' _ hq =>
        Gen.pure_finds (.existence above hq))

/-! ## §4. FROM items and statements. -/

theorem tableRef_sound (scope : Scope) (k : Nat) :
    (tableRef S scope).Finds k fun p k' =>
      p.1 = scope.child.seeing [p.2] ∧ Derives S (.source scope (.table p.2)) k k' := by
  refine .entered (.drawn (F := fun _ => True) (Gen.pick_draws S.catalog.tables)
    fun table listed => ?_)
  refine (Gen.fresh_finds aliasStem).bind fun name k₁ _ hname => ?_
  obtain ⟨rfl, rfl⟩ := hname
  refine (push_finds scope (k + 1)).bind fun inner k₂ _ h => ?_
  obtain ⟨rfl, rfl⟩ := h
  exact Gen.pure_finds ⟨rfl, .table listed⟩

/-- A join cuts from the scopes of its sides just the references that each side
brought into view. -/
theorem join_finds (hl : lower.Sound S) (scope : Scope) (k : Nat) :
    (join lower scope).Finds k fun p k' => ∃ lhs rhs on k₁ k₂,
      Derives S (.source scope.child lhs) k k₁ ∧ Derives S (.source scope.child rhs) k₁ k₂
        ∧ Derives S (.predicate (scope.child.seeing (lhs.leaves ++ rhs.leaves)) on) k₂ k'
        ∧ p = (scope.child.seeing (lhs.leaves ++ rhs.leaves),
            .join lhs rhs on (lhs.columns ++ rhs.columns)) := by
  refine .entered ((push_finds scope k).bind fun inner k₁ _ h => ?_)
  obtain ⟨rfl, rfl⟩ := h
  refine (hl.source scope.child k₁).bind fun p k₂ _ hp => ?_
  obtain ⟨leftScope, lhs⟩ := p
  obtain ⟨hleftScope, hleft⟩ := hp
  refine (hl.source scope.child k₂).bind fun p k₃ _ hp => ?_
  obtain ⟨rightScope, rhs⟩ := p
  obtain ⟨hrightScope, hright⟩ := hp
  simp only at hleftScope hleft hrightScope hright
  dsimp only
  refine .drawn (F := fun _ => True)
    (refsFrom_draws scope.child.child hleftScope) fun left hl' => ?_
  refine .drawn (F := fun _ => True)
    (refsFrom_draws scope.child.child hrightScope) fun right hr' => ?_
  subst hl' hr'
  refine (hl.predicate _ k₃).bind fun on k₄ _ hon => ?_
  exact Gen.pure_finds ⟨lhs, rhs, on, k₂, k₃, hleft, hright, hon, rfl⟩

theorem join_sound (hl : lower.Sound S) {scope : Scope}
    (above : scope.atDepthLimit S.options = false) (shallow : scope.level < 9) (k : Nat) :
    (join lower scope).Finds k fun p k' =>
      p.1 = scope.child.seeing p.2.leaves ∧ Derives S (.source scope p.2) k k' := by
  refine (join_finds hl scope k).mono fun p k' _ h => ?_
  obtain ⟨lhs, rhs, on, k₁, k₂, hleft, hright, hon, rfl⟩ := h
  exact ⟨rfl, .join above shallow hleft hright hon⟩

theorem source_sound (hl : lower.Sound S) (scope : Scope) (k : Nat) :
    (source S lower scope).Finds k fun p k' =>
      p.1 = scope.child.seeing p.2.leaves ∧ Derives S (.source scope p.2) k k' := by
  refine .entered (.drawn (F := fun _ => True) (joins_draws S scope) fun joined hjoined => ?_)
  split
  · obtain ⟨above, shallow⟩ := hjoined ‹_›
    exact join_sound hl above shallow k
  · refine (tableRef_sound scope k).bind fun p k₁ _ hp => ?_
    obtain ⟨inner, ref⟩ := p
    exact Gen.pure_finds hp

theorem times_row_sound (hl : lower.Sound S) (scope : Scope) (types : List SqlType) (n : Nat) :
    ∀ k, (Gen.times n (row lower scope types)).Finds k fun rows k' =>
      rows.length = n ∧ Derives S (.rows scope types rows) k k' := by
  induction n with
  | zero => exact fun k => Gen.pure_finds ⟨rfl, .rowsNil⟩
  | succ n ih =>
      intro k
      refine (row_sound hl scope types k).bind fun r k₁ _ hr => ?_
      refine (ih k₁).bind fun rows k₂ _ hrows => ?_
      exact Gen.pure_finds ⟨by simp [hrows.1], .rowsCons hr hrows.2⟩

theorem values_sound (hl : lower.Sound S) (scope : Scope) (desired : Option (List SqlType))
    (k : Nat) :
    (values S lower scope desired).Finds k fun r k' =>
      Derives S (.returning scope desired r) k k' := by
  refine .entered ((push_finds scope k).bind fun inner k₁ _ h => ?_)
  obtain ⟨rfl, rfl⟩ := h
  refine .drawn (desiredOrRandom_draws S.rounds desired) fun types htypes => ?_
  refine .drawn (Gen.die_draws S.options.maxValuesRows) fun count hcount => ?_
  refine (times_row_sound hl scope.child types count k₁).bind fun rows k₂ _ hrows => ?_
  refine Gen.pure_finds (.values htypes.1 ?_ ?_ hrows.2)
  · rw [hrows.1]
    exact hcount.1
  · rw [hrows.1]
    exact hcount.2

theorem setOp_sound (hl : lower.Sound S) {scope : Scope} {desired : Option (List SqlType)}
    (above : scope.atDepthLimit S.options = false) (shallow : scope.level < 6) (k : Nat) :
    (setOp S lower scope desired).Finds k fun r k' =>
      Derives S (.returning scope desired r) k k' := by
  refine .entered ((push_finds scope k).bind fun inner k₁ _ h => ?_)
  obtain ⟨rfl, rfl⟩ := h
  refine .drawn (desiredOrRandom_draws S.rounds desired) fun types htypes => ?_
  refine (hl.returning scope.child (some types) k₁).bind fun left k₂ _ hleft => ?_
  refine (hl.returning scope.child (some types) k₂).bind fun right k₃ _ hright => ?_
  refine .drawn (F := fun _ => True) (Gen.pick_draws SetOperator.all) fun op _ => ?_
  exact Gen.pure_finds (.setOp above shallow htypes.1 hleft hright)

theorem returning_sound (hl : lower.Sound S) (scope : Scope) (desired : Option (List SqlType))
    (k : Nat) :
    (returning S lower scope desired).Finds k fun r k' =>
      Derives S (.returning scope desired r) k k' := by
  refine .entered ?_
  split
  · exact Gen.nothing_finds
  split
  · exact values_sound hl scope desired k
  · rename_i limit
    have above : scope.atDepthLimit S.options = false := by simpa using limit
    refine (Gen.Finds.retry _ fun k' hk' => ?_).noting _
    refine Gen.Finds.mono (Q := fun r k'' => Derives S (.returning scope desired r) k' k'') ?_
      fun r k'' _ hr => .skip hk' hr
    refine .drawn (F := fun _ => True) (damped_draws onOneOrTwo_draws) fun _ shallow => ?_
    split
    · exact setOp_sound hl above (shallow ‹_›) k'
    refine .drawn (F := fun _ => True) onOneOrTwo_draws fun _ _ => ?_
    split
    · exact values_sound hl scope desired k'
    · exact (select_sound hl scope desired k').map fun q k'' hq => .query above hq

/-! ## §4. The tower and statements. -/

theorem exhausted_sound : Lower.exhausted.Sound S where
  scalar _ _ _ := Gen.halt_finds
  predicate _ _ := Gen.halt_finds
  source _ _ := Gen.halt_finds
  returning _ _ _ := Gen.halt_finds

/-- **Whatever the generators of a tower find is derived**, at every height. -/
theorem tower_sound (S : Setting) (n : Nat) : (tower S n).Sound S := by
  refine tower_induction exhausted_sound (fun n hl => ?_) n
  exact
    { scalar := fun scope t k => scalar_sound hl scope t k
      predicate := fun scope k => predicate_sound hl scope k
      source := fun scope k => source_sound hl scope k
      returning := fun scope desired k => returning_sound hl scope desired k }

/-- An INSERT that may be found in a scope: it names targets of a listed table, and what it
inserts is derived for their types. -/
inductive DerivesInsert (S : Setting) (scope : Scope) (k k' : Nat) : Relation → Prop where
  | mk {table : Table} {targets : List Column} {rows : Relation}
      (listed : table ∈ S.catalog.tables) (htargets : Targets table.columns targets)
      (some : targets ≠ [])
      (d : Derives S (.returning scope (.some (targets.map Column.type)) rows) k k') :
      DerivesInsert S scope k k' (.insert table.name targets rows)

theorem insert_sound (hl : lower.Sound S) (scope : Scope) (k : Nat) :
    (insert S lower scope).Finds k fun r k' => DerivesInsert S scope k k' r := by
  refine .entered (.drawn (F := fun _ => True) (Gen.pick_draws S.catalog.tables)
    fun table listed => ?_)
  refine .drawn (F := fun _ => True) (insertTargets_draws table.columns)
    fun targets htargets => ?_
  split
  · exact Gen.nothing_finds
  · rename_i hne
    refine (hl.returning scope (some (targets.map Column.type)) k).bind fun rows k₁ _ hr => ?_
    exact Gen.pure_finds (.mk listed htargets (by simpa using hne) hr)

theorem statement_sound (hl : lower.Sound S) (scope : Scope) (k : Nat) :
    (statement S lower scope).Finds k fun r k' => Derives S (.statement scope r) k k' := by
  refine .entered (.drawn (Gen.chance_draws S.options.insertProb) fun inserting hchance => ?_)
  cases inserting with
  | false => exact (hl.returning scope none k).mono fun r k' _ hr => .returning hchance hr
  | true =>
      refine (insert_sound hl scope k).mono fun r k' _ hr => ?_
      obtain ⟨listed, htargets, some, d⟩ := hr
      exact .insert hchance listed htargets some d

end Sound

end Generate

/-- What a draw of a session leaves, by what the generator leaves. -/
theorem Session.draw_eq {α : Type} (s : Session) (g : Gen α) :
    s.draw g = ((g s.words s.state).1, { s with state := (g s.words s.state).2 }) := by
  unfold Session.draw
  generalize g s.words s.state = r
  rfl

/-- The state that a session starts a statement in: names are numbered from one. -/
def Session.started (s : Session) : GenState :=
  { s.state with names := s.state.names.reset }

/-- What generating a statement leaves, by what the generator of statements leaves. -/
theorem Session.generate_eq (s : Session) :
    s.generate =
      ((s.statementGen.noting .generationFailed s.words s.started).1,
        { s with state := (s.statementGen.noting .generationFailed s.words s.started).2 }) :=
  Session.draw_eq { s with state := s.started } (s.statementGen.noting .generationFailed)

/-- **Whatever a session generates is derived** from the outermost scope with no
name handed out. -/
theorem Session.generate_derived {s s' : Session} {r : Relation}
    (h : s.generate = (.found r, s')) :
    Generate.Derives s.setting (.statement Generate.Scope.root r) 0
      s'.state.names.handedOut := by
  have sound : s.statementGen.Finds 0 fun r k' =>
      Generate.Derives s.setting (.statement Generate.Scope.root r) 0 k' :=
    Generate.statement_sound (Generate.tower_sound s.setting Generate.ampleNesting) _ 0
  rw [Session.generate_eq] at h
  obtain ⟨hfound, rfl⟩ := Prod.mk.injEq .. ▸ h
  exact (sound.noting .generationFailed s.words s.started rfl).2 r hfound

/-! ## §5. A session to look at. -/

/-- Whether something was found. -/
def Outcome.isFound {α : Type} : Outcome α → Bool
  | .found _ => true
  | .nothing => false
  | .halted _ => false

theorem Outcome.exists_of_isFound {α β : Type} {p : Outcome α × β} (h : p.1.isFound = true) :
    ∃ a b, p = (.found a, b) := by
  obtain ⟨o, b⟩ := p
  cases o with
  | found a => exact ⟨a, b, rfl⟩
  | nothing => cases h
  | halted why => cases h

namespace Sample

/-- Two tables, two operators and a function. -/
def draft : Draft where
  tables :=
    [⟨"t", [⟨"a", ⟨.int, false⟩, .writable⟩, ⟨"b", ⟨.string, true⟩, .writable⟩]⟩,
      ⟨"u", [⟨"c", ⟨.bool, true⟩, .mustBeWritten⟩]⟩]
  operators := [⟨"<", .int, .int, .bool⟩, ⟨"+", .int, .int, .int⟩]
  functions := [⟨"length", [⟨.string, true⟩], .int⟩]

/-- A period of 47 words, each the least or the greatest there is.  They lead to an
INSERT from a union, with a join whose ON holds a correlated EXISTS over another
join. -/
def words : WordStream := fun i =>
  if (76490404153128).testBit (i % 47) then 0xFFFFFFFF else 0

/-- Few attempts at each place, and a low cap on the depth. -/
def session : Session where
  catalog := draft.build
  options := { maxDepth := some 4, retryCount := 2 }
  words := words

theorem session_generates : ∃ r s', session.generate = (.found r, s') :=
  Outcome.exists_of_isFound (by decide +kernel)

end Sample

end QueryFuzz
