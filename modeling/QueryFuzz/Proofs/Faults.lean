/-
  QueryFuzz.Proofs.Faults
  ───────────────────────
  **WITHOUT A DEPTH CAP, ONLY GOING ON AND ON FAULTS.**

  Options need not cap the depth.  Then scopes nest as deep as the dice have it,
  through predicates without end; so a statement may fault where its levels can no
  longer be counted, and as ever where a loop of dice rolls goes on after its
  rounds.  Nothing else halts it: the tower of generators is higher than there are
  levels to count, and options that are in range fault nowhere.

      Gen.Steady g — nothing halts `g` but a loop or a nesting that goes on

  Main results:
    * `Generate.tower_steady` — a tower higher than the levels that are left is steady;
    * `Session.generate_endless` — the statements of a session whose options are in range
      fault only where a loop or an uncapped nesting goes on.
-/
import QueryFuzz.Proofs.Sessions

namespace QueryFuzz

/-- The faults of what goes on and on: a loop after its rounds, scopes below the deepest
level that can be counted. -/
def Fault.Endless (why : Fault) : Prop := why = .roundsExhausted ∨ why = .levelOverflow

namespace Gen

variable {α β : Type}

/-! ## §1. The rules. -/

/-- Nothing halts the generator but a loop or a nesting that goes on. -/
def Steady (g : Gen α) : Prop :=
  ∀ words s why, (g words s).1 = .halted why → why.Endless

section Rules

variable {g : Gen α}

theorem Draws.steady {Q : α → Prop} (hg : g.Draws Q Fault.Endless) : g.Steady :=
  fun words s why h => (hg words s).2.2 why h

theorem pure_steady (a : α) : (pure a : Gen α).Steady :=
  (pure_draws (Q := fun _ => True) trivial).steady

theorem nothing_steady : (nothing : Gen α).Steady :=
  (nothing_draws (Q := fun _ => True)).steady

theorem halt_steady {why : Fault} (h : why.Endless) : (halt why : Gen α).Steady :=
  (halt_draws (Q := fun _ => True) h).steady

theorem enter_steady : enter.Steady := by
  intro words s why h
  cases h

theorem note_steady (e : Event) : (note e).Steady := by
  intro words s why h
  cases h

theorem fresh_steady (stem : String) : (fresh stem).Steady := by
  intro words s why h
  cases h

theorem reach_steady (level : Nat) : (reach level).Steady := by
  intro words s why h
  cases h

/-- The second generator has to be steady on what the first one may find. -/
theorem Steady.bind {f : α → Gen β} (hg : g.Steady) (hf : ∀ a, g.MayFind a → (f a).Steady) :
    (g >>= f).Steady := by
  intro words s why h
  have first := hg words s
  have found : ∀ a, (g words s).1 = .found a → (f a).Steady := fun a ha => hf a ⟨words, s, ha⟩
  rw [bind_run] at h
  generalize g words s = r at first found h
  obtain ⟨o, s'⟩ := r
  cases o with
  | found a => exact found a rfl words s' why h
  | nothing => cases h
  | halted w =>
      refine first why ?_
      injection h with h
      rw [h]

theorem Steady.entered {f : Unit → Gen β} (hf : (f ()).Steady) : (enter >>= f).Steady :=
  enter_steady.bind fun _ _ => hf

/-- A draw before a generator. -/
theorem Steady.drawn {Q : α → Prop} {f : α → Gen β} (hg : g.Draws Q Fault.Endless)
    (hf : ∀ a, Q a → (f a).Steady) : (g >>= f).Steady := by
  refine hg.steady.bind fun a ha => ?_
  obtain ⟨words, s, found⟩ := ha
  exact hf a ((hg words s).2.1 a found)

theorem Steady.map (hg : g.Steady) (f : α → β) : (f <$> g).Steady :=
  hg.bind fun a _ => pure_steady (f a)

theorem Steady.orElse {h : Gen α} (hg : g.Steady) (hh : h.Steady) : (g.orElse h).Steady := by
  intro words s why halted
  have first := hg words s
  unfold Gen.orElse at halted
  generalize g words s = r at first halted
  obtain ⟨o, s'⟩ := r
  cases o with
  | found a => cases halted
  | nothing => exact hh words s' why halted
  | halted w => exact first why halted

theorem Steady.noting (hg : g.Steady) (e : Event) : (g.noting e).Steady :=
  hg.orElse ((note_steady e).bind fun _ _ => nothing_steady)

theorem Steady.retry (hg : g.Steady) (n : Nat) : (Gen.retry n g).Steady := by
  induction n with
  | zero => exact nothing_steady
  | succ n ih =>
      rw [retry_succ]
      exact hg.orElse ih

theorem Steady.times (hg : g.Steady) (n : Nat) : (Gen.times n g).Steady := by
  induction n with
  | zero => exact pure_steady []
  | succ n ih => exact hg.bind fun _ _ => ih.bind fun _ _ => pure_steady _

theorem traverse_steady {f : α → Gen β} (hf : ∀ a, (f a).Steady) (as : List α) :
    (Gen.traverse f as).Steady := by
  induction as with
  | nil => exact pure_steady []
  | cons a as ih => exact (hf a).bind fun _ _ => ih.bind fun _ _ => pure_steady _

end Rules

end Gen

namespace Generate

/-! ## §2. Room in the tower. -/

/-- Some levels are left to count, and the tower is higher than these: a level that can
no longer be counted may still be asked for an expression or a predicate, and at the depth
limit a predicate asks for an expression on its own level. -/
def Room (level height : Nat) : Prop :=
  level ≤ Scope.deepestLevel + 1 ∧ Scope.deepestLevel + 3 ≤ level + height

theorem Room.pos {level height : Nat} (h : Room level height) : 2 ≤ height := by
  obtain ⟨level, high⟩ := h
  omega

/-- One level below there is as much room for the generators one height below. -/
theorem Room.child {level height : Nat} (h : Room level (height + 1))
    (counted : level < Scope.deepestLevel) : Room (level + 1) height := by
  obtain ⟨-, high⟩ := h
  exact ⟨by omega, by omega⟩

/-- Generators with room for a height are steady.  An expression at the depth limit needs
no room; a FROM item is asked for on levels that can be counted, and a statement that
returns rows asks for one on its own level. -/
structure Lower.Steady (S : Setting) (height : Nat) (lower : Lower) : Prop where
  scalar : ∀ scope t,
    scope.atDepthLimit S.options = true ∧ 1 ≤ height ∨ Room scope.level height →
    (lower.scalar scope t).Steady
  predicate : ∀ scope, Room scope.level height → (lower.predicate scope).Steady
  source : ∀ scope, Room scope.level height → scope.level ≤ Scope.deepestLevel →
    (lower.source scope).Steady
  returning : ∀ scope desired, Room scope.level (height - 1) →
    scope.level ≤ Scope.deepestLevel → (lower.returning scope desired).Steady

section Steady

variable {S : Setting} {height : Nat} {lower : Lower}

theorem push_steady (scope : Scope) : scope.push.Steady := by
  unfold Scope.push
  split
  · exact (Gen.reach_steady _).bind fun _ _ => Gen.pure_steady _
  · exact Gen.halt_steady (.inr rfl)

/-- A scope that is opened is the child, on a level that can be counted. -/
theorem pushed_steady {β : Type} {scope : Scope} {f : Scope → Gen β}
    (hf : scope.level < Scope.deepestLevel → (f scope.child).Steady) :
    (scope.push >>= f).Steady := by
  refine (push_steady scope).bind fun inner hinner => ?_
  obtain ⟨-, -, rfl, -⟩ := Gen.Finds.mayFind (fun k => push_finds scope k) hinner
  obtain ⟨words, s, found⟩ := hinner
  by_cases counted : scope.level < Scope.deepestLevel
  · exact hf counted
  · unfold Scope.push at found
    rw [if_neg counted] at found
    cases found

/-! ## §3. Expressions and queries. -/

/-- Types for a statement are drawn in a loop, which may go on after its rounds. -/
theorem types_endless (rounds : Nat) (desired : Option (List SqlType)) :
    (desiredOrRandom rounds desired).Draws (fun _ => True) Fault.Endless :=
  (desiredOrRandom_draws rounds desired).mono (fun _ _ => trivial) fun _ h => .inl h

/-- Faults of options out of range do not come up. -/
theorem endless_of_invalid {o : Options} (valid : o.isValid = true) {why : Fault}
    (invalid : o.isValid = false) : why.Endless := by
  rw [valid] at invalid
  cases invalid

theorem const_steady (valid : S.options.isValid = true) (t : SqlType) : (const S t).Steady := by
  refine .entered (.drawn (resolve_draws t) fun t _ => ?_)
  have null : (nullLiteral S t).Draws (fun _ => True) Fault.Endless :=
    (nullLiteral_draws S t).mono (fun _ _ => trivial) fun _ h => endless_of_invalid valid h
  refine .drawn null fun isNull _ => ?_
  split
  · exact Gen.pure_steady _
  · exact .drawn (literalValue_draws t.base) fun v _ => Gen.pure_steady _

theorem columnRef_steady (scope : Scope) (t : SqlType) : (columnRef scope t).Steady := by
  refine .entered (.drawn (Gen.pick_draws scope.refs) fun ref _ => ?_)
  refine .drawn (Gen.pick_draws ref.table.columns) fun column _ => ?_
  split
  · exact Gen.pure_steady _
  · exact Gen.nothing_steady

section Operands

variable {scope : Scope} (operand : ∀ t, (lower.scalar scope t).Steady)

include operand

theorem case_steady (t : SqlType) : (case lower scope t).Steady :=
  .entered ((operand .bool).bind fun _ _ => (operand t).bind fun _ _ => (operand t).map _)

theorem coalesce_steady (t : SqlType) : (coalesce lower scope t).Steady :=
  .entered ((operand t).bind fun _ _ => (operand t).map _)

theorem binary_steady (t : SqlType) : (binary S lower scope t).Steady := by
  refine .entered (.drawn (resolve_draws t) fun t _ => ?_)
  refine .drawn (Gen.pick_draws (S.catalog.operatorsFor t)) fun op _ => ?_
  exact (operand op.left).bind fun _ _ => (operand op.right).map _

theorem row_steady (types : List SqlType) : (row lower scope types).Steady :=
  Gen.traverse_steady operand types

theorem call_steady (t : SqlType) : (call S lower scope t).Steady := by
  refine .entered (.drawn (resolve_draws t) fun t _ => ?_)
  refine .drawn (Gen.pick_draws (S.catalog.functionsFor t)) fun f _ => ?_
  exact (row_steady operand f.inputs).map _

theorem selectList_steady (desired : Option (List SqlType)) :
    (selectList S lower scope desired).Steady :=
  .entered (.drawn (types_endless S.rounds desired) fun types _ => row_steady operand types)

theorem orderTerms_steady (rounds : Nat) : (orderTerms lower scope rounds).Steady := by
  induction rounds with
  | zero => exact Gen.halt_steady (.inl rfl)
  | succ rounds ih =>
      refine .drawn Gen.coin_draws fun heads _ => ?_
      cases heads with
      | false => exact Gen.pure_steady _
      | true => exact (operand .any).bind fun _ _ => ih.map _

end Operands

theorem filter_steady {scope : Scope} (condition : (lower.predicate scope).Steady) :
    (filter lower scope).Steady := by
  refine .drawn Gen.coin_draws fun heads _ => ?_
  cases heads with
  | false => exact Gen.pure_steady _
  | true => exact condition.map _

theorem limit_steady (valid : S.options.isValid = true) : (limit S).Steady :=
  ((limit_draws S).mono (fun _ h => h) fun _ h => endless_of_invalid valid h).steady

/-- A query asks for a FROM item on its own level, and for all else one level below. -/
theorem select_steady (valid : S.options.isValid = true) (hs : lower.Sound S)
    (hl : lower.Steady S height) {scope : Scope} (desired : Option (List SqlType))
    (room : Room scope.level height) (counted : scope.level ≤ Scope.deepestLevel) :
    (select S lower scope desired).Steady := by
  refine .entered ((hl.source scope room counted).bind fun p hp => ?_)
  obtain ⟨inner, source⟩ := p
  obtain ⟨-, -, hinner, -⟩ := Gen.Finds.mayFind (fun k => hs.source scope k) hp
  simp only at hinner
  subst hinner
  have below : Room (scope.level + 1) height := by
    obtain ⟨-, high⟩ := room
    exact ⟨by omega, by omega⟩
  have operand := fun t => hl.scalar (scope.child.seeing source.leaves) t (.inr below)
  refine (selectList_steady operand desired).bind fun items _ => ?_
  refine (filter_steady (hl.predicate _ below)).bind fun condition _ => ?_
  refine (orderTerms_steady operand S.rounds).bind fun orderBy _ => ?_
  have inRange := inRange_of_isValid valid
  refine .drawn (Gen.chance_draws_of_isProbability inRange.distinctProb) fun distinct _ => ?_
  exact (limit_steady valid).bind fun _ _ => Gen.pure_steady _

theorem subquery_steady (valid : S.options.isValid = true) (hs : lower.Sound S)
    (hl : lower.Steady S height) {scope : Scope} (t : SqlType)
    (room : Room scope.level height) (counted : scope.level ≤ Scope.deepestLevel) :
    (subquery S lower scope t).Steady := by
  refine .entered ((select_steady valid hs hl _ room counted).bind fun q _ => ?_)
  split
  · exact Gen.nothing_steady
  · exact Gen.pure_steady _

theorem existence_steady (valid : S.options.isValid = true) (hs : lower.Sound S)
    (hl : lower.Steady S height) {scope : Scope} (room : Room scope.level height)
    (counted : scope.level ≤ Scope.deepestLevel) : (existence S lower scope).Steady :=
  .entered ((select_steady valid hs hl none room counted).map _)

/-- One attempt at an expression, in the scope that was opened for it: above the depth
limit it takes room. -/
theorem attempt_steady (valid : S.options.isValid = true) (hs : lower.Sound S)
    (hl : lower.Steady S height) {scope : Scope} (requested picked : SqlType)
    (counted : scope.level ≤ Scope.deepestLevel)
    (room : scope.atDepthLimit S.options = false → Room scope.level height) :
    (attempt S lower scope requested picked).Steady := by
  refine attempt_of (P := Gen.Steady) .drawn (columnRef_steady scope requested) (const_steady valid picked)
    fun above _ => ?_
  have operand := fun t => hl.scalar scope t (.inr (room above))
  exact ⟨case_steady operand picked, coalesce_steady operand picked,
    binary_steady operand requested, call_steady operand requested,
    subquery_steady valid hs hl picked (room above) counted⟩

/-- The depth limit holds further down, too. -/
theorem atDepthLimit_child {scope : Scope} {o : Options} (h : scope.atDepthLimit o = true) :
    scope.child.atDepthLimit o = true := by
  unfold Scope.atDepthLimit at h ⊢
  cases cap : o.maxDepth with
  | none =>
      rw [cap] at h
      cases h
  | some d =>
      rw [cap] at h
      have above : d ≤ scope.level := by simpa using h
      simp only [Option.any_some, decide_eq_true_eq]
      exact Nat.le_succ_of_le above

theorem scalar_steady (valid : S.options.isValid = true) (hs : lower.Sound S)
    (hl : lower.Steady S height) {scope : Scope} (t : SqlType)
    (room : scope.atDepthLimit S.options = true ∨ Room scope.level (height + 1)) :
    (scalar S lower scope t).Steady := by
  refine .entered (.drawn (resolve_draws t) fun picked _ => pushed_steady fun counted => ?_)
  have opened : scope.child.level ≤ Scope.deepestLevel := counted
  refine ((attempt_steady valid hs hl t picked opened fun above => ?_).retry _).noting _
  -- at the limit the child is at the limit, too, and needs no room
  obtain limit | room := room
  · rw [atDepthLimit_child limit] at above
    cases above
  · exact room.child counted

theorem predicateAttempt_steady (valid : S.options.isValid = true) (hs : lower.Sound S)
    (hl : lower.Steady S height) {scope : Scope} (room : Room scope.level height)
    (counted : scope.level ≤ Scope.deepestLevel) :
    (predicateAttempt S lower scope).Steady := by
  have operand := fun t => hl.scalar scope t (.inr room)
  exact predicateAttempt_of (P := Gen.Steady) .drawn (binary_steady operand .bool) (operand .bool)
    (existence_steady valid hs hl room counted)

theorem predicate_steady (valid : S.options.isValid = true) (hs : lower.Sound S)
    (hl : lower.Steady S height) {scope : Scope} (room : Room scope.level (height + 1)) :
    (predicate S lower scope).Steady := by
  refine Gen.Steady.entered ?_
  split
  · -- at the limit the predicate is an expression, which then ends at once
    rename_i limit
    have high := room.pos
    exact hl.scalar scope .bool (.inl ⟨limit, by omega⟩)
  · refine pushed_steady fun counted => ?_
    have opened : scope.child.level ≤ Scope.deepestLevel := counted
    have below : Room scope.child.level height := room.child counted
    exact ((predicateAttempt_steady valid hs hl below opened).retry _).noting _

/-! ## §4. FROM items and statements. -/

theorem tableRef_steady (S : Setting) (scope : Scope) : (tableRef S scope).Steady := by
  refine .entered (.drawn (Gen.pick_draws S.catalog.tables) fun table _ => ?_)
  refine (Gen.fresh_steady aliasStem).bind fun name _ => ?_
  exact pushed_steady fun _ => Gen.pure_steady _

/-- A join cuts from the scopes of its sides a part that is there. -/
theorem join_steady (hs : lower.Sound S) (hl : lower.Steady S height) {scope : Scope}
    (room : Room scope.level (height + 1)) : (join lower scope).Steady := by
  refine .entered (pushed_steady fun counted => ?_)
  have below := room.child counted
  have side := hl.source scope.child below counted
  refine side.bind fun p hp => ?_
  obtain ⟨leftScope, lhs⟩ := p
  obtain ⟨-, -, hleft, -⟩ := Gen.Finds.mayFind (fun k => hs.source scope.child k) hp
  refine side.bind fun p hp => ?_
  obtain ⟨rightScope, rhs⟩ := p
  obtain ⟨-, -, hright, -⟩ := Gen.Finds.mayFind (fun k => hs.source scope.child k) hp
  simp only at hleft hright
  dsimp only
  refine .drawn (refsFrom_draws scope.child.child hleft) fun left _ => ?_
  refine .drawn (refsFrom_draws scope.child.child hright) fun right _ => ?_
  exact (hl.predicate _ below).map _

theorem source_steady (hs : lower.Sound S) (hl : lower.Steady S height) {scope : Scope}
    (room : Room scope.level (height + 1)) : (source S lower scope).Steady := by
  refine .entered (.drawn (joins_draws S scope) fun joined _ => ?_)
  split
  · exact join_steady hs hl room
  · exact (tableRef_steady S scope).map _

theorem values_steady (valid : S.options.isValid = true) (hl : lower.Steady S height)
    {scope : Scope} (desired : Option (List SqlType)) (room : Room scope.level height) :
    (values S lower scope desired).Steady := by
  have inRange := inRange_of_isValid valid
  refine .entered (pushed_steady fun counted => ?_)
  refine .drawn (types_endless S.rounds desired) fun types _ => ?_
  refine .drawn (Gen.die_draws_of_ne_zero inRange.maxValuesRows) fun count _ => ?_
  have below : Room scope.child.level height := by
    obtain ⟨-, high⟩ := room
    show scope.level + 1 ≤ _ ∧ _ ≤ scope.level + 1 + height
    omega
  have operand := fun t => hl.scalar scope.child t (.inr below)
  exact ((row_steady operand types).times count).map _

theorem setOp_steady (hl : lower.Steady S height) {scope : Scope}
    (desired : Option (List SqlType)) (room : Room scope.level height) :
    (setOp S lower scope desired).Steady := by
  refine .entered (pushed_steady fun counted => ?_)
  refine .drawn (types_endless S.rounds desired) fun types _ => ?_
  have below : Room scope.child.level (height - 1) := by
    obtain ⟨-, high⟩ := room
    show scope.level + 1 ≤ _ ∧ _ ≤ scope.level + 1 + (height - 1)
    omega
  have side := hl.returning scope.child (some types) below counted
  refine side.bind fun left _ => side.bind fun right _ => ?_
  exact .drawn (Gen.pick_draws SetOperator.all) fun op _ => Gen.pure_steady _

theorem returning_steady (valid : S.options.isValid = true) (hs : lower.Sound S)
    (hl : lower.Steady S height) {scope : Scope} (desired : Option (List SqlType))
    (room : Room scope.level height) (counted : scope.level ≤ Scope.deepestLevel) :
    (returning S lower scope desired).Steady := by
  refine Gen.Steady.entered ?_
  split
  · exact Gen.nothing_steady
  split
  · exact values_steady valid hl desired room
  · refine (Gen.Steady.retry ?_ _).noting _
    refine .drawn (damped_draws onOneOrTwo_draws) fun _ _ => ?_
    split
    · exact setOp_steady hl desired room
    refine .drawn onOneOrTwo_draws fun _ _ => ?_
    split
    · exact values_steady valid hl desired room
    · exact (select_steady valid hs hl desired room counted).map _

/-! ## §5. The tower and statements. -/

/-- **A tower higher than the levels that are left is steady.** -/
theorem tower_steady (S : Setting) (valid : S.options.isValid = true) (n : Nat) :
    (tower S n).Steady S n := by
  induction n with
  | zero =>
      -- there is no room at the bottom
      refine ⟨fun scope t room => ?_, fun scope room => ?_, fun scope room _ => ?_,
        fun scope desired room _ => ?_⟩
      · obtain ⟨-, none⟩ | room := room
        · omega
        · exact absurd room.pos (by omega)
      · exact absurd room.pos (by omega)
      · exact absurd room.pos (by omega)
      · exact absurd room.pos (by omega)
  | succ n ih =>
      have hs := tower_sound S n
      exact
        { scalar := fun scope t room => scalar_steady valid hs ih t (room.imp_left And.left)
          predicate := fun scope room => predicate_steady valid hs ih room
          source := fun scope room _ => source_steady hs ih room
          returning := fun scope desired room counted =>
            returning_steady valid hs ih desired room counted }

/-- A statement needs a tower four levels higher than there are levels to count. -/
theorem statement_steady {S : Setting} (valid : S.options.isValid = true) {n : Nat}
    (hn : Scope.deepestLevel + 4 ≤ n) : (statement S (tower S n) Scope.root).Steady := by
  have inRange := inRange_of_isValid valid
  have room : Room Scope.root.level (n - 1) := by
    show 0 ≤ _ ∧ _ ≤ 0 + (n - 1)
    omega
  have rows := fun desired =>
    (tower_steady S valid n).returning Scope.root desired room (Nat.zero_le _)
  refine .entered (.drawn (Gen.chance_draws_of_isProbability inRange.insertProb)
    fun inserting _ => ?_)
  split
  · refine .entered (.drawn (Gen.pick_draws S.catalog.tables) fun table _ => ?_)
    refine .drawn (insertTargets_draws table.columns) fun targets _ => ?_
    split
    · exact Gen.nothing_steady
    · exact (rows _).map _
  · exact rows none

end Steady

end Generate

/-- No cap on the depth keeps the levels countable. -/
def Options.Uncapped (o : Options) : Prop := ∀ D, o.maxDepth = some D → 2 ^ 32 - 3 < D

/-- **The statements of a session whose options are in range fault only where a loop of dice
rolls goes on**, or the nesting does under options that do not cap it. -/
theorem Session.generate_endless {s : Session} (valid : s.options.isValid = true) {why : Fault}
    (fault : s.generate.1 = .halted why) :
    why = .roundsExhausted ∨ why = .levelOverflow ∧ s.options.Uncapped := by
  have ample : Generate.Scope.deepestLevel + 4 ≤ Generate.ampleNesting := by
    unfold Generate.Scope.deepestLevel Generate.ampleNesting
    omega
  have steady : s.statementGen.Steady := Generate.statement_steady (S := s.setting) valid ample
  have endless : why.Endless := by
    rw [generate_eq] at fault
    exact steady.noting _ s.words s.started why fault
  obtain rounds | levels := endless
  · exact .inl rounds
  · refine .inr ⟨levels, fun D cap => Nat.lt_of_not_le fun low => ?_⟩
    have rounds := (Session.Reaches.start (s := s)).generate_fault valid cap low fault
    rw [levels] at rounds
    cases rounds

end QueryFuzz
