/-
  QueryFuzz.Proofs.NodeRules
  ──────────────────────────
  **THE OPTIONS ARE HONOURED AT EVERY NODE.**

  Options speak of four kinds of node: queries, the bodies of scalar subqueries
  (which are queries too, but return one row whatever limit was drawn), VALUES
  and literals.  `NodeRules` says what is asked of each, and a tree obeys the
  rules when all its nodes do, however deep they stand.

  A chance can turn out both ways unless it is the least or the greatest: a zero
  of either sign never comes true, one always does (`Double.Settles`).

      NodeRules      — what is asked of queries, bodies, VALUES and literals
      Relation.Obeys — all nodes of a tree are as asked
      Options.rules  — what options ask for

  Main results:
    * `Derives.obeys` — every derivation obeys the options of its setting;
    * `Session.generate_honours` — so does every statement of a session, which is an
      INSERT whenever the options leave nothing else.
-/
import QueryFuzz.Proofs.Soundness

namespace QueryFuzz

/-! ## §1. Trees that obey rules. -/

/-- What is asked of the nodes of a tree. -/
structure NodeRules where
  /-- DISTINCT and the limit of a query that is no body of a scalar subquery. -/
  query : Bool → Option Nat → Prop
  /-- DISTINCT and the limit of the body of a scalar subquery. -/
  body : Bool → Option Nat → Prop
  /-- The number of rows of a VALUES. -/
  rows : Nat → Prop
  /-- A literal and its type. -/
  literal : SqlType → Literal → Prop

mutual

/-- All nodes of the expression are as asked. -/
def Scalar.Obeys (rules : NodeRules) : Scalar → Prop
  | .case condition yes no => condition.Obeys rules ∧ yes.Obeys rules ∧ no.Obeys rules
  | .coalesce first second => first.Obeys rules ∧ second.Obeys rules
  | .const type value => rules.literal type value
  | .column .. => True
  | .binary _ left right => left.Obeys rules ∧ right.Obeys rules
  | .call _ args => Scalar.ObeyList rules args
  | .exists query => rules.query query.distinct query.limit ∧ query.Obeys rules
  | .subquery query _ => rules.body query.distinct query.limit ∧ query.Obeys rules

/-- All nodes of all expressions of a list. -/
def Scalar.ObeyList (rules : NodeRules) : List Scalar → Prop
  | [] => True
  | e :: es => e.Obeys rules ∧ Scalar.ObeyList rules es

/-- All nodes of all expressions of all rows. -/
def Scalar.ObeyRows (rules : NodeRules) : List (List Scalar) → Prop
  | [] => True
  | row :: rows => Scalar.ObeyList rules row ∧ Scalar.ObeyRows rules rows

/-- All nodes of a WHERE, if there is one. -/
def Scalar.ObeyFilter (rules : NodeRules) : Option Scalar → Prop
  | none => True
  | some e => e.Obeys rules

/-- All nodes of the relation are as asked. -/
def Relation.Obeys (rules : NodeRules) : Relation → Prop
  | .table _ => True
  | .join lhs rhs on _ => lhs.Obeys rules ∧ rhs.Obeys rules ∧ on.Obeys rules
  | .select query => rules.query query.distinct query.limit ∧ query.Obeys rules
  | .setOp _ left right => left.Obeys rules ∧ right.Obeys rules
  | .values rows => rules.rows rows.length ∧ Scalar.ObeyRows rules rows
  | .insert _ _ source => source.Obeys rules

/-- All nodes below a query are as asked; what is asked of the query itself depends on
where it stands. -/
def Select.Obeys (rules : NodeRules) : Select → Prop
  | .mk _ items source filter orderBy _ =>
      Scalar.ObeyList rules items ∧ source.Obeys rules
        ∧ Scalar.ObeyFilter rules filter ∧ Scalar.ObeyList rules orderBy

end

/-- Whether a statement is an INSERT. -/
def Relation.isInsert : Relation → Bool
  | .insert .. => true
  | .table _ => false
  | .join .. => false
  | .select _ => false
  | .setOp .. => false
  | .values _ => false

section Limits

variable {rules : NodeRules} {q : Select} {l : Option Nat}

@[simp] theorem Select.distinct_withLimit : (q.withLimit l).distinct = q.distinct := by
  cases q
  rfl

@[simp] theorem Select.limit_withLimit : (q.withLimit l).limit = l := by
  cases q
  rfl

/-- Another limit leaves what is below a query as it was. -/
theorem Select.obeys_withLimit (h : q.Obeys rules) : (q.withLimit l).Obeys rules := by
  cases q
  exact h

end Limits

/-! ## §2. What options ask for. -/

/-- The outcome of a chance is settled where its probability is zero or one. -/
def Double.Settles (p : Double) (outcome : Bool) : Prop :=
  (p.isZero = true → outcome = false) ∧ (p = .one → outcome = true)

/-- No multiple of a zero is a whole one. -/
theorem Double.timesWord64_of_isZero {p : Double} (h : p.isZero = true) :
    p.timesWord64 = 0 := by
  have none : p.magnitudeBits = 0 := of_decide_eq_true h
  have scaled : p.scaled = 0 := by
    unfold Double.scaled
    rw [none]
    rfl
  unfold timesWord64
  rw [scaled, Nat.zero_mul, Nat.zero_div]

/-- **A chance that is zero or one is settled.** -/
theorem Double.settles_of_possible {p : Double} {outcome : Bool} (h : Gen.Possible p outcome) :
    p.Settles outcome := by
  cases outcome with
  | true =>
      -- the draw fell below the multiple of the probability, which therefore is not zero
      have some : p.timesWord64 ≠ 0 := h
      exact ⟨fun zero => absurd (timesWord64_of_isZero zero) some, fun _ => rfl⟩
  | false =>
      have uncertain : p ≠ .one := h
      exact ⟨fun _ => rfl, fun one => absurd one uncertain⟩

namespace Options

/-- What options ask of the nodes of statements: limits from one to the greatest one, and
one for the bodies of scalar subqueries; as many rows; and the outcomes of DISTINCT, of
limits and of NULL literals that the probabilities leave. -/
def rules (o : Options) : NodeRules where
  query distinct limit :=
    (∀ n, limit = some n → 1 ≤ n ∧ n ≤ o.maxLimit)
      ∧ o.limitProb.Settles limit.isSome ∧ o.distinctProb.Settles distinct
  body distinct limit := limit = some 1 ∧ o.distinctProb.Settles distinct
  rows n := 1 ≤ n ∧ n ≤ o.maxValuesRows
  literal type value :=
    (o.nullLiteralProb.isZero = true → value ≠ .null)
      ∧ (o.nullLiteralProb = .one → type.nullable = true → value = .null)

end Options

namespace Generate

/-! ## §3. Choices. -/

/-- What is drawn as a value is not NULL. -/
theorem Drawn.ne_null {base : BaseType} {v : Literal} (h : Drawn base v) : v ≠ .null := by
  rintro rfl
  cases base <;> exact h.elim

theorem LiteralOf.obeys {o : Options} {t : SqlType} {v : Literal} (h : LiteralOf o t v) :
    o.rules.literal t v := by
  obtain ⟨null, nullable, chosen⟩ | ⟨drawn, chosen⟩ := h
  · refine ⟨fun zero => ?_, fun _ _ => null⟩
    have never := (Double.settles_of_possible chosen).1 zero
    cases never
  · refine ⟨fun _ => drawn.ne_null, fun one nullable => ?_⟩
    have always := (Double.settles_of_possible (chosen nullable)).2 one
    cases always

theorem LimitOf.obeys {o : Options} {distinct : Bool} {l : Option Nat} (h : LimitOf o l)
    (hdistinct : Gen.Possible o.distinctProb distinct) : o.rules.query distinct l := by
  cases l with
  | none =>
      have chosen : Gen.Possible o.limitProb false := h
      refine ⟨fun n present => ?_, Double.settles_of_possible chosen,
        Double.settles_of_possible hdistinct⟩
      cases present
  | some m =>
      obtain ⟨chosen, bounds⟩ := h
      refine ⟨fun n present => ?_, Double.settles_of_possible chosen,
        Double.settles_of_possible hdistinct⟩
      cases present
      exact bounds

/-! ## §4. The invariant. -/

/-- What a judgement promises about the nodes of what is found, whatever is in scope. -/
def Judgement.Obeys (o : Options) : Judgement → Prop
  | .scalar _ _ e => e.Obeys o.rules
  | .attempt _ _ _ e => e.Obeys o.rules
  | .binary _ _ e => e.Obeys o.rules
  | .predicate _ e => e.Obeys o.rules
  | .row _ _ es => Scalar.ObeyList o.rules es
  | .rows _ _ rs => Scalar.ObeyRows o.rules rs
  | .filter _ condition => Scalar.ObeyFilter o.rules condition
  | .terms _ es => Scalar.ObeyList o.rules es
  | .source _ r => r.Obeys o.rules
  | .select _ _ q => o.rules.query q.distinct q.limit ∧ q.Obeys o.rules
  | .returning _ _ r => r.isInsert = false ∧ r.Obeys o.rules
  | .statement _ r => o.insertProb.Settles r.isInsert ∧ r.Obeys o.rules

/-- **Every derivation obeys the options of its setting.** -/
theorem Derives.obeys {S : Setting} {j : Judgement} {k k' : Nat} (d : Derives S j k k') :
    j.Obeys S.options := by
  -- by induction on the derivation; only literals, queries, VALUES and the choice of a
  -- statement are asked for anything themselves
  induction d with
  | skip le d ih => exact ih
  | scalar resolution d ih => exact ih
  | const resolution value => exact value.obeys
  | column inView ofTable serves => exact trivial
  | case above shallow hcondition hyes hno ihcondition ihyes ihno =>
      exact ⟨ihcondition, ihyes, ihno⟩
  | coalesce above shallow hfirst hsecond ihfirst ihsecond => exact ⟨ihfirst, ihsecond⟩
  | operator above shallow d ih => exact ih
  | call above shallow resolution listed hargs ih => exact ih
  | @subquery scope requested picked q item rest k k' above shallow d hitems ih =>
      -- the limit that was drawn gives way to one
      obtain ⟨⟨-, -, hdistinct⟩, below⟩ := ih
      have body : S.options.rules.body (q.withLimit (some 1)).distinct
          (q.withLimit (some 1)).limit := by
        rw [Select.distinct_withLimit, Select.limit_withLimit]
        exact ⟨rfl, hdistinct⟩
      exact ⟨body, Select.obeys_withLimit below⟩
  | binary resolution listed hleft hright ihleft ihright => exact ⟨ihleft, ihright⟩
  | predicateAtLimit limit d ih => exact ih
  | comparison above d ih => exact ih
  | truth above d ih => exact ih
  | existence above d ih => exact ih
  | rowNil => exact trivial
  | rowCons head tail ihhead ihtail => exact ⟨ihhead, ihtail⟩
  | rowsNil => exact trivial
  | rowsCons head tail ihhead ihtail => exact ⟨ihhead, ihtail⟩
  | noFilter => exact trivial
  | filter d ih => exact ih
  | termsNil => exact trivial
  | termsCons head tail ihhead ihtail => exact ⟨ihhead, ihtail⟩
  | table listed => exact trivial
  | join above shallow hleft hright hon ihleft ihright ihon => exact ⟨ihleft, ihright, ihon⟩
  | select served hsource hitems hfilter horder hdistinct hlimit ihsource ihitems ihfilter
      ihorder =>
      exact ⟨hlimit.obeys hdistinct, ihitems, ihsource, ihfilter, ihorder⟩
  | values served some most d ih => exact ⟨rfl, ⟨some, most⟩, ih⟩
  | setOp above shallow served hleft hright ihleft ihright =>
      exact ⟨rfl, ihleft.2, ihright.2⟩
  | query above d ih => exact ⟨rfl, ih⟩
  | insert chosen listed htargets some d ih =>
      exact ⟨Double.settles_of_possible chosen, ih.2⟩
  | @returning scope r k k' chosen d ih =>
      obtain ⟨kind, below⟩ := ih
      refine ⟨?_, below⟩
      rw [kind]
      exact Double.settles_of_possible chosen

end Generate

/-! ## §5. Sessions. -/

/-- **THE OPTIONS ARE HONOURED**, at every node of every statement: each query outside the
bodies of scalar subqueries has no limit or one from 1 to the greatest, each body the limit
1, each VALUES from one row to the most.  A chance of zero or one leaves nothing open: not
DISTINCT, not whether there is a limit, not whether a nullable literal is NULL, and not
whether the statement is an INSERT. -/
theorem Session.generate_honours {s s' : Session} {r : Relation}
    (h : s.generate = (.found r, s')) :
    r.Obeys s.options.rules ∧ s.options.insertProb.Settles r.isInsert := by
  obtain ⟨choice, obeys⟩ := (Session.generate_derived h).obeys
  exact ⟨obeys, choice⟩

namespace Sample

/-- The sample session where no chance is left open: INSERTs, limits and NULLs always come
true, DISTINCT never does. -/
def settled : Session :=
  { session with options := { session.options with
      insertProb := .one, limitProb := .one, distinctProb := ⟨0⟩, nullLiteralProb := .one } }

theorem settled_generates : ∃ r s', settled.generate = (.found r, s') :=
  Outcome.exists_of_isFound (by decide +kernel)

/-- Its statement, an INSERT from set operations over an EXISTS, obeys the options. -/
theorem settled_honours :
    ∃ r s', settled.generate = (.found r, s') ∧ r.Obeys settled.options.rules
      ∧ r.isInsert = true := by
  obtain ⟨r, s', h⟩ := settled_generates
  obtain ⟨obeys, choice⟩ := Session.generate_honours h
  exact ⟨r, s', h, obeys, choice.2 rfl⟩

end Sample

end QueryFuzz
