/-
  QueryFuzz.Proofs.Typing
  ───────────────────────
  **GENERATED STATEMENTS ARE WELL TYPED, AT EVERY NODE.**

  `Scalar.Typed` is the typing rule of one node, `Relation.WellTyped` asks for
  it at every scalar of a statement, at any depth, and for truth values where
  predicates stand.  The invariant of the induction over derivations
  (`Judgement.Typed`) is that an expression for a concrete request has the
  base that was requested; a wildcard is resolved before its parts are asked
  for, so the two branches of a CASE and the operands of a COALESCE agree.

  Main results:
    * `Derives.typed` — every derivation keeps the invariant;
    * `Session.generate_wellTyped` — so does every generated statement.
-/
import QueryFuzz.Proofs.Catalog
import QueryFuzz.Proofs.Soundness

namespace QueryFuzz

/-! ## §1. Well-typed trees. -/

/-- A value of the type: of its base, and NULL only where the type allows it. -/
def Literal.Agrees (t : SqlType) : Literal → Prop
  | .null => t.nullable = true
  | .int _ => t.base = .int
  | .bool _ => t.base = .bool
  | .string _ => t.base = .string

/-- The base types of expressions, in order. -/
def Scalar.bases (es : List Scalar) : List BaseType := es.map fun e => e.type.base

/-- The typing rule of a node, given its parts: operators and functions are entries
of the catalog and get operands of the declared bases, one for each input. -/
def Scalar.Typed (c : Catalog) : Scalar → Prop
  | .case condition yes no =>
      condition.type.base = .bool ∧ yes.type.base = no.type.base
  | .coalesce first second => first.type.base = second.type.base
  | .const type value => value.Agrees type
  | .column .. => True
  | .binary op left right =>
      op ∈ c.operators.entries ∧ left.type.base = op.left.base ∧ right.type.base = op.right.base
  | .call f args => f ∈ c.functions.entries ∧ Scalar.bases args = f.inputs.map SqlType.base
  | .exists _ => True
  | .subquery query type =>
      query.limit = some 1 ∧ ∃ item, query.items = [item] ∧ type = item.type

mutual

/-- The expression and everything in it is typed, and no node has the wildcard type. -/
def Scalar.WellTyped (c : Catalog) : Scalar → Prop
  | e@(.case condition yes no) =>
      (e.Typed c ∧ e.type.base ≠ .any)
        ∧ condition.WellTyped c ∧ yes.WellTyped c ∧ no.WellTyped c
  | e@(.coalesce first second) =>
      (e.Typed c ∧ e.type.base ≠ .any) ∧ first.WellTyped c ∧ second.WellTyped c
  | e@(.const ..) => e.Typed c ∧ e.type.base ≠ .any
  | e@(.column ..) => e.Typed c ∧ e.type.base ≠ .any
  | e@(.binary _ left right) =>
      (e.Typed c ∧ e.type.base ≠ .any) ∧ left.WellTyped c ∧ right.WellTyped c
  | e@(.call _ args) => (e.Typed c ∧ e.type.base ≠ .any) ∧ Scalar.WellTypedList c args
  | e@(.exists query) => (e.Typed c ∧ e.type.base ≠ .any) ∧ query.WellTyped c
  | e@(.subquery query _) => (e.Typed c ∧ e.type.base ≠ .any) ∧ query.WellTyped c

/-- Every expression of a list is well typed. -/
def Scalar.WellTypedList (c : Catalog) : List Scalar → Prop
  | [] => True
  | e :: es => e.WellTyped c ∧ Scalar.WellTypedList c es

/-- Every expression of every row is well typed. -/
def Scalar.WellTypedRows (c : Catalog) : List (List Scalar) → Prop
  | [] => True
  | row :: rows => Scalar.WellTypedList c row ∧ Scalar.WellTypedRows c rows

/-- A WHERE, if there is one, is a well-typed truth value. -/
def Scalar.WellTypedFilter (c : Catalog) : Option Scalar → Prop
  | none => True
  | some e => e.type.base = .bool ∧ e.WellTyped c

/-- Every scalar of the relation is well typed, and every ON and WHERE a truth value. -/
def Relation.WellTyped (c : Catalog) : Relation → Prop
  | .table _ => True
  | .join lhs rhs on _ =>
      lhs.WellTyped c ∧ rhs.WellTyped c ∧ on.type.base = .bool ∧ on.WellTyped c
  | .select query => query.WellTyped c
  | .setOp _ left right => left.WellTyped c ∧ right.WellTyped c
  | .values rows => Scalar.WellTypedRows c rows
  | .insert _ _ source => source.WellTyped c

/-- FROM, items, WHERE and ORDER BY are well typed. -/
def Select.WellTyped (c : Catalog) : Select → Prop
  | .mk _ items source filter orderBy _ =>
      source.WellTyped c ∧ Scalar.WellTypedList c items ∧ Scalar.WellTypedFilter c filter
        ∧ Scalar.WellTypedList c orderBy

end

theorem Scalar.WellTyped.base_ne_any {c : Catalog} {e : Scalar} (h : e.WellTyped c) :
    e.type.base ≠ .any := by
  cases e with
  | const => exact h.2
  | column => exact h.2
  | case => exact h.1.2
  | coalesce => exact h.1.2
  | binary => exact h.1.2
  | call => exact h.1.2
  | «exists» => exact h.1.2
  | subquery => exact h.1.2

namespace Generate

/-! ## §2. The invariant. -/

/-- Every table in view is a table of the catalog. -/
def Scope.Listed (c : Catalog) (scope : Scope) : Prop :=
  ∀ ref ∈ scope.refs, ref.table ∈ c.tables

theorem Scope.Listed.child {c : Catalog} {scope : Scope} (h : scope.Listed c) :
    scope.child.Listed c := h

theorem Scope.Listed.seeing {c : Catalog} {scope : Scope} {refs : List TableRef}
    (h : scope.Listed c) (hrefs : ∀ ref ∈ refs, ref.table ∈ c.tables) :
    (scope.seeing refs).Listed c :=
  List.forall_mem_append.2 ⟨h, hrefs⟩

/-- Column types that mention no wildcard, where any are asked for. -/
def ConcreteRequest (desired : Option (List SqlType)) : Prop :=
  ∀ ts, desired = some ts → ∀ t ∈ ts, t.base ≠ .any

theorem concreteRequest_some {ts : List SqlType} (h : ∀ t ∈ ts, t.base ≠ .any) :
    ConcreteRequest (some ts) := by
  intro types same
  injection same with same
  exact same ▸ h

/-- The types of the columns that an INSERT names. -/
theorem Targets.concreteRequest {c : Catalog} (hc : c.Concrete) {table : Table}
    {targets : List Column} (h : Targets table.columns targets) (listed : table ∈ c.tables) :
    ConcreteRequest (some (targets.map Column.type)) := by
  refine concreteRequest_some fun t ht => ?_
  obtain ⟨column, hcolumn, rfl⟩ := List.mem_map.1 ht
  exact hc.columns _ listed column (h.subset hcolumn)

/-- Column types that are picked for a concrete request are concrete. -/
theorem Served.concrete {desired : Option (List SqlType)} {types : List SqlType}
    (h : Served desired types) (hd : ConcreteRequest desired) : ∀ t ∈ types, t.base ≠ .any := by
  obtain ⟨-, h⟩ := h
  cases desired with
  | none => exact fun t ht => (h t ht).2
  | some ts =>
      simp only at h
      subst h
      exact hd types rfl

/-- A well-typed expression, of the requested base where that is concrete. -/
def Fits (c : Catalog) (t : SqlType) (e : Scalar) : Prop :=
  e.WellTyped c ∧ (t.base ≠ .any → e.type.base = t.base)

/-- What a judgement promises about types, in a scope that sees tables of the
catalog only. -/
def Judgement.Typed (c : Catalog) : Judgement → Prop
  | .scalar scope t e => scope.Listed c → Fits c t e
  | .attempt scope requested picked e =>
      scope.Listed c → Resolution requested picked → Fits c requested e
  | .binary scope t e => scope.Listed c → Fits c t e
  | .predicate scope e => scope.Listed c → Fits c .bool e
  | .row scope types es => scope.Listed c → (∀ t ∈ types, t.base ≠ .any) →
      Scalar.WellTypedList c es ∧ Scalar.bases es = types.map SqlType.base
  | .rows scope types rs => scope.Listed c → (∀ t ∈ types, t.base ≠ .any) →
      Scalar.WellTypedRows c rs
  | .filter scope condition => scope.Listed c → Scalar.WellTypedFilter c condition
  | .terms scope es => scope.Listed c → Scalar.WellTypedList c es
  | .source scope r => scope.Listed c →
      r.WellTyped c ∧ ∀ ref ∈ r.leaves, ref.table ∈ c.tables
  | .select scope desired q => scope.Listed c → ConcreteRequest desired →
      q.WellTyped c
        ∧ ∀ ts, desired = some ts → Scalar.bases q.items = ts.map SqlType.base
  | .returning scope desired r => scope.Listed c → ConcreteRequest desired → r.WellTyped c
  | .statement scope r => scope.Listed c → r.WellTyped c

/-- A value that may be drawn agrees with its type. -/
theorem LiteralOf.agrees {o : Options} {t : SqlType} {v : Literal} (h : LiteralOf o t v)
    (ht : t.base ≠ .any) : v.Agrees t := by
  obtain ⟨rfl, hnull, -⟩ | ⟨hv, -⟩ := h
  · exact hnull
  · obtain ⟨base, nullable⟩ := t
    cases base with
    | any => exact absurd rfl ht
    | int => cases v <;> first | rfl | exact hv.elim
    | bool => cases v <;> first | rfl | exact hv.elim
    | string => cases v <;> first | rfl | exact hv.elim

/-- A truth value was asked for and found. -/
theorem Fits.bool {c : Catalog} {e : Scalar} (h : Fits c .bool e) : e.type.base = .bool :=
  h.2 (by decide)

section Fits

variable {c : Catalog} {requested picked : SqlType}

theorem const_fits {o : Options} {t : SqlType} {v : Literal}
    (request : Resolution requested picked) (resolution : Resolution picked t)
    (value : LiteralOf o t v) : Fits c requested (.const t v) := by
  -- what was picked is concrete, so it is not resolved once more
  have concrete := request.base_ne_any
  obtain rfl := resolution.eq_of_concrete concrete
  refine ⟨⟨value.agrees concrete, concrete⟩, fun hr => ?_⟩
  rw [request.eq_of_concrete hr]
  rfl

theorem column_fits (hc : c.Concrete) {ref : TableRef} {column : Column}
    (listed : ref.table ∈ c.tables) (ofTable : column ∈ ref.table.columns)
    (serves : requested.accepts column.type = true) :
    Fits c requested (.column ref.name column.name column.type) := by
  refine ⟨⟨trivial, hc.columns _ listed _ ofTable⟩, fun hr => ?_⟩
  obtain wild | same := SqlType.accepts_iff.1 serves
  · exact absurd wild hr
  · exact same.symm

/-- Both branches are of the type that was picked. -/
theorem case_fits {condition yes no : Scalar} (request : Resolution requested picked)
    (hcondition : Fits c .bool condition) (hyes : Fits c picked yes) (hno : Fits c picked no) :
    Fits c requested (.case condition yes no) := by
  have concrete := request.base_ne_any
  have branches : yes.type.base = no.type.base := by rw [hyes.2 concrete, hno.2 concrete]
  refine ⟨⟨⟨⟨hcondition.bool, branches⟩, hyes.1.base_ne_any⟩, hcondition.1, hyes.1, hno.1⟩,
    fun hr => ?_⟩
  rw [← request.eq_of_concrete hr]
  exact hyes.2 concrete

/-- So are both operands. -/
theorem coalesce_fits {first second : Scalar} (request : Resolution requested picked)
    (hfirst : Fits c picked first) (hsecond : Fits c picked second) :
    Fits c requested (.coalesce first second) := by
  have concrete := request.base_ne_any
  have operands : first.type.base = second.type.base := by
    rw [hfirst.2 concrete, hsecond.2 concrete]
  refine ⟨⟨⟨operands, hfirst.1.base_ne_any⟩, hfirst.1, hsecond.1⟩, fun hr => ?_⟩
  rw [← request.eq_of_concrete hr]
  exact hfirst.2 concrete

end Fits

/-- The invariant of the induction holds of what an operator rule concludes: the
look-up gives operators of the resolved base, and the operands fit the inputs. -/
theorem binary_fits {c : Catalog} (hc : c.Concrete) {request t : SqlType} {op : Operator}
    {left right : Scalar} (resolution : Resolution request t) (listed : op ∈ c.operatorsFor t)
    (hleft : Fits c op.left left) (hright : Fits c op.right right) :
    Fits c request (.binary op left right) := by
  obtain ⟨out, leftConcrete, rightConcrete, outConcrete⟩ := hc.operators t op listed
  refine ⟨⟨⟨?_, outConcrete⟩, hleft.1, hright.1⟩, fun concrete => ?_⟩
  · exact ⟨c.mem_operators listed, hleft.2 leftConcrete, hright.2 rightConcrete⟩
  · show op.out.base = request.base
    rw [out, resolution.eq_of_concrete concrete]

theorem call_fits {c : Catalog} (hc : c.Concrete) {request t : SqlType} {f : SqlFunction}
    {args : List Scalar} (resolution : Resolution request t) (listed : f ∈ c.functionsFor t)
    (hargs : Scalar.WellTypedList c args ∧ Scalar.bases args = f.inputs.map SqlType.base) :
    Fits c request (.call f args) := by
  obtain ⟨out, -, outConcrete⟩ := hc.functions t f listed
  refine ⟨⟨⟨⟨c.mem_functions listed, hargs.2⟩, outConcrete⟩, hargs.1⟩, fun concrete => ?_⟩
  show f.out.base = request.base
  rw [out, resolution.eq_of_concrete concrete]

/-- A subquery for one type has one item, and the item's type is the subquery's. -/
theorem subquery_fits {c : Catalog} {requested picked : SqlType} {q : Select} {item : Scalar}
    {rest : List Scalar} (resolution : Resolution requested picked)
    (hq : q.WellTyped c ∧ ∀ ts, some [picked] = some ts →
      Scalar.bases q.items = ts.map SqlType.base)
    (hitems : q.items = item :: rest) :
    Fits c requested (.subquery (q.withLimit (some 1)) item.type) := by
  have bases : Scalar.bases q.items = [picked.base] := hq.2 [picked] rfl
  rw [hitems] at bases
  simp only [Scalar.bases, List.map_cons, List.cons.injEq, List.map_eq_nil_iff] at bases
  obtain ⟨hbase, rfl⟩ := bases
  obtain ⟨distinct, items, source, filter, orderBy, limit⟩ := q
  simp only [Select.items] at hitems
  subst hitems
  refine ⟨⟨⟨⟨rfl, item, rfl, rfl⟩, ?_⟩, hq.1⟩, fun concrete => ?_⟩
  · show item.type.base ≠ .any
    rw [hbase]
    exact resolution.base_ne_any
  · show item.type.base = requested.base
    rw [hbase, resolution.eq_of_concrete concrete]

/-- **Every derivation keeps the typing invariant.** -/
theorem Derives.typed {S : Setting} (hc : S.catalog.Concrete) {j : Judgement} {k k' : Nat}
    (d : Derives S j k k') : j.Typed S.catalog := by
  -- by induction on the derivation; what is asked for below a node is always concrete
  induction d with
  | skip le d ih => exact ih
  | scalar resolution d ih =>
      intro listed
      exact ih listed.child resolution
  | const resolution value => exact fun _ request => const_fits request resolution value
  | column inView ofTable serves =>
      intro listed request
      exact column_fits hc (listed _ inView) ofTable serves
  | case above shallow hcondition hyes hno ihcondition ihyes ihno =>
      intro listed request
      exact case_fits request (ihcondition listed) (ihyes listed) (ihno listed)
  | coalesce above shallow hfirst hsecond ihfirst ihsecond =>
      intro listed request
      exact coalesce_fits request (ihfirst listed) (ihsecond listed)
  | operator above shallow d ih =>
      intro listed requested
      exact ih listed
  | call above shallow resolution listed hargs ihargs =>
      intro inView requested
      have inputs := (hc.functions _ _ listed).2.1
      exact call_fits hc resolution listed (ihargs inView inputs)
  | subquery above shallow d hitems ih =>
      intro listed requested
      have one := concreteRequest_some (List.forall_mem_singleton.2 requested.base_ne_any)
      exact subquery_fits requested (ih listed one) hitems
  | binary resolution listed hleft hright ihleft ihright =>
      intro inView
      exact binary_fits hc resolution listed (ihleft inView) (ihright inView)
  | predicateAtLimit limit d ih => exact ih
  | comparison above d ih => exact ih
  | truth above d ih => exact ih
  | existence above d ih =>
      intro listed
      have query := ih listed.child fun _ h => by cases h
      have concrete : SqlType.boolNotNull.base ≠ .any := by decide
      exact ⟨⟨⟨trivial, concrete⟩, query.1⟩, fun _ => rfl⟩
  | rowNil =>
      intro listed types
      exact ⟨trivial, rfl⟩
  | rowCons head tail ihhead ihtail =>
      intro listed types
      obtain ⟨concrete, rest⟩ := List.forall_mem_cons.1 types
      obtain ⟨es, bases⟩ := ihtail listed rest
      have e := ihhead listed
      refine ⟨⟨e.1, es⟩, ?_⟩
      rw [List.map_cons, ← e.2 concrete, ← bases]
      rfl
  | rowsNil =>
      intro listed types
      trivial
  | rowsCons head tail ihhead ihtail =>
      intro listed types
      exact ⟨(ihhead listed types).1, ihtail listed types⟩
  | noFilter =>
      intro listed
      trivial
  | filter d ih =>
      intro listed
      exact ⟨(ih listed).bool, (ih listed).1⟩
  | termsNil =>
      intro listed
      trivial
  | termsCons head tail ihhead ihtail =>
      intro listed
      exact ⟨(ihhead listed).1, ihtail listed⟩
  | table listed =>
      intro inView
      exact ⟨trivial, by simpa [Relation.leaves] using listed⟩
  | join above shallow hleft hright hon ihleft ihright ihon =>
      intro listed
      obtain ⟨left, leftLeaves⟩ := ihleft listed.child
      obtain ⟨right, rightLeaves⟩ := ihright listed.child
      have leaves := List.forall_mem_append.2 ⟨leftLeaves, rightLeaves⟩
      have on := ihon (listed.child.seeing leaves)
      exact ⟨⟨left, right, on.bool, on.1⟩, leaves⟩
  | select served hsource hitems hfilter horder hdistinct hlimit ihsource ihitems ihfilter
      ihorder =>
      intro listed desired
      obtain ⟨source, leaves⟩ := ihsource listed
      have inner := listed.child.seeing leaves
      obtain ⟨items, bases⟩ := ihitems inner (served.concrete desired)
      refine ⟨⟨source, items, ihfilter inner, ihorder inner⟩, fun ts hts => ?_⟩
      subst hts
      rw [← served.2]
      exact bases
  | values served some most d ih =>
      intro listed desired
      exact ih listed.child (served.concrete desired)
  | setOp above shallow served hleft hright ihleft ihright =>
      intro listed desired
      have types := concreteRequest_some (served.concrete desired)
      exact ⟨ihleft listed.child types, ihright listed.child types⟩
  | query above d ih =>
      intro listed desired
      exact (ih listed desired).1
  | insert chosen listed htargets some d ih =>
      intro inView
      exact ih inView (htargets.concreteRequest hc listed)
  | returning chosen d ih =>
      intro listed
      exact ih listed fun _ h => by cases h

end Generate

/-! ## §3. Sessions. -/

/-- **GENERATED STATEMENTS ARE WELL TYPED**: over a built catalog, every scalar at any
depth of every statement follows the typing rule of its node, no node has the
wildcard type, and every WHERE and ON is a truth value.  The generator of
expressions, in any scope that sees tables of the catalog, answers a concrete
request with well-typed expressions of just that base. -/
theorem Session.generate_wellTyped (d : Draft) {s : Session} (hc : s.catalog = d.build) :
    (∀ r s', s.generate = (.found r, s') → r.WellTyped s.catalog)
      ∧ ∀ n scope t words state e state', scope.Listed s.catalog → t.base ≠ .any →
          (Generate.tower s.setting n).scalar scope t words state = (.found e, state') →
          e.WellTyped s.catalog ∧ e.type.base = t.base := by
  have concrete : s.setting.catalog.Concrete := by
    show s.catalog.Concrete
    rw [hc]
    exact d.build_concrete
  refine ⟨fun r s' h => ?_, fun n scope t words state e state' listed ht h => ?_⟩
  · exact (Session.generate_derived h).typed concrete fun _ h => by cases h
  · have derived := ((Generate.tower_sound s.setting n).scalar scope t _).of_found h
    have fits := derived.typed concrete listed
    exact ⟨fits.1, fits.2 ht⟩

namespace Sample

/-- A scope below the depth cap that sees the first table. -/
def leafScope : Generate.Scope where
  level := 4
  refs := [⟨draft.tables.head (by decide), "tab_1"⟩]

theorem session_wellTyped :
    session.catalog = draft.build
      ∧ (∃ r s', session.generate = (.found r, s') ∧ r.WellTyped session.catalog)
      ∧ ∃ e state', (Generate.tower session.setting 1).scalar leafScope .int words {}
            = (.found e, state')
          ∧ e.WellTyped session.catalog ∧ e.type.base = .int := by
  obtain ⟨statements, expressions⟩ := Session.generate_wellTyped draft (s := session) rfl
  obtain ⟨r, s', h⟩ := session_generates
  refine ⟨rfl, ⟨r, s', h, statements r s' h⟩, ?_⟩
  obtain ⟨e, state', he⟩ := Outcome.exists_of_isFound
    (p := (Generate.tower session.setting 1).scalar leafScope .int words {}) (by decide +kernel)
  have listed : leafScope.Listed session.catalog := by
    intro ref href
    rw [List.mem_singleton.1 href]
    decide +kernel
  exact ⟨e, state', he, expressions 1 leafScope .int words {} e state' listed (by decide) he⟩

end Sample

end QueryFuzz
