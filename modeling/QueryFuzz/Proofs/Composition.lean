/-
  QueryFuzz.Proofs.Composition
  ────────────────────────────
  **WHAT GENERATED STATEMENTS ARE PUT TOGETHER FROM.**

  `Relation.ComposedOf c` asks that everything a statement mentions comes from
  the catalog `c`: its tables, operators and functions are entries, a column
  reference pairs a table alias with a column of some listed table, and an
  INSERT names columns of a listed table.  It also records where each kind of
  node may stand: behind FROM there are tables and joins only, and nowhere else.

  Unlike typing, this asks nothing of the catalog, so it holds whatever a
  database reports.

  Main results:
    * `Derives.composed` — every derivation is put together so;
    * `Session.generate_composed` — so is every statement of a session.
-/
import QueryFuzz.Proofs.Catalog
import QueryFuzz.Proofs.Soundness

namespace QueryFuzz

/-! ## §1. Composed trees. -/

/-- A table alias: the stem of aliases with a number. -/
def IsAlias (name : String) : Prop :=
  ∃ number, name = NameCounter.name Generate.aliasStem number

/-- Whether a relation is a FROM item: a table or a join. -/
def Relation.isItem : Relation → Bool
  | .table _ => true
  | .join .. => true
  | .select _ => false
  | .setOp .. => false
  | .values _ => false
  | .insert .. => false

/-- A literal that is no negative number. -/
def Literal.Unsigned : Literal → Prop
  | .int n => 0 ≤ n
  | _ => True

mutual

/-- The expression mentions entries of the catalog only. -/
def Scalar.ComposedOf (c : Catalog) : Scalar → Prop
  | .case condition yes no => condition.ComposedOf c ∧ yes.ComposedOf c ∧ no.ComposedOf c
  | .coalesce first second => first.ComposedOf c ∧ second.ComposedOf c
  | .const _ value => value.Unsigned
  | .column qualifier name type =>
      IsAlias qualifier
        ∧ ∃ t ∈ c.tables, ∃ column ∈ t.columns, column.name = name ∧ column.type = type
  | .binary op left right =>
      op ∈ c.operators.entries ∧ left.ComposedOf c ∧ right.ComposedOf c
  | .call f args => f ∈ c.functions.entries ∧ Scalar.ComposedOfList c args
  | .exists query => query.ComposedOf c
  | .subquery query _ => query.ComposedOf c

/-- So does every expression of a list. -/
def Scalar.ComposedOfList (c : Catalog) : List Scalar → Prop
  | [] => True
  | e :: es => e.ComposedOf c ∧ Scalar.ComposedOfList c es

/-- So does every expression of every row. -/
def Scalar.ComposedOfRows (c : Catalog) : List (List Scalar) → Prop
  | [] => True
  | row :: rows => Scalar.ComposedOfList c row ∧ Scalar.ComposedOfRows c rows

/-- So does a WHERE, if there is one. -/
def Scalar.ComposedOfFilter (c : Catalog) : Option Scalar → Prop
  | none => True
  | some e => e.ComposedOf c

/-- The relation mentions entries of the catalog only.  FROM items stand in joins and
behind FROM, statements on the sides of set operations and behind INSERT. -/
def Relation.ComposedOf (c : Catalog) : Relation → Prop
  | .table ref => ref.table ∈ c.tables ∧ IsAlias ref.name
  | .join lhs rhs on _ =>
      (lhs.isItem = true ∧ lhs.ComposedOf c) ∧ (rhs.isItem = true ∧ rhs.ComposedOf c)
        ∧ on.ComposedOf c
  | .select query => query.ComposedOf c
  | .setOp _ left right =>
      (left.isItem = false ∧ left.ComposedOf c) ∧ right.isItem = false ∧ right.ComposedOf c
  | .values rows => rows ≠ [] ∧ Scalar.ComposedOfRows c rows
  | .insert table targets source =>
      (∃ t ∈ c.tables, t.name = table ∧ targets ⊆ t.columns)
        ∧ targets ≠ [] ∧ source.isItem = false ∧ source.ComposedOf c

/-- The query selects something from a FROM item, and all its parts mention entries of
the catalog only. -/
def Select.ComposedOf (c : Catalog) : Select → Prop
  | .mk _ items source filter orderBy _ =>
      (source.isItem = true ∧ source.ComposedOf c)
        ∧ (items ≠ [] ∧ Scalar.ComposedOfList c items)
        ∧ Scalar.ComposedOfFilter c filter ∧ Scalar.ComposedOfList c orderBy

end

theorem Select.composedOf_withLimit {c : Catalog} {q : Select} {l : Option Nat}
    (h : q.ComposedOf c) : (q.withLimit l).ComposedOf c := by
  cases q
  exact h

namespace Generate

/-! ## §2. The invariant. -/

/-- Table references that a statement over the catalog may have in view. -/
def Listed (c : Catalog) (refs : List TableRef) : Prop :=
  ∀ ref ∈ refs, ref.table ∈ c.tables ∧ IsAlias ref.name

/-- What is behind FROM comes into view behind what was in view before. -/
theorem Listed.seeing {c : Catalog} {scope : Scope} {refs : List TableRef}
    (h : Listed c scope.refs) (hrefs : Listed c refs) :
    Listed c (scope.child.seeing refs).refs :=
  List.forall_mem_append.2 ⟨h, hrefs⟩

/-- What a judgement promises about what is mentioned, in a scope that sees listed
tables only. -/
def Judgement.Composed (c : Catalog) : Judgement → Prop
  | .scalar scope _ e => Listed c scope.refs → e.ComposedOf c
  | .attempt scope _ _ e => Listed c scope.refs → e.ComposedOf c
  | .binary scope _ e => Listed c scope.refs → e.ComposedOf c
  | .predicate scope e => Listed c scope.refs → e.ComposedOf c
  | .row scope types es =>
      Listed c scope.refs → Scalar.ComposedOfList c es ∧ es.length = types.length
  | .rows scope _ rs => Listed c scope.refs → Scalar.ComposedOfRows c rs
  | .filter scope condition => Listed c scope.refs → Scalar.ComposedOfFilter c condition
  | .terms scope es => Listed c scope.refs → Scalar.ComposedOfList c es
  | .source scope r =>
      Listed c scope.refs → (r.isItem = true ∧ r.ComposedOf c) ∧ Listed c r.leaves
  | .select scope _ q => Listed c scope.refs → q.ComposedOf c
  | .returning scope _ r => Listed c scope.refs → r.isItem = false ∧ r.ComposedOf c
  | .statement scope r => Listed c scope.refs → r.isItem = false ∧ r.ComposedOf c

/-- A value that is drawn is no negative number. -/
theorem LiteralOf.unsigned {o : Options} {t : SqlType} {v : Literal} (h : LiteralOf o t v) :
    v.Unsigned := by
  obtain ⟨rfl, -, -⟩ | ⟨drawn, -⟩ := h
  · trivial
  · cases v with
    | int n =>
        have bounds : 1 ≤ n ∧ n ≤ 6 := by
          cases hb : t.base <;> rw [hb] at drawn
          · exact drawn.elim
          · exact drawn
          · exact drawn.elim
          · exact drawn.elim
        show 0 ≤ n
        omega
    | null | bool | string => trivial

/-- As many expressions as there are types, and there are some. -/
theorem Served.ne_nil {desired : Option (List SqlType)} {types : List SqlType}
    {es : List Scalar} (h : Served desired types) (same : es.length = types.length) :
    es ≠ [] := by
  rintro rfl
  exact h.1 (List.length_eq_zero_iff.1 same.symm)

/-- **Every derivation mentions entries of the catalog only.** -/
theorem Derives.composed {S : Setting} {j : Judgement} {k k' : Nat} (d : Derives S j k k') :
    j.Composed S.catalog := by
  -- by induction on the derivation; the tables in view are listed in every child scope
  induction d with
  | skip le d ih => exact ih
  | scalar resolution d ih => exact ih
  | const resolution value => exact fun _ => value.unsigned
  | @column scope requested picked ref column k inView ofTable serves =>
      intro listed
      obtain ⟨table, name⟩ := listed ref inView
      exact ⟨name, ref.table, table, column, ofTable, rfl, rfl⟩
  | case above shallow hcondition hyes hno ihcondition ihyes ihno =>
      intro listed
      exact ⟨ihcondition listed, ihyes listed, ihno listed⟩
  | coalesce above shallow hfirst hsecond ihfirst ihsecond =>
      intro listed
      exact ⟨ihfirst listed, ihsecond listed⟩
  | operator above shallow d ih => exact ih
  | call above shallow resolution listed hargs ihargs =>
      intro inView
      exact ⟨S.catalog.mem_functions listed, (ihargs inView).1⟩
  | subquery above shallow d hitems ih =>
      intro listed
      exact Select.composedOf_withLimit (ih listed)
  | binary resolution listed hleft hright ihleft ihright =>
      intro inView
      exact ⟨S.catalog.mem_operators listed, ihleft inView, ihright inView⟩
  | predicateAtLimit limit d ih => exact ih
  | comparison above d ih => exact ih
  | truth above d ih => exact ih
  | existence above d ih => exact ih
  | rowNil => exact fun _ => ⟨trivial, rfl⟩
  | rowCons head tail ihhead ihtail =>
      intro listed
      obtain ⟨es, same⟩ := ihtail listed
      exact ⟨⟨ihhead listed, es⟩, congrArg (· + 1) same⟩
  | rowsNil => exact fun _ => trivial
  | rowsCons head tail ihhead ihtail =>
      intro listed
      exact ⟨(ihhead listed).1, ihtail listed⟩
  | noFilter => exact fun _ => trivial
  | filter d ih => exact ih
  | termsNil => exact fun _ => trivial
  | termsCons head tail ihhead ihtail =>
      intro listed
      exact ⟨ihhead listed, ihtail listed⟩
  | @table scope table k listed =>
      intro _
      have ref : table ∈ S.catalog.tables ∧ IsAlias (NameCounter.name aliasStem (k + 1)) :=
        ⟨listed, k + 1, rfl⟩
      exact ⟨⟨rfl, ref⟩, by simpa [Listed, Relation.leaves] using ref⟩
  | join above shallow hleft hright hon ihleft ihright ihon =>
      intro listed
      obtain ⟨left, leftLeaves⟩ := ihleft listed
      obtain ⟨right, rightLeaves⟩ := ihright listed
      have leaves : Listed S.catalog (_ ++ _) :=
        List.forall_mem_append.2 ⟨leftLeaves, rightLeaves⟩
      exact ⟨⟨rfl, left, right, ihon (listed.seeing leaves)⟩, leaves⟩
  | select served hsource hitems hfilter horder hdistinct hlimit ihsource ihitems ihfilter
      ihorder =>
      intro listed
      obtain ⟨source, leaves⟩ := ihsource listed
      have inner := listed.seeing leaves
      obtain ⟨items, same⟩ := ihitems inner
      exact ⟨source, ⟨served.ne_nil same, items⟩, ihfilter inner, ihorder inner⟩
  | values served some most d ih =>
      intro listed
      exact ⟨rfl, List.length_pos_iff.1 some, ih listed⟩
  | setOp above shallow served hleft hright ihleft ihright =>
      intro listed
      exact ⟨rfl, ihleft listed, ihright listed⟩
  | query above d ih => exact fun listed => ⟨rfl, ih listed⟩
  | insert chosen listed htargets some d ih =>
      intro inView
      obtain ⟨kind, rows⟩ := ih inView
      exact ⟨rfl, ⟨_, listed, rfl, htargets.subset⟩, some, kind, rows⟩
  | returning chosen d ih => exact ih

end Generate

/-! ## §3. Sessions. -/

/-- **A session's statements mention entries of its catalog only**, whatever catalog it
has in place. -/
theorem Session.generate_composed {s s' : Session} {r : Relation}
    (h : s.generate = (.found r, s')) : r.isItem = false ∧ r.ComposedOf s.catalog :=
  (Session.generate_derived h).composed (fun _ href => by cases href)

end QueryFuzz
