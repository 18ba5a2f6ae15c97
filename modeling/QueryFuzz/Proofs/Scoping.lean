/-
  QueryFuzz.Proofs.Scoping
  ────────────────────────
  **EVERY COLUMN REFERENCE RESOLVES WHERE IT STANDS.**

  `Relation.Scoped` walks a statement with the table references that are
  visible at each place, and asks of every column reference that its qualifier
  is the alias of exactly one of them, whose table has the column.  The
  qualifiers do not collide because aliases are numbered in the order in which
  they are handed out (`Numbered`): what a FROM item brings into view has
  higher numbers than all that was in view before.

  Main results:
    * `Derives.scoped` — every derivation keeps the references in view numbered;
    * `Session.generate_scoped` — generated statements are scoped.
-/
import QueryFuzz.Proofs.Soundness

namespace QueryFuzz

/-! ## §1. Scoped trees. -/

/-- A column reference among the visible table references: exactly one of them has the
qualifier for its alias, and that one's table has the column. -/
def Resolves (visible : List TableRef) (qualifier name : String) (type : SqlType) : Prop :=
  ∃ ref, visible.filter (fun r => r.name = qualifier) = [ref]
    ∧ ∃ column ∈ ref.table.columns, column.name = name ∧ column.type = type

mutual

/-- Every column reference in the expression resolves, and every table is listed. -/
def Scalar.Scoped (c : Catalog) (visible : List TableRef) : Scalar → Prop
  | .case condition yes no =>
      condition.Scoped c visible ∧ yes.Scoped c visible ∧ no.Scoped c visible
  | .coalesce first second => first.Scoped c visible ∧ second.Scoped c visible
  | .const .. => True
  | .column qualifier name type => Resolves visible qualifier name type
  | .binary _ left right => left.Scoped c visible ∧ right.Scoped c visible
  | .call _ args => Scalar.ScopedList c visible args
  | .exists query => query.Scoped c visible
  | .subquery query _ => query.Scoped c visible

/-- Every expression of a list is scoped. -/
def Scalar.ScopedList (c : Catalog) (visible : List TableRef) : List Scalar → Prop
  | [] => True
  | e :: es => e.Scoped c visible ∧ Scalar.ScopedList c visible es

/-- Every expression of every row is scoped. -/
def Scalar.ScopedRows (c : Catalog) (visible : List TableRef) : List (List Scalar) → Prop
  | [] => True
  | row :: rows => Scalar.ScopedList c visible row ∧ Scalar.ScopedRows c visible rows

/-- A WHERE, if there is one, is scoped. -/
def Scalar.ScopedFilter (c : Catalog) (visible : List TableRef) : Option Scalar → Prop
  | none => True
  | some e => e.Scoped c visible

/-- The ON of a join sees the leaves of the join, not those of a join around it; rows,
the sides of a set operation and the source of an INSERT see nothing from outside. -/
def Relation.Scoped (c : Catalog) (visible : List TableRef) : Relation → Prop
  | .table ref => ref.table ∈ c.tables
  | .join lhs rhs on _ =>
      lhs.Scoped c visible ∧ rhs.Scoped c visible
        ∧ on.Scoped c (visible ++ (lhs.leaves ++ rhs.leaves))
  | .select query => query.Scoped c visible
  | .setOp _ left right => left.Scoped c [] ∧ right.Scoped c []
  | .values rows => Scalar.ScopedRows c [] rows
  | .insert _ _ source => source.Scoped c []

/-- Items, WHERE and ORDER BY see the leaves of the FROM besides what the query sees. -/
def Select.Scoped (c : Catalog) (visible : List TableRef) : Select → Prop
  | .mk _ items source filter orderBy _ =>
      source.Scoped c visible
        ∧ Scalar.ScopedList c (visible ++ source.leaves) items
        ∧ Scalar.ScopedFilter c (visible ++ source.leaves) filter
        ∧ Scalar.ScopedList c (visible ++ source.leaves) orderBy

end

theorem Select.scoped_withLimit {c : Catalog} {visible : List TableRef} {q : Select}
    {l : Option Nat} (h : q.Scoped c visible) : (q.withLimit l).Scoped c visible := by
  cases q
  exact h

namespace Generate

/-! ## §2. Numbered references. -/

/-- The aliases were handed out one after another while the names handed out went from
`k` to `k'`. -/
def Numbered (refs : List TableRef) (k k' : Nat) : Prop :=
  ∃ ns : List Nat, refs.map TableRef.name = ns.map (NameCounter.name aliasStem)
    ∧ ns.Pairwise (· < ·) ∧ ∀ n ∈ ns, k < n ∧ n ≤ k'

theorem Numbered.nil (k k' : Nat) : Numbered [] k k' :=
  ⟨[], rfl, .nil, by simp⟩

theorem Numbered.single (table : Table) (k : Nat) :
    Numbered [⟨table, NameCounter.name aliasStem (k + 1)⟩] k (k + 1) :=
  ⟨[k + 1], rfl, List.pairwise_singleton .., by simp⟩

theorem Numbered.mono {refs : List TableRef} {k₁ k k' k₂ : Nat} (h : Numbered refs k k')
    (hk : k₁ ≤ k) (hk' : k' ≤ k₂) : Numbered refs k₁ k₂ := by
  obtain ⟨ns, names, ordered, bounds⟩ := h
  refine ⟨ns, names, ordered, fun n hn => ?_⟩
  have := bounds n hn
  omega

/-- What is in view stays numbered while further names are handed out. -/
theorem Numbered.later {refs : List TableRef} {k k' : Nat} (h : Numbered refs 0 k)
    (hk : k ≤ k') : Numbered refs 0 k' :=
  h.mono (Nat.le_refl 0) hk

/-- References that are handed out later go behind the earlier ones. -/
theorem Numbered.append {before behind : List TableRef} {k k₁ k' : Nat}
    (h₁ : Numbered before k k₁) (h₂ : Numbered behind k₁ k') (hk : k ≤ k₁) (hk' : k₁ ≤ k') :
    Numbered (before ++ behind) k k' := by
  obtain ⟨ms, names₁, ordered₁, bounds₁⟩ := h₁
  obtain ⟨ns, names₂, ordered₂, bounds₂⟩ := h₂
  refine ⟨ms ++ ns, by rw [List.map_append, List.map_append, names₁, names₂], ?_, ?_⟩
  · refine List.pairwise_append.2 ⟨ordered₁, ordered₂, fun m hm n hn => ?_⟩
    have := bounds₁ m hm
    have := bounds₂ n hn
    omega
  · intro n hn
    obtain hn | hn := List.mem_append.1 hn
    · have := bounds₁ n hn
      omega
    · have := bounds₂ n hn
      omega

/-- No two of the references have the same alias. -/
theorem Numbered.nodup {refs : List TableRef} {k k' : Nat} (h : Numbered refs k k') :
    (refs.map TableRef.name).Nodup := by
  obtain ⟨ns, names, ordered, -⟩ := h
  rw [names]
  refine List.Pairwise.map _ (fun m n hmn heq => ?_) ordered
  obtain ⟨-, same⟩ := NameCounter.name_inj.1 heq
  omega

/-- Among references with different aliases, the alias of one picks just that one. -/
theorem filter_name_eq {refs : List TableRef} (h : (refs.map TableRef.name).Nodup)
    {ref : TableRef} (href : ref ∈ refs) :
    refs.filter (fun r => r.name = ref.name) = [ref] := by
  induction refs with
  | nil => cases href
  | cons first rest ih =>
      obtain ⟨fresh, rest_nodup⟩ := List.nodup_cons.1 h
      obtain rfl | hrest := List.mem_cons.1 href
      · have others : rest.filter (fun r => r.name = ref.name) = [] := by
          refine List.filter_eq_nil_iff.2 fun r hr => ?_
          have : ref.name ≠ r.name := fun same =>
            fresh (same ▸ List.mem_map_of_mem (f := TableRef.name) hr)
          simpa using this.symm
        rw [List.filter_cons_of_pos (by simp), others]
      · have : first.name ≠ ref.name := fun same =>
          fresh (same ▸ List.mem_map_of_mem (f := TableRef.name) hrest)
        rw [List.filter_cons_of_neg (by simpa using this)]
        exact ih rest_nodup hrest

theorem Numbered.resolves {refs : List TableRef} {k k' : Nat} (h : Numbered refs k k')
    {ref : TableRef} (href : ref ∈ refs) {column : Column}
    (hcolumn : column ∈ ref.table.columns) :
    Resolves refs ref.name column.name column.type :=
  ⟨ref, filter_name_eq h.nodup href, column, hcolumn, rfl, rfl⟩

/-! ## §3. The invariant. -/

/-- What a judgement promises about scoping, when `k` names are handed out before it
and `k'` after it, all aliases in view being among the first `k`. -/
def Judgement.Scoped (c : Catalog) (k k' : Nat) : Judgement → Prop
  | .scalar scope _ e => Numbered scope.refs 0 k → e.Scoped c scope.refs
  | .attempt scope _ _ e => Numbered scope.refs 0 k → e.Scoped c scope.refs
  | .binary scope _ e => Numbered scope.refs 0 k → e.Scoped c scope.refs
  | .predicate scope e => Numbered scope.refs 0 k → e.Scoped c scope.refs
  | .row scope _ es => Numbered scope.refs 0 k → Scalar.ScopedList c scope.refs es
  | .rows scope _ rs => Numbered scope.refs 0 k → Scalar.ScopedRows c scope.refs rs
  | .filter scope condition =>
      Numbered scope.refs 0 k → Scalar.ScopedFilter c scope.refs condition
  | .terms scope es => Numbered scope.refs 0 k → Scalar.ScopedList c scope.refs es
  | .source scope r =>
      Numbered scope.refs 0 k → r.Scoped c scope.refs ∧ Numbered r.leaves k k'
  | .select scope _ q => Numbered scope.refs 0 k → q.Scoped c scope.refs
  | .returning scope _ r => scope.refs = [] → r.Scoped c []
  | .statement scope r => scope.refs = [] → r.Scoped c []

/-- **Every derivation keeps the references in view numbered**, so that every column
reference resolves where it stands. -/
theorem Derives.scoped {S : Setting} {j : Judgement} {k k' : Nat} (d : Derives S j k k') :
    j.Scoped S.catalog k k' := by
  induction d with
  | @skip j k k₁ k' le d ih =>
      -- names that nothing uses leave a gap, which the numbering allows
      cases j with
      | source scope r =>
          intro inView
          obtain ⟨source, leaves⟩ := ih (inView.later le)
          exact ⟨source, leaves.mono le (Nat.le_refl k')⟩
      | returning scope desired r => exact ih
      | statement scope r => exact ih
      | scalar | attempt | binary | predicate | row | rows | filter | terms | select =>
          exact fun inView => ih (inView.later le)
  | scalar resolution d ih => exact ih
  | const resolution value => exact fun _ => trivial
  | column inView ofTable serves => exact fun numbered => numbered.resolves inView ofTable
  | case above shallow hcondition hyes hno ihcondition ihyes ihno =>
      intro inView
      have later := inView.later hcondition.le
      exact ⟨ihcondition inView, ihyes later, ihno (later.later hyes.le)⟩
  | coalesce above shallow hfirst hsecond ihfirst ihsecond =>
      intro inView
      exact ⟨ihfirst inView, ihsecond (inView.later hfirst.le)⟩
  | operator above shallow d ih => exact ih
  | call above shallow resolution listed hargs ihargs => exact ihargs
  | subquery above shallow d hitems ih => exact fun inView => Select.scoped_withLimit (ih inView)
  | binary resolution listed hleft hright ihleft ihright =>
      intro inView
      exact ⟨ihleft inView, ihright (inView.later hleft.le)⟩
  | predicateAtLimit limit d ih => exact ih
  | comparison above d ih => exact ih
  | truth above d ih => exact ih
  | existence above d ih => exact ih
  | rowNil => exact fun _ => trivial
  | rowCons head tail ihhead ihtail =>
      intro inView
      exact ⟨ihhead inView, ihtail (inView.later head.le)⟩
  | rowsNil => exact fun _ => trivial
  | rowsCons head tail ihhead ihtail =>
      intro inView
      exact ⟨ihhead inView, ihtail (inView.later head.le)⟩
  | noFilter => exact fun _ => trivial
  | filter d ih => exact ih
  | termsNil => exact fun _ => trivial
  | termsCons head tail ihhead ihtail =>
      intro inView
      exact ⟨ihhead inView, ihtail (inView.later head.le)⟩
  | table listed => exact fun _ => ⟨listed, .single _ _⟩
  | join above shallow hleft hright hon ihleft ihright ihon =>
      intro inView
      obtain ⟨left, leftLeaves⟩ := ihleft inView
      -- the right side starts from the scope of the join, not from what the left side sees
      obtain ⟨right, rightLeaves⟩ := ihright (inView.later hleft.le)
      have leaves := leftLeaves.append rightLeaves hleft.le hright.le
      have both : _ ≤ _ := Nat.le_trans hleft.le hright.le
      have on := ihon (inView.append leaves (Nat.zero_le _) both)
      exact ⟨⟨left, right, on⟩, leaves.mono (Nat.le_refl _) hon.le⟩
  | select served hsource hitems hfilter horder hdistinct hlimit ihsource ihitems ihfilter
      ihorder =>
      intro inView
      obtain ⟨source, leaves⟩ := ihsource inView
      have inner := inView.append leaves (Nat.zero_le _) hsource.le
      have afterItems := inner.later hitems.le
      have afterFilter := afterItems.later hfilter.le
      exact ⟨source, ihitems inner, ihfilter afterItems, ihorder afterFilter⟩
  | @values scope desired types rows k k' served some most d ih =>
      intro nothing
      have rows := ih (show Numbered scope.refs 0 k from nothing ▸ Numbered.nil 0 k)
      show Scalar.ScopedRows S.catalog [] _
      rw [← nothing]
      exact rows
  | setOp above shallow served hleft hright ihleft ihright =>
      intro nothing
      exact ⟨ihleft nothing, ihright nothing⟩
  | @query scope desired q k k' above d ih =>
      intro nothing
      have query := ih (show Numbered scope.refs 0 k from nothing ▸ Numbered.nil 0 k)
      show q.Scoped S.catalog []
      rw [← nothing]
      exact query
  | insert chosen listed htargets some d ih => exact ih
  | returning chosen d ih => exact ih

end Generate

/-! ## §4. Sessions. -/

/-- **GENERATED STATEMENTS ARE SCOPED**: in every statement of a session, each column
reference resolves to exactly one of the table references visible where it stands,
and every table is one of the session's catalog. -/
theorem Session.generate_scoped {s s' : Session} {r : Relation}
    (h : s.generate = (.found r, s')) : r.Scoped s.catalog [] :=
  (Session.generate_derived h).scoped rfl

theorem Sample.session_scoped :
    ∃ r s', Sample.session.generate = (.found r, s') ∧ r.Scoped Sample.session.catalog [] := by
  obtain ⟨r, s', h⟩ := Sample.session_generates
  exact ⟨r, s', h, Session.generate_scoped h⟩

end QueryFuzz
