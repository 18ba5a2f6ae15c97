/-
  QueryFuzz.Proofs.Inserts
  ────────────────────────
  **EVERY INSERT IS ONE THAT ITS TABLE CAN TAKE.**

  An INSERT names a table of the catalog and some of its columns, and supplies one
  expression for each column that it names.  Which columns are named is decided
  column by column, by writability first, then by nullability, and by a coin for
  those that may be left out.  The source is generated for what is left, so that
  both lists stay aligned.

      Column.Required       — a column that every INSERT into its table has to name
      Table.NamedBy         — the columns that an INSERT may name
      Relation.IsInsertInto — an INSERT that a catalog's table can take
      Relation.inside       — all relations of a tree but the outermost

  Main results:
    * `Targets.namedBy` — the columns that are chosen are ones that may be named;
    * `Derives.insertFree` — no INSERT is derived below another relation;
    * `Session.inserts_sound` — both, for all INSERTs that are generated.
-/
import QueryFuzz.Proofs.NodeRules
import QueryFuzz.Proofs.RowSources

namespace QueryFuzz

/-! ## §1. Columns that an INSERT names. -/

/-- Every INSERT has to name the column: it must be written, or it is writable and has no
NULL to fall back on. -/
def Column.Required (c : Column) : Prop :=
  c.writability = .mustBeWritten ∨ c.writability = .writable ∧ c.type.nullable = false

instance : DecidablePred Column.Required := fun c =>
  inferInstanceAs (Decidable
    (c.writability = .mustBeWritten ∨ c.writability = .writable ∧ c.type.nullable = false))

/-- An INSERT into the table may name these columns. -/
structure Table.NamedBy (t : Table) (targets : List Column) : Prop where
  some : targets ≠ []
  /-- They are columns of the table, in its order, each at most as often as it has them. -/
  ordered : targets.Sublist t.columns
  writable : ∀ c ∈ targets, c.writability ≠ .notWritable
  /-- No required column is left out, nor one of several that are alike. -/
  required : targets.filter (fun c => decide c.Required)
    = t.columns.filter fun c => decide c.Required

/-- An INSERT into a table of the catalog, from a source that supplies in every row one
expression for each column that is named, of the column's base. -/
def Relation.IsInsertInto (c : Catalog) : Relation → Prop
  | .insert name targets source =>
      (∃ t ∈ c.tables, t.name = name ∧ t.NamedBy targets)
        ∧ source.Supplies (fun column e => e.HasBase column.type) targets
  | _ => False

namespace Generate

/-- A column that may be left out is not required. -/
theorem Omissible.not_required {c : Column} (h : Omissible c) : ¬ c.Required := by
  rintro (must | ⟨writable, notNull⟩)
  · obtain computed | ⟨free, -⟩ := h
    · simp [Column.isInsertTarget, must] at computed
    · exact free must
  · obtain computed | ⟨-, nullable⟩ := h
    · simp [Column.isInsertTarget, writable] at computed
    · rw [notNull] at nullable
      cases nullable

section Targets

variable {columns targets : List Column}

theorem Targets.sublist (h : Targets columns targets) : targets.Sublist columns := by
  induction h with
  | nil => exact List.Sublist.slnil
  | named _ _ ih => exact ih.cons_cons _
  | omitted _ _ ih => exact ih.cons _

theorem Targets.writable (h : Targets columns targets) :
    ∀ c ∈ targets, c.writability ≠ .notWritable := by
  induction h with
  | nil =>
      intro c hc
      cases hc
  | named target _ ih => exact List.forall_mem_cons.2 ⟨of_decide_eq_true target, ih⟩
  | omitted _ _ ih => exact ih

theorem Targets.required (h : Targets columns targets) :
    targets.filter (fun c => decide c.Required)
      = columns.filter fun c => decide c.Required := by
  induction h with
  | nil => rfl
  | named _ _ ih => rw [List.filter_cons, List.filter_cons, ih]
  | omitted free _ ih =>
      -- the filter passes over a column that may be left out
      rw [List.filter_cons, if_neg (by simpa using free.not_required)]
      exact ih

/-- **What is chosen of a table's columns may be named.** -/
theorem Targets.namedBy {t : Table} (h : Targets t.columns targets) (some : targets ≠ []) :
    t.NamedBy targets :=
  ⟨some, h.sublist, h.writable, h.required⟩

end Targets

/-- **An INSERT that may be found is one that its table can take.** -/
theorem DerivesInsert.isInsertInto {S : Setting} (hc : S.catalog.Concrete) {scope : Scope}
    {k k' : Nat} {r : Relation} (h : DerivesInsert S scope k k' r) :
    r.IsInsertInto S.catalog := by
  obtain ⟨listed, htargets, some, d⟩ := h
  refine ⟨⟨_, listed, rfl, htargets.namedBy some⟩, ?_⟩
  -- the types that are asked of the source are those of columns, and so no wildcards
  have supplied := (d.supplied hc (htargets.concreteRequest hc listed)).explicit
  exact supplied.of_map.imp fun _ _ serves => serves.base

end Generate

/-! ## §2. Where an INSERT may stand. -/

mutual

/-- All relations in the subqueries of an expression. -/
def Scalar.relations : Scalar → List Relation
  | .case condition yes no => condition.relations ++ (yes.relations ++ no.relations)
  | .coalesce first second => first.relations ++ second.relations
  | .const .. => []
  | .column .. => []
  | .binary _ left right => left.relations ++ right.relations
  | .call _ args => Scalar.relationsOfList args
  | .exists query => query.relations
  | .subquery query _ => query.relations

/-- Those of expressions one after the other. -/
def Scalar.relationsOfList : List Scalar → List Relation
  | [] => []
  | e :: es => e.relations ++ Scalar.relationsOfList es

/-- Those of rows one after the other. -/
def Scalar.relationsOfRows : List (List Scalar) → List Relation
  | [] => []
  | row :: rows => Scalar.relationsOfList row ++ Scalar.relationsOfRows rows

/-- Those of a WHERE, if there is one. -/
def Scalar.relationsOfFilter : Option Scalar → List Relation
  | none => []
  | some e => e.relations

/-- All relations below a relation, at any depth. -/
def Relation.inside : Relation → List Relation
  | .table _ => []
  | .join lhs rhs on _ => (lhs :: lhs.inside) ++ ((rhs :: rhs.inside) ++ on.relations)
  | .select query => query.relations
  | .setOp _ left right => (left :: left.inside) ++ (right :: right.inside)
  | .values rows => Scalar.relationsOfRows rows
  | .insert _ _ source => source :: source.inside

/-- All relations of a query: FROM, items, WHERE, ORDER BY. -/
def Select.relations : Select → List Relation
  | .mk _ items source filter orderBy _ =>
      (source :: source.inside) ++ (Scalar.relationsOfList items
        ++ (Scalar.relationsOfFilter filter ++ Scalar.relationsOfList orderBy))

end

theorem Select.relations_withLimit (q : Select) (l : Option Nat) :
    (q.withLimit l).relations = q.relations := by
  cases q
  rfl

/-- None of the relations is an INSERT. -/
def InsertFree (rs : List Relation) : Prop := ∀ r ∈ rs, r.isInsert = false

theorem InsertFree.nil : InsertFree [] := fun _ h => by cases h

theorem InsertFree.append {rs rs' : List Relation} (h : InsertFree rs) (h' : InsertFree rs') :
    InsertFree (rs ++ rs') :=
  List.forall_mem_append.2 ⟨h, h'⟩

theorem InsertFree.cons {r : Relation} {rs : List Relation} (h : r.isInsert = false)
    (h' : InsertFree rs) : InsertFree (r :: rs) :=
  List.forall_mem_cons.2 ⟨h, h'⟩

namespace Generate

/-- What a judgement promises about INSERTs: there is none in what it finds, and a statement
has none below it. -/
def Judgement.InsertFree : Judgement → Prop
  | .scalar _ _ e => QueryFuzz.InsertFree e.relations
  | .attempt _ _ _ e => QueryFuzz.InsertFree e.relations
  | .binary _ _ e => QueryFuzz.InsertFree e.relations
  | .predicate _ e => QueryFuzz.InsertFree e.relations
  | .row _ _ es => QueryFuzz.InsertFree (Scalar.relationsOfList es)
  | .rows _ _ rs => QueryFuzz.InsertFree (Scalar.relationsOfRows rs)
  | .filter _ condition => QueryFuzz.InsertFree (Scalar.relationsOfFilter condition)
  | .terms _ es => QueryFuzz.InsertFree (Scalar.relationsOfList es)
  | .source _ r => QueryFuzz.InsertFree (r :: r.inside)
  | .select _ _ q => QueryFuzz.InsertFree q.relations
  | .returning _ _ r => QueryFuzz.InsertFree (r :: r.inside)
  | .statement _ r => QueryFuzz.InsertFree r.inside

/-- **No INSERT is derived below another relation.** -/
theorem Derives.insertFree {S : Setting} {j : Judgement} {k k' : Nat} (d : Derives S j k k') :
    j.InsertFree := by
  -- by induction on the derivation; the rule of INSERTs alone makes one, and no rule takes
  -- a statement that may be one for a part of another
  induction d with
  | skip le d ih => exact ih
  | scalar resolution d ih => exact ih
  | const resolution value => exact .nil
  | column inView ofTable serves => exact .nil
  | case above shallow hcondition hyes hno ihcondition ihyes ihno =>
      exact ihcondition.append (ihyes.append ihno)
  | coalesce above shallow hfirst hsecond ihfirst ihsecond => exact ihfirst.append ihsecond
  | operator above shallow d ih => exact ih
  | call above shallow resolution listed hargs ih => exact ih
  | @subquery scope requested picked q item rest k k' above shallow d hitems ih =>
      show QueryFuzz.InsertFree (q.withLimit (some 1)).relations
      rw [q.relations_withLimit]
      exact ih
  | binary resolution listed hleft hright ihleft ihright => exact ihleft.append ihright
  | predicateAtLimit limit d ih => exact ih
  | comparison above d ih => exact ih
  | truth above d ih => exact ih
  | existence above d ih => exact ih
  | rowNil => exact .nil
  | rowCons head tail ihhead ihtail => exact ihhead.append ihtail
  | rowsNil => exact .nil
  | rowsCons head tail ihhead ihtail => exact ihhead.append ihtail
  | noFilter => exact .nil
  | filter d ih => exact ih
  | termsNil => exact .nil
  | termsCons head tail ihhead ihtail => exact ihhead.append ihtail
  | table listed => exact .cons rfl .nil
  | join above shallow hleft hright hon ihleft ihright ihon =>
      exact .cons rfl (ihleft.append (ihright.append ihon))
  | select served hsource hitems hfilter horder hdistinct hlimit ihsource ihitems ihfilter
      ihorder =>
      exact ihsource.append (ihitems.append (ihfilter.append ihorder))
  | values served some most d ih => exact .cons rfl ih
  | setOp above shallow served hleft hright ihleft ihright =>
      exact .cons rfl (ihleft.append ihright)
  | query above d ih => exact .cons rfl ih
  | insert chosen listed htargets some d ih => exact ih
  | returning chosen d ih => exact fun r hr => ih r (List.mem_cons_of_mem _ hr)

/-- A statement that is an INSERT is one that may be found in its scope. -/
theorem Derives.insert_of_isInsert {S : Setting} {scope : Scope} {r : Relation} {k k' : Nat}
    (d : Derives S (.statement scope r) k k') (h : r.isInsert = true) :
    ∃ k₁, DerivesInsert S scope k₁ k' r := by
  generalize hj : Judgement.statement scope r = j at d
  induction d with
  | skip le d ih => exact ih hj
  | insert chosen listed htargets some d =>
      cases hj
      exact ⟨_, .mk listed htargets some d⟩
  | returning chosen d =>
      -- what returns rows is no INSERT
      cases hj
      have free := d.insertFree r List.mem_cons_self
      rw [free] at h
      cases h
  | _ => cases hj

end Generate

/-! ## §3. Sessions. -/

/-- **EVERY INSERT IS ONE THAT ITS TABLE CAN TAKE**, over a built catalog and in any scope: it
names a table of the catalog, and of its columns some that may be written, in the table's
order and with all that have to be; its source supplies in every row, on all sides of set
operations, one expression for each of them, of its base.  In a statement an INSERT stands
only outermost. -/
theorem Session.inserts_sound (d : Draft) {s : Session} (hc : s.catalog = d.build) :
    (∀ n scope words state r state',
        Generate.insert s.setting (Generate.tower s.setting n) scope words state
          = (.found r, state') →
        r.IsInsertInto s.catalog)
      ∧ ∀ r s', s.generate = (.found r, s') →
        (r.isInsert = true → r.IsInsertInto s.catalog)
          ∧ ∀ inner ∈ r.inside, inner.isInsert = false := by
  have concrete : s.setting.catalog.Concrete := by
    show s.catalog.Concrete
    rw [hc]
    exact d.build_concrete
  constructor
  · intro n scope words state r state' h
    have sound := Generate.insert_sound (Generate.tower_sound s.setting n) scope
    exact ((sound _).of_found h).isInsertInto concrete
  · intro r s' h
    have derived := Session.generate_derived h
    refine ⟨fun inserts => ?_, derived.insertFree⟩
    obtain ⟨k, insert⟩ := derived.insert_of_isInsert inserts
    exact insert.isInsertInto concrete

namespace Sample

/-- What was found is an INSERT. -/
def findsInsert : Outcome Relation → Bool
  | .found r => r.isInsert
  | _ => false

/-- The sample session generates an INSERT from a union, and one from a scope that sees a
table. -/
theorem session_inserts_sound :
    session.catalog = draft.build
      ∧ (∃ r s', session.generate = (.found r, s') ∧ r.isInsert = true
          ∧ r.IsInsertInto session.catalog ∧ ∀ inner ∈ r.inside, inner.isInsert = false)
      ∧ ∃ r state', Generate.insert session.setting (Generate.tower session.setting 8) leafScope
            words {} = (.found r, state')
          ∧ r.IsInsertInto session.catalog := by
  obtain ⟨inserts, statements⟩ := Session.inserts_sound draft (s := session) rfl
  obtain ⟨r, s', h⟩ := session_generates
  have isInsert : findsInsert session.generate.1 = true := by decide +kernel
  rw [h] at isInsert
  obtain ⟨sound, outermost⟩ := statements r s' h
  obtain ⟨r', state', h'⟩ := Outcome.exists_of_isFound
    (p := Generate.insert session.setting (Generate.tower session.setting 8) leafScope words {})
    (by decide +kernel)
  exact ⟨rfl, ⟨r, s', h, isInsert, sound isInsert, outermost⟩,
    r', state', h', inserts 8 leafScope words {} r' state' h'⟩

end Sample

end QueryFuzz
