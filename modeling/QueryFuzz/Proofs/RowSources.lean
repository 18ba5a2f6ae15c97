/-
  QueryFuzz.Proofs.RowSources
  ───────────────────────────
  **EVERY ROW SOURCE SUPPLIES THE ROWS THAT WERE ASKED FOR.**

  Column types are fixed once, above both sides of a set operation and all rows of
  a VALUES, and then every one of those rows is generated for them.  An expression
  serves a concrete type in two ways: it has its base, and a NULL literal gets into
  its value only where the type allows NULL.  Nullability takes no part in matching,
  so the second one has to come down the whole way from the request to the literal.

      Relation.Supplies  — one expression for each of a list, in every row, as a
                           relation between the two asks
      Scalar.NullInValue — a NULL literal stands where a value may come from
      Serves             — an expression serves a type in both ways

  Main results:
    * `Derives.supplied` — every derivation serves the types it is asked for;
    * `Generate.returning_conforms` — rows have the types that were asked for;
    * `Session.insert_nullSafe` — an INSERT supplies no NULL literal for a column
      that is never NULL.
-/
import Mathlib.Data.List.Forall2
import QueryFuzz.Proofs.Typing

namespace QueryFuzz

/-! ## §1. What a row source supplies. -/

/-- The relation returns rows, each with one expression for each of the `wanted`, as
`fits` asks: the items of a SELECT, every row of a VALUES, and those of both sides of
a set operation.  FROM items and INSERTs return no rows. -/
def Relation.Supplies {α : Type} (fits : α → Scalar → Prop) (wanted : List α) :
    Relation → Prop
  | .table _ => False
  | .join .. => False
  | .select query => List.Forall₂ fits wanted query.items
  | .setOp _ left right => left.Supplies fits wanted ∧ right.Supplies fits wanted
  | .values rows => rows ≠ [] ∧ ∀ row ∈ rows, List.Forall₂ fits wanted row
  | .insert .. => False

/-- The expression has the base of the type. -/
def Scalar.HasBase (t : SqlType) (e : Scalar) : Prop := e.type.base = t.base

theorem Relation.Supplies.imp {α : Type} {fits suits : α → Scalar → Prop} {wanted : List α}
    (h : ∀ a e, fits a e → suits a e) :
    ∀ {r : Relation}, r.Supplies fits wanted → r.Supplies suits wanted
  | .table _, supplied => supplied
  | .join .., supplied => supplied
  | .select _, supplied => List.Forall₂.imp h supplied
  | .setOp .., supplied =>
      ⟨Relation.Supplies.imp h supplied.1, Relation.Supplies.imp h supplied.2⟩
  | .values _, supplied => ⟨supplied.1, fun row hrow => (supplied.2 row hrow).imp h⟩
  | .insert .., supplied => supplied

/-- What is supplied for properties of things is supplied for the things. -/
theorem Relation.Supplies.of_map {α β : Type} {fits : β → Scalar → Prop} {f : α → β}
    {wanted : List α} :
    ∀ {r : Relation}, r.Supplies fits (wanted.map f) → r.Supplies (fun a => fits (f a)) wanted
  | .table _, supplied => supplied
  | .join .., supplied => supplied
  | .select _, supplied => List.forall₂_map_left_iff.1 supplied
  | .setOp .., supplied => ⟨supplied.1.of_map, supplied.2.of_map⟩
  | .values _, supplied =>
      ⟨supplied.1, fun row hrow => List.forall₂_map_left_iff.1 (supplied.2 row hrow)⟩
  | .insert .., supplied => supplied

/-! ## §2. NULL literals in value position. -/

mutual

/-- A NULL literal stands where the value of the expression may come from: it is the
expression itself, or stands there in a branch of a CASE, an operand of a COALESCE or
the item of a subquery. -/
def Scalar.NullInValue : Scalar → Prop
  | .case _ yes no => yes.NullInValue ∨ no.NullInValue
  | .coalesce first second => first.NullInValue ∨ second.NullInValue
  | .const _ value => value = .null
  | .column .. => False
  | .binary .. => False
  | .call .. => False
  | .exists _ => False
  | .subquery query _ => query.NullInValue

/-- It does in some expression of a list. -/
def Scalar.NullInValueList : List Scalar → Prop
  | [] => False
  | e :: es => e.NullInValue ∨ Scalar.NullInValueList es

/-- It does in some item of the query. -/
def Select.NullInValue : Select → Prop
  | .mk _ items _ _ _ _ => Scalar.NullInValueList items

end

theorem Scalar.nullInValueList_singleton {e : Scalar} :
    Scalar.NullInValueList [e] ↔ e.NullInValue := by
  simp only [Scalar.NullInValueList, or_false]

theorem Select.nullInValue_iff (q : Select) :
    q.NullInValue ↔ Scalar.NullInValueList q.items := by
  cases q
  rfl

theorem Select.nullInValue_withLimit (q : Select) (l : Option Nat) :
    (q.withLimit l).NullInValue ↔ q.NullInValue := by
  cases q
  rfl

namespace Generate

/-! ## §3. Expressions that serve a type. -/

/-- The expression has the base of the type, and a NULL literal stands in value position
only where the type is nullable. -/
structure Serves (t : SqlType) (e : Scalar) : Prop where
  base : e.HasBase t
  nullSafe : t.nullable = false → ¬ e.NullInValue

section Serves

variable {t picked : SqlType}

/-- A NULL literal is drawn for nullable types only. -/
theorem const_serves {o : Options} {v : Literal} (value : LiteralOf o t v) :
    Serves t (.const t v) := by
  refine ⟨rfl, fun notNull isNull => ?_⟩
  obtain ⟨-, nullable, -⟩ | ⟨drawn, -⟩ := value
  · rw [notNull] at nullable
    cases nullable
  · have null : v = .null := isNull
    subst null
    cases hb : t.base <;> rw [hb] at drawn <;> exact drawn

theorem case_serves {condition yes no : Scalar} (hyes : Serves t yes) (hno : Serves t no) :
    Serves t (.case condition yes no) := by
  refine ⟨hyes.base, fun notNull isNull => ?_⟩
  obtain inYes | inNo := isNull
  · exact hyes.nullSafe notNull inYes
  · exact hno.nullSafe notNull inNo

theorem coalesce_serves {first second : Scalar} (hfirst : Serves t first)
    (hsecond : Serves t second) : Serves t (.coalesce first second) := by
  refine ⟨hfirst.base, fun notNull isNull => ?_⟩
  obtain inFirst | inSecond := isNull
  · exact hfirst.nullSafe notNull inFirst
  · exact hsecond.nullSafe notNull inSecond

/-- The one item of a subquery serves the type, so the subquery does. -/
theorem subquery_serves {q : Select} {item : Scalar} {rest : List Scalar}
    (hq : List.Forall₂ Serves [t] q.items) (hitems : q.items = item :: rest)
    (l : Option Nat) : Serves t (.subquery (q.withLimit l) item.type) := by
  rw [hitems] at hq
  obtain ⟨hitem, hrest⟩ := List.forall₂_cons.1 hq
  obtain rfl := List.forall₂_nil_left_iff.1 hrest
  refine ⟨hitem.base, fun notNull isNull => hitem.nullSafe notNull ?_⟩
  have inQuery : (q.withLimit l).NullInValue := isNull
  rw [Select.nullInValue_withLimit, Select.nullInValue_iff, hitems] at inQuery
  exact Scalar.nullInValueList_singleton.1 inQuery

/-- Expressions whose value comes from an operator, a function or a check hold no
literal in value position. -/
theorem serves_of_base {e : Scalar} (base : e.HasBase t) (computed : ¬ e.NullInValue) :
    Serves t e :=
  ⟨base, fun _ => computed⟩

end Serves

/-! ## §4. The invariant. -/

/-- The wanted types of a request that is served, each served in every row. -/
def Supplied (desired : Option (List SqlType)) (supplies : List SqlType → Prop) : Prop :=
  ∃ types, Served desired types ∧ supplies types

/-- What a judgement promises to supply for concrete requests. -/
def Judgement.Supplied : Judgement → Prop
  | .scalar _ t e => t.base ≠ .any → Serves t e
  | .attempt _ requested picked e =>
      Resolution requested picked → requested.base ≠ .any → Serves requested e
  | .binary _ t e => t.base ≠ .any → Serves t e
  | .predicate .. => True
  | .row _ types es => (∀ t ∈ types, t.base ≠ .any) → List.Forall₂ Serves types es
  | .rows _ types rs =>
      (∀ t ∈ types, t.base ≠ .any) → ∀ row ∈ rs, List.Forall₂ Serves types row
  | .filter .. => True
  | .terms .. => True
  | .source .. => True
  | .select _ desired q => ConcreteRequest desired →
      Generate.Supplied desired fun types => List.Forall₂ Serves types q.items
  | .returning _ desired r => ConcreteRequest desired →
      Generate.Supplied desired fun types => r.Supplies Serves types
  | .statement _ r => ∀ table targets source, r = .insert table targets source →
      source.Supplies Serves (targets.map Column.type)

/-- Explicit types are the ones that are served. -/
theorem Supplied.explicit {ts : List SqlType} {supplies : List SqlType → Prop}
    (h : Supplied (some ts) supplies) : supplies ts := by
  obtain ⟨types, ⟨-, same⟩, supplied⟩ := h
  have same : types = ts := same
  exact same ▸ supplied

/-- **Every derivation serves the types it is asked for**, whatever is in view. -/
theorem Derives.supplied {S : Setting} (hc : S.catalog.Concrete) {j : Judgement} {k k' : Nat}
    (d : Derives S j k k') : j.Supplied := by
  -- by induction on the derivation; a concrete request is passed on as it is, so that its
  -- nullability reaches the literals
  induction d with
  | skip le d ih => exact ih
  | scalar resolution d ih => exact ih resolution
  | const resolution value =>
      intro requested concrete
      obtain rfl := requested.eq_of_concrete concrete
      obtain rfl := resolution.eq_of_concrete concrete
      exact const_serves value
  | column inView ofTable serves =>
      intro requested concrete
      obtain wild | same := SqlType.accepts_iff.1 serves
      · exact absurd wild concrete
      · exact serves_of_base same.symm id
  | case above shallow hcondition hyes hno ihcondition ihyes ihno =>
      intro requested concrete
      obtain rfl := requested.eq_of_concrete concrete
      exact case_serves (ihyes concrete) (ihno concrete)
  | coalesce above shallow hfirst hsecond ihfirst ihsecond =>
      intro requested concrete
      obtain rfl := requested.eq_of_concrete concrete
      exact coalesce_serves (ihfirst concrete) (ihsecond concrete)
  | operator above shallow d ih => exact fun _ => ih
  | call above shallow resolution listed hargs ihargs =>
      intro requested concrete
      have out := (hc.functions _ _ listed).1
      rw [resolution.eq_of_concrete concrete] at out
      exact serves_of_base out id
  | @subquery scope requested picked q item rest k k' above shallow d hitems ih =>
      intro requested concrete
      obtain rfl := requested.eq_of_concrete concrete
      have query := ih (concreteRequest_some (List.forall_mem_singleton.2 concrete))
      exact subquery_serves query.explicit hitems _
  | binary resolution listed hleft hright ihleft ihright =>
      intro concrete
      have out := (hc.operators _ _ listed).1
      rw [resolution.eq_of_concrete concrete] at out
      exact serves_of_base out id
  | predicateAtLimit limit d ih => trivial
  | comparison above d ih => trivial
  | truth above d ih => trivial
  | existence above d ih => trivial
  | rowNil => exact fun _ => .nil
  | rowCons head tail ihhead ihtail =>
      intro types
      obtain ⟨concrete, rest⟩ := List.forall_mem_cons.1 types
      exact .cons (ihhead concrete) (ihtail rest)
  | rowsNil =>
      intro types row hrow
      cases hrow
  | rowsCons head tail ihhead ihtail =>
      intro types
      exact List.forall_mem_cons.2 ⟨ihhead types, ihtail types⟩
  | noFilter => trivial
  | filter d ih => trivial
  | termsNil => trivial
  | termsCons head tail ihhead ihtail => trivial
  | table listed => trivial
  | join above shallow hleft hright hon ihleft ihright ihon => trivial
  | select served hsource hitems hfilter horder hdistinct hlimit ihsource ihitems ihfilter
      ihorder =>
      intro desired
      exact ⟨_, served, ihitems (served.concrete desired)⟩
  | values served some most d ih =>
      intro desired
      exact ⟨_, served, List.length_pos_iff.1 some, ih (served.concrete desired)⟩
  | setOp above shallow served hleft hright ihleft ihright =>
      -- the types were fixed above both sides
      intro desired
      have types := concreteRequest_some (served.concrete desired)
      exact ⟨_, served, (ihleft types).explicit, (ihright types).explicit⟩
  | query above d ih => exact ih
  | insert chosen listed htargets some d ih =>
      intro table targets source same
      injection same with _ sameTargets sameSource
      subst sameTargets sameSource
      exact (ih (htargets.concreteRequest hc listed)).explicit
  | returning chosen d ih =>
      -- what returns rows is no INSERT
      intro table targets source same
      obtain ⟨types, -, supplied⟩ := ih fun _ h => by cases h
      subst same
      exact supplied.elim

/-! ## §5. Statements that return rows. -/

/-- No types at all cannot be served. -/
theorem returning_nil (S : Setting) (lower : Lower) (scope : Scope) (words : WordStream)
    (state : GenState) : (returning S lower scope (some []) words state).1 = .nothing := by
  unfold returning
  rw [if_pos rfl]
  rfl

/-- **ROWS HAVE THE TYPES THAT WERE ASKED FOR**, in every scope over a built catalog.  A
statement for explicit concrete types has in all its rows one expression for each of them,
of its base; it is a SELECT, a VALUES with some rows, or a set operation of two statements
for the same types.  Where no types are asked for, it is one for some concrete types.  An
empty list of types is never served. -/
theorem returning_conforms (d : Draft) {S : Setting} (hc : S.catalog = d.build) (n : Nat)
    (scope : Scope) (words : WordStream) (state : GenState) :
    (∀ ts r state', (∀ t ∈ ts, t.base ≠ .any) →
        returning S (tower S n) scope (some ts) words state = (.found r, state') →
        r.Supplies (fun t e => e.HasBase t) ts)
      ∧ (∀ r state', returning S (tower S n) scope none words state = (.found r, state') →
        ∃ ts, ts ≠ [] ∧ (∀ t ∈ ts, t.base ≠ .any) ∧ r.Supplies (fun t e => e.HasBase t) ts)
      ∧ (returning S (tower S n) scope (some []) words state).1 = .nothing := by
  have concrete : S.catalog.Concrete := hc ▸ d.build_concrete
  have supplied : ∀ desired r state', ConcreteRequest desired →
      returning S (tower S n) scope desired words state = (.found r, state') →
      Supplied desired fun types => r.Supplies (fun t e => e.HasBase t) types := by
    intro desired r state' request h
    have derived := (returning_sound (tower_sound S n) scope desired _).of_found h
    obtain ⟨types, served, rows⟩ := derived.supplied concrete request
    exact ⟨types, served, rows.imp fun _ _ serves => serves.base⟩
  refine ⟨fun ts r state' types h => ?_, fun r state' h => ?_, returning_nil ..⟩
  · exact (supplied (some ts) r state' (concreteRequest_some types) h).explicit
  · obtain ⟨types, ⟨some, random⟩, rows⟩ := supplied none r state' (fun _ h => by cases h) h
    exact ⟨types, some, fun t ht => (random t ht).2, rows⟩

end Generate

namespace Sample

/-- A union of two SELECTs for the types asked for, and one of random types where none are
asked for. -/
theorem returning_conforms_intBool :
    session.setting.catalog = draft.build
      ∧ (∃ r state', Generate.returning session.setting (Generate.tower session.setting 8)
            Generate.Scope.root (some [.int, .bool]) words {} = (.found r, state')
          ∧ r.Supplies (fun t e => e.HasBase t) [.int, .bool])
      ∧ ∃ r state' ts, Generate.returning session.setting (Generate.tower session.setting 8)
            Generate.Scope.root none words {} = (.found r, state')
          ∧ ts ≠ [] ∧ r.Supplies (fun t e => e.HasBase t) ts := by
  obtain ⟨explicit, random, -⟩ := Generate.returning_conforms draft (S := session.setting) rfl 8
    Generate.Scope.root words {}
  obtain ⟨r, state', h⟩ := Outcome.exists_of_isFound
    (p := Generate.returning session.setting (Generate.tower session.setting 8)
      Generate.Scope.root (some [.int, .bool]) words {}) (by decide +kernel)
  obtain ⟨r', state'', h'⟩ := Outcome.exists_of_isFound
    (p := Generate.returning session.setting (Generate.tower session.setting 8)
      Generate.Scope.root none words {}) (by decide +kernel)
  obtain ⟨ts, some, -, supplied⟩ := random r' state'' h'
  exact ⟨rfl, ⟨r, state', h, explicit _ r state' (by decide) h⟩,
    r', state'', ts, h', some, supplied⟩

end Sample

/-! ## §6. INSERTs. -/

/-- **NO NULL LITERAL REACHES A COLUMN THAT IS NEVER NULL.**  In every INSERT over a built
catalog, the source supplies one expression for each column that is named, in every row of
every VALUES and in every SELECT on all sides of set operations, and for a column that is not
nullable none with a NULL literal in value position.  The generator of expressions answers a
concrete request that is not nullable with no such expression. -/
theorem Session.insert_nullSafe (d : Draft) {s : Session} (hc : s.catalog = d.build) :
    (∀ table targets source s', s.generate = (.found (.insert table targets source), s') →
        source.Supplies (fun c e => c.type.nullable = false → ¬ e.NullInValue) targets)
      ∧ ∀ n scope t words state e state', t.base ≠ .any → t.nullable = false →
          (Generate.tower s.setting n).scalar scope t words state = (.found e, state') →
          ¬ e.NullInValue := by
  have concrete : s.setting.catalog.Concrete := by
    show s.catalog.Concrete
    exact hc ▸ d.build_concrete
  refine ⟨fun table targets source s' h => ?_,
    fun n scope t words state e state' ht notNull h => ?_⟩
  · have supplied := (Session.generate_derived h).supplied concrete table targets source rfl
    exact supplied.of_map.imp fun _ _ serves => serves.nullSafe
  · have derived := ((Generate.tower_sound s.setting n).scalar scope t _).of_found h
    exact (derived.supplied concrete ht).nullSafe notNull

namespace Sample

/-- The columns that are never NULL among the targets of what was found. -/
def strictTargets : Outcome Relation → List Column
  | .found (.insert _ targets _) => targets.filter fun c => !c.type.nullable
  | _ => []

/-- The sample statement is an INSERT from a union that names a column that is never
NULL. -/
theorem session_insert_nullSafe :
    session.catalog = draft.build
      ∧ (∃ table targets source s',
          session.generate = (.found (.insert table targets source), s')
            ∧ (∃ c ∈ targets, c.type.nullable = false)
            ∧ source.Supplies (fun c e => c.type.nullable = false → ¬ e.NullInValue) targets)
      ∧ ∃ e state', (Generate.tower session.setting 1).scalar leafScope ⟨.int, false⟩ words {}
            = (.found e, state')
          ∧ ¬ e.NullInValue := by
  obtain ⟨inserts, expressions⟩ := Session.insert_nullSafe draft (s := session) rfl
  have strict : strictTargets session.generate.1 ≠ [] := by decide +kernel
  obtain ⟨e, state', he⟩ := Outcome.exists_of_isFound
    (p := (Generate.tower session.setting 1).scalar leafScope ⟨.int, false⟩ words {})
    (by decide +kernel)
  refine ⟨rfl, ?_, e, state', he, expressions 1 _ _ words {} e state' (by decide) rfl he⟩
  generalize h : session.generate = found at strict inserts
  obtain ⟨o, s'⟩ := found
  cases o with
  | nothing => exact absurd rfl strict
  | halted why => exact absurd rfl strict
  | found r =>
      cases r with
      | insert table targets source =>
          obtain ⟨c, hc⟩ := List.exists_mem_of_ne_nil _ strict
          obtain ⟨named, notNull⟩ := List.mem_filter.1 hc
          exact ⟨table, targets, source, s', rfl, ⟨c, named, by simpa using notNull⟩,
            inserts table targets source s' rfl⟩
      | table | join | select | setOp | values => exact absurd rfl strict

end Sample

end QueryFuzz
