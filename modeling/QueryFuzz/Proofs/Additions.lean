/-
  QueryFuzz.Proofs.Additions
  ──────────────────────────
  **WHAT IS ADDED TO A CATALOG IS WHAT IT GIVES BACK.**

  A program comes by a catalog in four ways: from nothing, by adding to one it
  has, by putting a table in place, and from a document.  All four end in
  building, and nothing but building decides what stays: of the additions those
  that are of use, each once for every time it was added, and in the order of
  the additions as far as a look-up can tell.

      Draft.fromNothing — the draft of a list of additions
      Catalog.Reachable — the four ways, one after the other as often as wanted

  Main results:
    * `Catalog.Built.extend` — what additions do to the tables and to each look-up;
    * `Catalog.Reachable.built` — whichever ways were taken, the catalog is a built one;
    * `Catalog.reachable_filed_and_additions_found` — reachable catalogs hold nothing
      unusable and nothing misplaced, and look-ups give the additions of their base.
-/
import QueryFuzz.Catalog.Document
import QueryFuzz.Proofs.Rebuilding

namespace QueryFuzz

/-! ## §1. Entries of use. -/

/-- The table has columns, none of them of the wildcard type. -/
def Table.Useful (t : Table) : Prop :=
  t.columns ≠ [] ∧ ∀ column ∈ t.columns, column.type.base ≠ .any

/-- Neither operand nor the result is of the wildcard type. -/
def Operator.Useful (o : Operator) : Prop :=
  o.left.base ≠ .any ∧ o.right.base ≠ .any ∧ o.out.base ≠ .any

/-- Neither an argument nor the result is of the wildcard type. -/
def SqlFunction.Useful (f : SqlFunction) : Prop :=
  (∀ t ∈ f.inputs, t.base ≠ .any) ∧ f.out.base ≠ .any

instance : DecidablePred Table.Useful := fun t =>
  inferInstanceAs (Decidable (t.columns ≠ [] ∧ ∀ column ∈ t.columns, column.type.base ≠ .any))

instance : DecidablePred Operator.Useful := fun o =>
  inferInstanceAs (Decidable (o.left.base ≠ .any ∧ o.right.base ≠ .any ∧ o.out.base ≠ .any))

instance : DecidablePred SqlFunction.Useful := fun f =>
  inferInstanceAs (Decidable ((∀ t ∈ f.inputs, t.base ≠ .any) ∧ f.out.base ≠ .any))

/-- The tables that building keeps are the useful ones. -/
theorem Table.isUsable_iff (t : Table) : t.isUsable = true ↔ t.Useful := by
  unfold isUsable Useful
  simp only [Bool.and_eq_true, Bool.not_eq_true', List.isEmpty_eq_false_iff, List.all_eq_true,
    SqlType.base_ne_any_iff]

/-- The operators that building keeps are the useful ones. -/
theorem Operator.isConcrete_iff (o : Operator) : o.isConcrete = true ↔ o.Useful := by
  unfold isConcrete Useful
  simp only [Bool.and_eq_true, Bool.not_eq_true', SqlType.base_ne_any_iff, and_assoc]

/-- The functions that building keeps are the useful ones. -/
theorem SqlFunction.isConcrete_iff (f : SqlFunction) : f.isConcrete = true ↔ f.Useful := by
  unfold isConcrete Useful
  simp only [Bool.and_eq_true, Bool.not_eq_true', List.all_eq_true, SqlType.base_ne_any_iff]
  exact and_comm

/-! ## §2. Lists of additions. -/

namespace Draft

namespace Entry

/-- The table that an addition adds. -/
def table? : Entry → Option Table
  | table t => some t
  | _ => none

/-- The operator that an addition adds. -/
def operator? : Entry → Option Operator
  | operator o => some o
  | _ => none

/-- The function that an addition adds. -/
def function? : Entry → Option SqlFunction
  | function f => some f
  | _ => none

end Entry

/-- Additions come behind what a draft lists, each behind those of its kind. -/
theorem addAll_eq (es : List Entry) : ∀ d : Draft, d.addAll es =
    { tables := d.tables ++ es.filterMap Entry.table?
      operators := d.operators ++ es.filterMap Entry.operator?
      functions := d.functions ++ es.filterMap Entry.function? } := by
  induction es with
  | nil =>
      intro d
      simp [addAll]
  | cons e es ih =>
      intro d
      show (d.add e).addAll es = _
      rw [ih]
      cases e <;>
        simp [add, List.filterMap_cons, Entry.table?, Entry.operator?, Entry.function?]

/-- The draft that lists additions, and nothing else. -/
def fromNothing (es : List Entry) : Draft := addAll {} es

end Draft

namespace Catalog

/-- Every way in which a program comes by a catalog. -/
inductive Reachable : Catalog → Prop
  /-- From nothing, by additions. -/
  | added (es : List Draft.Entry) : Reachable (Draft.fromNothing es).build
  /-- By additions to a catalog. -/
  | extended {c : Catalog} (h : Reachable c) (es : List Draft.Entry) :
      Reachable (c.draft.addAll es).build
  /-- By putting a table in place. -/
  | placed {c : Catalog} (h : Reachable c) (t : Table) : Reachable (c.withTable t)
  /-- From a document. -/
  | loaded {v : Json} {c : Catalog} (h : ofJson v = .ok c) : Reachable c

/-! ## §3. What additions do. -/

section Additions

variable {c : Catalog}

/-- A catalog that is read from a document is a built one. -/
theorem ofJson_built {v : Json} (h : ofJson v = .ok c) : c.Built := by
  unfold ofJson at h
  split at h
  · cases h
    exact Draft.build_built _
  · cases h

/-- **Whichever ways were taken, the catalog is a built one.** -/
theorem Reachable.built (h : c.Reachable) : c.Built := by
  cases h with
  | added es => exact Draft.build_built _
  | extended _ es => exact Draft.build_built _
  | placed _ t => exact withTable_built _ t
  | loaded h => exact ofJson_built h

/-- What a list of additions does to one index: the look-up of a base finds, behind what it
found before, the additions of that base which building keeps. -/
theorem find_extended {α : Type} {key : α → BaseType} {keep : α → Bool} {Useful : α → Prop}
    [DecidablePred Useful] (spec : ∀ x, keep x = true ↔ Useful x)
    {ix : ResultIndex α} (filed : ix.Filed key) (kept : ∀ x ∈ ix.entries, keep x = true)
    (more : List α) (base : BaseType) :
    (ResultIndex.ofList key ((ix.entries ++ more).filter keep)).find base
      = ix.find base ++ more.filter fun x => decide (Useful x ∧ key x = base) := by
  -- building again drops nothing of the index, whose entries were kept before
  have old : ix.entries.filter keep = ix.entries := List.filter_eq_self.2 kept
  rw [ResultIndex.find_ofList, List.filter_append, old, List.filter_append,
    filed.filter_entries, List.filter_filter]
  congr 1
  refine List.filter_congr fun x _ => ?_
  by_cases useful : Useful x
  · simp [useful, (spec x).2 useful]
  · have dropped : keep x = false :=
      Bool.eq_false_iff.2 fun kept => useful ((spec x).1 kept)
    simp [useful, dropped]

/-- **Useful additions come behind what a built catalog has**, all others are lost. -/
theorem Built.extend (h : c.Built) (es : List Draft.Entry) :
    let more := (c.draft.addAll es).build
    more.tables = c.tables ++ (es.filterMap Draft.Entry.table?).filter (fun t => decide t.Useful) ∧
    ∀ out : SqlType,
      more.operatorsFor out = c.operatorsFor out
        ++ (es.filterMap Draft.Entry.operator?).filter
            (fun o => decide (o.Useful ∧ o.out.base = out.base)) ∧
      more.functionsFor out = c.functionsFor out
        ++ (es.filterMap Draft.Entry.function?).filter
            (fun f => decide (f.Useful ∧ f.out.base = out.base)) := by
  intro more
  have draft : c.draft.addAll es = _ := Draft.addAll_eq es c.draft
  refine ⟨?_, fun out => ⟨?_, ?_⟩⟩
  · show (c.draft.addAll es).tables.filter Table.isUsable = _
    -- a built catalog loses nothing when it is built again
    have old : c.tables.filter Table.isUsable = c.tables := List.filter_eq_self.2 h.tables
    rw [draft]
    show (c.tables ++ _).filter Table.isUsable = _
    rw [List.filter_append, old]
    congr 1
    exact List.filter_congr fun t _ => by
      rw [Bool.eq_iff_iff, decide_eq_true_iff]
      exact t.isUsable_iff
  · show (ResultIndex.ofList _ ((c.draft.addAll es).operators.filter Operator.isConcrete)).find _
      = _
    rw [draft]
    exact find_extended Operator.isConcrete_iff h.operators h.concreteOperators _ out.base
  · show (ResultIndex.ofList _ ((c.draft.addAll es).functions.filter SqlFunction.isConcrete)).find _
      = _
    rw [draft]
    exact find_extended SqlFunction.isConcrete_iff h.functions h.concreteFunctions _ out.base

/-! ## §4. Reachable catalogs. -/

/-- A bucket of a filed index holds something, all of it of the bucket's base. -/
theorem bucket_useful {α : Type} {key : α → BaseType} {Useful : α → Prop} {ix : ResultIndex α}
    (filed : ix.Filed key) (useful : ∀ x ∈ ix.entries, Useful x) :
    ∀ p ∈ ix, p.2 ≠ [] ∧ ∀ x ∈ p.2, key x = p.1 ∧ Useful x := by
  intro p hp
  refine ⟨filed.some p hp, fun x hx => ⟨filed.filed p hp x hx, useful x ?_⟩⟩
  exact List.mem_flatMap.2 ⟨p, hp, hx⟩

/-- Nothing useful is filed under the wildcard. -/
theorem filter_wildcard {α : Type} {key : α → BaseType} {Useful : α → Prop}
    [DecidablePred Useful] (concrete : ∀ x, Useful x → key x ≠ .any) (xs : List α) :
    (xs.filter fun x => decide (Useful x ∧ key x = .any)) = [] := by
  refine List.filter_eq_nil_iff.2 fun x _ => ?_
  rw [decide_eq_true_iff]
  rintro ⟨useful, any⟩
  exact concrete x useful any

/-- **Catalogs hold what is useful, in its place, and give back what was added.**  However
a catalog was come by, its tables have columns and no wildcard among them, its operators
and functions are free of the wildcard and in the bucket of the base that they produce, and
no bucket is empty.  And of any additions to nothing the useful ones are given back in the
order of addition: all tables, and for each type the operators and functions of its base;
for a wildcard there are none. -/
theorem reachable_filed_and_additions_found :
    (∀ c : Catalog, c.Reachable →
      (∀ t ∈ c.tables, t.columns ≠ [] ∧ ∀ column ∈ t.columns, column.type.base ≠ .any) ∧
      (∀ p ∈ c.operators, p.2 ≠ [] ∧ ∀ o ∈ p.2, o.out.base = p.1 ∧
        o.left.base ≠ .any ∧ o.right.base ≠ .any ∧ o.out.base ≠ .any) ∧
      (∀ p ∈ c.functions, p.2 ≠ [] ∧ ∀ f ∈ p.2, f.out.base = p.1 ∧
        (∀ t ∈ f.inputs, t.base ≠ .any) ∧ f.out.base ≠ .any)) ∧
    ∀ es : List Draft.Entry,
      let c := (Draft.fromNothing es).build
      c.tables = (es.filterMap Draft.Entry.table?).filter (fun t => decide t.Useful) ∧
      ∀ out : SqlType,
        c.operatorsFor out = (es.filterMap Draft.Entry.operator?).filter
          (fun o => decide (o.Useful ∧ o.out.base = out.base)) ∧
        c.functionsFor out = (es.filterMap Draft.Entry.function?).filter
          (fun f => decide (f.Useful ∧ f.out.base = out.base)) ∧
        (out.base = .any → c.operatorsFor out = [] ∧ c.functionsFor out = []) := by
  constructor
  · intro c reachable
    have built := reachable.built
    refine ⟨fun t ht => t.isUsable_iff.1 (built.tables t ht), ?_, ?_⟩
    · exact bucket_useful built.operators fun o ho =>
        o.isConcrete_iff.1 (built.concreteOperators o ho)
    · exact bucket_useful built.functions fun f hf =>
        f.isConcrete_iff.1 (built.concreteFunctions f hf)
  · intro es c
    -- a draft of nothing is the draft of the empty catalog, which is built
    have built : Catalog.Built {} := Draft.build_built {}
    obtain ⟨tables, lookups⟩ := built.extend es
    refine ⟨tables, fun out => ?_⟩
    obtain ⟨operators, functions⟩ := lookups out
    refine ⟨operators, functions, fun any => ?_⟩
    constructor
    · refine operators.trans ?_
      rw [any]
      exact filter_wildcard (fun (o : Operator) (useful : o.Useful) => useful.2.2) _
    · refine functions.trans ?_
      rw [any]
      exact filter_wildcard (fun (f : SqlFunction) (useful : f.Useful) => useful.2) _

end Additions

end Catalog

namespace Sample

/-- The sum of integers. -/
def plus : Operator := ⟨"+", .int, .int, .int⟩

/-- The concatenation of strings. -/
def concat : Operator := ⟨"||", ⟨.string, true⟩, ⟨.string, true⟩, ⟨.string, true⟩⟩

/-- A table of one column. -/
def stock : Table := ⟨"stock", [⟨"item", ⟨.string, false⟩, .writable⟩]⟩

/-- Operators of two bases by turns, one of them twice, and entries of no use. -/
def additions : List Draft.Entry :=
  [.operator plus, .table ⟨"bare", []⟩, .operator concat,
    .operator ⟨"=", .any, .any, .bool⟩, .table stock, .operator plus,
    .function ⟨"length", [⟨.string, true⟩], .int⟩, .function ⟨"least", [.any], .any⟩,
    .table ⟨"odd", [⟨"x", .any, .writable⟩]⟩]

/-- The additions' catalog with more operators and a table put in place. -/
def depot : Catalog :=
  (((Draft.fromNothing additions).build.draft.addAll additions).build).withTable
    ⟨"stock", [⟨"count", .int, .writable⟩]⟩

theorem depot_reachable : depot.Reachable :=
  .placed (.extended (.added additions) additions) _

/-- The sample's buckets are in order, and of its additions the useful ones are found. -/
theorem depot_filed_and_additions_found :
    (∀ p ∈ depot.operators, p.2 ≠ [] ∧ ∀ o ∈ p.2, o.out.base = p.1 ∧
      o.left.base ≠ .any ∧ o.right.base ≠ .any ∧ o.out.base ≠ .any) ∧
    (Draft.fromNothing additions).build.tables = [stock] ∧
    (Draft.fromNothing additions).build.operatorsFor .int = [plus, plus] ∧
    (Draft.fromNothing additions).build.operatorsFor .any = [] := by
  obtain ⟨filed, found⟩ := Catalog.reachable_filed_and_additions_found
  obtain ⟨tables, lookups⟩ := found additions
  obtain ⟨operators, -, -⟩ := lookups .int
  obtain ⟨-, -, wildcard⟩ := lookups .any
  exact ⟨(filed depot depot_reachable).2.1, tables.trans (by decide),
    operators.trans (by decide), (wildcard rfl).1⟩

end Sample

end QueryFuzz
