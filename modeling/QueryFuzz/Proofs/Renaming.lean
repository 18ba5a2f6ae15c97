/-
  QueryFuzz.Proofs.Renaming
  ─────────────────────────
  **A SCHEMA UNDER OTHER NAMES.**

  A renaming replaces the names of tables, columns, operators and functions, each
  kind by a function of its own.  Nothing is asked of these functions: different
  names may fall together.  It goes through catalogs and through statements, where
  it leaves everything but those names as it was: types, literals, limits, the
  constructs and their order, and the aliases of table references.

      Catalog.rename, Draft.rename   — the schema under other names
      Relation.rename, Scalar.rename — a statement that is written over it

  Main results:
    * `Draft.build_rename` — building does not look at names: it keeps the same
      entries in the same places of the indexes;
    * `Catalog.operatorsFor_rename`, `Catalog.functionsFor_rename` — look-ups give the
      renamed entries at the same places;
    * `Relation.aliases_rename` — all aliases of a statement stay as they were.
-/
import QueryFuzz.Proofs.Aliases
import QueryFuzz.Proofs.Composition

namespace QueryFuzz

/-- Other names for what a schema names, kind by kind. -/
structure Renaming where
  table : String → String
  column : String → String
  operator : String → String
  function : String → String

variable {ρ : Renaming}

/-! ## §1. Catalogs. -/

def Column.rename (ρ : Renaming) (c : Column) : Column := { c with name := ρ.column c.name }

/-- The table and its columns under their other names. -/
def Table.rename (ρ : Renaming) (t : Table) : Table where
  name := ρ.table t.name
  columns := t.columns.map (Column.rename ρ)

def Operator.rename (ρ : Renaming) (o : Operator) : Operator :=
  { o with name := ρ.operator o.name }

def SqlFunction.rename (ρ : Renaming) (f : SqlFunction) : SqlFunction :=
  { f with name := ρ.function f.name }

/-- Other entries in the same places. -/
def ResultIndex.mapEntries {α : Type} (f : α → α) (ix : ResultIndex α) : ResultIndex α :=
  ix.map fun p => (p.1, p.2.map f)

def Draft.rename (ρ : Renaming) (d : Draft) : Draft where
  tables := d.tables.map (Table.rename ρ)
  operators := d.operators.map (Operator.rename ρ)
  functions := d.functions.map (SqlFunction.rename ρ)

def Catalog.rename (ρ : Renaming) (c : Catalog) : Catalog where
  tables := c.tables.map (Table.rename ρ)
  operators := c.operators.mapEntries (Operator.rename ρ)
  functions := c.functions.mapEntries (SqlFunction.rename ρ)

/-- A filter that does not look at names keeps the same entries. -/
theorem filter_renamed {α : Type} (f : α → α) (keep : α → Bool)
    (same : ∀ x, keep (f x) = keep x) (xs : List α) :
    (xs.map f).filter keep = (xs.filter keep).map f := by
  rw [List.filter_map]
  congr 1
  exact List.filter_congr fun x _ => same x

namespace ResultIndex

variable {α : Type} (f : α → α)

theorem find_mapEntries (ix : ResultIndex α) (c : BaseType) :
    find (mapEntries f ix) c = (find ix c).map f := by
  induction ix with
  | nil => rfl
  | cons p rest ih =>
      show find ((p.1, p.2.map f) :: mapEntries f rest) c = _
      by_cases h : p.1 = c
      · simp [find, h]
      · simp [find, h, ih]

theorem mapEntries_insert (b : BaseType) (x : α) (ix : ResultIndex α) :
    mapEntries f (insert b x ix) = insert b (f x) (mapEntries f ix) := by
  induction ix with
  | nil => rfl
  | cons p rest ih =>
      obtain ⟨c, xs⟩ := p
      show _ = insert b (f x) ((c, xs.map f) :: mapEntries f rest)
      simp only [insert]
      split
      · simp [mapEntries]
      · split
        · rfl
        · rw [← ih]
          rfl

/-- The index of other entries with the same keys has them in the same places. -/
theorem ofList_map (key : α → BaseType) (same : ∀ x, key (f x) = key x)
    (xs : List α) : ofList key (xs.map f) = mapEntries f (ofList key xs) := by
  -- from any index on, since each entry is filed into what came of those before it
  have inserted : ∀ ix, (xs.map f).foldl (fun ix x => insert (key x) x ix) (mapEntries f ix)
      = mapEntries f (xs.foldl (fun ix x => insert (key x) x ix) ix) := by
    induction xs with
    | nil => exact fun _ => rfl
    | cons x xs ih =>
        intro ix
        rw [List.map_cons, List.foldl_cons, List.foldl_cons, same, ← mapEntries_insert, ih]
  exact inserted []

end ResultIndex

theorem Table.isUsable_rename (t : Table) : (t.rename ρ).isUsable = t.isUsable := by
  unfold isUsable rename
  rw [List.isEmpty_map, List.all_map]
  rfl

/-- **Building does not look at names.** -/
theorem Draft.build_rename (d : Draft) : (d.rename ρ).build = d.build.rename ρ := by
  unfold build rename Catalog.rename
  dsimp only
  rw [filter_renamed (Table.rename ρ) Table.isUsable Table.isUsable_rename,
    filter_renamed (Operator.rename ρ) Operator.isConcrete fun _ => rfl,
    filter_renamed (SqlFunction.rename ρ) SqlFunction.isConcrete fun _ => rfl,
    ResultIndex.ofList_map (Operator.rename ρ) (·.out.base) fun _ => rfl,
    ResultIndex.ofList_map (SqlFunction.rename ρ) (·.out.base) fun _ => rfl]

namespace Catalog

variable (c : Catalog) (out : SqlType)

theorem operatorsFor_rename :
    (c.rename ρ).operatorsFor out = (c.operatorsFor out).map (Operator.rename ρ) :=
  ResultIndex.find_mapEntries ..

theorem functionsFor_rename :
    (c.rename ρ).functionsFor out = (c.functionsFor out).map (SqlFunction.rename ρ) :=
  ResultIndex.find_mapEntries ..

end Catalog

/-! ## §2. Statements. -/

/-- The table under its other name, the alias as it is. -/
def TableRef.rename (ρ : Renaming) (ref : TableRef) : TableRef :=
  { ref with table := ref.table.rename ρ }

mutual

/-- The expression over the renamed schema.  The qualifier of a column is an alias. -/
def Scalar.rename (ρ : Renaming) : Scalar → Scalar
  | .case condition yes no => .case (condition.rename ρ) (yes.rename ρ) (no.rename ρ)
  | .coalesce first second => .coalesce (first.rename ρ) (second.rename ρ)
  | .const type value => .const type value
  | .column qualifier name type => .column qualifier (ρ.column name) type
  | .binary op left right => .binary (op.rename ρ) (left.rename ρ) (right.rename ρ)
  | .call f args => .call (f.rename ρ) (Scalar.renameList ρ args)
  | .exists query => .exists (query.rename ρ)
  | .subquery query type => .subquery (query.rename ρ) type

/-- Expressions one after the other. -/
def Scalar.renameList (ρ : Renaming) : List Scalar → List Scalar
  | [] => []
  | e :: es => e.rename ρ :: Scalar.renameList ρ es

/-- Rows one after the other. -/
def Scalar.renameRows (ρ : Renaming) : List (List Scalar) → List (List Scalar)
  | [] => []
  | row :: rows => Scalar.renameList ρ row :: Scalar.renameRows ρ rows

/-- A WHERE, if there is one. -/
def Scalar.renameFilter (ρ : Renaming) : Option Scalar → Option Scalar
  | none => none
  | some e => some (e.rename ρ)

/-- The relation over the renamed schema. -/
def Relation.rename (ρ : Renaming) : Relation → Relation
  | .table ref => .table (ref.rename ρ)
  | .join lhs rhs on columns =>
      .join (lhs.rename ρ) (rhs.rename ρ) (on.rename ρ) (columns.map (Column.rename ρ))
  | .select query => .select (query.rename ρ)
  | .setOp op left right => .setOp op (left.rename ρ) (right.rename ρ)
  | .values rows => .values (Scalar.renameRows ρ rows)
  | .insert table targets source =>
      .insert (ρ.table table) (targets.map (Column.rename ρ)) (source.rename ρ)

/-- The query over the renamed schema. -/
def Select.rename (ρ : Renaming) : Select → Select
  | .mk distinct items source filter orderBy limit =>
      .mk distinct (Scalar.renameList ρ items) (source.rename ρ) (Scalar.renameFilter ρ filter)
        (Scalar.renameList ρ orderBy) limit

end

theorem Scalar.renameList_eq (es : List Scalar) :
    Scalar.renameList ρ es = es.map (Scalar.rename ρ) := by
  induction es with
  | nil => rfl
  | cons e es ih => rw [Scalar.renameList, ih, List.map_cons]

theorem Scalar.renameRows_eq (rows : List (List Scalar)) :
    Scalar.renameRows ρ rows = rows.map (List.map (Scalar.rename ρ)) := by
  induction rows with
  | nil => rfl
  | cons row rows ih => rw [Scalar.renameRows, ih, Scalar.renameList_eq, List.map_cons]

theorem Scalar.renameFilter_eq (condition : Option Scalar) :
    Scalar.renameFilter ρ condition = condition.map (Scalar.rename ρ) := by
  cases condition <;> rfl

theorem Scalar.rename_call (f : SqlFunction) (args : List Scalar) :
    (Scalar.call f args).rename ρ = .call (f.rename ρ) (args.map (Scalar.rename ρ)) := by
  rw [Scalar.rename, Scalar.renameList_eq]

theorem Relation.rename_values (rows : List (List Scalar)) :
    (Relation.values rows).rename ρ = .values (rows.map (List.map (Scalar.rename ρ))) := by
  rw [Relation.rename, Scalar.renameRows_eq]

theorem Select.rename_mk (distinct : Bool) (items : List Scalar) (source : Relation)
    (filter : Option Scalar) (orderBy : List Scalar) (limit : Option Nat) :
    (Select.mk distinct items source filter orderBy limit).rename ρ
      = .mk distinct (items.map (Scalar.rename ρ)) (source.rename ρ)
          (filter.map (Scalar.rename ρ)) (orderBy.map (Scalar.rename ρ)) limit := by
  rw [Select.rename, Scalar.renameList_eq, Scalar.renameList_eq, Scalar.renameFilter_eq]

/-- Types stay as they were. -/
theorem Scalar.type_rename : ∀ e : Scalar, (e.rename ρ).type = e.type
  | .case _ yes _ => yes.type_rename
  | .coalesce first _ => first.type_rename
  | .const .. => rfl
  | .column .. => rfl
  | .binary .. => rfl
  | .call .. => rfl
  | .exists _ => rfl
  | .subquery .. => rfl

theorem Select.items_rename (q : Select) :
    (q.rename ρ).items = q.items.map (Scalar.rename ρ) := by
  cases q
  exact Scalar.renameList_eq _

theorem Select.rename_withLimit (q : Select) (l : Option Nat) :
    (q.withLimit l).rename ρ = (q.rename ρ).withLimit l := by
  cases q
  rfl

/-- The columns of a FROM item are columns of tables.  Those of other row sources may be
nameless, and no renaming gives them a name. -/
theorem Relation.columns_rename {r : Relation} (item : r.isItem = true) :
    (r.rename ρ).columns = r.columns.map (Column.rename ρ) := by
  cases r with
  | table ref => rfl
  | join lhs rhs on columns => rfl
  | select | setOp | values | insert => cases item

/-! ## §3. Aliases. -/

/-- All aliases of a statement, in the order in which it is generated. -/
def Relation.aliases (r : Relation) : List String := r.references.map TableRef.name

mutual

theorem Scalar.references_rename :
    ∀ e : Scalar, (e.rename ρ).references = e.references.map (TableRef.rename ρ)
  | .case condition yes no => by
      simp only [Scalar.rename, Scalar.references, List.map_append, condition.references_rename,
        yes.references_rename, no.references_rename]
  | .coalesce first second => by
      simp only [Scalar.rename, Scalar.references, List.map_append, first.references_rename,
        second.references_rename]
  | .const .. => rfl
  | .column .. => rfl
  | .binary _ left right => by
      simp only [Scalar.rename, Scalar.references, List.map_append, left.references_rename,
        right.references_rename]
  | .call _ args => Scalar.referencesOfList_rename args
  | .exists query => query.references_rename
  | .subquery query _ => query.references_rename

theorem Scalar.referencesOfList_rename : ∀ es : List Scalar,
    Scalar.referencesOfList (Scalar.renameList ρ es)
      = (Scalar.referencesOfList es).map (TableRef.rename ρ)
  | [] => rfl
  | e :: es => by
      simp only [Scalar.renameList, Scalar.referencesOfList, List.map_append,
        e.references_rename, Scalar.referencesOfList_rename es]

theorem Scalar.referencesOfRows_rename : ∀ rows : List (List Scalar),
    Scalar.referencesOfRows (Scalar.renameRows ρ rows)
      = (Scalar.referencesOfRows rows).map (TableRef.rename ρ)
  | [] => rfl
  | row :: rows => by
      simp only [Scalar.renameRows, Scalar.referencesOfRows, List.map_append,
        Scalar.referencesOfList_rename row, Scalar.referencesOfRows_rename rows]

theorem Scalar.referencesOfFilter_rename : ∀ condition : Option Scalar,
    Scalar.referencesOfFilter (Scalar.renameFilter ρ condition)
      = (Scalar.referencesOfFilter condition).map (TableRef.rename ρ)
  | none => rfl
  | some e => e.references_rename

theorem Relation.references_rename :
    ∀ r : Relation, (r.rename ρ).references = r.references.map (TableRef.rename ρ)
  | .table _ => rfl
  | .join lhs rhs on _ => by
      simp only [Relation.rename, Relation.references, List.map_append, lhs.references_rename,
        rhs.references_rename, on.references_rename]
  | .select query => query.references_rename
  | .setOp _ left right => by
      simp only [Relation.rename, Relation.references, List.map_append, left.references_rename,
        right.references_rename]
  | .values rows => Scalar.referencesOfRows_rename rows
  | .insert _ _ source => source.references_rename

theorem Select.references_rename :
    ∀ q : Select, (q.rename ρ).references = q.references.map (TableRef.rename ρ)
  | .mk _ items source filter orderBy _ => by
      simp only [Select.rename, Select.references, List.map_append, source.references_rename,
        Scalar.referencesOfList_rename items, Scalar.referencesOfFilter_rename filter,
        Scalar.referencesOfList_rename orderBy]

end

/-- **Aliases stay as they were**, in the same places. -/
theorem Relation.aliases_rename (r : Relation) : (r.rename ρ).aliases = r.aliases := by
  unfold Relation.aliases
  rw [r.references_rename, List.map_map]
  rfl

end QueryFuzz
