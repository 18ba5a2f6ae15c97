/-
  QueryFuzz.Proofs.Grouping
  ─────────────────────────
  **ONE PASS OVER THE ROWS GROUPS EACH TABLE BY ITSELF.**

  Rows of columns come in any order, those of different tables in between each
  other.  The one pass that takes them in keeps an entry for each table: not there
  yet, with columns so far, or lost.  What it comes to can be said of each table
  alone: the table stands at the place of its first row, and has the columns of
  all its rows, in their order, unless the type of one of them is not modelled.

      mentioned — the tables that rows mention, in the order of their first rows
      rowsOf    — the rows of one table
      gathered  — the columns of rows, unless one of them gives none

  Main results:
    * `Introspection.insertRow_map` — what one row does to the entries;
    * `Introspection.groups_eq` — so every entry is gathered from the rows of its table;
    * `Introspection.groupTables_declared` — which tables there are, in which order,
      and with which columns; no table depends on the rows of another.
-/
import Mathlib.Data.List.Forall2
import Mathlib.Data.List.Induction
import Mathlib.Data.List.Nodup
import QueryFuzz.Catalog.Introspection

namespace QueryFuzz

/-! ## §1. The rows of one table. -/

/-- The column is the one that a row describes. -/
structure ColumnRow.Describes (row : ColumnRow) (column : Column) : Prop where
  name : column.name = row.column
  base : BaseType.ofName? row.typeName = some column.type.base
  nullable : column.type.nullable = row.nullable
  writability : column.writability = if row.computed then .notWritable else .writable

namespace Introspection

/-- The rows of one table, in their order. -/
def rowsOf (key : TableKey) (rows : List ColumnRow) : List ColumnRow :=
  rows.filter fun row => decide (row.key = key)

/-- The place of a table's first row; behind all rows when it has none. -/
def firstRow (key : TableKey) (rows : List ColumnRow) : Nat :=
  rows.findIdx fun row => decide (row.key = key)

/-- Every row of the table is of a type that is modelled. -/
def Modelled (key : TableKey) (rows : List ColumnRow) : Prop :=
  ∀ row ∈ rows, row.key = key → BaseType.ofName? row.typeName ≠ none

/-- The tables that rows mention, each of them once, in the order of their first rows. -/
def mentioned (rows : List ColumnRow) : List TableKey := (rows.map ColumnRow.key).eraseDups

/-- The columns of rows, unless one of them gives none. -/
def gathered (rows : List ColumnRow) : Option (List Column) := rows.mapM column?

/-- The table that is gathered from its rows. -/
def tableOf? (key : TableKey) (rows : List ColumnRow) : Option Table :=
  (gathered (rowsOf key rows)).map fun columns => ⟨key.table, columns⟩

theorem column?_eq_some_iff {row : ColumnRow} {column : Column} :
    column? row = some column ↔ row.Describes column := by
  unfold column?
  rw [Option.map_eq_some_iff]
  constructor
  · rintro ⟨base, named, rfl⟩
    exact ⟨rfl, named, rfl, rfl⟩
  · intro h
    refine ⟨column.type.base, h.base, ?_⟩
    rw [← h.name, ← h.nullable, ← h.writability]

theorem column?_eq_none_iff {row : ColumnRow} :
    column? row = none ↔ BaseType.ofName? row.typeName = none := by
  unfold column?
  rw [Option.map_eq_none_iff]

/-! ### One more row. -/

section Append

variable (row : ColumnRow) (rows : List ColumnRow)

theorem rowsOf_append (key : TableKey) :
    rowsOf key (rows ++ [row]) = rowsOf key rows ++ if row.key = key then [row] else [] := by
  unfold rowsOf
  rw [List.filter_append]
  by_cases same : row.key = key
  · simp [same]
  · simp [same]

theorem gathered_append : gathered (rows ++ [row]) = extend (column? row) (gathered rows) := by
  unfold gathered
  rw [List.mapM_append]
  -- the row can add a column only to columns that are still there
  cases rows.mapM column? with
  | none => rfl
  | some columns =>
      cases h : column? row with
      | none => simp [extend, h]
      | some column => simp [extend, h]

theorem mentioned_append :
    mentioned (rows ++ [row])
      = if row.key ∈ mentioned rows then mentioned rows else mentioned rows ++ [row.key] := by
  unfold mentioned
  rw [List.map_append, List.eraseDups_append]
  simp only [List.map_cons, List.map_nil, List.mem_eraseDups]
  by_cases old : row.key ∈ rows.map ColumnRow.key
  · have none : [row.key].removeAll (rows.map ColumnRow.key) = [] := by
      simp only [List.removeAll, List.filter_cons, List.elem_eq_mem, old]
      rfl
    rw [if_pos old, none]
    simp
  · have new : [row.key].removeAll (rows.map ColumnRow.key) = [row.key] := by
      simp only [List.removeAll, List.filter_cons, List.elem_eq_mem, old]
      rfl
    rw [if_neg old, new]
    simp [List.eraseDups_cons]

end Append

theorem mem_mentioned {key : TableKey} {rows : List ColumnRow} :
    key ∈ mentioned rows ↔ ∃ row ∈ rows, row.key = key := by
  unfold mentioned
  rw [List.mem_eraseDups, List.mem_map]

/-- A table that is not mentioned has no rows. -/
theorem rowsOf_eq_nil {key : TableKey} {rows : List ColumnRow} (h : key ∉ mentioned rows) :
    rowsOf key rows = [] := by
  unfold rowsOf
  rw [List.filter_eq_nil_iff]
  intro row member
  rw [decide_eq_true_iff]
  intro same
  exact h (mem_mentioned.2 ⟨row, member, same⟩)

theorem firstRow_lt {key : TableKey} {rows : List ColumnRow} (h : key ∈ mentioned rows) :
    firstRow key rows < rows.length := by
  obtain ⟨row, member, same⟩ := mem_mentioned.1 h
  exact List.findIdx_lt_length_of_exists ⟨row, member, by simpa using same⟩

/-- More rows do not change where the first row of a table stands. -/
theorem firstRow_append {key : TableKey} {rows : List ColumnRow} (h : key ∈ mentioned rows)
    (row : ColumnRow) : firstRow key (rows ++ [row]) = firstRow key rows := by
  have before := firstRow_lt h
  unfold firstRow at before ⊢
  rw [List.findIdx_append, if_pos before]

/-- The first row of a new table stands behind all rows before it. -/
theorem firstRow_append_self {row : ColumnRow} {rows : List ColumnRow}
    (h : row.key ∉ mentioned rows) : firstRow row.key (rows ++ [row]) = rows.length := by
  have none : rows.findIdx (fun other => decide (other.key = row.key)) = rows.length := by
    rw [List.findIdx_eq_length]
    intro other member
    rw [decide_eq_false_iff_not]
    intro same
    exact h (mem_mentioned.2 ⟨other, member, same⟩)
  unfold firstRow
  rw [List.findIdx_append, none]
  simp

/-- **Tables are mentioned in the order of their first rows.** -/
theorem mentioned_pairwise (rows : List ColumnRow) :
    (mentioned rows).Pairwise fun k k' => firstRow k rows < firstRow k' rows := by
  induction rows using List.reverseRecOn with
  | nil => exact List.Pairwise.nil
  | append_singleton rows row ih =>
      -- the order among the tables from before is what it was
      have kept : (mentioned rows).Pairwise fun k k' =>
          firstRow k (rows ++ [row]) < firstRow k' (rows ++ [row]) := by
        refine ih.imp_of_mem fun {k k'} hk hk' lt => ?_
        rw [firstRow_append hk, firstRow_append hk']
        exact lt
      rw [mentioned_append]
      by_cases old : row.key ∈ mentioned rows
      · rw [if_pos old]
        exact kept
      · rw [if_neg old, List.pairwise_append]
        refine ⟨kept, List.pairwise_singleton _ _, fun k hk k' hk' => ?_⟩
        obtain rfl := List.mem_singleton.1 hk'
        rw [firstRow_append hk, firstRow_append_self old]
        exact firstRow_lt hk

theorem mentioned_nodup (rows : List ColumnRow) : (mentioned rows).Nodup := by
  refine (mentioned_pairwise rows).imp fun {k k'} lt same => ?_
  rw [same] at lt
  omega

/-! ## §2. One pass. -/

/-- **What one row does to the entries**: that of its table is extended, behind all others
when there was none before, and no other entry is touched. -/
theorem insertRow_map (row : ColumnRow) (f : TableKey → Option (List Column)) :
    ∀ keys : List TableKey, keys.Nodup → (row.key ∉ keys → f row.key = some []) →
      insertRow row (keys.map fun key => (key, f key))
        = (if row.key ∈ keys then keys else keys ++ [row.key]).map fun key =>
            (key, if row.key = key then extend (column? row) (f key) else f key) := by
  -- by the keys before the row's own: `insertRow` passes those of other tables
  intro keys
  induction keys with
  | nil =>
      intro _ fresh
      have start : f row.key = some [] := fresh (by simp)
      simp [insertRow, start]
  | cons key keys ih =>
      intro apart fresh
      obtain ⟨first, apart⟩ := List.nodup_cons.1 apart
      show (if key = row.key then _ else _) = _
      by_cases same : key = row.key
      · -- the entry is here, and none of those behind it is of the same table
        subst same
        have others : keys.map (fun k =>
              (k, if row.key = k then extend (column? row) (f k) else f k))
            = keys.map fun k => (k, f k) := by
          refine List.map_congr_left fun k hk => ?_
          rw [if_neg]
          rintro rfl
          exact first hk
        rw [if_pos rfl, if_pos List.mem_cons_self, List.map_cons, others, if_pos rfl]
      · have other : row.key ≠ key := fun h => same h.symm
        have rest := ih apart fun absent => fresh (by simp [other, absent])
        rw [if_neg same]
        show (key, f key) :: insertRow row (keys.map fun k => (k, f k)) = _
        rw [rest]
        by_cases there : row.key ∈ keys
        · simp [there, other]
        · simp [there, other]

/-- **Every entry is gathered from the rows of its table**, whatever comes in between. -/
theorem groups_eq (rows : List ColumnRow) :
    groups rows = (mentioned rows).map fun key => (key, gathered (rowsOf key rows)) := by
  induction rows using List.reverseRecOn with
  | nil => rfl
  | append_singleton rows row ih =>
      have step : groups (rows ++ [row]) = insertRow row (groups rows) := by
        unfold groups
        rw [List.foldl_append]
        rfl
      have fresh : row.key ∉ mentioned rows → gathered (rowsOf row.key rows) = some [] := by
        intro absent
        rw [rowsOf_eq_nil absent]
        rfl
      rw [step, ih, insertRow_map row _ _ (mentioned_nodup rows) fresh, ← mentioned_append]
      -- of all tables only the one of the new row has more rows than before
      refine List.map_congr_left fun key _ => ?_
      rw [rowsOf_append]
      by_cases same : row.key = key
      · rw [if_pos same, if_pos same, gathered_append]
      · rw [if_neg same, if_neg same, List.append_nil]

/-- The tables that come of rows, each gathered from its own. -/
theorem groupTables_eq (rows : List ColumnRow) :
    groupTables rows = (mentioned rows).filterMap fun key => tableOf? key rows := by
  unfold groupTables tablesOf
  rw [groups_eq, List.filterMap_map]
  rfl

/-! ## §3. Each table by itself. -/

/-- What holds of whatever stands beside an element holds of all that stands beside a list. -/
theorem forall_mem_of_forall₂ {α β : Type} {R : α → β → Prop} {P : β → Prop}
    (imp : ∀ a b, R a b → P b) {as : List α} {bs : List β} (h : List.Forall₂ R as bs) :
    ∀ b ∈ bs, P b := by
  induction h with
  | nil =>
      intro b h
      cases h
  | cons first rest ih => exact List.forall_mem_cons.2 ⟨imp _ _ first, ih⟩

/-- What comes of a list when something has to come of each of its elements. -/
theorem mapM_eq_some_iff {α β : Type} {f : α → Option β} {as : List α} :
    ∀ {bs : List β}, as.mapM f = some bs ↔ List.Forall₂ (fun a b => f a = some b) as bs := by
  induction as with
  | nil =>
      intro bs
      rw [List.mapM_nil, List.forall₂_nil_left_iff]
      constructor
      · intro h
        exact (Option.some.inj h).symm
      · rintro rfl
        rfl
  | cons a as ih =>
      intro bs
      rw [List.mapM_cons, List.forall₂_cons_left_iff]
      constructor
      · intro h
        obtain ⟨b, first, h⟩ := Option.bind_eq_some_iff.1 h
        obtain ⟨rest, others, h⟩ := Option.bind_eq_some_iff.1 h
        exact ⟨b, rest, first, ih.1 others, (Option.some.inj h).symm⟩
      · rintro ⟨b, rest, first, others, rfl⟩
        rw [first, ih.2 others]
        rfl

theorem gathered_eq_some_iff {rows : List ColumnRow} {columns : List Column} :
    gathered rows = some columns ↔ List.Forall₂ ColumnRow.Describes rows columns := by
  unfold gathered
  rw [mapM_eq_some_iff]
  simp only [column?_eq_some_iff]

/-- Columns are lost at a type that is not modelled, and at nothing else. -/
theorem gathered_eq_none_iff {rows : List ColumnRow} :
    gathered rows = none ↔ ∃ row ∈ rows, BaseType.ofName? row.typeName = none := by
  unfold gathered
  induction rows with
  | nil => simp
  | cons row rows ih =>
      simp only [List.mapM_cons, List.exists_mem_cons_iff]
      rw [← ih, ← column?_eq_none_iff]
      cases column? row with
      | none => simp
      | some column => cases rows.mapM column? <;> simp

theorem tableOf?_eq_none_iff {key : TableKey} {rows : List ColumnRow} :
    tableOf? key rows = none ↔ ¬ Modelled key rows := by
  unfold tableOf? Modelled
  rw [Option.map_eq_none_iff, gathered_eq_none_iff]
  unfold rowsOf
  simp only [List.mem_filter, decide_eq_true_eq]
  constructor
  · rintro ⟨row, ⟨member, same⟩, unnamed⟩ all
    exact all row member same unnamed
  · intro h
    by_contra none
    exact h fun row member same unnamed => none ⟨row, ⟨member, same⟩, unnamed⟩

/-- Leaving out tables leaves the others in their order. -/
theorem mentioned_filter (p : TableKey → Bool) (rows : List ColumnRow) :
    mentioned (rows.filter fun row => p row.key) = (mentioned rows).filter p := by
  induction rows using List.reverseRecOn with
  | nil => rfl
  | append_singleton rows row ih =>
      rw [List.filter_append, mentioned_append]
      by_cases kept : p row.key = true
      · -- the table is new among those that are kept just when it is new
        have old : row.key ∈ (mentioned rows).filter p ↔ row.key ∈ mentioned rows := by
          rw [List.mem_filter]
          simp [kept]
        rw [List.filter_cons, if_pos kept, List.filter_nil, mentioned_append, ih]
        by_cases there : row.key ∈ mentioned rows
        · rw [if_pos there, if_pos (old.2 there)]
        · rw [if_neg there, if_neg fun h => there (old.1 h), List.filter_append]
          simp [kept]
      · rw [List.filter_cons, if_neg kept, List.filter_nil, List.append_nil, ih]
        by_cases there : row.key ∈ mentioned rows
        · rw [if_pos there]
        · rw [if_neg there, List.filter_append]
          simp [kept]

/-- The rows of one table make that table and no other. -/
theorem groupTables_rowsOf {key : TableKey} {rows : List ColumnRow} (h : key ∈ mentioned rows) :
    groupTables (rowsOf key rows) = (tableOf? key rows).toList := by
  have once : mentioned (rowsOf key rows) = [key] := by
    unfold rowsOf
    rw [mentioned_filter fun k => decide (k = key)]
    show (mentioned rows).filter (fun k => k == key) = [key]
    rw [List.filter_beq, List.count_eq_one_of_mem (mentioned_nodup rows) h]
    rfl
  have again : rowsOf key (rowsOf key rows) = rowsOf key rows := by
    unfold rowsOf
    rw [List.filter_filter]
    simp only [Bool.and_self]
  rw [groupTables_eq, once]
  unfold tableOf?
  rw [List.filterMap_cons, List.filterMap_nil, again]
  cases gathered (rowsOf key rows) <;> rfl

/-- The tables that come of rows: those that are mentioned, and of modelled types only. -/
def standing (rows : List ColumnRow) : List TableKey :=
  (mentioned rows).filter fun key => (tableOf? key rows).isSome

theorem mem_standing {key : TableKey} {rows : List ColumnRow} :
    key ∈ standing rows ↔ (∃ row ∈ rows, row.key = key) ∧ Modelled key rows := by
  unfold standing
  rw [List.mem_filter, mem_mentioned, Option.isSome_iff_ne_none, Ne, tableOf?_eq_none_iff,
    not_not]

/-- What a partial map makes of a list, beside the elements that it makes it of. -/
theorem forall₂_filterMap {α β : Type} (f : α → Option β) (as : List α) :
    List.Forall₂ (fun a b => f a = some b) (as.filter fun a => (f a).isSome)
      (as.filterMap f) := by
  induction as with
  | nil => exact .nil
  | cons a as ih =>
      cases h : f a with
      | none => simpa [h] using ih
      | some b => simpa [h] using ih

/-- Grouping all rows is grouping the rows of each table by themselves. -/
theorem groupTables_eq_flatMap (rows : List ColumnRow) :
    groupTables rows = (standing rows).flatMap fun key => groupTables (rowsOf key rows) := by
  have alone : (standing rows).flatMap (fun key => groupTables (rowsOf key rows))
      = (standing rows).filterMap fun key => tableOf? key rows := by
    rw [List.filterMap_eq_flatMap_toList]
    refine List.flatMap_congr ?_
    intro key member
    exact groupTables_rowsOf (List.mem_filter.1 member).1
  rw [alone, groupTables_eq]
  unfold standing
  -- the tables that are left out come to nothing
  rw [List.filterMap_filter]
  refine List.filterMap_congr fun key _ => ?_
  cases tableOf? key rows <;> rfl

/-- **One row of a type that is not modelled**, wherever it stands, has the effect of leaving
out all rows of its table. -/
theorem groupTables_of_unnamed {rows : List ColumnRow} {row : ColumnRow} (member : row ∈ rows)
    (unnamed : BaseType.ofName? row.typeName = none) :
    groupTables rows = groupTables (rows.filter fun other => decide (other.key ≠ row.key)) := by
  have lost : tableOf? row.key rows = none :=
    tableOf?_eq_none_iff.2 fun all => all row member rfl unnamed
  have kept (key : TableKey) (other : key ≠ row.key) :
      tableOf? key (rows.filter fun r => decide (r.key ≠ row.key)) = tableOf? key rows := by
    have same : rowsOf key (rows.filter fun r => decide (r.key ≠ row.key)) = rowsOf key rows := by
      unfold rowsOf
      rw [List.filter_filter]
      refine List.filter_congr fun r _ => ?_
      by_cases here : r.key = key
      · simp [here, other]
      · simp [here]
    unfold tableOf?
    rw [same]
  rw [groupTables_eq, groupTables_eq, mentioned_filter fun key => decide (key ≠ row.key),
    List.filterMap_filter]
  refine List.filterMap_congr fun key _ => ?_
  by_cases here : key = row.key
  · rw [here, lost]
    simp
  · rw [kept key here, if_pos (decide_eq_true here)]

/-- **TABLES ARE WHAT THEIR OWN ROWS SAY**, whatever the order of all rows.  There is one table
for each that is mentioned with modelled types only, and no other; they come in the order of
their first rows; each has the bare name, and a column for each row in the order of its rows.
So each table is the one that its rows make by themselves, and one row of a type that is not
modelled has the effect of leaving out all rows of its table. -/
theorem groupTables_declared (rows : List ColumnRow) :
    ∃ keys : List TableKey,
      (∀ key, key ∈ keys ↔ (∃ row ∈ rows, row.key = key) ∧ Modelled key rows)
        ∧ keys.Pairwise (fun k k' => firstRow k rows < firstRow k' rows)
        ∧ List.Forall₂
            (fun key t => t.name = key.table
              ∧ List.Forall₂ ColumnRow.Describes (rowsOf key rows) t.columns)
            keys (groupTables rows)
        ∧ groupTables rows = keys.flatMap (fun key => groupTables (rowsOf key rows))
        ∧ ∀ row ∈ rows, BaseType.ofName? row.typeName = none →
            groupTables rows
              = groupTables (rows.filter fun other => decide (other.key ≠ row.key)) := by
  refine ⟨standing rows, fun key => mem_standing, ?_, ?_, groupTables_eq_flatMap rows, ?_⟩
  · exact (mentioned_pairwise rows).sublist List.filter_sublist
  · rw [groupTables_eq]
    refine (forall₂_filterMap (fun key => tableOf? key rows) (mentioned rows)).imp ?_
    intro key t h
    obtain ⟨columns, all, rfl⟩ := Option.map_eq_some_iff.1 h
    exact ⟨rfl, gathered_eq_some_iff.1 all⟩
  · intro row member unnamed
    exact groupTables_of_unnamed member unnamed

end Introspection

namespace Sample

/-- A row of a table in a schema. -/
def row (schema table column typeName : String) (computed nullable : Bool) : ColumnRow where
  key := ⟨"shop", schema, table⟩
  column := column
  typeName := typeName
  computed := computed
  nullable := nullable

/-- Rows of three tables by turns, two of one name in different schemas.  The type of one row
is not modelled, with rows of its table before it and behind it. -/
def rows : List ColumnRow :=
  [row "public" "item" "id" "INT8" false false,
    row "public" "bill" "paid" "bool" false true,
    row "public" "item" "price" "DECIMAL" false true,
    row "stock" "item" "name" "Varchar" false false,
    row "public" "bill" "total" "integer" true true,
    row "public" "item" "name" "TEXT" false true]

/-- The table whose row in the middle is of no modelled type is absent, as it is without its
rows, and the other tables are complete. -/
theorem rows_declared :
    ∃ keys : List TableKey,
      ⟨"shop", "stock", "item"⟩ ∈ keys ∧ ⟨"shop", "public", "item"⟩ ∉ keys
        ∧ (∃ lost ∈ rows, lost.key = ⟨"shop", "public", "item"⟩
          ∧ BaseType.ofName? lost.typeName = none
          ∧ Introspection.groupTables rows = Introspection.groupTables
              (rows.filter fun other => decide (other.key ≠ lost.key)))
        ∧ keys.length = (Introspection.groupTables rows).length
        ∧ Introspection.groupTables rows
          = [⟨"bill", [⟨"paid", ⟨.bool, true⟩, .writable⟩,
              ⟨"total", ⟨.int, true⟩, .notWritable⟩]⟩,
            ⟨"item", [⟨"name", ⟨.string, false⟩, .writable⟩]⟩] := by
  obtain ⟨keys, mentioned, -, tables, -, lost⟩ := Introspection.groupTables_declared rows
  refine ⟨keys, (mentioned _).2 ⟨by decide, ?_⟩, fun h => ?_, ?_, tables.length_eq, ?_⟩
  · unfold Introspection.Modelled
    decide +kernel
  · have modelled := ((mentioned _).1 h).2
    unfold Introspection.Modelled at modelled
    revert modelled
    decide +kernel
  · exact ⟨row "public" "item" "price" "DECIMAL" false true, by decide, rfl,
      by decide +kernel, lost _ (by decide) (by decide +kernel)⟩
  · decide +kernel

end Sample

end QueryFuzz
