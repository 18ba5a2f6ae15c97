/-
  QueryFuzz.Proofs.CreatedTables
  ──────────────────────────────
  **WHAT A NEW TABLE IS CALLED, WHAT IT IS MADE OF, AND WHERE IT GOES.**

  Of the numbers that are drawn for a name the first one that no table has is
  taken.  When tables have all of them, numbers are tried from zero on; as there
  are more of them than tables, the search is over after as many numbers as there
  are tables, at the latest.  Columns are numbered from one on without a gap, the
  computed one too, as it comes behind the plain ones.

      Generate.Chosen       — the number that becomes part of a name
      Generate.ComputesFrom — an integer column with a sum of one of the plain ones
      Generate.Regular      — the layout that every new table has

  Main results:
    * `Generate.freeName_run` — which of the numbers drawn makes the name;
    * `Generate.NewTable.regular` — new tables are laid out regularly;
    * `Generate.createTable_grows` — a new table comes of any catalog and any words,
      and makes the catalog grow by that table, which rows can be inserted into.
-/
import QueryFuzz.Proofs.Growth
import QueryFuzz.Proofs.Introspection

namespace QueryFuzz

namespace Generate

/-! ## §1. The number of a name. -/

/-- Some table of the catalog has the name with the number. -/
def Taken (c : Catalog) (n : Nat) : Prop := ∃ t ∈ c.tables, t.name = tableName n

theorem isTaken_tableName {c : Catalog} {n : Nat} :
    isTaken c (tableName n) = true ↔ Taken c n := isTaken_iff

/-- The number that makes the name of a new table, by the numbers that are drawn for it. -/
inductive Chosen (c : Catalog) (numbers : List Nat) (n : Nat) : Prop
  /-- The first one of them that is free. -/
  | drawn (before after : List Nat) (split : numbers = before ++ n :: after)
      (taken : ∀ m ∈ before, Taken c m) (free : ¬ Taken c n)
  /-- None of them is free: the first free number of all, which comes no later than the
  number of tables. -/
  | scanned (taken : ∀ m ∈ numbers, Taken c m) (earlier : ∀ m, m < n → Taken c m)
      (free : ¬ Taken c n) (few : n ≤ c.tables.length)

section Chosen

variable {c : Catalog} {numbers : List Nat} {m n : Nat}

/-- Whichever it is, no table has the number. -/
theorem Chosen.free (h : Chosen c numbers n) : ¬ Taken c n := by
  cases h with
  | drawn _ _ _ _ free => exact free
  | scanned _ _ free _ => exact free

/-- A taken number in front of the others makes no difference. -/
theorem Chosen.passed (h : Chosen c numbers n) (taken : Taken c m) : Chosen c (m :: numbers) n := by
  cases h with
  | drawn before after split passed free =>
      subst split
      exact .drawn (m :: before) after rfl (List.forall_mem_cons.2 ⟨taken, passed⟩) free
  | scanned passed earlier free few =>
      exact .scanned (List.forall_mem_cons.2 ⟨taken, passed⟩) earlier free few

end Chosen

/-- Without any number the first free one is chosen. -/
theorem firstFree_chosen (c : Catalog) : ∃ n, firstFree c = tableName n ∧ Chosen c [] n := by
  obtain ⟨n, name, few, free, earlier⟩ := firstFree_eq c
  refine ⟨n, name, .scanned ?_ ?_ ?_ few⟩
  · intro m h
    cases h
  · intro m less
    exact isTaken_tableName.1 (earlier m less)
  · intro taken
    rw [isTaken_tableName.2 taken] at free
    cases free

/-- **Which of the numbers drawn makes the name.**  They are what the words hold for as many
draws as are allowed; nothing behind the chosen one is drawn. -/
theorem freeName_run (c : Catalog) : ∀ draws words s, ∃ numbers rest n s',
    Gen.times draws (Gen.below nameNumbers) words s = (.found numbers, rest)
      ∧ Chosen c numbers n
      ∧ freeName c draws words s = (.found (tableName n), s') := by
  intro draws
  induction draws with
  | zero =>
      intro words s
      obtain ⟨n, name, chosen⟩ := firstFree_chosen c
      refine ⟨[], s, n, s, rfl, chosen, ?_⟩
      show (Outcome.found (firstFree c), s) = _
      rw [name]
  | succ draws ih =>
      intro words s
      obtain ⟨m, after, drawn, -⟩ :=
        Gen.below_certain (by decide : nameNumbers ≠ 0) words s
      obtain ⟨numbers, rest, n, s', others, chosen, found⟩ := ih words after
      have all : Gen.times (draws + 1) (Gen.below nameNumbers) words s
          = (.found (m :: numbers), rest) := by
        unfold Gen.times
        rw [Gen.bind_found drawn, Gen.bind_found others]
        rfl
      -- the draw is kept if its name is free; else the other draws decide
      have step : freeName c (draws + 1) words s
          = (if isTaken c (tableName m) then freeName c draws else pure (tableName m))
              words after := by
        rw [freeName, Gen.bind_found drawn]
      by_cases taken : isTaken c (tableName m) = true
      · refine ⟨m :: numbers, rest, n, s', all, chosen.passed (isTaken_tableName.1 taken), ?_⟩
        rw [step, if_pos taken]
        exact found
      · have free : ¬ Taken c m := by
          intro h
          exact taken (isTaken_tableName.2 h)
        refine ⟨m :: numbers, rest, m, after, all, .drawn [] numbers rfl ?_ free, ?_⟩
        · intro k h
          cases h
        · rw [step, if_neg taken]
          rfl

/-- The name of a new table is what is drawn first; nothing that is drawn later touches it. -/
theorem createTable_name {c : Catalog} {words : WordStream} {s s' : GenState} {name : String}
    {create : CreateTable} (named : freeName c nameDraws words s = (.found name, s'))
    (found : (createTable c words s).1 = .found create) : create.name = name := by
  rw [createTable_eq, Gen.bind_found named] at found
  exact ((tableNamed_draws name words s').2.1 create found).1

/-! ## §2. The layout of a table. -/

/-- An integer column with a sum: one of the integer columns among the plain ones, by its
name, plus a number from one to six. -/
structure ComputesFrom (plain : List ColumnDef) (d : ColumnDef) : Prop where
  type : d.type = ⟨.int, true⟩
  sum : ∃ j source k, plain[j]? = some source ∧ source.type.base = .int ∧ 1 ≤ k ∧ k ≤ 6
    ∧ d.computed = some (columnName (j + 1) ++ " + " ++ toString k)

/-- The layout of every new table: columns numbered from one on without a gap, the first one
to eight of them plain and of concrete types, and at most one more, which is computed. -/
structure Regular (create : CreateTable) : Prop where
  named : ∀ i d, create.columns[i]? = some d → d.name = columnName (i + 1)
  parts : ∃ plain more, create.columns = plain ++ more
    ∧ 1 ≤ plain.length ∧ plain.length ≤ 8
    ∧ (∀ d ∈ plain, d.computed = none ∧ d.type.base ≠ .any)
    ∧ more.length ≤ 1 ∧ ∀ d ∈ more, ComputesFrom plain d

/-- The plain column at a place has the number behind that of its place. -/
theorem plain_at {count i : Nat} {plain : List ColumnDef} {d : ColumnDef}
    (h : List.Forall₂ PlainColumn (List.range' 1 count) plain) (here : plain[i]? = some d) :
    PlainColumn (i + 1) d := by
  obtain ⟨length, each⟩ := List.forall₂_iff_get.1 h
  obtain ⟨bound, rfl⟩ := List.getElem?_eq_some_iff.1 here
  have column := each i (by omega) bound
  simp only [List.get_eq_getElem, List.getElem_range'] at column
  rw [Nat.add_comm]
  simpa using column

/-- A computed column behind numbered ones computes from one of them. -/
theorem ComputedColumn.computesFrom {count : Nat} {plain : List ColumnDef} {d : ColumnDef}
    (h : ComputedColumn plain d)
    (numbered : List.Forall₂ PlainColumn (List.range' 1 count) plain) : ComputesFrom plain d := by
  obtain ⟨name, ints, k, low, high, computed⟩ := h.computed
  obtain ⟨source, member, rfl⟩ := List.mem_map.1 ints
  obtain ⟨member, int⟩ := List.mem_filter.1 member
  obtain ⟨j, here⟩ := List.mem_iff_getElem?.1 member
  rw [(plain_at numbered here).name] at computed
  exact ⟨h.type, j, source, k, here, of_decide_eq_true int, low, high, computed⟩

/-- **New tables are laid out regularly.** -/
theorem NewTable.regular {c : Catalog} {create : CreateTable} (h : NewTable c create) :
    Regular create := by
  obtain ⟨count, plain, more, few, many, numbered, computed, columns⟩ := h.columns
  have length : plain.length = count := by
    rw [← numbered.length_eq, List.length_range']
  constructor
  · intro i d here
    rw [columns] at here
    by_cases front : i < plain.length
    · rw [List.getElem?_append_left front] at here
      exact (plain_at numbered here).name
    · -- behind the plain columns there is one column at most, at the very next place
      rw [List.getElem?_append_right (Nat.le_of_not_lt front)] at here
      rcases computed with rfl | ⟨last, rfl, column⟩
      · cases here
      · obtain ⟨bound, rfl⟩ := List.getElem?_eq_some_iff.1 here
        have place : i = plain.length := by
          rw [List.length_singleton] at bound
          omega
        subst place
        simpa using column.name
  · refine ⟨plain, more, columns, by omega, length ▸ many, ?_, ?_, ?_⟩
    · intro d member
      obtain ⟨j, here⟩ := List.mem_iff_getElem?.1 member
      have column := plain_at numbered here
      exact ⟨column.plain, column.type⟩
    · rcases computed with rfl | ⟨last, rfl, -⟩
      · exact Nat.zero_le 1
      · exact Nat.le_refl 1
    · intro d member
      rcases computed with rfl | ⟨last, rfl, column⟩
      · cases member
      · rw [List.mem_singleton.1 member]
        exact column.computesFrom numbered

/-- Rows can be inserted into a regular table: its first column is a plain one. -/
theorem Regular.insertable {create : CreateTable} (h : Regular create) :
    ∃ column ∈ create.toTable.columns, column.isInsertTarget = true := by
  obtain ⟨plain, more, columns, few, -, plainColumns, -⟩ := h.parts
  cases plain with
  | nil => cases few
  | cons first others =>
      have plainFirst := (plainColumns first List.mem_cons_self).1
      refine ⟨first.toColumn, ?_, ?_⟩
      · show first.toColumn ∈ create.columns.map ColumnDef.toColumn
        rw [columns]
        exact List.mem_cons_self
      · unfold Column.isInsertTarget ColumnDef.toColumn
        rw [plainFirst]
        rfl

/-! ## §3. Growing catalogs. -/

/-- **A new table makes the catalog grow.**  For every catalog and all words a new table is
found.  Its name has the first free one of the numbers drawn for it, and if none of them is
free, the first free number of all, which is at most the number of tables; no table has the
name.  Its columns are laid out regularly.  Put in place, it comes behind the old tables, which
stay as they are, as does everything else, and rows can be inserted into it. -/
theorem createTable_grows (c : Catalog) (words : WordStream) (s : GenState) :
    ∃ create s', createTable c words s = (.found create, s')
      ∧ (∃ numbers rest n,
          Gen.times nameDraws (Gen.below nameNumbers) words s = (.found numbers, rest)
            ∧ Chosen c numbers n ∧ create.name = tableName n)
      ∧ (∀ t ∈ c.tables, t.name ≠ create.name)
      ∧ Regular create
      ∧ (c.Reachable →
          c.withTable create.toTable = { c with tables := c.tables ++ [create.toTable] })
      ∧ ∃ column ∈ create.toTable.columns, column.isInsertTarget = true := by
  obtain ⟨create, s', found, new⟩ :=
    (createTable_certain c).of_draws (createTable_new c) words s
  obtain ⟨numbers, rest, n, after, drawn, chosen, named⟩ := freeName_run c nameDraws words s
  have name : create.name = tableName n := by
    refine createTable_name named ?_
    rw [found]
  refine ⟨create, s', found, ⟨numbers, rest, n, drawn, chosen, name⟩, ?_, new.regular, ?_, ?_⟩
  · intro t member same
    exact chosen.free ⟨t, member, same.trans name⟩
  · intro reachable
    exact reachable.built.withTable_of_free new.free new.usable
  · exact new.regular.insertable

end Generate

namespace Sample

/-- The catalog of three tables of one column each; two of them have the first two names. -/
def tabled : Catalog :=
  Introspection.buildCatalog
    [row "public" "stock" "item" "STRING" false false,
      row "public" "table_0" "col_1" "INT8" false true,
      row "public" "table_1" "col_1" "BOOL" false true] [] []

/-- With words of zeros every draw of a name is a taken one, and the first number that is left
is two.  The plain column is an integer, and another one computes from it. -/
theorem tabled_grows :
    ∃ create s', Generate.createTable tabled (fun _ => 0) {} = (.found create, s')
      ∧ create = ⟨"table_2", [⟨"col_1", ⟨.int, true⟩, none⟩,
          ⟨"col_2", ⟨.int, true⟩, some "col_1 + 1"⟩]⟩
      ∧ tabled.withTable create.toTable
        = { tabled with tables := tabled.tables ++ [create.toTable] } := by
  obtain ⟨create, s', found, -, -, -, grows, -⟩ :=
    Generate.createTable_grows tabled (fun _ => 0) {}
  have drawn : (Generate.createTable tabled (fun _ => 0) {}).1
      = .found ⟨"table_2", [⟨"col_1", ⟨.int, true⟩, none⟩,
          ⟨"col_2", ⟨.int, true⟩, some "col_1 + 1"⟩]⟩ := by decide +kernel
  rw [found] at drawn
  exact ⟨create, s', found, Outcome.found.inj drawn,
    grows (Introspection.buildCatalog_reachable _ _ _)⟩

end Sample

end QueryFuzz
