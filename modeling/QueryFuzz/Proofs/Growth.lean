/-
  QueryFuzz.Proofs.Growth
  ───────────────────────
  **A NEW TABLE MAKES THE CATALOG GROW BY ONE.**

  A name clash would replace a table, and a table without columns would be dropped
  when the catalog is built again; either way the catalog would not grow.  Neither
  happens.  A name is drawn until it is free, and when all draws are taken, one of
  the first numbers is free, as there are more of them than tables.  At least one
  column is drawn, and all of them are concrete.

      LaidOut       — numbered columns, and at most one computed column behind them
      NewTable      — what may come of drawing a new table for a catalog
      Catalog.Grown — a catalog with some new tables behind its own

  Main results:
    * `Generate.firstFree_eq` — the first free number is at most the number of tables;
    * `Generate.createTable_new` — every draw of a table is new to its catalog;
    * `Catalog.Grown.create` — with a new table the catalog has grown once more.
-/
import Mathlib.Data.List.Forall2
import Mathlib.Data.List.Nodup
import QueryFuzz.Proofs.NewTables
import QueryFuzz.Proofs.Rebuilding

namespace QueryFuzz

namespace Generate

/-! ## §1. Names that are free. -/

theorem tableName_injective : Function.Injective tableName := by
  intro m n h
  obtain ⟨-, same⟩ := (@NameCounter.name_inj "table" "table" m n).1 h
  exact same

/-- A name is taken when some table has it. -/
theorem isTaken_iff {c : Catalog} {name : String} :
    isTaken c name = true ↔ ∃ t ∈ c.tables, t.name = name := by
  unfold isTaken Catalog.table?
  rw [List.find?_isSome]
  simp

/-- A name that is not taken belongs to no table. -/
theorem table?_eq_none_of_free {c : Catalog} {name : String} (free : isTaken c name = false) :
    c.table? name = none := by
  simpa [isTaken] using free

/-- No more numbers in a row are taken than there are tables. -/
theorem le_of_all_taken {c : Catalog} {n : Nat}
    (taken : ∀ i, i < n → isTaken c (tableName i) = true) : n ≤ c.tables.length := by
  have distinct : ((List.range n).map tableName).Nodup :=
    List.Nodup.map tableName_injective List.nodup_range
  have names : (List.range n).map tableName ⊆ c.tables.map Table.name := by
    intro name h
    obtain ⟨i, hi, rfl⟩ := List.mem_map.1 h
    obtain ⟨t, ht, same⟩ := isTaken_iff.1 (taken i (List.mem_range.1 hi))
    exact List.mem_map.2 ⟨t, ht, same⟩
  simpa using distinct.length_le_of_subset names

/-- Where the search for a free number stops: behind taken numbers only, and before its
last number only at a free one. -/
theorem firstFreeFrom_eq (c : Catalog) :
    ∀ count start, ∃ k, firstFreeFrom c start count = tableName k
      ∧ start ≤ k ∧ k ≤ start + count
      ∧ (∀ i, start ≤ i → i < k → isTaken c (tableName i) = true)
      ∧ (k < start + count → isTaken c (tableName k) = false) := by
  intro count
  induction count with
  | zero => exact fun start => ⟨start, rfl, by omega, by omega, by omega, by omega⟩
  | succ count ih =>
      intro start
      unfold firstFreeFrom
      by_cases taken : isTaken c (tableName start) = true
      · rw [if_pos taken]
        obtain ⟨k, stop, first, last, before, free⟩ := ih (start + 1)
        refine ⟨k, stop, by omega, by omega, fun i hi lt => ?_, fun lt => free (by omega)⟩
        obtain rfl | later := Nat.eq_or_lt_of_le hi
        · exact taken
        · exact before i later lt
      · rw [if_neg taken]
        exact ⟨start, rfl, by omega, by omega, by omega, fun _ => by simpa using taken⟩

/-- **The first free number is at most the number of tables.** -/
theorem firstFree_eq (c : Catalog) :
    ∃ k, firstFree c = tableName k ∧ k ≤ c.tables.length
      ∧ isTaken c (tableName k) = false
      ∧ ∀ i, i < k → isTaken c (tableName i) = true := by
  obtain ⟨k, stop, -, last, before, free⟩ := firstFreeFrom_eq c c.tables.length 0
  have before : ∀ i, i < k → isTaken c (tableName i) = true :=
    fun i => before i (Nat.zero_le i)
  refine ⟨k, stop, by omega, ?_, before⟩
  -- at the last number all others are taken, and all of them would be one too many
  by_contra taken
  have taken : isTaken c (tableName k) = true := by simpa using taken
  have atEnd : ¬ k < 0 + c.tables.length := fun lt => by
    rw [free lt] at taken
    cases taken
  have many : k + 1 ≤ c.tables.length := by
    refine le_of_all_taken fun i hi => ?_
    obtain earlier | rfl := Nat.lt_succ_iff_lt_or_eq.1 hi
    · exact before i earlier
    · exact taken
  omega

/-- **A name that is drawn is free.** -/
theorem freeName_free (c : Catalog) :
    ∀ draws, (freeName c draws).Draws
      (fun name => (∃ n, name = tableName n) ∧ isTaken c name = false) Never
  | 0 => by
      obtain ⟨k, stop, -, free, -⟩ := firstFree_eq c
      refine Gen.pure_draws ?_
      rw [stop]
      exact ⟨⟨k, rfl⟩, free⟩
  | draws + 1 => by
      have number : (Gen.below nameNumbers).Draws (fun n => n < nameNumbers) Never :=
        (Gen.below_draws nameNumbers).mono (fun _ h => h) fun _ h => absurd h.2 (by decide)
      refine number.bind fun n _ => ?_
      split
      · exact freeName_free c draws
      · rename_i free
        exact Gen.pure_draws ⟨⟨n, rfl⟩, by simpa using free⟩

/-! ## §2. Columns. -/

/-- A plain column with a number. -/
structure PlainColumn (number : Nat) (d : ColumnDef) : Prop where
  name : d.name = columnName number
  type : d.type.base ≠ .any
  plain : d.computed = none

/-- A computed column behind others: an integer column of theirs plus a roll. -/
structure ComputedColumn (columns : List ColumnDef) (d : ColumnDef) : Prop where
  name : d.name = columnName (columns.length + 1)
  type : d.type = .int
  computed : ∃ source ∈ intColumns columns, ∃ roll, 1 ≤ roll ∧ roll ≤ 6
    ∧ d.computed = some (source ++ " + " ++ toString roll)

/-- The values drawn for the elements of a list, each as its own draw allows. -/
theorem traverse_draws_forall₂ {α β : Type} {f : α → Gen β} {R : α → β → Prop}
    {F : Fault → Prop} (hf : ∀ a, (f a).Draws (R a) F) :
    ∀ as : List α, (Gen.traverse f as).Draws (fun bs => List.Forall₂ R as bs) F
  | [] => Gen.pure_draws .nil
  | a :: as =>
      (hf a).bind fun _ hb => (traverse_draws_forall₂ hf as).bind fun _ hbs =>
        Gen.pure_draws (.cons hb hbs)

theorem plainColumn_plain (number : Nat) :
    (plainColumn number).Draws (PlainColumn number) Never :=
  sqlType_draws.bind fun _ ht => Gen.coin_draws.bind fun _ _ =>
    Gen.pure_draws ⟨rfl, ht.2, rfl⟩

theorem computedColumn_computed (columns : List ColumnDef) :
    (computedColumn columns).Draws (ComputedColumn columns) Never := by
  refine (Gen.pick_draws (intColumns columns)).bind fun source hsource => ?_
  refine (Gen.die_draws_of_ne_zero (by decide)).bind fun roll hroll => ?_
  exact Gen.pure_draws ⟨rfl, rfl, source, hsource, roll, hroll.1, hroll.2, rfl⟩

/-! ## §3. New tables. -/

/-- What may come of drawing a table for a catalog: a numbered name that no table has, one
to eight plain columns numbered from one, and at most one computed column behind them. -/
structure NewTable (c : Catalog) (create : CreateTable) : Prop where
  name : ∃ n, create.name = tableName n
  free : c.table? create.name = none
  columns : ∃ count plain computed, 1 ≤ count ∧ count ≤ maxColumns
    ∧ List.Forall₂ PlainColumn (List.range' 1 count) plain
    ∧ (computed = [] ∨ ∃ d, computed = [d] ∧ ComputedColumn plain d)
    ∧ create.columns = plain ++ computed

/-- What is drawn of a new table behind its name. -/
def tableNamed (name : String) : Gen CreateTable := do
  let count ← Gen.die maxColumns
  let columns ← Gen.traverse plainColumn (List.range' 1 count)
  if ← Gen.oneIn 10 then
    let computed ← ((fun d => [d]) <$> computedColumn columns).orElse (pure [])
    pure ⟨name, columns ++ computed⟩
  else pure ⟨name, columns⟩

theorem createTable_eq (c : Catalog) : createTable c = freeName c nameDraws >>= tableNamed := rfl

/-- One to eight plain columns numbered from one, and at most one computed column behind
them. -/
def LaidOut (columns : List ColumnDef) : Prop :=
  ∃ count plain computed, 1 ≤ count ∧ count ≤ maxColumns
    ∧ List.Forall₂ PlainColumn (List.range' 1 count) plain
    ∧ (computed = [] ∨ ∃ d, computed = [d] ∧ ComputedColumn plain d)
    ∧ columns = plain ++ computed

/-- Whatever is drawn behind the name, the name stays and the columns are laid out. -/
theorem tableNamed_draws (name : String) :
    (tableNamed name).Draws (fun create => create.name = name ∧ LaidOut create.columns)
      Never := by
  unfold tableNamed
  refine (Gen.die_draws_of_ne_zero (by decide)).bind fun count hcount => ?_
  refine (traverse_draws_forall₂ plainColumn_plain _).bind fun plain hplain => ?_
  refine (Gen.chance_draws_of_isProbability (by decide +kernel)).bind fun computes _ => ?_
  split
  · -- where there is no integer to compute from, there is no computed column
    have last : (((fun d => [d]) <$> computedColumn plain).orElse (pure [])).Draws
        (fun computed => computed = [] ∨ ∃ d, computed = [d] ∧ ComputedColumn plain d) Never :=
      ((computedColumn_computed plain).map fun d hd => .inr ⟨d, rfl, hd⟩).orElse
        (Gen.pure_draws (.inl rfl))
    refine last.bind fun computed hcomputed => Gen.pure_draws ⟨rfl, ?_⟩
    exact ⟨count, plain, computed, hcount.1, hcount.2, hplain, hcomputed, rfl⟩
  · refine Gen.pure_draws ⟨rfl, ?_⟩
    exact ⟨count, plain, [], hcount.1, hcount.2, hplain, .inl rfl, (List.append_nil _).symm⟩

/-- **Every draw of a table is new to its catalog.** -/
theorem createTable_new (c : Catalog) : (createTable c).Draws (NewTable c) Never := by
  rw [createTable_eq]
  refine (freeName_free c nameDraws).bind fun name hname => ?_
  obtain ⟨⟨n, rfl⟩, free⟩ := hname
  refine (tableNamed_draws _).mono ?_ fun _ h => h
  rintro create ⟨named, columns⟩
  refine ⟨⟨n, named⟩, ?_, columns⟩
  rw [named]
  exact table?_eq_none_of_free free

/-- Plain columns are of concrete types. -/
theorem base_ne_any_of_plain {numbers : List Nat} {columns : List ColumnDef}
    (h : List.Forall₂ PlainColumn numbers columns) : ∀ d ∈ columns, d.type.base ≠ .any := by
  induction h with
  | nil => exact fun _ h => by cases h
  | cons column rest ih => exact List.forall_mem_cons.2 ⟨column.type, ih⟩

/-- No column of a new table is of the wildcard type, and there are some. -/
theorem NewTable.usable {c : Catalog} {create : CreateTable} (h : NewTable c create) :
    create.toTable.isUsable = true := by
  obtain ⟨count, plain, computed, few, -, hplain, hcomputed, same⟩ := h.columns
  -- usable: no column is a wildcard, and there is a column
  have types : ∀ d ∈ create.columns, d.type.isWildcard = false := by
    intro d hd
    rw [← SqlType.base_ne_any_iff]
    rw [same, List.mem_append] at hd
    obtain hd | hd := hd
    · exact base_ne_any_of_plain hplain d hd
    · obtain rfl | ⟨last, rfl, column⟩ := hcomputed
      · cases hd
      · rw [List.mem_singleton.1 hd, column.type]
        decide
  have some : create.columns ≠ [] := by
    have length := hplain.length_eq
    rw [List.length_range'] at length
    rw [same]
    intro none
    have := congrArg List.length none
    rw [List.length_append, List.length_nil] at this
    omega
  unfold Table.isUsable CreateTable.toTable
  rw [Bool.and_eq_true]
  refine ⟨by simpa using some, List.all_eq_true.2 fun column hcolumn => ?_⟩
  obtain ⟨d, hd, rfl⟩ := List.mem_map.1 hcolumn
  show (!d.type.isWildcard) = true
  rw [types d hd]
  rfl

end Generate

/-- **A session draws tables that are new to its catalog**, which stays in place. -/
theorem Session.generateTable_new (s : Session) :
    ∃ create s', s.generateTable = (.found create, s') ∧ Generate.NewTable s.catalog create
      ∧ s'.catalog = s.catalog ∧ s'.options = s.options := by
  obtain ⟨create, state, found, new⟩ :=
    (Generate.createTable_certain s.catalog).of_draws (Generate.createTable_new s.catalog)
      s.words s.state
  refine ⟨create, { s with state := state }, ?_, new, rfl, rfl⟩
  show s.draw (Generate.createTable s.catalog) = _
  rw [draw_eq, found]

/-! ## §4. Catalogs that have grown. -/

namespace Catalog

/-- The catalog `c'` is `c` with new tables behind its own, each of a name that was free. -/
structure Grown (c : Catalog) (created : List CreateTable) (c' : Catalog) : Prop where
  tables : c'.tables = c.tables ++ created.map CreateTable.toTable
  operators : c'.operators = c.operators
  functions : c'.functions = c.functions
  /-- No table has the name of one that was there at first, or of one created earlier. -/
  names : ∀ before create after, created = before ++ create :: after →
    ∀ t ∈ c.tables ++ before.map CreateTable.toTable, t.name ≠ create.name

theorem Grown.refl (c : Catalog) : c.Grown [] c where
  tables := (List.append_nil _).symm
  operators := rfl
  functions := rfl
  names := fun before create after h => by simp at h

/-- **With a new table the catalog has grown once more.** -/
theorem Grown.create {c c' : Catalog} {created : List CreateTable} {create : CreateTable}
    (h : c.Grown created c') (built : c'.Built) (new : Generate.NewTable c' create) :
    c.Grown (created ++ [create]) (c'.withTable create.toTable) := by
  rw [built.withTable_of_free new.free new.usable]
  refine ⟨?_, h.operators, h.functions, fun before other after same t ht => ?_⟩
  · show c'.tables ++ [create.toTable] = _
    rw [h.tables, List.map_append, List.append_assoc]
    rfl
  · -- either the last table is meant, or one from before it
    obtain rfl | ⟨after, last, rfl⟩ := after.eq_nil_or_concat
    · obtain ⟨rfl, last⟩ := List.append_inj' same rfl
      obtain rfl : create = other := by simpa using last
      rw [← h.tables] at ht
      exact table?_eq_none_iff.1 new.free t ht
    · have same : created ++ [create] = (before ++ other :: after) ++ [last] := by
        rw [same]
        simp
      obtain ⟨same, -⟩ := List.append_inj' same rfl
      exact h.names before other after same t ht

end Catalog

end QueryFuzz
