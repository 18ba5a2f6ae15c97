/-
  QueryFuzz.Proofs.Introspection
  ──────────────────────────────
  **NOTHING IS LOST BETWEEN ROWS AND THE CATALOG.**

  Rows pass two filters on their way into a catalog: the mapping, which leaves out
  what is of a type that is not modelled, and the building, which drops what is of
  no use.  The second one finds nothing to drop.  A table that is grouped has a
  column for its first row, and no mapped type is the wildcard; so a row is in the
  catalog just when its own numbers are those of modelled types.

      BaseType.oid?    — the number of a base type
      SqlType.Numbered — the type that a number stands for

  Main results:
    * `Introspection.groupTables_usable` — every table that is grouped is usable;
    * `Introspection.find_mapped` — what a look-up finds of the rows that are mapped;
    * `Introspection.buildCatalog_complete` — the catalog of rows is complete;
    * `Introspection.buildCatalog_reachable` — and can be come by without rows, too.
-/
import QueryFuzz.Proofs.Additions
import QueryFuzz.Proofs.Grouping

namespace QueryFuzz

/-! ## §1. Type numbers. -/

/-- The number that engines give to a base type; the wildcard has none. -/
def BaseType.oid? : BaseType → Option Int
  | any => none
  | int => some 20
  | bool => some 16
  | string => some 25

/-- A number stands for the nullable type of its base. -/
def SqlType.Numbered (t : SqlType) (oid : Int) : Prop :=
  t.base.oid? = some oid ∧ t.nullable = true

/-- The operator is the one that a row describes. -/
structure OperatorRow.Describes (row : OperatorRow) (o : Operator) : Prop where
  name : o.name = row.name
  left : o.left.Numbered row.left
  right : o.right.Numbered row.right
  out : o.out.Numbered row.result

/-- The function is the one that a row describes. -/
structure FunctionRow.Describes (row : FunctionRow) (f : SqlFunction) : Prop where
  name : f.name = row.name
  inputs : List.Forall₂ (fun oid t => t.Numbered oid) row.args f.inputs
  out : f.out.Numbered row.result

namespace Introspection

/-- The numbers of the types that are modelled. -/
def modelledOids : List Int := [16, 20, 25]

theorem ofOid?_eq_some_iff {oid : Int} {base : BaseType} :
    BaseType.ofOid? oid = some base ↔ base.oid? = some oid := by
  unfold BaseType.ofOid?
  by_cases int : oid = 20
  · subst int
    cases base <;> simp [BaseType.oid?]
  · by_cases bool : oid = 16
    · subst bool
      cases base <;> simp [BaseType.oid?]
    · by_cases string : oid = 25
      · subst string
        cases base <;> simp [BaseType.oid?]
      · rw [if_neg int, if_neg bool, if_neg string]
        cases base <;> simp [BaseType.oid?] <;> omega

/-- The numbers of base types have 32 bits. -/
theorem oid_lt {base : BaseType} {oid : Int} (h : base.oid? = some oid) :
    0 ≤ oid ∧ oid < 2 ^ 32 := by
  cases base with
  | any => cases h
  | int => obtain rfl := Option.some.inj h; omega
  | bool => obtain rfl := Option.some.inj h; omega
  | string => obtain rfl := Option.some.inj h; omega

/-- A number of 32 bits is that number. -/
theorem typeNumber?_eq_some_iff {oid : Int} {number : UInt32} :
    typeNumber? oid = some number ↔ (number.toNat : Int) = oid := by
  unfold typeNumber?
  by_cases bits : 0 ≤ oid ∧ oid < 2 ^ 32
  · have same : (UInt32.ofNat oid.toNat).toNat = oid.toNat := by
      rw [UInt32.toNat_ofNat', Nat.mod_eq_of_lt (by omega)]
    rw [if_pos bits, Option.some.injEq, ← UInt32.toNat_inj, same]
    omega
  · rw [if_neg bits]
    have small := number.toNat_lt
    constructor
    · intro h
      cases h
    · intro h
      omega

/-- **Numbers of other sizes stand for nothing**, nor do those of types that are not modelled. -/
theorem typeOfOid?_eq_some_iff {oid : Int} {t : SqlType} :
    typeOfOid? oid = some t ↔ t.Numbered oid := by
  unfold typeOfOid? SqlType.Numbered
  constructor
  · intro h
    obtain ⟨number, narrow, h⟩ := Option.bind_eq_some_iff.1 h
    obtain ⟨base, named, h⟩ := Option.bind_eq_some_iff.1 h
    obtain rfl := Option.some.inj h
    rw [typeNumber?_eq_some_iff.1 narrow] at named
    exact ⟨ofOid?_eq_some_iff.1 named, rfl⟩
  · rintro ⟨named, nullable⟩
    obtain ⟨low, high⟩ := oid_lt named
    have narrow : typeNumber? oid = some (UInt32.ofNat oid.toNat) := if_pos ⟨low, high⟩
    have same := typeNumber?_eq_some_iff.1 narrow
    rw [narrow]
    show (BaseType.ofOid? _).bind _ = _
    rw [same, ofOid?_eq_some_iff.2 named, ← nullable]
    rfl

/-- The numbers that stand for a type are those of modelled types. -/
theorem exists_numbered_iff {oid : Int} :
    (∃ t : SqlType, t.Numbered oid) ↔ oid ∈ modelledOids := by
  have listed : oid ∈ modelledOids ↔ oid = 16 ∨ oid = 20 ∨ oid = 25 := by
    simp [modelledOids]
  rw [listed]
  constructor
  · rintro ⟨⟨base, nullable⟩, named, -⟩
    cases base with
    | any => cases named
    | int => exact .inr (.inl (Option.some.inj named).symm)
    | bool => exact .inl (Option.some.inj named).symm
    | string => exact .inr (.inr (Option.some.inj named).symm)
  · rintro (rfl | rfl | rfl)
    · exact ⟨⟨.bool, true⟩, rfl, rfl⟩
    · exact ⟨⟨.int, true⟩, rfl, rfl⟩
    · exact ⟨⟨.string, true⟩, rfl, rfl⟩

/-- So are those of an argument list, each by itself. -/
theorem exists_numbered_list_iff {oids : List Int} :
    (∃ ts : List SqlType, List.Forall₂ (fun oid t => t.Numbered oid) oids ts)
      ↔ ∀ oid ∈ oids, oid ∈ modelledOids := by
  induction oids with
  | nil =>
      constructor
      · intro _ oid h
        cases h
      · intro _
        exact ⟨[], .nil⟩
  | cons oid oids ih =>
      rw [List.forall_mem_cons, ← ih, ← exists_numbered_iff]
      constructor
      · rintro ⟨ts, h⟩
        cases h with
        | cons first rest => exact ⟨⟨_, first⟩, ⟨_, rest⟩⟩
      · rintro ⟨⟨t, first⟩, ⟨ts, rest⟩⟩
        exact ⟨t :: ts, .cons first rest⟩

/-- A number stands for no wildcard. -/
theorem isWildcard_of_numbered {oid : Int} {t : SqlType} (h : t.Numbered oid) :
    t.isWildcard = false := by
  rw [← SqlType.base_ne_any_iff]
  intro any
  have named := h.1
  rw [any] at named
  cases named

/-- The type of a base that a number stands for, if it stands for that base. -/
theorem exists_numbered_of_base {oid : Int} {base : BaseType} :
    (∃ t : SqlType, t.Numbered oid ∧ t.base = base) ↔ base.oid? = some oid := by
  constructor
  · rintro ⟨t, numbered, rfl⟩
    exact numbered.1
  · intro named
    exact ⟨⟨base, true⟩, ⟨named, rfl⟩, rfl⟩

/-! ## §2. Rows that are mapped. -/

theorem operator?_eq_some_iff {row : OperatorRow} {o : Operator} :
    operator? row = some o ↔ row.Describes o := by
  unfold operator?
  constructor
  · intro h
    obtain ⟨left, hleft, h⟩ := Option.bind_eq_some_iff.1 h
    obtain ⟨right, hright, h⟩ := Option.bind_eq_some_iff.1 h
    obtain ⟨out, hout, h⟩ := Option.bind_eq_some_iff.1 h
    obtain rfl := Option.some.inj h
    exact ⟨rfl, typeOfOid?_eq_some_iff.1 hleft, typeOfOid?_eq_some_iff.1 hright,
      typeOfOid?_eq_some_iff.1 hout⟩
  · intro h
    rw [typeOfOid?_eq_some_iff.2 h.left, typeOfOid?_eq_some_iff.2 h.right,
      typeOfOid?_eq_some_iff.2 h.out, ← h.name]
    rfl

theorem function?_eq_some_iff {row : FunctionRow} {f : SqlFunction} :
    function? row = some f ↔ row.Describes f := by
  have arguments {ts : List SqlType} : row.args.mapM typeOfOid? = some ts
      ↔ List.Forall₂ (fun oid t => t.Numbered oid) row.args ts := by
    rw [mapM_eq_some_iff]
    simp only [typeOfOid?_eq_some_iff]
  unfold function?
  constructor
  · intro h
    obtain ⟨inputs, hinputs, h⟩ := Option.bind_eq_some_iff.1 h
    obtain ⟨out, hout, h⟩ := Option.bind_eq_some_iff.1 h
    obtain rfl := Option.some.inj h
    exact ⟨rfl, arguments.1 hinputs, typeOfOid?_eq_some_iff.1 hout⟩
  · intro h
    rw [arguments.2 h.inputs, typeOfOid?_eq_some_iff.2 h.out, ← h.name]
    rfl

/-- An operator of a base comes of a row just when its operands are of modelled types and its
result is the number of the base. -/
theorem exists_operator_iff {row : OperatorRow} {base : BaseType} :
    (∃ o, row.Describes o ∧ o.out.base = base)
      ↔ row.left ∈ modelledOids ∧ row.right ∈ modelledOids ∧ base.oid? = some row.result := by
  rw [← exists_numbered_iff, ← exists_numbered_iff, ← exists_numbered_of_base]
  constructor
  · rintro ⟨o, h, same⟩
    exact ⟨⟨_, h.left⟩, ⟨_, h.right⟩, ⟨_, h.out, same⟩⟩
  · rintro ⟨⟨left, hleft⟩, ⟨right, hright⟩, ⟨out, hout, same⟩⟩
    exact ⟨⟨row.name, left, right, out⟩, ⟨rfl, hleft, hright, hout⟩, same⟩

/-- The same of functions, with arguments instead of operands. -/
theorem exists_function_iff {row : FunctionRow} {base : BaseType} :
    (∃ f, row.Describes f ∧ f.out.base = base)
      ↔ (∀ oid ∈ row.args, oid ∈ modelledOids) ∧ base.oid? = some row.result := by
  rw [← exists_numbered_list_iff, ← exists_numbered_of_base]
  constructor
  · rintro ⟨f, h, same⟩
    exact ⟨⟨_, h.inputs⟩, ⟨_, h.out, same⟩⟩
  · rintro ⟨⟨inputs, hinputs⟩, ⟨out, hout, same⟩⟩
    exact ⟨⟨row.name, inputs, out⟩, ⟨rfl, hinputs, hout⟩, same⟩

/-- A row with another number is not mapped. -/
theorem operator?_eq_none {row : OperatorRow}
    (h : ¬ (row.left ∈ modelledOids ∧ row.right ∈ modelledOids ∧ row.result ∈ modelledOids)) :
    operator? row = none := by
  cases mapped : operator? row with
  | none => rfl
  | some o =>
      have described := operator?_eq_some_iff.1 mapped
      exact absurd ⟨exists_numbered_iff.1 ⟨_, described.left⟩,
        exists_numbered_iff.1 ⟨_, described.right⟩,
        exists_numbered_iff.1 ⟨_, described.out⟩⟩ h

theorem function?_eq_none {row : FunctionRow}
    (h : ¬ ((∀ oid ∈ row.args, oid ∈ modelledOids) ∧ row.result ∈ modelledOids)) :
    function? row = none := by
  cases mapped : function? row with
  | none => rfl
  | some f =>
      have described := function?_eq_some_iff.1 mapped
      exact absurd ⟨exists_numbered_list_iff.1 ⟨_, described.inputs⟩,
        exists_numbered_iff.1 ⟨_, described.out⟩⟩ h

/-! ## §3. What building finds to drop. -/

theorem base_ne_any_of_ofName? {name : String} {base : BaseType}
    (h : BaseType.ofName? name = some base) : base ≠ .any := by
  unfold BaseType.ofName? at h
  dsimp only at h
  rintro rfl
  split at h
  · cases h
  · split at h
    · cases h
    · split at h
      · cases h
      · cases h

/-- **Every table that is grouped is usable**: it has a column for its first row, and all its
columns are of modelled types. -/
theorem groupTables_usable {rows : List ColumnRow} {t : Table} (h : t ∈ groupTables rows) :
    t.isUsable = true := by
  rw [groupTables_eq] at h
  obtain ⟨key, mentioned, made⟩ := List.mem_filterMap.1 h
  obtain ⟨columns, all, rfl⟩ := Option.map_eq_some_iff.1 made
  have described := gathered_eq_some_iff.1 all
  rw [Table.isUsable_iff]
  constructor
  · -- without columns there would be no rows, and the table would not be mentioned
    rintro rfl
    cases none : rowsOf key rows with
    | nil =>
        obtain ⟨row, member, same⟩ := mem_mentioned.1 mentioned
        have there : row ∈ rowsOf key rows := List.mem_filter.2 ⟨member, by simpa using same⟩
        rw [none] at there
        cases there
    | cons row others =>
        rw [none] at described
        cases described
  · refine forall_mem_of_forall₂ ?_ described
    intro row column describes
    exact base_ne_any_of_ofName? describes.base

theorem isConcrete_of_operatorRow {row : OperatorRow} {o : Operator}
    (h : row.Describes o) : o.isConcrete = true := by
  unfold Operator.isConcrete
  rw [isWildcard_of_numbered h.left, isWildcard_of_numbered h.right, isWildcard_of_numbered h.out]
  rfl

theorem isConcrete_of_functionRow {row : FunctionRow} {f : SqlFunction}
    (h : row.Describes f) : f.isConcrete = true := by
  unfold SqlFunction.isConcrete
  rw [isWildcard_of_numbered h.out, Bool.and_eq_true, List.all_eq_true]
  refine ⟨rfl, forall_mem_of_forall₂ ?_ h.inputs⟩
  intro oid t numbered
  rw [isWildcard_of_numbered numbered]
  rfl

/-- **What a look-up finds of the rows that are mapped**: those of its base, when building
keeps whatever comes of a row. -/
theorem find_mapped {ρ α : Type} {key : α → BaseType} {keep : α → Bool} {map : ρ → Option α}
    {Describes : ρ → α → Prop} {wanted : ρ → Bool} {base : BaseType}
    (spec : ∀ {row x}, map row = some x ↔ Describes row x)
    (kept : ∀ {row x}, Describes row x → keep x = true)
    (want : ∀ row, wanted row = true ↔ ∃ x, Describes row x ∧ key x = base) (rows : List ρ) :
    List.Forall₂ Describes (rows.filter wanted)
      ((ResultIndex.ofList key ((rows.filterMap map).filter keep)).find base) := by
  have all : (rows.filterMap map).filter keep = rows.filterMap map := by
    rw [List.filter_eq_self]
    intro x member
    obtain ⟨row, -, made⟩ := List.mem_filterMap.1 member
    exact kept (spec.1 made)
  -- the look-up and the mapping make one partial map of rows
  let found (row : ρ) : Option α := (map row).filter fun x => decide (key x = base)
  have found_iff {row : ρ} {x : α} : found row = some x ↔ Describes row x ∧ key x = base := by
    show (map row).filter _ = some x ↔ _
    rw [Option.filter_eq_some_iff, spec, decide_eq_true_iff]
  have some : rows.filter wanted = rows.filter fun row => (found row).isSome := by
    refine List.filter_congr fun row _ => ?_
    rw [Bool.eq_iff_iff, want, Option.isSome_iff_exists]
    simp only [found_iff]
  rw [all, ResultIndex.find_ofList, List.filter_filterMap, some]
  refine (forall₂_filterMap found rows).imp ?_
  intro row x h
  exact (found_iff.1 h).1

/-! ## §4. The catalog of rows. -/

section Catalog

variable (columns : List ColumnRow) (operators : List OperatorRow) (functions : List FunctionRow)

theorem buildCatalog_tables :
    (buildCatalog columns operators functions).tables = groupTables columns := by
  show (groupTables columns).filter Table.isUsable = _
  rw [List.filter_eq_self]
  intro t member
  exact groupTables_usable member

/-- A look-up finds the operators of the rows whose operands are of modelled types and whose
result is of its base. -/
theorem operatorsFor_buildCatalog (out : SqlType) :
    List.Forall₂ OperatorRow.Describes
      (operators.filter fun row => decide (row.left ∈ modelledOids ∧ row.right ∈ modelledOids
        ∧ out.base.oid? = some row.result))
      ((buildCatalog columns operators functions).operatorsFor out) := by
  refine find_mapped operator?_eq_some_iff isConcrete_of_operatorRow ?_ operators
  intro row
  rw [decide_eq_true_iff]
  exact exists_operator_iff.symm

theorem functionsFor_buildCatalog (out : SqlType) :
    List.Forall₂ FunctionRow.Describes
      (functions.filter fun row => decide ((∀ oid ∈ row.args, oid ∈ modelledOids)
        ∧ out.base.oid? = some row.result))
      ((buildCatalog columns operators functions).functionsFor out) := by
  refine find_mapped function?_eq_some_iff isConcrete_of_functionRow ?_ functions
  intro row
  rw [decide_eq_true_iff]
  exact exists_function_iff.symm

/-- **The catalog of rows can be come by without rows, too**, by adding what they describe. -/
theorem buildCatalog_reachable : (buildCatalog columns operators functions).Reachable := by
  let entries : List Draft.Entry :=
    (groupTables columns).map .table ++ (operators.filterMap operator?).map .operator
      ++ (functions.filterMap function?).map .function
  have listed : Draft.fromNothing entries = draft columns operators functions := by
    unfold Draft.fromNothing
    rw [Draft.addAll_eq]
    simp [entries, draft, List.filterMap_append, List.filterMap_map, Function.comp_def,
      Draft.Entry.table?, Draft.Entry.operator?, Draft.Entry.function?]
  have added := Catalog.Reachable.added entries
  rw [listed] at added
  exact added

end Catalog

/-- **NOTHING IS LOST BETWEEN ROWS AND THE CATALOG.**  Its tables are those that the rows of
columns are grouped into, in their order.  For every type a look-up finds the operators, and
the functions, of just the rows whose operands or arguments have the numbers of modelled types
and whose result has the number of its base, in the order of the rows, every type nullable; for
a wildcard there are none.  A row with any other number, whatever its sign and size, makes no
difference wherever it stands. -/
theorem buildCatalog_complete (columns : List ColumnRow) (operators : List OperatorRow)
    (functions : List FunctionRow) :
    (buildCatalog columns operators functions).tables = groupTables columns
      ∧ (∀ out : SqlType,
          List.Forall₂ OperatorRow.Describes
              (operators.filter fun row => decide (row.left ∈ modelledOids
                ∧ row.right ∈ modelledOids ∧ out.base.oid? = some row.result))
              ((buildCatalog columns operators functions).operatorsFor out)
            ∧ List.Forall₂ FunctionRow.Describes
              (functions.filter fun row => decide ((∀ oid ∈ row.args, oid ∈ modelledOids)
                ∧ out.base.oid? = some row.result))
              ((buildCatalog columns operators functions).functionsFor out))
      ∧ (∀ before row after, operators = before ++ row :: after →
          ¬ (row.left ∈ modelledOids ∧ row.right ∈ modelledOids ∧ row.result ∈ modelledOids) →
          buildCatalog columns operators functions
            = buildCatalog columns (before ++ after) functions)
      ∧ ∀ before row after, functions = before ++ row :: after →
          ¬ ((∀ oid ∈ row.args, oid ∈ modelledOids) ∧ row.result ∈ modelledOids) →
          buildCatalog columns operators functions
            = buildCatalog columns operators (before ++ after) := by
  refine ⟨buildCatalog_tables columns operators functions, fun out => ⟨?_, ?_⟩, ?_, ?_⟩
  · exact operatorsFor_buildCatalog columns operators functions out
  · exact functionsFor_buildCatalog columns operators functions out
  · -- a row that cannot be modelled is dropped before the draft is built
    rintro before row after rfl unknown
    unfold buildCatalog draft
    rw [List.filterMap_append, List.filterMap_append,
      List.filterMap_cons_none (operator?_eq_none unknown)]
  · rintro before row after rfl unknown
    unfold buildCatalog draft
    rw [List.filterMap_append, List.filterMap_append,
      List.filterMap_cons_none (function?_eq_none unknown)]

end Introspection

namespace Sample

/-- Sums of integers, and between them a row of a number that comes to that of integers when
only 32 bits of it are kept. -/
def operatorRows : List OperatorRow :=
  [⟨"+", 20, 20, 20⟩, ⟨"+", 20, 20 + 2 ^ 32, 20⟩, ⟨"=", 25, 25, 16⟩, ⟨"-", 20, 20, 20⟩]

/-- A function without arguments, and one with an argument of a negative number. -/
def functionRows : List FunctionRow := [⟨"now", [], 25⟩, ⟨"least", [20, 16 - 2 ^ 32], 25⟩]

/-- The rows of other numbers make no difference, and the other rows are all there. -/
theorem buildCatalog_complete_rows :
    (Introspection.buildCatalog rows operatorRows functionRows).tables.length = 2
      ∧ ((Introspection.buildCatalog rows operatorRows functionRows).operatorsFor .int).length = 2
      ∧ Introspection.buildCatalog rows operatorRows functionRows
        = Introspection.buildCatalog rows
            [⟨"+", 20, 20, 20⟩, ⟨"=", 25, 25, 16⟩, ⟨"-", 20, 20, 20⟩] functionRows
      ∧ Introspection.buildCatalog rows operatorRows functionRows
        = Introspection.buildCatalog rows operatorRows [⟨"now", [], 25⟩] := by
  obtain ⟨tables, found, operators, functions⟩ :=
    Introspection.buildCatalog_complete rows operatorRows functionRows
  refine ⟨?_, ?_, ?_, ?_⟩
  · rw [tables]
    decide +kernel
  · exact (found .int).1.length_eq.symm.trans (by decide)
  · exact operators [⟨"+", 20, 20, 20⟩] ⟨"+", 20, 20 + 2 ^ 32, 20⟩ _ rfl (by decide)
  · exact functions [⟨"now", [], 25⟩] ⟨"least", [20, 16 - 2 ^ 32], 25⟩ [] rfl (by decide)

end Sample

end QueryFuzz
