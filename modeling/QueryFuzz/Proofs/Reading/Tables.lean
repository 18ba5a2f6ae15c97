/-
  QueryFuzz.Proofs.Reading.Tables
  ───────────────────────────────
  **A CREATE TABLE SAYS WHAT ITS CATALOG ENTRY IS.**

  What is sent of a new table is a text, and what is kept of it is a catalog entry.
  Different functions make the two of one definition.  A reader that knows the text
  alone makes the same entry of it, so neither can change without the other.

      columnDef       — the reader of one column of the entry
      Table.ofText?   — the entry that a whole text spells
      ColumnDef.Told  — the marks in the text of a column, and what they tell

  Main results:
    * `Table.ofText?_render` — the entry is read back from the text;
    * `Generate.toTable_eq_of_render_eq` — so new tables of equal texts have equal
      entries, whatever catalogs and words they come of.
-/
import QueryFuzz.Proofs.CreatedTables
import QueryFuzz.Proofs.Reading.Pieces

namespace QueryFuzz

namespace Untyped

/-! ## §1. The reader. -/

/-- A mark that nothing belongs to. -/
def mark : Reader Unit := fun text => some ((), text)

/-- The rest of a computed column, behind the parenthesis that opens the expression. -/
def stored : Reader Unit := fun text =>
  (expect ") stored" (text.dropWhile (· != ')'))).map fun text => ((), text)

/-- The definition of a column. -/
def columnDef : Reader Column := fun text => do
  let (name, text) := chunk text
  let text ← expect " " text
  let (word, text) := chunk text
  let base ← castTarget? word
  let (strict, text) ← clause " not null" mark text
  let (computed, text) ← clause " as (" stored text
  some (⟨name, ⟨base, strict.isNone⟩, if computed.isSome then .notWritable else .writable⟩, text)

/-- A CREATE TABLE of at most `n` columns. -/
def newTable (n : Nat) : Reader Table := fun text => do
  let text ← expect "create table " text
  let (name, text) := chunk text
  let text ← expect " (" text
  let (columns, text) ← listOf columnDef n text
  let text ← expect ")" text
  some (⟨name, columns⟩, text)

end Untyped

/-- The catalog entry that a text spells, if it spells one. -/
def Table.ofText? (text : String) : Option Table :=
  match Untyped.newTable text.length text.toList with
  | some (table, []) => some table
  | _ => none

/-! ## §2. How columns are spelled. -/

/-- The spelling of a column of a new table: a numbered name, and a sum of a numbered name
and a number for the expression. -/
structure ColumnDef.Spelled (d : ColumnDef) : Prop where
  name : ∃ n, d.name = Generate.columnName n
  sum : ∀ e ∈ d.computed, ∃ n k : Nat, e = Generate.columnName n ++ " + " ++ toString k

theorem Generate.Regular.spelled {create : CreateTable} (h : Generate.Regular create) :
    ∀ d ∈ create.columns, d.Spelled := by
  intro d member
  obtain ⟨i, here⟩ := List.mem_iff_getElem?.1 member
  -- columns are numbered by their places, and only the last one may be computed
  have name := h.named i d here
  obtain ⟨plain, more, columns, -, -, plainColumns, -, computes⟩ := h.parts
  rw [columns] at member
  obtain member | member := List.mem_append.1 member
  · obtain ⟨plain, -⟩ := plainColumns d member
    refine ⟨⟨i + 1, name⟩, ?_⟩
    intro e computed
    rw [plain] at computed
    cases computed
  · obtain ⟨-, j, source, k, -, -, -, -, computed⟩ := computes d member
    refine ⟨⟨i + 1, name⟩, ?_⟩
    intro e he
    rw [computed] at he
    exact ⟨j + 1, k, (Option.some.inj he).symm⟩

namespace Untyped

/-- The characters of a word with a number behind it. -/
theorem mem_numbered {stem : String} {n : Nat} {c : Char}
    (h : c ∈ (stem ++ toString n).toList) : c ∈ stem.toList ∨ c.isDigit = true := by
  rw [String.toList_append] at h
  obtain h | h := List.mem_append.1 h
  · exact .inl h
  · rw [Nat.toString_eq_repr, Nat.toList_repr] at h
    exact .inr (Nat.isDigit_of_mem_toDigits (by decide) (by decide) h)

theorem plain_numbered {stem : String} (h : Plain stem) (n : Nat) :
    Plain (stem ++ toString n) := by
  refine ⟨?_, ?_⟩
  · intro empty
    apply h.1
    have characters := congrArg String.toList empty
    rw [String.toList_append] at characters
    exact String.toList_eq_nil_iff.1 (List.append_eq_nil_iff.1 characters).1
  · rw [String.toList_append, List.all_append, h.2, (plain_toString n).2]
    rfl

/-- Whatever a column is called, and whatever it computes from, some characters do not occur
in it. -/
theorem not_mem_numbered {stem : String} {c : Char} (apart : c ∉ stem.toList)
    (other : c.isDigit = false) (n : Nat) : c ∉ (stem ++ toString n).toList := by
  intro member
  obtain member | digit := mem_numbered member
  · exact apart member
  · rw [other] at digit
    cases digit

end Untyped

namespace ColumnDef.Spelled

variable {d : ColumnDef}

theorem plain (h : d.Spelled) : Untyped.Plain d.name := by
  obtain ⟨n, name⟩ := h.name
  rw [name]
  exact Untyped.plain_numbered ⟨by decide, by decide⟩ n

/-- Neither a name nor a sum has a character that is not in the words they are made of. -/
theorem not_mem_sum (h : d.Spelled) {e : String} (he : e ∈ d.computed) {c : Char}
    (apart : c ∉ "col_ + ".toList) (other : c.isDigit = false) : c ∉ e.toList := by
  obtain ⟨n, k, rfl⟩ := h.sum e he
  have stem : c ∉ "col_".toList := by
    intro member
    exact apart (List.mem_append_left " + ".toList member)
  have plus : c ∉ " + ".toList := by
    intro member
    exact apart (List.mem_append_right "col_".toList member)
  rw [String.append_assoc, String.toList_append, List.mem_append, not_or]
  exact ⟨Untyped.not_mem_numbered stem other n, Untyped.not_mem_numbered plus other k⟩

end ColumnDef.Spelled

namespace Untyped

/-! ## §3. What is read. -/

/-- What may follow a column: nothing, or a comma or a closing parenthesis. -/
def Separated (text : List Char) : Prop := ∀ c ∈ text.head?, c = ')' ∨ c = ','

theorem separated_comma (text : List Char) : Separated (',' :: text) := by
  intro c hc
  injection hc with hc
  exact .inr hc.symm

theorem separated_close (text : List Char) : Separated (')' :: text) := by
  intro c hc
  injection hc with hc
  exact .inl hc.symm

/-- No mark begins where a column ends. -/
theorem Separated.expectChars {text : List Char} (h : Separated text) (piece : List Char) :
    expectChars (' ' :: piece) text = none := by
  cases text with
  | nil => rfl
  | cons c text =>
      rw [Untyped.expectChars, if_neg]
      rintro rfl
      have := h ' ' rfl
      simp at this

/-- What is written of the expression of a computed column. -/
def sumText : Option String → String
  | none => ""
  | some e => " as (" ++ e ++ ") stored"

/-- What is written where a column refuses NULL. -/
def strictText (nullable : Bool) : String := if nullable then "" else " not null"

theorem render_eq (d : ColumnDef) :
    d.render = d.name ++ " " ++ d.type.base.sqlName ++ strictText d.type.nullable
      ++ sumText d.computed := by
  obtain ⟨name, type, computed⟩ := d
  cases computed <;> rfl

theorem mem_sumText {computed : Option String} {c : Char}
    (member : c ∈ (sumText computed).toList) :
    ∃ e ∈ computed, c ∈ " as () stored".toList ∨ c ∈ e.toList := by
  cases computed with
  | none => cases member
  | some e =>
      refine ⟨e, rfl, ?_⟩
      simp only [sumText, String.toList_append, List.mem_append] at member
      obtain (member | member) | member := member
      · exact .inl (List.mem_append_left ") stored".toList member)
      · exact .inr member
      · exact .inl (List.mem_append_right " as (".toList member)

theorem sum_reads {computed : Option String} (free : ∀ e ∈ computed, ')' ∉ e.toList)
    {text : List Char} (sep : Separated text) :
    clause " as (" stored ((sumText computed).toList ++ text)
      = some (computed.map fun _ => (), text) := by
  cases computed with
  | none => exact clause_of_expect (sep.expectChars "as (".toList)
  | some e =>
      -- the first closing parenthesis is the one behind the expression
      have inside : ∀ c ∈ e.toList, (c != ')') = true := by
        intro c hc
        refine bne_iff_ne.2 ?_
        rintro rfl
        exact free e rfl hc
      have rest : stored (e.toList ++ (") stored".toList ++ text)) = some ((), text) := by
        have close : (") stored".toList ++ text).dropWhile (· != ')') = ") stored".toList ++ text :=
          rfl
        rw [stored, List.dropWhile_append_of_pos inside, close, expect_append]
        rfl
      have read : clause " as (" stored
          (" as (".toList ++ (e.toList ++ (") stored".toList ++ text))) = some (some (), text) :=
        clause_append rest
      have shape : (sumText (some e)).toList ++ text
          = " as (".toList ++ (e.toList ++ (") stored".toList ++ text)) := by
        simp [sumText]
      rw [shape, read]
      rfl

/-- Behind the type of a column there is a blank, or what follows the column. -/
theorem marks_follow (nullable : Bool) (computed : Option String) {text : List Char}
    (sep : Separated text) :
    Follows ((strictText nullable).toList ++ ((sumText computed).toList ++ text)) := by
  intro c hc
  cases nullable with
  | false =>
      injection hc with hc
      exact .inl hc.symm
  | true =>
      cases computed with
      | none => exact .inr (sep c hc)
      | some e =>
          rw [sumText, String.append_assoc, String.toList_append] at hc
          injection hc with hc
          exact .inl hc.symm

theorem strict_reads (nullable : Bool) (computed : Option String) {text : List Char}
    (sep : Separated text) :
    clause " not null" mark
        ((strictText nullable).toList ++ ((sumText computed).toList ++ text))
      = some (if nullable then none else some (), (sumText computed).toList ++ text) := by
  cases nullable with
  | false => exact clause_append rfl
  | true =>
      -- the expression of a computed column begins with a blank as well
      apply clause_of_expect
      cases computed with
      | none => exact sep.expectChars "not null".toList
      | some e =>
          have shape : (sumText (some e)).toList ++ text
              = " as (".toList ++ ((e ++ ") stored").toList ++ text) := by
            simp [sumText]
          rw [shape]
          rfl

/-- **A column is read back**, with what its marks tell of it. -/
theorem columnDef_reads {d : ColumnDef} (h : d.Spelled) {text : List Char}
    (sep : Separated text) : columnDef (d.render.toList ++ text) = some (d.toColumn, text) := by
  have shape : d.render.toList ++ text
      = d.name.toList ++ (" ".toList ++ (d.type.base.sqlName.toList
          ++ ((strictText d.type.nullable).toList ++ ((sumText d.computed).toList ++ text)))) := by
    rw [render_eq]
    simp
  have blank : Apart (" ".toList ++ (d.type.base.sqlName.toList
      ++ ((strictText d.type.nullable).toList ++ ((sumText d.computed).toList ++ text)))) := by
    intro c hc
    injection hc with hc
    subst hc
    rfl
  have word : d.type.base.sqlName.toList.all isPlain = true := by
    cases d.type.base <;> decide
  have free : ∀ e ∈ d.computed, ')' ∉ e.toList := by
    intro e he
    exact h.not_mem_sum he (by decide) (by decide)
  -- the reader takes the text piece by piece: name, type, then the two marks
  rw [shape, columnDef, chunk_append h.plain.2 blank]
  dsimp only
  rw [expect_append]
  dsimp only [Option.bind_eq_bind, Option.bind_some]
  rw [chunk_append word (marks_follow d.type.nullable d.computed sep).apart]
  dsimp only
  rw [castTarget?_sqlName]
  dsimp only [Option.bind_some]
  rw [strict_reads d.type.nullable d.computed sep]
  dsimp only [Option.bind_some]
  rw [sum_reads free sep]
  obtain ⟨name, ⟨base, nullable⟩, computed⟩ := d
  cases nullable <;> cases computed <;> rfl

/-- A list of texts is the list of what they are the texts of. -/
theorem commaList_map {α : Type} (render : α → String) (xs : List α) :
    commaList id (xs.map render) = commaList render xs := by
  have tail : ∀ xs, commaTail id (xs.map render) = commaTail render xs := by
    intro xs
    unfold commaTail
    rw [List.flatMap_map]
    rfl
  cases xs with
  | nil => rfl
  | cons x xs =>
      rw [List.map_cons, commaList, commaList, tail]
      rfl

theorem create_text (create : CreateTable) :
    create.render.toList = "create table ".toList ++ (create.name.toList ++ (" (".toList
      ++ (commaList ColumnDef.render create.columns ++ ")".toList))) := by
  unfold CreateTable.render
  simp [renderNames_toList, commaList_map]

end Untyped

open Untyped

/-- **The entry is read back from the text** of a table with spelled columns. -/
theorem Table.ofText?_render {create : CreateTable} (name : Plain create.name)
    (some : create.columns ≠ []) (spelled : ∀ d ∈ create.columns, d.Spelled) :
    Table.ofText? create.render = .some create.toTable := by
  have blank : Untyped.Apart
      (" (".toList ++ (commaList ColumnDef.render create.columns ++ ")".toList)) := by
    intro c hc
    injection hc with hc
    subst hc
    rfl
  -- each column but the first has a comma before it, so the text is longer than the list
  have room : create.columns.length ≤ create.render.length := by
    have most := length_le_succ_commaList ColumnDef.render create.columns
    rw [← String.length_toList, create_text]
    simp only [List.length_append]
    show _ ≤ 13 + _
    omega
  have reads : ∀ d ∈ create.columns, ∀ text, Separated text →
      columnDef (d.render.toList ++ text) = .some (d.toColumn, text) := by
    intro d member text sep
    exact columnDef_reads (spelled d member) sep
  have columns : listOf columnDef create.render.length
        (commaList ColumnDef.render create.columns ++ ")".toList)
      = .some (create.columns.map ColumnDef.toColumn, ")".toList) :=
    listOf_append_of separated_comma (separated_close []) rfl some reads room
  have read : newTable create.render.length create.render.toList = .some (create.toTable, []) := by
    rw [create_text, newTable, expect_append]
    dsimp only [Option.bind_eq_bind, Option.bind_some]
    rw [chunk_append name.2 blank]
    dsimp only
    rw [expect_append]
    dsimp only [Option.bind_some]
    rw [columns]
    rfl
  rw [Table.ofText?, read]

/-! ## §4. What the marks tell. -/

/-- A column refuses NULL just when ` not null` stands in its text, and it cannot be written
just when its text ends with a stored expression. -/
structure ColumnDef.Told (d : ColumnDef) : Prop where
  strict : d.toColumn.type.nullable = false
    ↔ ∃ before after, d.render = before ++ " not null" ++ after
  computed : d.toColumn.writability = .notWritable
    ↔ ∃ before e, d.render = before ++ " as (" ++ e ++ ") stored"

namespace ColumnDef.Spelled

/-- The characters that names and types of columns are written with, apart from digits. -/
def letters : List Char := "col_ <any> int bool string".toList

variable {d : ColumnDef}

/-- Characters that stand in no name and no type stand in a mark. -/
theorem mem_marks (h : d.Spelled) {c : Char} (member : c ∈ d.render.toList)
    (apart : c ∉ letters) (other : c.isDigit = false) :
    c ∈ (strictText d.type.nullable).toList ∨ c ∈ (sumText d.computed).toList := by
  have name : c ∉ d.name.toList := by
    obtain ⟨n, name⟩ := h.name
    rw [name]
    refine not_mem_numbered ?_ other n
    intro stem
    exact apart (List.mem_append_left " <any> int bool string".toList stem)
  have types : ∀ base : BaseType, (" " ++ base.sqlName).toList.all letters.contains = true := by
    intro base
    cases base <;> decide
  have type : c ∉ (" " ++ d.type.base.sqlName).toList := by
    intro listed
    exact apart (List.contains_iff_mem.1 (List.all_eq_true.1 (types _) c listed))
  rw [render_eq] at member
  simp only [String.toList_append, List.mem_append, not_or] at member type
  obtain ((member | member) | member) | member := member
  · obtain member | member := member
    · exact absurd member name
    · exact absurd member type.1
  · exact absurd member type.2
  · exact .inl member
  · exact .inr member

/-- **The marks of a column tell what the entry says of it.** -/
theorem told (h : d.Spelled) : d.Told where
  strict := by
    constructor
    · intro strict
      have strict : d.type.nullable = false := strict
      refine ⟨d.name ++ " " ++ d.type.base.sqlName, sumText d.computed, ?_⟩
      rw [render_eq, strict]
      rfl
    · rintro ⟨before, after, text⟩
      show d.type.nullable = false
      -- no other part of the text has the letter
      have member : 'u' ∈ d.render.toList := by
        rw [text]
        simp
      by_contra nullable
      rw [Bool.not_eq_false] at nullable
      obtain member | member := h.mem_marks member (by decide) (by decide)
      · rw [nullable] at member
        cases member
      · obtain ⟨e, he, member | member⟩ := mem_sumText member
        · revert member
          decide
        · exact h.not_mem_sum he (by decide) (by decide) member
  computed := by
    constructor
    · intro unwritable
      cases computed : d.computed with
      | none =>
          unfold ColumnDef.toColumn at unwritable
          rw [computed] at unwritable
          cases unwritable
      | some e =>
          refine ⟨d.name ++ " " ++ d.type.base.sqlName ++ strictText d.type.nullable, e, ?_⟩
          rw [render_eq, computed]
          simp [sumText, String.append_assoc]
    · rintro ⟨before, e, text⟩
      have member : '(' ∈ d.render.toList := by
        rw [text]
        simp
      have strict : ∀ nullable, '(' ∉ (strictText nullable).toList := by decide
      obtain member | member := h.mem_marks member (by decide) (by decide)
      · exact absurd member (strict d.type.nullable)
      · obtain ⟨e, he, -⟩ := mem_sumText member
        unfold ColumnDef.toColumn
        rw [Option.mem_def.1 he]
        rfl

end ColumnDef.Spelled

namespace Generate

/-- New tables have spelled names and columns, and there are some. -/
theorem NewTable.ofText?_render {c : Catalog} {create : CreateTable} (h : NewTable c create) :
    Table.ofText? create.render = .some create.toTable := by
  obtain ⟨n, name⟩ := h.name
  have plain : Plain create.name := by
    rw [name]
    exact plain_numbered ⟨by decide, by decide⟩ n
  have some : create.columns ≠ [] := by
    obtain ⟨plain, more, same, few, -⟩ := h.regular.parts
    rw [same]
    intro none
    rw [(List.append_eq_nil_iff.1 none).1] at few
    cases few
  exact Table.ofText?_render plain some h.regular.spelled

/-- **The text of a new table determines its entry.**  Two tables that are found, for
whatever catalogs and with whatever words, have equal entries if they have equal texts: the
entry is read back from the text, and in it the columns that refuse NULL are just those with
` not null` in their text, the ones that cannot be written just those with a stored
expression. -/
theorem toTable_eq_of_render_eq {c₁ c₂ : Catalog} {words₁ words₂ : WordStream}
    {s₁ s₁' s₂ s₂' : GenState} {create₁ create₂ : CreateTable}
    (h₁ : createTable c₁ words₁ s₁ = (.found create₁, s₁'))
    (h₂ : createTable c₂ words₂ s₂ = (.found create₂, s₂')) :
    (create₁.render = create₂.render → create₁.toTable = create₂.toTable)
      ∧ Table.ofText? create₁.render = some create₁.toTable
      ∧ ∀ d ∈ create₁.columns, d.Told := by
  have new₁ : NewTable c₁ create₁ := (createTable_new c₁ words₁ s₁).2.1 create₁ (by rw [h₁])
  have new₂ : NewTable c₂ create₂ := (createTable_new c₂ words₂ s₂).2.1 create₂ (by rw [h₂])
  have read₁ := new₁.ofText?_render
  refine ⟨?_, read₁, ?_⟩
  · intro same
    rw [same, new₂.ofText?_render] at read₁
    exact (Option.some.inj read₁).symm
  · intro d member
    exact (new₁.regular.spelled d member).told

end Generate

namespace Sample

/-- The catalog with its tables in the opposite order. -/
def reversed : Catalog := { tabled with tables := tabled.tables.reverse }

/-- Words of which only the first hundred are zeros. -/
def zeros : WordStream := fun i => if i < 100 then 0 else 1

/-- A table with a column that computes from the other one. -/
def second : CreateTable :=
  ⟨"table_2", [⟨"col_1", ⟨.int, true⟩, none⟩, ⟨"col_2", ⟨.int, true⟩, some "col_1 + 1"⟩]⟩

/-- The table is found for one catalog and for another. -/
theorem tabled_text_determines :
    ∃ create₁ s₁ create₂ s₂,
      Generate.createTable tabled (fun _ => 0) {} = (.found create₁, s₁)
        ∧ Generate.createTable reversed zeros {} = (.found create₂, s₂)
        ∧ create₁.render = "create table table_2 (col_1 int, col_2 int as (col_1 + 1) stored)"
        ∧ create₁.render = create₂.render ∧ create₁.toTable = create₂.toTable := by
  obtain ⟨create₁, s₁, h₁⟩ := Outcome.exists_of_isFound
    (show (Generate.createTable tabled (fun _ => 0) {}).1.isFound = true by decide +kernel)
  obtain ⟨create₂, s₂, h₂⟩ := Outcome.exists_of_isFound
    (show (Generate.createTable reversed zeros {}).1.isFound = true by decide +kernel)
  have drawn₁ : (Generate.createTable tabled (fun _ => 0) {}).1
      = .found second := by decide +kernel
  have drawn₂ : (Generate.createTable reversed zeros {}).1
      = .found second := by decide +kernel
  rw [h₁] at drawn₁
  rw [h₂] at drawn₂
  have same₁ := Outcome.found.inj drawn₁
  have same₂ := Outcome.found.inj drawn₂
  have texts : create₁.render = create₂.render := by rw [same₁, same₂]
  have text : create₁.render
      = "create table table_2 (col_1 int, col_2 int as (col_1 + 1) stored)" := by
    rw [same₁]
    decide +kernel
  exact ⟨create₁, s₁, create₂, s₂, h₁, h₂, text, texts,
    (Generate.toTable_eq_of_render_eq h₁ h₂).1 texts⟩

end Sample

end QueryFuzz
