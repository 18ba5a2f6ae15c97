/-
  QueryFuzz.Proofs.Reading.Expressions
  ────────────────────────────────────
  **EXPRESSIONS ARE READ BACK.**

  One lemma for each kind of expression, given that the readers one level below
  read what is shorter (`Readers.Reads`).  A parenthesis opens a query or an
  operator with its operands; the two are told apart because no expression
  begins with the word that begins a query (`render_opens`).

  Main result:
    * `scalar_reads` — expressions are read back, given that what is shorter is.
-/
import QueryFuzz.Proofs.Reading.Pieces

namespace QueryFuzz.Untyped

/-! ## §1. What the readers of a level promise. -/

/-- What is composed of the catalog and rendered in fewer than `n` characters is read
back. -/
structure Readers.Reads (c : Catalog) (n : Nat) (R : Readers) : Prop where
  scalar : ∀ e : QueryFuzz.Scalar, e.ComposedOf c → e.render.toList.length < n →
    ∀ text, Follows text → R.scalar (e.render.toList ++ text) = some (e.untyped, text)
  source : ∀ r : QueryFuzz.Relation, r.isItem = true → r.ComposedOf c → r.render.toList.length < n →
    ∀ text, Follows text → expect " join " text = none →
      R.source (r.render.toList ++ text) = some (r.untyped, text)
  query : ∀ q : QueryFuzz.Select, q.ComposedOf c → q.render.toList.length < n →
    ∀ text, Closed text → R.query (q.render.toList ++ text) = some (q.untyped, text)
  statement : ∀ r : QueryFuzz.Relation, r.isItem = false → r.ComposedOf c →
    r.render.toList.length < n →
    ∀ text, Closed text → R.statement (r.render.toList ++ text) = some (r.untyped, text)

theorem follows_append (piece : String)
    (h : (piece.toList.head?.any fun c => c == ' ' || c == ')' || c == ',') = true)
    (text : List Char) : Follows (piece.toList ++ text) := by
  intro d hd
  cases hp : piece.toList with
  | nil =>
      rw [hp] at h
      cases h
  | cons c cs =>
      rw [hp] at h hd
      injection hd with hd
      simpa [← hd, or_assoc] using h

theorem plain_of_isAlias {qualifier : String} (h : IsAlias qualifier) : Plain qualifier := by
  obtain ⟨number, rfl⟩ := h
  have letters : (NameCounter.name Generate.aliasStem number).toList
      = "tab_".toList ++ (toString number).toList := by
    simp [NameCounter.name, Generate.aliasStem]
  refine ⟨fun h => ?_, ?_⟩
  · rw [h] at letters
    cases letters
  · rw [letters, List.all_append, (plain_toString number).2]
    decide

/-- The word for a column is a chunk. -/
theorem plain_column {qualifier name : String} (hq : IsAlias qualifier) (hn : IsName name) :
    Plain (qualifier ++ "." ++ name) := by
  refine ⟨fun h => ?_, ?_⟩
  · have := congrArg String.toList h
    simp at this
  · rw [String.toList_append, String.toList_append, List.all_append, List.all_append,
      (plain_of_isAlias hq).2, (plain_of_isName hn).2]
    decide

/-! ## §2. The texts of expressions. -/

section Texts

variable (text : List Char)

theorem case_text (condition yes no : QueryFuzz.Scalar) :
    (QueryFuzz.Scalar.case condition yes no).render.toList ++ text
      = "case".toList ++ (" when ".toList ++ (condition.render.toList ++ (" then ".toList
          ++ (yes.render.toList ++ (" else ".toList ++ (no.render.toList
            ++ (" end".toList ++ text))))))) := by
  simp [Scalar.render_case]

theorem coalesce_text (first second : QueryFuzz.Scalar) :
    (QueryFuzz.Scalar.coalesce first second).render.toList ++ text
      = "cast".toList ++ '(' :: ("coalesce(".toList ++ (first.render.toList ++ (", ".toList
          ++ (second.render.toList ++ (") as ".toList ++ (first.type.base.sqlName.toList
            ++ (")".toList ++ text))))))) := by
  simp [Scalar.render_coalesce]

theorem string_text (type : SqlType) (s : String) :
    (QueryFuzz.Scalar.const type (.string s)).render.toList ++ text
      = '\'' :: ((s.toList.flatMap fun c => if c = '\'' then ['\'', '\''] else [c])
          ++ '\'' :: text) := by
  simp [Scalar.render_const, Literal.render, Literal.quote]

theorem binary_text (op : Operator) (left right : QueryFuzz.Scalar) :
    (QueryFuzz.Scalar.binary op left right).render.toList ++ text
      = '(' :: (left.render.toList ++ (" ".toList ++ (op.name.toList ++ (" ".toList
          ++ (right.render.toList ++ (")".toList ++ text)))))) := by
  simp [Scalar.render_binary]

theorem call_text (f : SqlFunction) (args : List QueryFuzz.Scalar) :
    (QueryFuzz.Scalar.call f args).render.toList ++ text
      = f.name.toList ++ '(' :: (commaList Scalar.render args ++ ')' :: text) := by
  simp [Scalar.render_call, renderList_toList]

theorem exists_text (q : QueryFuzz.Select) :
    (QueryFuzz.Scalar.exists q).render.toList ++ text
      = "exists".toList ++ '(' :: (q.render.toList ++ (")".toList ++ text)) := by
  simp [Scalar.render_exists]

theorem subquery_text (q : QueryFuzz.Select) (type : SqlType) :
    (QueryFuzz.Scalar.subquery q type).render.toList ++ text
      = '(' :: (q.render.toList ++ (")".toList ++ text)) := by
  simp [Scalar.render_subquery]

end Texts

/-! ## §3. How expressions begin. -/

/-- A text that is told from a query, from DISTINCT and from a closing parenthesis by how
it begins. -/
structure Opens (text : List Char) : Prop where
  noQuery : (chunk text).1 ≠ "select"
  noDistinct : (chunk text).1 ≠ "distinct"
  noClose : ∀ rest, text ≠ ')' :: rest

theorem opens_of_mark {c : Char} (mark : isPlain c = false) (open' : c ≠ ')')
    (text : List Char) : Opens (c :: text) := by
  have empty : (chunk (c :: text)).1 = "" := by
    simp [chunk, mark]
  refine ⟨?_, ?_, fun rest h => ?_⟩
  · rw [empty]
    decide
  · rw [empty]
    decide
  · injection h with h
    exact open' h

theorem opens_of_word (word : String) (plain : Plain word)
    (free : word ≠ "select" ∧ word ≠ "distinct") {text : List Char} (apart : Apart text) :
    Opens (word.toList ++ text) := by
  have first := chunk_append plain.2 apart
  refine ⟨?_, ?_, fun rest h => ?_⟩
  · rw [first]
    exact free.1
  · rw [first]
    exact free.2
  · exact plain_ne_cons plain rfl _ rest h

theorem apart_cons {d : Char} (hd : isPlain d = false) (text : List Char) : Apart (d :: text) := by
  intro c hc
  injection hc with hc
  exact hc ▸ hd

theorem plain_null (base : BaseType) : Plain ("null::" ++ base.sqlName) := by
  cases base <;> exact ⟨by decide, by decide⟩

/-- A word that begins with another letter than SELECT and DISTINCT is neither. -/
theorem ne_of_head {word : String} (h : ∀ c ∈ word.toList.head?, c ≠ 's' ∧ c ≠ 'd') :
    word ≠ "select" ∧ word ≠ "distinct" := by
  refine ⟨?_, ?_⟩
  · rintro rfl
    exact (h 's' rfl).1 rfl
  · rintro rfl
    exact (h 'd' rfl).2 rfl

theorem int_render {type : SqlType} {n : Int} (h : 0 ≤ n) :
    Literal.render type (.int n) = toString n.toNat := by
  obtain ⟨m, rfl⟩ := Int.eq_ofNat_of_zero_le h
  rfl

theorem render_opens {c : Catalog} (hc : c.Spelled) {e : QueryFuzz.Scalar}
    (h : e.ComposedOf c) {text : List Char} (follows : Follows text) :
    Opens (e.render.toList ++ text) := by
  have free : ∀ word ∉ keywords, word ≠ "select" ∧ word ≠ "distinct" := by
    intro word h
    refine ⟨?_, ?_⟩
    · rintro rfl
      exact h (by decide)
    · rintro rfl
      exact h (by decide)
  -- a keyword, a digit, the name of a function or an alias, or a mark: none opens a query
  cases e with
  | case condition yes no =>
      rw [case_text]
      exact opens_of_word _ ⟨by decide, by decide⟩ ⟨by decide, by decide⟩
        (follows_append _ rfl _).apart
  | coalesce first second =>
      rw [coalesce_text]
      exact opens_of_word _ ⟨by decide, by decide⟩ ⟨by decide, by decide⟩ (apart_cons rfl _)
  | const type value =>
      cases value with
      | null =>
          rw [Scalar.render_const]
          exact opens_of_word _ (plain_null type.base) (ne_of_head (by simp)) follows.apart
      | int n =>
          rw [Scalar.render_const, int_render h]
          refine opens_of_word _ (plain_toString _) (ne_of_head fun c hc => ?_) follows.apart
          have digit := toDigits_head n.toNat
          rw [Option.mem_def.1 hc] at digit
          refine ⟨?_, ?_⟩ <;> rintro rfl <;> exact absurd digit (by decide)
      | bool b =>
          rw [Scalar.render_const]
          cases b
          · exact opens_of_word "false" ⟨by decide, by decide⟩ ⟨by decide, by decide⟩ follows.apart
          · exact opens_of_word "true" ⟨by decide, by decide⟩ ⟨by decide, by decide⟩ follows.apart
      | string s =>
          rw [string_text]
          exact opens_of_mark rfl (by decide) _
  | column qualifier name type =>
      obtain ⟨hq, t, ht, column, hcolumn, rfl, -⟩ := h
      have plain := plain_column hq ((hc.tables t ht).2 column hcolumn)
      rw [Scalar.render_column]
      refine opens_of_word _ plain (ne_of_head ?_) follows.apart
      obtain ⟨number, rfl⟩ := hq
      simp [NameCounter.name, Generate.aliasStem]
  | binary op left right =>
      rw [binary_text]
      exact opens_of_mark rfl (by decide) _
  | call f args =>
      have name := hc.functions f h.1
      rw [call_text]
      exact opens_of_word _ (plain_of_isName name) (free _ name.free) (apart_cons rfl _)
  | «exists» q =>
      rw [exists_text]
      exact opens_of_word _ ⟨by decide, by decide⟩ ⟨by decide, by decide⟩ (apart_cons rfl _)
  | subquery q type =>
      rw [subquery_text]
      exact opens_of_mark rfl (by decide) _

/-! ## §4. One expression of each kind. -/

section Scalars

variable {c : Catalog} {R : Readers} {n : Nat} {text : List Char}

theorem scalar_of_word {word : String} (plain : Plain word) (apart : Apart text) :
    scalar R n (word.toList ++ text) = named R n word text := by
  rw [scalar, chunk_append plain.2 apart]
  · exact plain_ne_cons plain rfl text
  · exact plain_ne_cons plain rfl text

theorem named_of_follows {word : String} (follows : Follows text) :
    named R n word text
      = if word = "case" then case R text else (leaf? word).map fun e => (e, text) := by
  rw [named]
  rintro rest rfl
  have := follows '(' rfl
  simp at this

/-- A word that stands for itself. -/
theorem leaf_reads {word : String} (plain : Plain word) (free : word ≠ "case") {e : Scalar}
    (h : leaf? word = some e) (follows : Follows text) :
    scalar R n (word.toList ++ text) = some (e, text) := by
  rw [scalar_of_word plain follows.apart, named_of_follows follows, if_neg free, h]
  rfl

theorem case_reads (hR : R.Reads c n) {condition yes no : QueryFuzz.Scalar}
    (h : (QueryFuzz.Scalar.case condition yes no).ComposedOf c)
    (short : (QueryFuzz.Scalar.case condition yes no).render.toList.length < n + 1) :
    scalar R n ((QueryFuzz.Scalar.case condition yes no).render.toList ++ text)
      = some ((QueryFuzz.Scalar.case condition yes no).untyped, text) := by
  obtain ⟨hcondition, hyes, hno⟩ := h
  -- the parts are shorter than the whole, so the readers below read them
  have whole := congrArg List.length (case_text [] condition yes no)
  simp at whole
  have readCondition := hR.scalar condition hcondition (by omega)
  have readYes := hR.scalar yes hyes (by omega)
  have readNo := hR.scalar no hno (by omega)
  rw [case_text, scalar_of_word ⟨by decide, by decide⟩ (follows_append _ rfl _).apart,
    named_of_follows (follows_append _ rfl _), if_pos rfl]
  simp +decide only [case, expect_append, Option.bind_eq_bind, Option.bind_some, readCondition,
    readYes, readNo, follows_append]
  rfl

theorem coalesce_reads (hR : R.Reads c n) {first second : QueryFuzz.Scalar}
    (h : (QueryFuzz.Scalar.coalesce first second).ComposedOf c)
    (short : (QueryFuzz.Scalar.coalesce first second).render.toList.length < n + 1) :
    scalar R n ((QueryFuzz.Scalar.coalesce first second).render.toList ++ text)
      = some ((QueryFuzz.Scalar.coalesce first second).untyped, text) := by
  obtain ⟨hfirst, hsecond⟩ := h
  have whole := congrArg List.length (coalesce_text [] first second)
  simp at whole
  have readFirst := hR.scalar first hfirst (by omega)
  have readSecond := hR.scalar second hsecond (by omega)
  have cast : ∀ text, Follows text →
      chunk (first.type.base.sqlName.toList ++ text) = (first.type.base.sqlName, text) := by
    intro text follows
    refine chunk_append ?_ follows.apart
    cases first.type.base <;> decide
  rw [coalesce_text, scalar_of_word ⟨by decide, by decide⟩ (apart_cons rfl _)]
  show coalesce R _ = _
  simp +decide only [coalesce, expect_append, Option.bind_eq_bind, Option.bind_some, readFirst,
    readSecond, cast, castTarget?_sqlName, follows_append]
  rfl

theorem binary_reads (hc : c.Spelled) (hR : R.Reads c n) {op : Operator}
    {left right : QueryFuzz.Scalar} (h : (QueryFuzz.Scalar.binary op left right).ComposedOf c)
    (short : (QueryFuzz.Scalar.binary op left right).render.toList.length < n + 1) :
    scalar R n ((QueryFuzz.Scalar.binary op left right).render.toList ++ text)
      = some ((QueryFuzz.Scalar.binary op left right).untyped, text) := by
  obtain ⟨hop, hleft, hright⟩ := h
  have whole := congrArg List.length (binary_text [] op left right)
  simp at whole
  have readLeft := hR.scalar left hleft (by omega)
  have readRight := hR.scalar right hright (by omega)
  have readOp : ∀ text, Follows text → chunk (op.name.toList ++ text) = (op.name, text) :=
    fun text follows => chunk_append (plain_of_isOperatorName (hc.operators op hop)).2 follows.apart
  rw [binary_text]
  show grouped R _ = _
  -- the left operand does not begin as a query does
  rw [grouped, if_neg (render_opens hc hleft (follows_append _ rfl _)).noQuery]
  simp +decide only [expect_append, Option.bind_eq_bind, Option.bind_some, readLeft, readOp,
    readRight, follows_append]
  rfl

/-- Expressions that are composed of the catalog are so one by one. -/
theorem composedOf_of_mem {es : List QueryFuzz.Scalar} (h : Scalar.ComposedOfList c es) :
    ∀ e ∈ es, e.ComposedOf c := by
  induction es with
  | nil => intro e he; cases he
  | cons e es ih => exact List.forall_mem_cons.2 ⟨h.1, ih h.2⟩

theorem untypedList_eq (es : List QueryFuzz.Scalar) :
    Scalar.untypedList es = es.map Scalar.untyped := by
  induction es with
  | nil => rfl
  | cons e es ih =>
      show e.untyped :: Scalar.untypedList es = _
      rw [ih]
      rfl

/-- Expressions between parentheses. -/
theorem list_reads (hc : c.Spelled) (hR : R.Reads c n) {es : List QueryFuzz.Scalar}
    (h : Scalar.ComposedOfList c es) (short : (commaList Scalar.render es).length < n) :
    listToClose R.scalar n (commaList Scalar.render es ++ ')' :: text)
      = some (Scalar.untypedList es, text) := by
  have composed := composedOf_of_mem h
  rw [untypedList_eq]
  refine listToClose_append (fun e he text follows => ?_) (fun e he text follows => ?_) ?_ text
  · have := length_le_commaList Scalar.render he
    exact hR.scalar e (composed e he) (by omega) text follows
  · exact (render_opens hc (composed e he) follows).noClose
  · have := length_le_succ_commaList Scalar.render es
    omega

theorem call_reads (hc : c.Spelled) (hR : R.Reads c n) {f : SqlFunction}
    {args : List QueryFuzz.Scalar} (h : (QueryFuzz.Scalar.call f args).ComposedOf c)
    (short : (QueryFuzz.Scalar.call f args).render.toList.length < n + 1) :
    scalar R n ((QueryFuzz.Scalar.call f args).render.toList ++ text)
      = some ((QueryFuzz.Scalar.call f args).untyped, text) := by
  obtain ⟨hf, hargs⟩ := h
  have name := hc.functions f hf
  have whole := congrArg List.length (call_text [] f args)
  simp at whole
  -- no function is called as EXISTS and CAST are written
  have notExists : f.name ≠ "exists" := by
    intro h
    exact name.free (by rw [h]; decide)
  have notCast : f.name ≠ "cast" := by
    intro h
    exact name.free (by rw [h]; decide)
  have args' : listToClose R.scalar n (commaList Scalar.render args ++ ')' :: text)
      = some (Scalar.untypedList args, text) := list_reads hc hR hargs (by omega)
  rw [call_text, scalar_of_word (plain_of_isName name) (apart_cons rfl _)]
  show applied R n f.name _ = _
  rw [applied, if_neg notExists, if_neg notCast, args']
  rfl

theorem exists_reads (hR : R.Reads c n) {q : QueryFuzz.Select}
    (h : (QueryFuzz.Scalar.exists q).ComposedOf c)
    (short : (QueryFuzz.Scalar.exists q).render.toList.length < n + 1) :
    scalar R n ((QueryFuzz.Scalar.exists q).render.toList ++ text)
      = some ((QueryFuzz.Scalar.exists q).untyped, text) := by
  have whole := congrArg List.length (exists_text [] q)
  simp at whole
  have query := hR.query q h (by omega) (")".toList ++ text) (closed_cons text)
  rw [exists_text, scalar_of_word ⟨by decide, by decide⟩ (apart_cons rfl _)]
  show applied R n "exists" _ = _
  rw [applied, if_pos rfl, query]
  dsimp only [Option.bind_eq_bind, Option.bind_some]
  rw [expect_append]
  rfl

/-- A query begins with the word that tells it from an expression. -/
theorem query_begins (q : QueryFuzz.Select) :
    ∃ rest, q.render.toList = "select".toList ++ ' ' :: rest := by
  obtain ⟨distinct, items, source, filter, orderBy, limit⟩ := q
  rw [Select.render_mk]
  simp only [String.toList_append, List.append_assoc]
  exact ⟨_, rfl⟩

theorem subquery_reads (hR : R.Reads c n) {q : QueryFuzz.Select} {type : SqlType}
    (h : (QueryFuzz.Scalar.subquery q type).ComposedOf c)
    (short : (QueryFuzz.Scalar.subquery q type).render.toList.length < n + 1) :
    scalar R n ((QueryFuzz.Scalar.subquery q type).render.toList ++ text)
      = some ((QueryFuzz.Scalar.subquery q type).untyped, text) := by
  have whole := congrArg List.length (subquery_text [] q type)
  simp at whole
  have query := hR.query q h (by omega) (")".toList ++ text) (closed_cons text)
  have first : (chunk (q.render.toList ++ (")".toList ++ text))).1 = "select" := by
    obtain ⟨rest, begins⟩ := query_begins q
    rw [begins, List.append_assoc, List.cons_append, chunk_append (by decide) (apart_cons rfl _)]
  rw [subquery_text]
  show grouped R _ = _
  rw [grouped, if_pos first, query]
  dsimp only [Option.bind_eq_bind, Option.bind_some]
  rw [expect_append]
  rfl

theorem const_reads {type : SqlType} {value : Literal} (h : value.Unsigned)
    (follows : Follows text) :
    scalar R n ((QueryFuzz.Scalar.const type value).render.toList ++ text)
      = some ((QueryFuzz.Scalar.const type value).untyped, text) := by
  cases value with
  | null =>
      refine leaf_reads (plain_null type.base) ?_ (leaf?_null type.base) follows
      cases type.base <;> decide
  | int m =>
      rw [Scalar.render_const, int_render h]
      refine (leaf_reads (plain_toString _) ?_ (leaf?_nat _) follows).trans ?_
      · -- a number is no keyword: its first character is a digit
        intro h
        have digit := toDigits_head m.toNat
        rw [h] at digit
        exact absurd digit (by decide)
      · show some (Scalar.int (m.toNat : Int), text) = some (Scalar.int m, text)
        rw [Int.toNat_of_nonneg h]
  | bool b =>
      have plain : Plain (toString b) := by
        cases b <;> exact ⟨by decide, by decide⟩
      have free : toString b ≠ "case" := by
        cases b <;> decide
      exact leaf_reads plain free (leaf?_bool b) follows
  | string s =>
      rw [string_text, scalar, quoted_append follows]
      simp only [Option.map_some, String.ofList_toList]
      rfl

theorem column_reads (hc : c.Spelled) {qualifier name : String} {type : SqlType}
    (h : (QueryFuzz.Scalar.column qualifier name type).ComposedOf c) (follows : Follows text) :
    scalar R n ((QueryFuzz.Scalar.column qualifier name type).render.toList ++ text)
      = some ((QueryFuzz.Scalar.column qualifier name type).untyped, text) := by
  obtain ⟨hq, t, ht, column, hcolumn, rfl, -⟩ := h
  have plain := plain_column hq ((hc.tables t ht).2 column hcolumn)
  refine leaf_reads plain ?_ (leaf?_column hq column.name) follows
  obtain ⟨number, rfl⟩ := hq
  intro h
  have := congrArg String.toList h
  simp [NameCounter.name, Generate.aliasStem] at this

/-- **Expressions are read back**, given that what is shorter is. -/
theorem scalar_reads (hc : c.Spelled) (hR : R.Reads c n) (e : QueryFuzz.Scalar)
    (h : e.ComposedOf c) (short : e.render.toList.length < n + 1) (follows : Follows text) :
    scalar R n (e.render.toList ++ text) = some (e.untyped, text) := by
  cases e with
  | case condition yes no => exact case_reads hR h short
  | coalesce first second => exact coalesce_reads hR h short
  | const type value => exact const_reads h follows
  | column qualifier name type => exact column_reads hc h follows
  | binary op left right => exact binary_reads hc hR h short
  | call f args => exact call_reads hc hR h short
  | «exists» q => exact exists_reads hR h short
  | subquery q type => exact subquery_reads hR h short

end Scalars

end QueryFuzz.Untyped
