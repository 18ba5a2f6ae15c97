/-
  QueryFuzz.Proofs.Reading.Pieces
  ───────────────────────────────
  **HOW NAMES ARE SPELLED, AND HOW PIECES OF TEXT ARE READ.**

  Names and operators are spelled without delimiters, so each is one chunk of
  the text, and a chunk is read up to the delimiter behind it (`chunk_append`).
  Every lemma is stated over the text that goes on behind: what follows an
  expression begins with a blank, a comma or a closing parenthesis (`Follows`),
  what follows a statement with a closing parenthesis (`Closed`).

      ReadsBack — what is rendered is read back, whatever follows it
      listOf_append, listToClose_append — lists of elements that are read back
-/
import QueryFuzz.Proofs.Composition
import QueryFuzz.Proofs.Reading.Reader
import QueryFuzz.Statement.Render

namespace QueryFuzz

/-! ## §1. Spelling. -/

/-- The words that stand between the names in a statement.  Truth values and the names of
types are not among them: a table or a function may have such a name. -/
def keywords : List String :=
  ["all", "as", "by", "case", "cast", "coalesce", "distinct", "else", "end", "except", "exists",
    "from", "insert", "intersect", "into", "join", "limit", "null", "on", "order", "select",
    "then", "union", "values", "when", "where"]

/-- ASCII letters and digits, the low line and the full stop. -/
def isNameChar (c : Char) : Bool := c.isAlphanum || c == '_' || c == '.'

/-- The spelling of names of tables, columns and functions. -/
structure IsName (s : String) : Prop where
  nonempty : s ≠ ""
  chars : ∀ c ∈ s.toList, isNameChar c = true
  first : s.toList.head?.any Char.isDigit = false
  free : s ∉ keywords

/-- The spelling of operators: no whitespace, quotes, commas or parentheses. -/
structure IsOperatorName (s : String) : Prop where
  nonempty : s ≠ ""
  chars : ∀ c ∈ s.toList, c.isWhitespace = false ∧ c ∉ ['\'', '"', ',', '(', ')']

/-- All names of the catalog are spelled so. -/
structure Catalog.Spelled (c : Catalog) : Prop where
  tables : ∀ t ∈ c.tables, IsName t.name ∧ ∀ column ∈ t.columns, IsName column.name
  operators : ∀ op ∈ c.operators.entries, IsOperatorName op.name
  functions : ∀ f ∈ c.functions.entries, IsName f.name

instance (s : String) : Decidable (IsName s) :=
  decidable_of_iff
    (s ≠ "" ∧ s.toList.all isNameChar = true
      ∧ s.toList.head?.any Char.isDigit = false ∧ s ∉ keywords)
    ⟨fun h => ⟨h.1, List.all_eq_true.1 h.2.1, h.2.2.1, h.2.2.2⟩,
      fun h => ⟨h.nonempty, List.all_eq_true.2 h.chars, h.first, h.free⟩⟩

instance (s : String) : Decidable (IsOperatorName s) :=
  decidable_of_iff
    (s ≠ "" ∧ (s.toList.all fun c =>
      decide (c.isWhitespace = false ∧ c ∉ ['\'', '"', ',', '(', ')'])) = true)
    ⟨fun h => ⟨h.1, fun c hc => of_decide_eq_true (List.all_eq_true.1 h.2 c hc)⟩,
      fun h => ⟨h.nonempty, List.all_eq_true.2 fun c hc => decide_eq_true (h.chars c hc)⟩⟩

instance (c : Catalog) : Decidable c.Spelled :=
  decidable_of_iff
    ((∀ t ∈ c.tables, IsName t.name ∧ ∀ column ∈ t.columns, IsName column.name)
      ∧ (∀ op ∈ c.operators.entries, IsOperatorName op.name)
      ∧ ∀ f ∈ c.functions.entries, IsName f.name)
    ⟨fun h => ⟨h.1, h.2.1, h.2.2⟩, fun h => ⟨h.tables, h.operators, h.functions⟩⟩

namespace Untyped

/-- Some characters, and all of them belong to one chunk. -/
def Plain (s : String) : Prop := s ≠ "" ∧ s.toList.all isPlain = true

theorem isPlain_of_isNameChar {c : Char} (h : isNameChar c = true) : isPlain c = true := by
  have apart : (delimiters.all fun d => !isNameChar d) = true := by decide
  cases hc : isPlain c with
  | true => rfl
  | false =>
      have delimiter : c ∈ delimiters := by simpa [isPlain] using hc
      have other := List.all_eq_true.1 apart c delimiter
      rw [h] at other
      cases other

theorem plain_of_isName {s : String} (h : IsName s) : Plain s :=
  ⟨h.nonempty, List.all_eq_true.2 fun c hc => isPlain_of_isNameChar (h.chars c hc)⟩

theorem plain_of_isOperatorName {s : String} (h : IsOperatorName s) : Plain s := by
  refine ⟨h.nonempty, List.all_eq_true.2 fun c hc => ?_⟩
  obtain ⟨blank, others⟩ := h.chars c hc
  have apart : c ≠ ' ' := by
    rintro rfl
    exact absurd blank (by decide)
  simp only [List.mem_cons, List.not_mem_nil, or_false, not_or] at others
  simp [isPlain, delimiters, apart, others]

/-! ## §2. Chunks and pieces. -/

/-- The text begins with no character of a chunk. -/
def Apart (text : List Char) : Prop := ∀ c ∈ text.head?, isPlain c = false

/-- What may follow an expression: nothing, or a blank, a closing parenthesis or a comma. -/
def Follows (text : List Char) : Prop := ∀ c ∈ text.head?, c = ' ' ∨ c = ')' ∨ c = ','

/-- What may follow a statement: nothing, or a closing parenthesis. -/
def Closed (text : List Char) : Prop := ∀ c ∈ text.head?, c = ')'

theorem Follows.apart {text : List Char} (h : Follows text) : Apart text := by
  intro c hc
  obtain rfl | rfl | rfl := h c hc <;> rfl

theorem Closed.follows {text : List Char} (h : Closed text) : Follows text :=
  fun c hc => Or.inr (Or.inl (h c hc))

theorem closed_cons (text : List Char) : Closed (')' :: text) := by
  intro c hc
  injection hc with hc
  exact hc.symm

/-- A piece is passed over. -/
theorem expect_append (piece : String) (text : List Char) :
    expect piece (piece.toList ++ text) = some text := by
  unfold expect
  induction piece.toList with
  | nil => rfl
  | cons c piece ih =>
      rw [List.cons_append, expectChars, if_pos rfl]
      exact ih

/-- A chunk ends where the text goes on with a delimiter. -/
theorem chunk_append {s : String} (hs : s.toList.all isPlain = true) {text : List Char}
    (h : Apart text) : chunk (s.toList ++ text) = (s, text) := by
  have stop : text.takeWhile isPlain = [] ∧ text.dropWhile isPlain = text := by
    cases text with
    | nil => exact ⟨rfl, rfl⟩
    | cons c text =>
        have : isPlain c = false := h c rfl
        simp [this]
  unfold chunk
  rw [List.takeWhile_append_of_pos (List.all_eq_true.1 hs),
    List.dropWhile_append_of_pos (List.all_eq_true.1 hs), stop.1, stop.2, List.append_nil,
    String.ofList_toList]

/-- A chunk begins with no delimiter. -/
theorem plain_ne_cons {s : String} (hs : Plain s) {d : Char} (hd : isPlain d = false)
    (text rest : List Char) : s.toList ++ text ≠ d :: rest := by
  intro h
  cases hl : s.toList with
  | nil => exact hs.1 (String.toList_eq_nil_iff.1 hl)
  | cons c cs =>
      rw [hl] at h
      injection h with h
      have plain := List.all_eq_true.1 hs.2 c (by simp [hl])
      rw [h, hd] at plain
      cases plain

theorem name_append {s : String} (hs : Plain s) {text : List Char} (h : Apart text) :
    name (s.toList ++ text) = some (s, text) := by
  rw [name, chunk_append hs.2 h]

/-- A part that is there is read behind its opening. -/
theorem clause_append {α : Type} {opening : String} {read : Reader α} {text rest : List Char}
    {a : α} (h : read text = some (a, rest)) :
    clause opening read (opening.toList ++ text) = some (some a, rest) := by
  rw [clause, expect_append]
  show (read text).map _ = _
  rw [h]
  rfl

/-- A part whose opening is not there is not read. -/
theorem clause_of_expect {α : Type} {opening : String} {read : Reader α} {text : List Char}
    (h : expect opening text = none) : clause opening read text = some (none, text) := by
  rw [clause, h]

/-! ## §3. Lists. -/

/-- Elements behind a first one, each after a comma. -/
def commaTail {α : Type} (render : α → String) (xs : List α) : List Char :=
  xs.flatMap fun x => ", ".toList ++ (render x).toList

/-- Elements with commas between them. -/
def commaList {α : Type} (render : α → String) : List α → List Char
  | [] => []
  | x :: xs => (render x).toList ++ commaTail render xs

theorem renderTail_toList (es : List QueryFuzz.Scalar) :
    (Scalar.renderTail es).toList = commaTail Scalar.render es := by
  induction es with
  | nil => rfl
  | cons e es ih => simp [Scalar.renderTail, commaTail, ih]

theorem renderList_toList (es : List QueryFuzz.Scalar) :
    (Scalar.renderList es).toList = commaList Scalar.render es := by
  cases es with
  | nil => rfl
  | cons e es => simp [Scalar.renderList, commaList, renderTail_toList]

/-- A row as it is written. -/
def renderRow (row : List QueryFuzz.Scalar) : String := "(" ++ Scalar.renderList row ++ ")"

theorem renderRows_toList (rows : List (List QueryFuzz.Scalar)) :
    (Scalar.renderRows rows).toList = commaList renderRow rows := by
  have tail : ∀ rows, (Scalar.renderRowsTail rows).toList = commaTail renderRow rows := by
    intro rows
    induction rows with
    | nil => rfl
    | cons row rows ih => simp [Scalar.renderRowsTail, commaTail, renderRow, ih]
  cases rows with
  | nil => rfl
  | cons row rows => simp [Scalar.renderRows, commaList, renderRow, tail]

theorem renderNames_toList (names : List String) :
    (renderNames names).toList = commaList id names := by
  have tail : ∀ names, (renderNamesTail names).toList = commaTail id names := by
    intro names
    induction names with
    | nil => rfl
    | cons n names ih => simp [renderNamesTail, commaTail, ih]
  cases names with
  | nil => rfl
  | cons n names => simp [renderNames, commaList, tail]

section Lists

variable {α β : Type} {read : Reader β} {render : α → String} {value : α → β}

/-- What is rendered is read back, whatever follows it. -/
def ReadsBack (read : Reader β) (render : α → String) (value : α → β) (x : α) : Prop :=
  ∀ text, Follows text → read ((render x).toList ++ text) = some (value x, text)

theorem commaTail_cons (render : α → String) (x : α) (xs : List α) (text : List Char) :
    commaTail render (x :: xs) ++ text
      = ", ".toList ++ ((render x).toList ++ (commaTail render xs ++ text)) := by
  simp [commaTail]

/-- What holds before a comma holds before further elements. -/
theorem commaTail_before {F : List Char → Prop} (comma : ∀ text, F (',' :: text))
    (render : α → String) (xs : List α) {text : List Char} (h : F text) :
    F (commaTail render xs ++ text) := by
  cases xs with
  | nil => exact h
  | cons x xs =>
      rw [commaTail_cons]
      exact comma _

theorem follows_comma (text : List Char) : Follows (',' :: text) := by
  intro c hc
  injection hc with hc
  exact Or.inr (Or.inr hc.symm)

theorem commaTail_follows (render : α → String) (xs : List α) {text : List Char}
    (h : Follows text) : Follows (commaTail render xs ++ text) :=
  commaTail_before follows_comma render xs h

theorem length_le_commaTail (render : α → String) (xs : List α) :
    xs.length ≤ (commaTail render xs).length := by
  induction xs with
  | nil => exact Nat.le_refl 0
  | cons x xs ih =>
      have := congrArg List.length (commaTail_cons render x xs [])
      simp only [List.append_nil, List.length_append] at this
      rw [this, List.length_cons]
      show _ ≤ 2 + _
      omega

/-- Nothing in a list is longer than the list. -/
theorem length_le_commaList (render : α → String) {x : α} {xs : List α} (h : x ∈ xs) :
    (render x).toList.length ≤ (commaList render xs).length := by
  have tail : ∀ xs : List α, x ∈ xs →
      (render x).toList.length ≤ (commaTail render xs).length := by
    intro xs
    induction xs with
    | nil => intro h; cases h
    | cons y xs ih =>
        intro h
        have := congrArg List.length (commaTail_cons render y xs [])
        simp only [List.append_nil, List.length_append] at this
        obtain rfl | h := List.mem_cons.1 h
        · omega
        · have := ih h
          omega
  cases xs with
  | nil => cases h
  | cons y xs =>
      rw [commaList, List.length_append]
      obtain rfl | h := List.mem_cons.1 h
      · omega
      · have := tail xs h
        omega

/-- A list has no more elements than its text has characters, and one. -/
theorem length_le_succ_commaList (render : α → String) (xs : List α) :
    xs.length ≤ (commaList render xs).length + 1 := by
  cases xs with
  | nil => exact Nat.zero_le _
  | cons x xs =>
      have := length_le_commaTail render xs
      rw [commaList, List.length_append, List.length_cons]
      omega

section Before

variable {F : List Char → Prop}

theorem more_append (comma : ∀ text, F (',' :: text)) {text : List Char} (follows : F text)
    (stop : expect ", " text = none) (xs : List α)
    (reads : ∀ x ∈ xs, ∀ text, F text → read ((render x).toList ++ text) = some (value x, text)) :
    ∀ n, xs.length < n →
      more read n (commaTail render xs ++ text) = some (xs.map value, text) := by
  induction xs with
  | nil =>
      intro n hn
      obtain ⟨n, rfl⟩ := Nat.exists_eq_succ_of_ne_zero (Nat.ne_of_gt hn)
      show more read (n + 1) text = _
      rw [more, stop]
      rfl
  | cons x xs ih =>
      intro n hn
      obtain ⟨n, rfl⟩ := Nat.exists_eq_succ_of_ne_zero (Nat.ne_of_gt (Nat.zero_lt_of_lt hn))
      -- one element takes one unit of fuel, and the comma behind it lets the reader go on
      have first := reads x (by simp) _ (commaTail_before comma render xs follows)
      have rest := ih (fun y hy => reads y (by simp [hy])) n (Nat.lt_of_succ_lt_succ hn)
      rw [commaTail_cons, Nat.succ_eq_add_one, more, expect_append]
      dsimp only
      rw [first]
      dsimp only [Option.bind_eq_bind, Option.bind_some]
      rw [rest]
      rfl

/-- A list that is not empty is read up to what cannot go on with a comma, when its elements
are read before a comma and before what follows the list. -/
theorem listOf_append_of (comma : ∀ text, F (',' :: text)) {text : List Char} (follows : F text)
    (stop : expect ", " text = none) {xs : List α} (some : xs ≠ [])
    (reads : ∀ x ∈ xs, ∀ text, F text → read ((render x).toList ++ text) = .some (value x, text))
    {n : Nat} (hn : xs.length ≤ n) :
    listOf read n (commaList render xs ++ text) = .some (xs.map value, text) := by
  cases xs with
  | nil => exact absurd rfl some
  | cons x xs =>
      have first := reads x (by simp) _ (commaTail_before comma render xs follows)
      have rest := more_append comma follows stop xs (fun y hy => reads y (by simp [hy])) n hn
      rw [commaList, List.append_assoc, listOf, first]
      dsimp only [Option.bind_eq_bind, Option.bind_some]
      rw [rest]
      rfl

end Before

/-- A list of expressions, or of what is read before the same texts as they are. -/
theorem listOf_append {text : List Char} (follows : Follows text)
    (stop : expect ", " text = none) {xs : List α} (some : xs ≠ [])
    (reads : ∀ x ∈ xs, ReadsBack read render value x) {n : Nat} (hn : xs.length ≤ n) :
    listOf read n (commaList render xs ++ text) = .some (xs.map value, text) :=
  listOf_append_of follows_comma follows stop some reads hn

/-- A list, perhaps empty, is read up to the parenthesis that closes it. -/
theorem listToClose_append {xs : List α} (reads : ∀ x ∈ xs, ReadsBack read render value x)
    (opens : ∀ x ∈ xs, ∀ text, Follows text → ∀ rest, (render x).toList ++ text ≠ ')' :: rest)
    {n : Nat} (hn : xs.length ≤ n) (text : List Char) :
    listToClose read n (commaList render xs ++ ')' :: text) = some (xs.map value, text) := by
  cases xs with
  | nil => rfl
  | cons x xs =>
      have all := listOf_append (closed_cons text).follows rfl (by simp) reads hn
      rw [listToClose]
      · rw [all]
        rfl
      · intro rest h
        rw [commaList, List.append_assoc] at h
        exact opens x (by simp) _ (commaTail_follows render xs (closed_cons text).follows) rest h

end Lists

/-! ## §4. Literals, operators and columns. -/

/-- The characters of a string literal up to its closing quote. -/
theorem quoted_append {text : List Char} (h : Follows text) (cs : List Char) :
    quoted ((cs.flatMap fun c => if c = '\'' then ['\'', '\''] else [c]) ++ '\'' :: text)
      = some (cs, text) := by
  -- the closing quote is no doubled one, as what follows does not begin with a quote
  have behind : ∀ rest, text ≠ '\'' :: rest := by
    rintro rest rfl
    have := h '\'' rfl
    simp at this
  induction cs with
  | nil =>
      show quoted ('\'' :: text) = some ([], text)
      rw [quoted]
      exact behind
  | cons c cs ih =>
      rw [List.flatMap_cons, List.append_assoc]
      by_cases hc : c = '\''
      · -- a quote inside the literal is written twice
        subst hc
        rw [if_pos rfl, List.cons_append, List.cons_append, List.nil_append, quoted, ih]
        rfl
      · rw [if_neg hc, List.cons_append, List.nil_append, quoted, ih]
        · rfl
        · exact fun _ e => absurd e hc
        · exact hc

theorem toDigits_head (n : Nat) : ((toString n).toList.head?.any Char.isDigit) = true := by
  have text : (toString n).toList = Nat.toDigits 10 n := by
    simp [Nat.toString_eq_repr, Nat.toList_repr]
  rw [text]
  cases hd : Nat.toDigits 10 n with
  | nil => exact absurd hd (Nat.toDigits_ne_nil)
  | cons c cs =>
      have : c ∈ Nat.toDigits 10 n := by simp [hd]
      exact Nat.isDigit_of_mem_toDigits (by decide) (by decide) this

theorem number_toString (n : Nat) : number (toString n) = n := by
  simp [number, Nat.toString_eq_repr, Nat.toList_repr]

theorem plain_toString (n : Nat) : Plain (toString n) := by
  have text : (toString n).toList = Nat.toDigits 10 n := by
    simp [Nat.toString_eq_repr, Nat.toList_repr]
  refine ⟨fun h => ?_, List.all_eq_true.2 fun c hc => ?_⟩
  · have := toDigits_head n
    rw [h] at this
    cases this
  · rw [text] at hc
    have digit := Nat.isDigit_of_mem_toDigits (by decide) (by decide) hc
    refine isPlain_of_isNameChar ?_
    simp [isNameChar, Char.isAlphanum, digit]

theorem leaf?_nat (n : Nat) : leaf? (toString n) = some (.int n) := by
  rw [leaf?, if_pos (toDigits_head n), number_toString]

theorem leaf?_bool (b : Bool) : leaf? (toString b) = some (.bool b) := by
  cases b with
  | false =>
      show leaf? "false" = _
      simp [leaf?]
  | true =>
      show leaf? "true" = _
      simp [leaf?]

theorem leaf?_null (base : BaseType) : leaf? ("null::" ++ base.sqlName) = some (.null base) := by
  cases base <;> simp [leaf?, expectChars, castTarget?, BaseType.sqlName]

/-- The word for a column: its alias up to the first full stop, and its name behind it. -/
theorem leaf?_column {qualifier : String} (h : IsAlias qualifier) (name : String) :
    leaf? (qualifier ++ "." ++ name) = some (.column qualifier name) := by
  obtain ⟨number, rfl⟩ := h
  generalize hq : NameCounter.name Generate.aliasStem number = qualifier
  have letters : qualifier.toList = 't' :: 'a' :: 'b' :: '_' :: (toString number).toList := by
    rw [← hq]
    simp [NameCounter.name, Generate.aliasStem]
  have unstopped : ∀ c ∈ qualifier.toList, (c != '.') = true := by
    have digits : ∀ c ∈ (toString number).toList, (c != '.') = true := by
      intro c hc
      rw [Nat.toString_eq_repr, Nat.toList_repr] at hc
      have digit := Nat.isDigit_of_mem_toDigits (by decide) (by decide) hc
      refine bne_iff_ne.2 fun e => ?_
      rw [e] at digit
      exact absurd digit (by decide)
    rw [letters]
    simpa using digits
  have word : (qualifier ++ "." ++ name).toList = qualifier.toList ++ '.' :: name.toList := by
    simp
  have kind : ((qualifier ++ "." ++ name).toList.head?.any Char.isDigit) = false := by
    rw [word, letters]
    rfl
  -- the first letters tell an alias from a truth value and from a NULL
  have notTrue : qualifier ++ "." ++ name ≠ "true" := by
    intro h
    have := congrArg String.toList h
    rw [word, letters] at this
    simp at this
  have notFalse : qualifier ++ "." ++ name ≠ "false" := by
    intro h
    have := congrArg String.toList h
    rw [word, letters] at this
    simp at this
  have notNull : expectChars "null::".toList (qualifier ++ "." ++ name).toList = none := by
    rw [word, letters]
    rfl
  rw [leaf?, kind, if_neg Bool.false_ne_true, if_neg notTrue, if_neg notFalse, notNull]
  dsimp only
  rw [word, List.takeWhile_append_of_pos unstopped, List.dropWhile_append_of_pos unstopped]
  simp

theorem castTarget?_sqlName (base : BaseType) : castTarget? base.sqlName = some base := by
  cases base <;> simp [castTarget?, BaseType.sqlName]

theorem setOperator_append (op : SetOperator) (text : List Char) :
    setOperator ((") " ++ op.render ++ " (").toList ++ text) = some (op, text) := by
  cases op <;> rfl

end Untyped

end QueryFuzz
