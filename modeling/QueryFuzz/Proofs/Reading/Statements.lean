/-
  QueryFuzz.Proofs.Reading.Statements
  ───────────────────────────────────
  **THE TEXT OF A STATEMENT DETERMINES ITS UNTYPED TREE.**

  Joins group to the left without parentheses, so a FROM item is read from its
  first table on, each join taking all that was read before for its left side
  (`source_goesOn`).  The clauses of a query are read in order; what follows a
  clause tells that it is absent.

  Main results:
    * `Relation.ofText?_render` — reading gives the untyped tree back;
    * `Session.untyped_eq_of_render_eq` — statements of sessions with equal texts
      have equal untyped trees.
-/
import QueryFuzz.Proofs.Reading.Expressions

namespace QueryFuzz

namespace Untyped

/-! ## §1. FROM items. -/

section Items

variable {c : Catalog} {R : Readers} {n : Nat} {text : List Char}

theorem tableRef_reads (hc : c.Spelled) {ref : TableRef}
    (h : (QueryFuzz.Relation.table ref).ComposedOf c) (follows : Follows text) :
    tableRef (ref.render.toList ++ text) = some (.table ref.table.name ref.name, text) := by
  have table := plain_of_isName (hc.tables ref.table h.1).1
  have tableAlias := plain_of_isAlias h.2
  have spelled : ref.render.toList ++ text
      = ref.table.name.toList ++ (" as ".toList ++ (ref.name.toList ++ text)) := by
    simp [TableRef.render]
  rw [spelled, tableRef, chunk_append table.2 (follows_append _ rfl _).apart]
  dsimp only
  rw [expect_append]
  dsimp only [Option.bind_eq_bind, Option.bind_some]
  rw [chunk_append tableAlias.2 follows.apart]

/-- How many joins an item has on its left edge. -/
def leftJoins : QueryFuzz.Relation → Nat
  | .join lhs _ _ _ => leftJoins lhs + 1
  | _ => 0

theorem join_text (lhs rhs : QueryFuzz.Relation) (on : QueryFuzz.Scalar)
    (columns : List Column) (text : List Char) :
    (QueryFuzz.Relation.join lhs rhs on columns).render.toList ++ text
      = lhs.render.toList ++ (" join ".toList
          ++ ((if rhs.isJoin then "(" ++ rhs.render ++ ")" else rhs.render).toList
            ++ (" on ".toList ++ (on.render.toList ++ text)))) := by
  rw [Relation.render_join]
  simp only [String.toList_append, List.append_assoc]

/-- The joins on the left edge are fewer than the characters. -/
theorem leftJoins_lt : ∀ r : QueryFuzz.Relation, r.isItem = true → r.ComposedOf c →
    leftJoins r < r.render.toList.length
  | .table ref, _, _ => by
      show 0 < _
      simp only [Relation.render_table, TableRef.render, String.toList_append, List.length_append]
      show 0 < _ + 4 + _
      omega
  | .join lhs rhs on columns, _, h => by
      have ih := leftJoins_lt lhs h.1.1 h.1.2
      have whole := congrArg List.length (join_text lhs rhs on columns [])
      simp only [List.append_nil, List.length_append] at whole
      show leftJoins lhs + 1 < _
      rw [whole]
      show _ < _ + (6 + _)
      omega

/-- The right side of a join is read back: a join in parentheses, a table without. -/
theorem rightSide_reads (text : List Char) (hc : c.Spelled) (hR : R.Reads c n)
    {rhs : QueryFuzz.Relation} (kind : rhs.isItem = true) (h : rhs.ComposedOf c)
    (short : (if rhs.isJoin then "(" ++ rhs.render ++ ")" else rhs.render).toList.length < n)
    (follows : Follows text) :
    rightSide R ((if rhs.isJoin then "(" ++ rhs.render ++ ")" else rhs.render).toList ++ text)
      = some (rhs.untyped, text) := by
  cases rhs with
  | table ref =>
      have table := plain_of_isName (hc.tables ref.table h.1).1
      have first := tableRef_reads hc h follows
      show rightSide R (ref.render.toList ++ text) = _
      rw [rightSide]
      · exact first
      · -- the name of a table does not begin with a parenthesis
        intro rest e
        rw [TableRef.render, String.toList_append, String.toList_append, List.append_assoc,
          List.append_assoc] at e
        exact plain_ne_cons table rfl _ rest e
  | join lhs rhs on columns =>
      have joined : (QueryFuzz.Relation.join lhs rhs on columns).isJoin = true := rfl
      rw [if_pos joined] at short ⊢
      have spelled : ("(" ++ (QueryFuzz.Relation.join lhs rhs on columns).render
          ++ ")").toList ++ text
          = '(' :: ((QueryFuzz.Relation.join lhs rhs on columns).render.toList
              ++ (")".toList ++ text)) := by
        simp
      have whole := congrArg List.length spelled
      simp at whole short
      have item := hR.source _ rfl h (by omega) (")".toList ++ text) (follows_append _ rfl _) rfl
      rw [spelled, rightSide, item]
      dsimp only [Option.bind_eq_bind, Option.bind_some]
      rw [expect_append]
      rfl
  | select | setOp | values | insert => cases kind

/-- Reading goes on behind an item with the item on the left of what follows. -/
theorem source_goesOn (hc : c.Spelled) (hR : R.Reads c n) :
    ∀ r : QueryFuzz.Relation, r.isItem = true → r.ComposedOf c → r.render.toList.length ≤ n →
      ∀ k {text : List Char}, Follows text →
        source R (k + leftJoins r) (r.render.toList ++ text) = joins R k r.untyped text
  | .table ref, _, h, _, k, text, follows => by
      show source R k (ref.render.toList ++ text) = _
      rw [source, tableRef_reads hc h follows]
      rfl
  | .join lhs rhs on columns, _, h, short, k, text, follows => by
      obtain ⟨⟨leftKind, hlhs⟩, ⟨rightKind, hrhs⟩, hon⟩ := h
      have whole := congrArg List.length (join_text lhs rhs on columns [])
      simp at whole
      -- the left side is read with one join to spare, and this join is read with it
      have left := fun text => source_goesOn hc hR lhs leftKind hlhs (by omega) (k + 1)
        (follows_append " join " rfl text)
      have readRight := fun text => rightSide_reads text hc hR rightKind hrhs (by omega)
      have readOn := hR.scalar on hon (by omega)
      rw [join_text]
      show source R (k + (leftJoins lhs + 1)) _ = _
      rw [show k + (leftJoins lhs + 1) = k + 1 + leftJoins lhs by omega, left, joins,
        expect_append]
      dsimp only
      simp +decide only [readRight, expect_append, Option.bind_eq_bind, Option.bind_some, readOn,
        follows, follows_append]
      rfl

/-- **FROM items are read back**, given that what is shorter is. -/
theorem source_reads (hc : c.Spelled) (hR : R.Reads c n) (r : QueryFuzz.Relation)
    (kind : r.isItem = true) (h : r.ComposedOf c) (short : r.render.toList.length < n + 1)
    (follows : Follows text) (stop : expect " join " text = none) :
    source R n (r.render.toList ++ text) = some (r.untyped, text) := by
  -- there are enough rounds for all joins on the left edge, and one to see the end
  have fewer := leftJoins_lt r kind h
  obtain ⟨k, hk⟩ : ∃ k, n = k + 1 + leftJoins r := ⟨n - 1 - leftJoins r, by omega⟩
  have goesOn := source_goesOn hc hR r kind h (by omega) (k + 1) follows
  rw [← hk] at goesOn
  rw [goesOn, joins, stop]

end Items

/-! ## §2. Queries. -/

section Queries

variable {c : Catalog} {R : Readers} {n : Nat} {text : List Char}

/-- Nothing but a closing parenthesis is met where a statement ends. -/
theorem Closed.expect {piece : String} (h : Closed text)
    (head : (piece.toList.head?.any fun c => c != ')') = true) : expect piece text = none := by
  unfold Untyped.expect
  cases hp : piece.toList with
  | nil =>
      rw [hp] at head
      cases head
  | cons d ds =>
      rw [hp] at head
      cases text with
      | nil => rfl
      | cons e text =>
          rw [expectChars, if_neg]
          rintro rfl
          rw [h d rfl] at head
          simp at head

/-- What stands between the FROM item of a query and its LIMIT, if one does. -/
def clausePieces : List String := [" join ", " where ", " order by ", ", "]

theorem limit_follows (h : Closed text) (limit : Option Nat) :
    Follows ((renderLimit limit).toList ++ text)
      ∧ ∀ piece ∈ clausePieces, expect piece ((renderLimit limit).toList ++ text) = none := by
  have pieces : ∀ piece ∈ clausePieces, (piece.toList.head?.any fun c => c != ')') = true := by
    decide
  cases limit with
  | none => exact ⟨h.follows, fun piece hp => h.expect (pieces piece hp)⟩
  | some n =>
      have spelled : (renderLimit (some n)).toList ++ text
          = " limit ".toList ++ ((toString n).toList ++ text) := by
        simp [renderLimit]
      rw [spelled]
      refine ⟨follows_append _ rfl _, fun piece hp => ?_⟩
      simp only [clausePieces, List.mem_cons, List.not_mem_nil, or_false] at hp
      obtain rfl | rfl | rfl | rfl := hp <;> rfl

theorem limit_reads (h : Closed text) (limit : Option Nat) :
    clause " limit " count ((renderLimit limit).toList ++ text) = some (limit, text) := by
  cases limit with
  | none => exact clause_of_expect (h.expect (by decide))
  | some n =>
      have spelled : (renderLimit (some n)).toList ++ text
          = " limit ".toList ++ ((toString n).toList ++ text) := by
        simp [renderLimit]
      have first := chunk_append (plain_toString n).2 h.follows.apart
      rw [spelled]
      refine clause_append ?_
      rw [count, first, number_toString]

theorem order_text (e : QueryFuzz.Scalar) (es : List QueryFuzz.Scalar) (text : List Char) :
    (Scalar.renderOrderBy (e :: es)).toList ++ text
      = " order by ".toList ++ (commaList Scalar.render (e :: es) ++ text) := by
  simp [Scalar.renderOrderBy, commaList, renderTail_toList]

theorem order_follows (follows : Follows text)
    (stop : ∀ piece ∈ clausePieces, expect piece text = none) (es : List QueryFuzz.Scalar) :
    Follows ((Scalar.renderOrderBy es).toList ++ text)
      ∧ ∀ piece ∈ [" join ", " where ", ", "],
          expect piece ((Scalar.renderOrderBy es).toList ++ text) = none := by
  have pieces : ∀ piece ∈ [" join ", " where ", ", "], piece ∈ clausePieces := by decide
  cases es with
  | nil => exact ⟨follows, fun piece hp => stop piece (pieces piece hp)⟩
  | cons e es =>
      rw [order_text]
      refine ⟨follows_append _ rfl _, fun piece hp => ?_⟩
      simp only [List.mem_cons, List.not_mem_nil, or_false] at hp
      obtain rfl | rfl | rfl := hp <;> rfl

/-- Expressions with commas between them. -/
theorem listOf_reads (hR : R.Reads c n) {es : List QueryFuzz.Scalar} (some : es ≠ [])
    (h : Scalar.ComposedOfList c es) (short : (commaList Scalar.render es).length < n)
    (follows : Follows text) (stop : expect ", " text = none) :
    listOf R.scalar n (commaList Scalar.render es ++ text)
      = .some (Scalar.untypedList es, text) := by
  have composed := composedOf_of_mem h
  rw [untypedList_eq]
  refine listOf_append follows stop some (fun e he text follows => ?_) ?_
  · have := length_le_commaList Scalar.render he
    exact hR.scalar e (composed e he) (by omega) text follows
  · have := length_le_succ_commaList Scalar.render es
    omega

theorem order_reads (hR : R.Reads c n) {es : List QueryFuzz.Scalar}
    (h : Scalar.ComposedOfList c es) (short : (Scalar.renderOrderBy es).toList.length < n)
    (follows : Follows text) (stop : ∀ piece ∈ clausePieces, expect piece text = none) :
    ∃ terms, clause " order by " (listOf R.scalar n)
        ((Scalar.renderOrderBy es).toList ++ text) = some (terms, text)
      ∧ terms.getD [] = Scalar.untypedList es := by
  cases es with
  | nil => exact ⟨none, clause_of_expect (stop _ (by decide)), rfl⟩
  | cons e es =>
      have whole := congrArg List.length (order_text e es [])
      simp at whole
      refine ⟨some (Scalar.untypedList (e :: es)), ?_, rfl⟩
      rw [order_text]
      exact clause_append (listOf_reads hR (by simp) h (by omega) follows (stop _ (by decide)))

theorem where_follows (follows : Follows text) (stop : expect " join " text = none)
    (filter : Option QueryFuzz.Scalar) :
    Follows ((Scalar.renderWhere filter).toList ++ text)
      ∧ expect " join " ((Scalar.renderWhere filter).toList ++ text) = none := by
  cases filter with
  | none => exact ⟨follows, stop⟩
  | some e =>
      have spelled : (Scalar.renderWhere (some e)).toList ++ text
          = " where ".toList ++ (e.render.toList ++ text) := by
        simp [Scalar.renderWhere]
      rw [spelled]
      exact ⟨follows_append _ rfl _, rfl⟩

theorem where_reads (hR : R.Reads c n) {filter : Option QueryFuzz.Scalar}
    (h : Scalar.ComposedOfFilter c filter)
    (short : (Scalar.renderWhere filter).toList.length < n) (follows : Follows text)
    (stop : expect " where " text = none) :
    clause " where " R.scalar ((Scalar.renderWhere filter).toList ++ text)
      = some (Scalar.untypedOption filter, text) := by
  cases filter with
  | none => exact clause_of_expect stop
  | some e =>
      have spelled : ∀ text, (Scalar.renderWhere (some e)).toList ++ text
          = " where ".toList ++ (e.render.toList ++ text) := by
        simp [Scalar.renderWhere]
      have whole := congrArg List.length (spelled [])
      simp at whole
      rw [spelled]
      exact clause_append (hR.scalar e h (by omega) text follows)

theorem distinct_reads (hc : c.Spelled) {items : List QueryFuzz.Scalar} (some : items ≠ [])
    (h : Scalar.ComposedOfList c items) (follows : Follows text) (d : Bool) :
    distinct ((renderDistinct d).toList ++ (commaList Scalar.render items ++ text))
      = .some (d, commaList Scalar.render items ++ text) := by
  cases d with
  | true =>
      have first := chunk_append (s := "distinct") (by decide)
        (apart_cons (d := ' ') rfl (commaList Scalar.render items ++ text))
      show distinct ("distinct ".toList ++ _) = _
      rw [distinct, if_pos, expect_append]
      · rfl
      · exact congrArg Prod.fst first
  | false =>
      cases items with
      | nil => exact absurd rfl some
      | cons e es =>
          show distinct (commaList Scalar.render (e :: es) ++ text) = _
          have opens := render_opens hc h.1 (commaTail_follows Scalar.render es follows)
          rw [← List.append_assoc] at opens
          rw [distinct, if_neg]
          exact opens.noDistinct

theorem query_text (d : Bool) (items : List QueryFuzz.Scalar) (item : QueryFuzz.Relation)
    (filter : Option QueryFuzz.Scalar) (orderBy : List QueryFuzz.Scalar) (limit : Option Nat)
    (text : List Char) :
    (QueryFuzz.Select.mk d items item filter orderBy limit).render.toList ++ text
      = "select ".toList ++ ((renderDistinct d).toList ++ (commaList Scalar.render items
          ++ (" from ".toList ++ (item.render.toList ++ ((Scalar.renderWhere filter).toList
            ++ ((Scalar.renderOrderBy orderBy).toList
              ++ ((renderLimit limit).toList ++ text))))))) := by
  rw [Select.render_mk]
  simp only [String.toList_append, List.append_assoc, renderList_toList]

/-- **Queries are read back**, given that what is shorter is. -/
theorem query_reads (hc : c.Spelled) (hR : R.Reads c n) (q : QueryFuzz.Select)
    (h : q.ComposedOf c) (short : q.render.toList.length < n + 1) (closed : Closed text) :
    query R n (q.render.toList ++ text) = some (q.untyped, text) := by
  obtain ⟨d, items, item, filter, orderBy, limit⟩ := q
  obtain ⟨⟨kind, hitem⟩, ⟨nonempty, hitems⟩, hfilter, horder⟩ := h
  have whole := congrArg List.length (query_text d items item filter orderBy limit [])
  simp at whole
  -- from the end to the beginning: what follows each part, and that the part is read
  obtain ⟨limitFollows, limitStops⟩ := limit_follows closed limit
  have readLimit := limit_reads closed limit
  obtain ⟨orderFollows, orderStops⟩ := order_follows limitFollows limitStops orderBy
  obtain ⟨terms, readOrder, hterms⟩ :=
    order_reads hR horder (by omega) limitFollows limitStops
  obtain ⟨whereFollows, whereStops⟩ :=
    where_follows orderFollows (orderStops _ (by decide)) filter
  have readWhere :=
    where_reads hR hfilter (by omega) orderFollows (orderStops _ (by decide))
  have readSource := source_reads hc hR item kind hitem (by omega) whereFollows whereStops
  have fromFollows := fun text => follows_append " from " rfl text
  have readItems := fun text =>
    listOf_reads hR nonempty hitems (by omega) (fromFollows text) rfl
  have readDistinct := fun text => distinct_reads hc nonempty hitems (fromFollows text) d
  rw [query_text, query]
  simp only [expect_append, Option.bind_eq_bind, Option.bind_some, readDistinct, readItems,
    readSource, readWhere, readOrder, readLimit, hterms]
  rfl

end Queries

/-! ## §3. Statements. -/

section Statements

variable {c : Catalog} {R : Readers} {n : Nat} {text : List Char}

theorem row_reads (hc : c.Spelled) (hR : R.Reads c n) {es : List QueryFuzz.Scalar}
    (h : Scalar.ComposedOfList c es) (short : (renderRow es).toList.length < n) :
    row R n ((renderRow es).toList ++ text) = some (Scalar.untypedList es, text) := by
  have spelled : ∀ text, (renderRow es).toList ++ text
      = "(".toList ++ (commaList Scalar.render es ++ ')' :: text) := by
    simp [renderRow, renderList_toList]
  have whole := congrArg List.length (spelled [])
  simp at whole
  rw [spelled, row, expect_append]
  exact list_reads hc hR h (by omega)

theorem rows_of_mem {rows : List (List QueryFuzz.Scalar)} (h : Scalar.ComposedOfRows c rows) :
    ∀ row ∈ rows, Scalar.ComposedOfList c row := by
  induction rows with
  | nil => intro row hrow; cases hrow
  | cons row rows ih => exact List.forall_mem_cons.2 ⟨h.1, ih h.2⟩

theorem untypedRows_eq (rows : List (List QueryFuzz.Scalar)) :
    Scalar.untypedRows rows = rows.map Scalar.untypedList := by
  induction rows with
  | nil => rfl
  | cons row rows ih =>
      show Scalar.untypedList row :: Scalar.untypedRows rows = _
      rw [ih]
      rfl

theorem values_text (rows : List (List QueryFuzz.Scalar)) (text : List Char) :
    (QueryFuzz.Relation.values rows).render.toList ++ text
      = "values ".toList ++ (commaList renderRow rows ++ text) := by
  rw [Relation.render_values]
  simp only [String.toList_append, List.append_assoc, renderRows_toList]

theorem values_reads (hc : c.Spelled) (hR : R.Reads c n) {rows : List (List QueryFuzz.Scalar)}
    (h : (QueryFuzz.Relation.values rows).ComposedOf c)
    (short : (QueryFuzz.Relation.values rows).render.toList.length < n + 1)
    (closed : Closed text) :
    statement R n ((QueryFuzz.Relation.values rows).render.toList ++ text)
      = some ((QueryFuzz.Relation.values rows).untyped, text) := by
  obtain ⟨nonempty, hrows⟩ := h
  have composed := rows_of_mem hrows
  have whole := congrArg List.length (values_text rows [])
  simp at whole
  -- each row is shorter than the whole text, so it is read with the fuel that is left
  have readRows : listOf (row R n) n (commaList renderRow rows ++ text)
      = some (rows.map Scalar.untypedList, text) := by
    refine listOf_append closed.follows (closed.expect (by decide)) nonempty
      (fun r hr text _ => ?_) ?_
    · have := length_le_commaList renderRow hr
      exact row_reads hc hR (composed r hr) (by omega)
    · have := length_le_succ_commaList renderRow rows
      omega
  have first : (chunk ("values ".toList ++ (commaList renderRow rows ++ text))).1 = "values" :=
    congrArg Prod.fst (chunk_append (s := "values") (by decide) (apart_cons (d := ' ') rfl _))
  rw [values_text, statement, if_pos first, expect_append]
  · dsimp only [Option.bind_eq_bind, Option.bind_some]
    rw [readRows, ← untypedRows_eq]
    rfl
  · intro rest h
    injection h with h
    exact absurd h (by decide)

theorem insert_text (table : String) (targets : List Column) (source : QueryFuzz.Relation)
    (text : List Char) :
    (QueryFuzz.Relation.insert table targets source).render.toList ++ text
      = "insert into ".toList ++ (table.toList ++ (" (".toList
          ++ (commaList id (targets.map Column.name)
            ++ (") ".toList ++ (source.render.toList ++ text))))) := by
  rw [Relation.render_insert]
  simp only [String.toList_append, List.append_assoc, renderNames_toList]

theorem insert_reads (hc : c.Spelled) (hR : R.Reads c n) {table : String}
    {targets : List Column} {source : QueryFuzz.Relation}
    (h : (QueryFuzz.Relation.insert table targets source).ComposedOf c)
    (short : (QueryFuzz.Relation.insert table targets source).render.toList.length < n + 1)
    (closed : Closed text) :
    statement R n ((QueryFuzz.Relation.insert table targets source).render.toList ++ text)
      = some ((QueryFuzz.Relation.insert table targets source).untyped, text) := by
  obtain ⟨⟨t, ht, rfl, columns⟩, nonempty, kind, hsource⟩ := h
  obtain ⟨tableName, columnNames⟩ := hc.tables t ht
  have whole := congrArg List.length (insert_text t.name targets source [])
  simp at whole
  -- what is read, piece by piece: the table, the columns that are named, the source of rows
  have readTable := fun text =>
    chunk_append (plain_of_isName tableName).2 (follows_append " (" rfl text).apart
  have readNames : ∀ text, listOf name n (commaList id (targets.map Column.name)
      ++ (") ".toList ++ text)) = some (targets.map Column.name, ") ".toList ++ text) := by
    intro text
    have closes : Follows (") ".toList ++ text) := follows_append ") " rfl text
    have some : targets.map Column.name ≠ [] := by simpa using nonempty
    have reads : ∀ x ∈ targets.map Column.name, ReadsBack name id id x := by
      intro x hx text follows
      obtain ⟨column, hcolumn, rfl⟩ := List.mem_map.1 hx
      exact name_append (plain_of_isName (columnNames column (columns hcolumn))) follows.apart
    have count := length_le_succ_commaList id (targets.map Column.name)
    have all := listOf_append closes rfl some reads (show _ ≤ n by omega)
    rw [List.map_id] at all
    exact all
  have readSource := hR.statement source kind hsource (by omega) text closed
  have spelled := insert_text t.name targets source text
  generalize hall : (QueryFuzz.Relation.insert t.name targets source).render.toList ++ text = all
    at spelled
  have first : (chunk all).1 = "insert" := by
    rw [spelled]
    exact congrArg Prod.fst
      (chunk_append (s := "insert") (by decide) (apart_cons (d := ' ') rfl _))
  -- the first word tells an INSERT from a VALUES and from a query
  rw [statement, if_neg (by rw [first]; decide), if_pos first]
  · rw [spelled, insert]
    simp only [expect_append, Option.bind_eq_bind, Option.bind_some, readTable, readNames,
      readSource]
    rfl
  · intro rest h
    rw [spelled] at h
    injection h with h
    exact absurd h (by decide)

theorem setOp_text (op : SetOperator) (left right : QueryFuzz.Relation) (text : List Char) :
    (QueryFuzz.Relation.setOp op left right).render.toList ++ text
      = '(' :: (left.render.toList ++ ((") " ++ op.render ++ " (").toList
          ++ (right.render.toList ++ (")".toList ++ text)))) := by
  rw [Relation.render_setOp]
  simp

theorem setOp_reads (hR : R.Reads c n) {op : SetOperator} {left right : QueryFuzz.Relation}
    (h : (QueryFuzz.Relation.setOp op left right).ComposedOf c)
    (short : (QueryFuzz.Relation.setOp op left right).render.toList.length < n + 1) :
    statement R n ((QueryFuzz.Relation.setOp op left right).render.toList ++ text)
      = some ((QueryFuzz.Relation.setOp op left right).untyped, text) := by
  obtain ⟨⟨leftKind, hleft⟩, rightKind, hright⟩ := h
  have whole := congrArg List.length (setOp_text op left right [])
  simp at whole
  have closes : ∀ text, Closed ((") " ++ op.render ++ " (").toList ++ text) := by
    intro text
    simpa using closed_cons _
  have readLeft := fun text => hR.statement left leftKind hleft (by omega) _ (closes text)
  have readRight := fun text =>
    hR.statement right rightKind hright (by omega) (")".toList ++ text) (closed_cons text)
  rw [setOp_text, statement, setOp]
  simp only [expect_append, Option.bind_eq_bind, Option.bind_some, readLeft, setOperator_append,
    readRight]
  rfl

/-- **Statements are read back**, given that what is shorter is. -/
theorem statement_reads (hc : c.Spelled) (hR : R.Reads c n) (r : QueryFuzz.Relation)
    (kind : r.isItem = false) (h : r.ComposedOf c) (short : r.render.toList.length < n + 1)
    (closed : Closed text) :
    statement R n (r.render.toList ++ text) = some (r.untyped, text) := by
  cases r with
  | table | join => cases kind
  | select q =>
      obtain ⟨rest, begins⟩ := query_begins q
      have first : (chunk (q.render.toList ++ text)).1 = "select" := by
        rw [begins, List.append_assoc, List.cons_append,
          chunk_append (by decide) (apart_cons rfl _)]
      have read := query_reads hc hR q h short closed
      -- neither of the words that begin the other statements
      rw [Relation.render_select, statement, if_neg (by rw [first]; decide),
        if_neg (by rw [first]; decide), read]
      · rfl
      · intro rest h
        rw [begins] at h
        injection h with h
        exact absurd h (by decide)
  | setOp op left right => exact setOp_reads hR h short
  | values rows => exact values_reads hc hR h short closed
  | insert table targets source => exact insert_reads hc hR h short closed

/-! ## §4. The tower and whole texts. -/

/-- **Every level of the tower reads what is shorter.** -/
theorem readers_reads (hc : c.Spelled) (n : Nat) : (readers n).Reads c n := by
  induction n with
  | zero =>
      -- nothing is shorter than nothing
      constructor <;> intros <;> omega
  | succ n ih =>
      exact
        { scalar := fun e h short text follows => scalar_reads hc ih e h short follows
          source := fun r kind h short text follows stop =>
            source_reads hc ih r kind h short follows stop
          query := fun q h short text closed => query_reads hc ih q h short closed
          statement := fun r kind h short text closed =>
            statement_reads hc ih r kind h short closed }

end Statements

/-- **READING GIVES THE UNTYPED TREE BACK**: the text of a statement that is put together
from a catalog with well-spelled names is read as that statement less its types. -/
theorem Relation.ofText?_render {c : Catalog} (hc : c.Spelled) {r : QueryFuzz.Relation}
    (kind : r.isItem = false) (h : r.ComposedOf c) :
    Relation.ofText? r.render = some r.untyped := by
  have short : r.render.toList.length < r.render.length + 1 := by
    rw [String.length_toList]
    exact Nat.lt_succ_self _
  have whole := (readers_reads hc (r.render.length + 1)).statement r kind h short []
    (fun _ h => by cases h)
  rw [List.append_nil] at whole
  rw [Relation.ofText?, whole]

end Untyped

/-! ## §5. Sessions. -/

/-- **STATEMENTS WITH EQUAL TEXTS HAVE EQUAL UNTYPED TREES**, whatever the sessions that
generated them, over catalogs whose names are spelled as names and operators are. -/
theorem Session.untyped_eq_of_render_eq {s₁ s₁' s₂ s₂' : Session} {r₁ r₂ : Relation}
    (h₁ : s₁.generate = (.found r₁, s₁')) (h₂ : s₂.generate = (.found r₂, s₂'))
    (spelled₁ : s₁.catalog.Spelled) (spelled₂ : s₂.catalog.Spelled)
    (same : r₁.render = r₂.render) : r₁.untyped = r₂.untyped := by
  obtain ⟨kind₁, composed₁⟩ := Session.generate_composed h₁
  obtain ⟨kind₂, composed₂⟩ := Session.generate_composed h₂
  have read₁ := Untyped.Relation.ofText?_render spelled₁ kind₁ composed₁
  have read₂ := Untyped.Relation.ofText?_render spelled₂ kind₂ composed₂
  rw [same, read₂] at read₁
  exact (Option.some.inj read₁).symm

namespace Sample

/-- The sample draft with columns that have to be written where they are never NULL. -/
def strictDraft : Draft :=
  { draft with
    tables := draft.tables.map fun t =>
      { t with
        columns := t.columns.map fun column =>
          if column.type.nullable then column
          else { column with writability := .mustBeWritten } } }

/-- The sample session on that draft's catalog.  Its statements are other trees, for they
carry the columns of their tables. -/
def strictSession : Session := { session with catalog := strictDraft.build }

/-- The text of what was found. -/
def text? : Outcome Relation → Option String
  | .found r => some r.render
  | .nothing => none
  | .halted _ => none

theorem sessions_untyped_eq :
    ∃ r₁ s₁ r₂ s₂, session.generate = (.found r₁, s₁) ∧ strictSession.generate = (.found r₂, s₂)
      ∧ r₁.render = r₂.render ∧ r₁.untyped = r₂.untyped := by
  obtain ⟨r₁, s₁, h₁⟩ := session_generates
  obtain ⟨r₂, s₂, h₂⟩ : ∃ r s, strictSession.generate = (.found r, s) :=
    Outcome.exists_of_isFound (by decide +kernel)
  have texts : text? session.generate.1 = text? strictSession.generate.1 := by decide +kernel
  rw [h₁, h₂] at texts
  have same : r₁.render = r₂.render := Option.some.inj texts
  have spelled₁ : session.catalog.Spelled := by decide +kernel
  have spelled₂ : strictSession.catalog.Spelled := by decide +kernel
  exact ⟨r₁, s₁, r₂, s₂, h₁, h₂, same,
    Session.untyped_eq_of_render_eq h₁ h₂ spelled₁ spelled₂ same⟩

end Sample

end QueryFuzz
