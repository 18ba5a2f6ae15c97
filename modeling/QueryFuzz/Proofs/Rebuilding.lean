/-
  QueryFuzz.Proofs.Rebuilding
  ───────────────────────────
  **BUILDING A BUILT CATALOG AGAIN CHANGES NOTHING.**

  A catalog is extended by way of its draft, which lists operators and functions
  bucket after bucket and no longer in the order in which they were added.  The
  index keeps that order within each bucket, and that is all that a look-up can
  see: an index is determined by its look-ups.  So a built catalog comes back as
  it was, and putting a table in place touches nothing but tables.

      ResultIndex.Filed — buckets ascend, hold something, and only what belongs there
      Catalog.Built     — usable tables, concrete entries, indexes that are filed

  Main results:
    * `ResultIndex.Filed.ext` — filed indexes with the same look-ups are equal;
    * `Catalog.Built.build_draft` — a built catalog is rebuilt as it is;
    * `Catalog.Built.withTable_eq` — the catalog with one table put in place;
    * `Catalog.Built.withTable_of_free` — a usable table of a free name comes last.
-/
import QueryFuzz.Proofs.Catalog

namespace QueryFuzz

/-! ## §1. Indexes that are filed. -/

namespace ResultIndex

variable {α : Type}

/-- Buckets ascend, none is empty, and each holds only entries of its own base. -/
structure Filed (key : α → BaseType) (ix : ResultIndex α) : Prop where
  ascending : Ascending ix
  some : ∀ p ∈ ix, p.2 ≠ []
  filed : ∀ p ∈ ix, ∀ x ∈ p.2, key x = p.1

section Filed

variable {key : α → BaseType} {ix : ResultIndex α}

theorem filed_nil (key : α → BaseType) : Filed key [] where
  ascending := List.Pairwise.nil
  some := fun _ h => by cases h
  filed := fun _ h => by cases h

/-- The first bucket stands apart from the others, which are filed by themselves. -/
theorem Filed.tail {b : BaseType} {xs : List α} {rest : ResultIndex α}
    (h : Filed key ((b, xs) :: rest)) :
    Filed key rest ∧ (∀ p ∈ rest, b.rank < p.1.rank) ∧ xs ≠ [] ∧ ∀ x ∈ xs, key x = b := by
  obtain ⟨ascending, some, filed⟩ := h
  obtain ⟨first, ascending⟩ := List.pairwise_cons.1 ascending
  obtain ⟨here, some⟩ := List.forall_mem_cons.1 some
  obtain ⟨own, filed⟩ := List.forall_mem_cons.1 filed
  exact ⟨⟨ascending, some, filed⟩, first, here, own⟩

theorem Filed.insert (h : Filed key ix) (x : α) : Filed key (insert (key x) x ix) := by
  refine ⟨ascending_insert h.ascending _ _, fun p hp => ?_, fun p hp y hy => ?_⟩
  · obtain old | ⟨-, xs, grown, -⟩ := mem_insert hp
    · exact h.some p old
    · rw [grown]
      simp
  · obtain old | ⟨same, xs, grown, there⟩ := mem_insert hp
    · exact h.filed p old y hy
    · rw [grown, List.mem_append, List.mem_singleton] at hy
      rw [same]
      obtain hy | rfl := hy
      · obtain rfl | there := there
        · cases hy
        · exact h.filed _ there y hy
      · rfl

/-- Whatever is inserted, the index stays filed. -/
theorem filed_ofList (key : α → BaseType) (xs : List α) : Filed key (ofList key xs) := by
  have inserted : ∀ ix, Filed key ix →
      Filed key (xs.foldl (fun ix x => ResultIndex.insert (key x) x ix) ix) := by
    induction xs with
    | nil => exact fun _ h => h
    | cons x xs ih => exact fun ix h => ih _ (h.insert x)
  exact inserted [] (filed_nil key)

/-- The entries under a base are those of the whole list that belong there. -/
theorem Filed.filter_entries (h : Filed key ix) (c : BaseType) :
    ix.entries.filter (fun x => decide (key x = c)) = find ix c := by
  induction ix with
  | nil => rfl
  | cons p rest ih =>
      obtain ⟨b, xs⟩ := p
      obtain ⟨filed, first, -, own⟩ := h.tail
      have split : entries ((b, xs) :: rest) = xs ++ entries rest := rfl
      rw [split, List.filter_append, ih filed]
      by_cases same : b = c
      · -- all of the first bucket, and nothing of those behind it
        subst same
        have all : xs.filter (fun x => decide (key x = b)) = xs :=
          List.filter_eq_self.2 fun x hx => by simp [own x hx]
        have none : find rest b = [] := find_eq_nil_of_forall_ne fun q hq same => by
          have := first q hq
          rw [same] at this
          omega
        simp [all, none, find]
      · have none : xs.filter (fun x => decide (key x = c)) = [] :=
          List.filter_eq_nil_iff.2 fun x hx => by simp [own x hx, same]
        simp [none, find, same]

/-- **An index that is filed is determined by its look-ups.** -/
theorem Filed.ext {ix' : ResultIndex α} (h : Filed key ix) (h' : Filed key ix')
    (same : ∀ c, find ix c = find ix' c) : ix = ix' := by
  -- by induction on both lists of buckets: were their first bases different, the smaller
  -- one would have entries in one of the indexes only
  induction ix generalizing ix' with
  | nil =>
      cases ix' with
      | nil => rfl
      | cons p rest =>
          obtain ⟨b, xs⟩ := p
          obtain ⟨-, -, some, -⟩ := h'.tail
          have none : [] = xs := by simpa [find] using same b
          exact absurd none.symm some
  | cons p rest ih =>
      obtain ⟨b, xs⟩ := p
      obtain ⟨filed, first, some, -⟩ := h.tail
      cases ix' with
      | nil =>
          have none : xs = [] := by simpa [find] using same b
          exact absurd none some
      | cons p' rest' =>
          obtain ⟨b', xs'⟩ := p'
          obtain ⟨filed', first', some', -⟩ := h'.tail
          have ranks : b = b' := by
            refine BaseType.rank_injective ?_
            obtain less | equal | more := Nat.lt_trichotomy b.rank b'.rank
            · have apart : ∀ q ∈ (b', xs') :: rest', b.rank < q.1.rank :=
                List.forall_mem_cons.2 ⟨less, fun q hq => Nat.lt_trans less (first' q hq)⟩
              have none := same b
              rw [find_eq_nil_of_lt apart, find, if_pos rfl] at none
              exact absurd none some
            · exact equal
            · have apart : ∀ q ∈ (b, xs) :: rest, b'.rank < q.1.rank :=
                List.forall_mem_cons.2 ⟨more, fun q hq => Nat.lt_trans more (first q hq)⟩
              have none := same b'
              rw [find_eq_nil_of_lt apart, find, if_pos rfl] at none
              exact absurd none.symm some'
          subst ranks
          have bucket : xs = xs' := by simpa [find] using same b
          subst bucket
          have others : rest = rest' := by
            refine ih filed filed' fun c => ?_
            by_cases here : b = c
            · subst here
              rw [find_eq_nil_of_lt first, find_eq_nil_of_lt first']
            · simpa [find, here] using same c
          rw [others]

/-- **An index is the index of its entries**, bucket after bucket. -/
theorem Filed.ofList_entries (h : Filed key ix) : ofList key ix.entries = ix :=
  (filed_ofList key ix.entries).ext h fun c => by rw [find_ofList, h.filter_entries]

/-- All entries of the index of a list are entries of the list. -/
theorem mem_of_mem_entries_ofList {xs : List α} {x : α} (h : x ∈ entries (ofList key xs)) :
    x ∈ xs := by
  have found : x ∈ find (ofList key xs) (key x) := by
    rw [← (filed_ofList key xs).filter_entries, List.mem_filter]
    exact ⟨h, by simp⟩
  rw [find_ofList] at found
  exact (List.mem_filter.1 found).1

end Filed

end ResultIndex

/-! ## §2. Built catalogs. -/

/-- Every table is usable, every operator and function concrete and filed under the base
that it produces. -/
structure Catalog.Built (c : Catalog) : Prop where
  tables : ∀ t ∈ c.tables, t.isUsable = true
  operators : c.operators.Filed (·.out.base)
  functions : c.functions.Filed (·.out.base)
  concreteOperators : ∀ o ∈ c.operators.entries, o.isConcrete = true
  concreteFunctions : ∀ f ∈ c.functions.entries, f.isConcrete = true

/-- **Whatever is built is built well.** -/
theorem Draft.build_built (d : Draft) : d.build.Built where
  tables := fun _ h => (List.mem_filter.1 h).2
  operators := ResultIndex.filed_ofList _ _
  functions := ResultIndex.filed_ofList _ _
  concreteOperators := fun _ h =>
    (List.mem_filter.1 (ResultIndex.mem_of_mem_entries_ofList h)).2
  concreteFunctions := fun _ h =>
    (List.mem_filter.1 (ResultIndex.mem_of_mem_entries_ofList h)).2

namespace Catalog

section Built

variable {c : Catalog}

/-- Any draft with a built catalog's operators and functions is built with them in the same
order, whatever its tables are. -/
theorem Built.build_eq (h : c.Built) (tables : List Table) :
    Draft.build { c.draft with tables := tables }
      = { c with tables := tables.filter Table.isUsable } := by
  have operators : c.operators.entries.filter Operator.isConcrete = c.operators.entries :=
    List.filter_eq_self.2 h.concreteOperators
  have functions : c.functions.entries.filter SqlFunction.isConcrete = c.functions.entries :=
    List.filter_eq_self.2 h.concreteFunctions
  unfold Draft.build Catalog.draft
  dsimp only
  rw [operators, functions, h.operators.ofList_entries, h.functions.ofList_entries]

/-- **A built catalog is rebuilt as it is.** -/
theorem Built.build_draft (h : c.Built) : c.draft.build = c := by
  have usable : c.tables.filter Table.isUsable = c.tables := List.filter_eq_self.2 h.tables
  have again := h.build_eq c.tables
  rw [usable] at again
  exact again

/-- **Putting a table in place touches nothing but tables**: those of its name make way for
it, and it comes last unless it is unusable. -/
theorem Built.withTable_eq (h : c.Built) (t : Table) :
    c.withTable t = { c with
      tables := c.tables.filter (fun u => decide (u.name ≠ t.name))
        ++ if t.isUsable then [t] else [] } := by
  have others : (c.tables.filter fun u => decide (u.name ≠ t.name)).filter Table.isUsable
      = c.tables.filter fun u => decide (u.name ≠ t.name) :=
    List.filter_eq_self.2 fun u hu => h.tables u (List.mem_filter.1 hu).1
  have last : [t].filter Table.isUsable = if t.isUsable then [t] else [] := by
    cases usable : t.isUsable <;> simp [usable]
  unfold withTable draftWith
  rw [h.build_eq, List.filter_append, others, last]

/-- A look-up finds nothing under a name that no table has. -/
theorem table?_eq_none_iff {name : String} :
    c.table? name = none ↔ ∀ t ∈ c.tables, t.name ≠ name := by
  unfold table?
  rw [List.find?_eq_none]
  simp

/-- **A usable table of a free name comes behind all others.** -/
theorem Built.withTable_of_free (h : c.Built) {t : Table} (free : c.table? t.name = none)
    (usable : t.isUsable = true) : c.withTable t = { c with tables := c.tables ++ [t] } := by
  have kept : c.tables.filter (fun u => decide (u.name ≠ t.name)) = c.tables :=
    List.filter_eq_self.2 fun u hu => by simpa using table?_eq_none_iff.1 free u hu
  rw [h.withTable_eq, kept, usable]
  rfl

end Built

/-- A catalog with a table put in place is built again. -/
theorem withTable_built (c : Catalog) (t : Table) : (c.withTable t).Built :=
  (c.draftWith t).build_built

end Catalog

end QueryFuzz
