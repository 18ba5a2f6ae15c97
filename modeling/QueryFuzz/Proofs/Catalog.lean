/-
  QueryFuzz.Proofs.Catalog
  ────────────────────────
  **WHAT A BUILT CATALOG GUARANTEES.**

  The index of a list files each entry under its key, in the list's order
  (`find_ofList`).  Building keeps usable tables and concrete operators and
  functions only, so that every look-up in a built catalog gives listed entries
  of the result type that was asked for, with concrete types throughout
  (`Draft.build_concrete`).
-/
import QueryFuzz.Catalog.Basic

namespace QueryFuzz

/-! ## §1. The index of a list. -/

namespace ResultIndex

variable {α : Type}

theorem mem_entries_of_mem_find {ix : ResultIndex α} {c : BaseType} {x : α}
    (h : x ∈ find ix c) : x ∈ entries ix := by
  induction ix with
  | nil => simp [find] at h
  | cons p rest ih =>
      obtain ⟨b, xs⟩ := p
      simp only [find] at h
      simp only [entries, List.flatMap_cons, List.mem_append]
      split at h
      · exact Or.inl h
      · exact Or.inr (ih h)

theorem find_foldl_insert (key : α → BaseType) (c : BaseType) (xs : List α) :
    ∀ ix : ResultIndex α, Ascending ix →
      find (xs.foldl (fun ix x => insert (key x) x ix) ix) c
        = find ix c ++ xs.filter fun x => decide (key x = c) := by
  induction xs with
  | nil =>
      intro ix _
      simp
  | cons x xs ih =>
      intro ix asc
      rw [List.foldl_cons, ih _ (ascending_insert asc (key x) x), find_insert asc,
        List.append_assoc]
      congr 1
      by_cases h : key x = c <;> simp [h]

/-- The entries under a base type are those of the list that produce it, in order. -/
theorem find_ofList (key : α → BaseType) (xs : List α) (c : BaseType) :
    find (ofList key xs) c = xs.filter fun x => decide (key x = c) := by
  have start : Ascending ([] : ResultIndex α) := List.Pairwise.nil
  simpa [ofList, find] using find_foldl_insert key c xs [] start

end ResultIndex

/-! ## §2. Concrete catalogs. -/

theorem SqlType.base_ne_any_iff {t : SqlType} : t.base ≠ .any ↔ t.isWildcard = false := by
  obtain ⟨base, nullable⟩ := t
  cases base <;> simp [isWildcard, BaseType.isWildcard]

/-- A catalog that never mentions the wildcard, and whose look-ups give entries of
the result type that was asked for. -/
structure Catalog.Concrete (c : Catalog) : Prop where
  columns : ∀ t ∈ c.tables, ∀ column ∈ t.columns, column.type.base ≠ .any
  operators : ∀ out, ∀ op ∈ c.operatorsFor out,
    op.out.base = out.base ∧ op.left.base ≠ .any ∧ op.right.base ≠ .any ∧ op.out.base ≠ .any
  functions : ∀ out, ∀ f ∈ c.functionsFor out,
    f.out.base = out.base ∧ (∀ t ∈ f.inputs, t.base ≠ .any) ∧ f.out.base ≠ .any

/-- An operator that a look-up gives is an entry of the catalog. -/
theorem Catalog.mem_operators {c : Catalog} {out : SqlType} {op : Operator}
    (h : op ∈ c.operatorsFor out) : op ∈ c.operators.entries :=
  ResultIndex.mem_entries_of_mem_find h

/-- A function that a look-up gives is an entry of the catalog. -/
theorem Catalog.mem_functions {c : Catalog} {out : SqlType} {f : SqlFunction}
    (h : f ∈ c.functionsFor out) : f ∈ c.functions.entries :=
  ResultIndex.mem_entries_of_mem_find h

/-- **Whatever is built is concrete.** -/
theorem Draft.build_concrete (d : Draft) : d.build.Concrete where
  columns := by
    intro t ht column hcolumn
    obtain ⟨-, usable⟩ := List.mem_filter.1 ht
    simp only [Table.isUsable, Bool.and_eq_true, List.all_eq_true] at usable
    rw [SqlType.base_ne_any_iff]
    simpa using usable.2 column hcolumn
  operators := by
    intro out op hop
    unfold Catalog.operatorsFor Draft.build at hop
    rw [ResultIndex.find_ofList, List.mem_filter, List.mem_filter] at hop
    obtain ⟨⟨-, concrete⟩, base⟩ := hop
    simp only [Operator.isConcrete, Bool.and_eq_true, Bool.not_eq_true'] at concrete
    simp only [SqlType.base_ne_any_iff]
    exact ⟨of_decide_eq_true base, concrete.1.1, concrete.1.2, concrete.2⟩
  functions := by
    intro out f hf
    unfold Catalog.functionsFor Draft.build at hf
    rw [ResultIndex.find_ofList, List.mem_filter, List.mem_filter] at hf
    obtain ⟨⟨-, concrete⟩, base⟩ := hf
    simp only [SqlFunction.isConcrete, Bool.and_eq_true, Bool.not_eq_true', List.all_eq_true]
      at concrete
    simp only [SqlType.base_ne_any_iff]
    exact ⟨of_decide_eq_true base, concrete.2, concrete.1⟩

end QueryFuzz
