/-
  QueryFuzz.Catalog.ResultIndex
  ─────────────────────────────
  **ENTRIES GROUPED BY THE BASE TYPE THEY PRODUCE.**

  A list of buckets, one for each base type that has entries, bases in
  ascending order; a bucket keeps its entries in the order they came.

      find (insert b x ix) c  — `find ix c`, and `x` behind it when `b = c`
      entries ix              — all buckets one after the other
-/
import QueryFuzz.SqlType

namespace QueryFuzz

/-- Buckets of entries under the base type they produce. -/
abbrev ResultIndex (α : Type) := List (BaseType × List α)

namespace ResultIndex

variable {α : Type}

/-- The entries under a base type, in the order they came. -/
def find : ResultIndex α → BaseType → List α
  | [], _ => []
  | (b, xs) :: rest, c => if b = c then xs else find rest c

/-- Put an entry at the end of the bucket of its base type, which is opened in
its place when it is the first of them. -/
def insert (b : BaseType) (x : α) : ResultIndex α → ResultIndex α
  | [] => [(b, [x])]
  | (c, xs) :: rest =>
      if b = c then (c, xs ++ [x]) :: rest
      else if b.rank < c.rank then (b, [x]) :: (c, xs) :: rest
      else (c, xs) :: insert b x rest

/-- All entries, bucket after bucket. -/
def entries (ix : ResultIndex α) : List α := ix.flatMap Prod.snd

/-- The index of a list of entries. -/
def ofList (key : α → BaseType) (xs : List α) : ResultIndex α :=
  xs.foldl (fun ix x => insert (key x) x ix) []

/-! ## §1. Look-ups after an insertion. -/

/-- Every bucket stands before the buckets of greater base types. -/
def Ascending (ix : ResultIndex α) : Prop :=
  ix.Pairwise fun p q => p.1.rank < q.1.rank

theorem find_eq_nil_of_forall_ne {ix : ResultIndex α} {c : BaseType}
    (h : ∀ p ∈ ix, p.1 ≠ c) : find ix c = [] := by
  induction ix with
  | nil => rfl
  | cons p rest ih =>
      obtain ⟨b, xs⟩ := p
      have hb : b ≠ c := h (b, xs) (by simp)
      simp only [find, hb, if_false]
      exact ih fun q hq => h q (by simp [hq])

/-- A base that comes before all buckets has no entries. -/
theorem find_eq_nil_of_lt {ix : ResultIndex α} {c : BaseType}
    (h : ∀ p ∈ ix, c.rank < p.1.rank) : find ix c = [] :=
  find_eq_nil_of_forall_ne fun p hp same => by
    have := h p hp
    rw [same] at this
    omega

/-- **An entry is found behind those that were there**, and under no other base. -/
theorem find_insert {ix : ResultIndex α} (asc : Ascending ix)
    (b : BaseType) (x : α) (c : BaseType) :
    find (insert b x ix) c = find ix c ++ if b = c then [x] else [] := by
  induction ix with
  | nil => by_cases h : b = c <;> simp [insert, find, h]
  | cons p rest ih =>
      obtain ⟨d, xs⟩ := p
      obtain ⟨first, ascending⟩ := List.pairwise_cons.1 asc
      simp only [insert]
      split
      · rename_i same
        subst same
        by_cases h : b = c <;> simp [find, h]
      rename_i other
      split
      · -- a bucket is opened before this one, for there was none of its base
        rename_i less
        by_cases h : b = c
        · subst h
          have none : find ((d, xs) :: rest) b = [] :=
            find_eq_nil_of_lt (List.forall_mem_cons.2 ⟨less, fun q hq =>
              Nat.lt_trans less (first q hq)⟩)
          rw [none, find, if_pos rfl, if_pos rfl, List.nil_append]
        · rw [find, if_neg h, if_neg h, List.append_nil]
      · by_cases h : d = c
        · subst h
          simp [find, other]
        · simp only [find, h, if_false]
          exact ih ascending

/-- A bucket after an insertion is one from before, or the one that was added to. -/
theorem mem_insert {ix : ResultIndex α} {b : BaseType} {x : α} {p : BaseType × List α}
    (h : p ∈ insert b x ix) :
    p ∈ ix ∨ p.1 = b ∧ ∃ xs, p.2 = xs ++ [x] ∧ (xs = [] ∨ (b, xs) ∈ ix) := by
  induction ix with
  | nil =>
      obtain rfl := List.mem_singleton.1 h
      exact .inr ⟨rfl, [], rfl, .inl rfl⟩
  | cons q rest ih =>
      obtain ⟨c, xs⟩ := q
      simp only [insert] at h
      split at h
      · rename_i same
        subst same
        obtain rfl | h := List.mem_cons.1 h
        · exact .inr ⟨rfl, xs, rfl, .inr List.mem_cons_self⟩
        · exact .inl (List.mem_cons_of_mem _ h)
      · split at h
        · obtain rfl | h := List.mem_cons.1 h
          · exact .inr ⟨rfl, [], rfl, .inl rfl⟩
          · exact .inl h
        · obtain rfl | h := List.mem_cons.1 h
          · exact .inl List.mem_cons_self
          · obtain old | ⟨same, ys, grown, there⟩ := ih h
            · exact .inl (List.mem_cons_of_mem _ old)
            · exact .inr ⟨same, ys, grown, there.imp_right (List.mem_cons_of_mem _)⟩

/-- Buckets stay in order, whichever is added to or opened. -/
theorem ascending_insert {ix : ResultIndex α} (asc : Ascending ix)
    (b : BaseType) (x : α) : Ascending (insert b x ix) := by
  induction ix with
  | nil => exact List.pairwise_singleton ..
  | cons p rest ih =>
      obtain ⟨c, xs⟩ := p
      obtain ⟨first, ascending⟩ := List.pairwise_cons.1 asc
      simp only [insert]
      split
      · exact List.pairwise_cons.2 ⟨first, ascending⟩
      rename_i other
      split
      · -- the new bucket comes before this one, and so before all that are behind it
        rename_i less
        exact List.pairwise_cons.2 ⟨List.forall_mem_cons.2 ⟨less, fun q hq =>
          Nat.lt_trans less (first q hq)⟩, asc⟩
      · rename_i notLess
        refine List.pairwise_cons.2 ⟨fun q hq => ?_, ih ascending⟩
        obtain old | ⟨same, -⟩ := mem_insert hq
        · exact first q old
        · -- of the two bases this bucket's is not the greater one, nor are they the same
          have ne : b.rank ≠ c.rank := fun same => other (BaseType.rank_injective same)
          rw [same]
          show c.rank < b.rank
          omega

end ResultIndex

end QueryFuzz
