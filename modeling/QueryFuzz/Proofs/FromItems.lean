/-
  QueryFuzz.Proofs.FromItems
  ──────────────────────────
  **WHAT A FROM ITEM BRINGS INTO VIEW.**

  A FROM item comes with the scope that sees it.  A join builds that scope from
  the two that come with its sides: it cuts off what both sides were handed and
  puts the rest behind what it was handed itself.  So whatever the item is, the
  scope grows by the references at the item's leaves, from left to right, and by
  nothing else.

  A scope is a value: what a generator is handed is not changed by it, and the
  second side of a join is handed the very scope that the first one was.

  Main result:
    * `Generate.fromItems_extend` — tables, joins and FROM items extend the scope by
      their leaves, and have the leaves' columns.
-/
import QueryFuzz.Proofs.Aliases

namespace QueryFuzz

/-! ## §1. FROM items. -/

/-- Tables, and joins of FROM items that list the columns of the left side and then those
of the right one. -/
inductive Relation.IsFromItem : Relation → Prop where
  | table (ref : TableRef) : IsFromItem (.table ref)
  | join {lhs rhs : Relation} (on : Scalar) (left : IsFromItem lhs) (right : IsFromItem rhs) :
      IsFromItem (.join lhs rhs on (lhs.columns ++ rhs.columns))

/-- **A FROM item has the columns of its leaves**, from left to right. -/
theorem Relation.IsFromItem.columns_eq {r : Relation} (h : r.IsFromItem) :
    r.columns = r.leaves.flatMap fun ref => ref.table.columns := by
  induction h with
  | table ref => exact (List.flatMap_singleton ..).symm
  | @join lhs rhs on left right ihleft ihright =>
      calc lhs.columns ++ rhs.columns
          = (lhs.leaves.flatMap fun ref => ref.table.columns)
              ++ rhs.leaves.flatMap fun ref => ref.table.columns := by rw [ihleft, ihright]
        _ = (lhs.leaves ++ rhs.leaves).flatMap fun ref => ref.table.columns :=
            List.flatMap_append.symm

namespace Generate

variable {S : Setting}

/-- Whatever is derived as a FROM item is one. -/
theorem Derives.isFromItem {scope : Scope} {r : Relation} {k k' : Nat}
    (d : Derives S (.source scope r) k k') : r.IsFromItem := by
  generalize hj : Judgement.source scope r = j at d
  induction d generalizing scope r with
  | skip le d ih => exact ih hj
  | table listed =>
      cases hj
      exact .table _
  | join above shallow hleft hright hon ihleft ihright ihon =>
      cases hj
      exact .join _ (ihleft rfl) (ihright rfl)
  | _ => cases hj

/-! ## §2. Scopes. -/

/-- The scope `inner` is one level below `scope` and sees the leaves of the item besides:
each one once, from left to right, behind what was in view. -/
structure Scope.Extends (scope inner : Scope) (item : Relation) : Prop where
  fromItem : item.IsFromItem
  level : inner.level = scope.level + 1
  refs : inner.refs = scope.refs ++ item.leaves
  apart : Apart item.leaves
  columns : item.columns = item.leaves.flatMap fun ref => ref.table.columns

theorem Scope.extends_seeing (scope : Scope) {item : Relation} (h : item.IsFromItem)
    (apart : Apart item.leaves) : scope.Extends (scope.child.seeing item.leaves) item where
  fromItem := h
  level := rfl
  refs := rfl
  apart := apart
  columns := h.columns_eq

/-- A derived FROM item and the scope that sees it. -/
theorem Derives.extends {scope : Scope} {item : Relation} {k k' : Nat}
    (d : Derives S (.source scope item) k k') :
    scope.Extends (scope.child.seeing item.leaves) item := by
  have apart : Apart item.references := d.numbered.nodup
  exact scope.extends_seeing d.isFromItem (apart.sublist item.leaves_sublist)

/-! ## §3. The generators. -/

section Extend

variable {lower : Lower}

theorem source_extends (hl : lower.Sound S) (scope : Scope) (k : Nat) :
    (source S lower scope).Finds k fun p _ => scope.Extends p.1 p.2 := by
  refine (source_sound hl scope k).mono fun p k' _ h => ?_
  obtain ⟨sees, derived⟩ := h
  rw [sees]
  exact derived.extends

/-- A join extends every scope that it is called on, at the depth limit too. -/
theorem join_extends (hl : lower.Sound S) (scope : Scope) (k : Nat) :
    (join lower scope).Finds k fun p _ => scope.Extends p.1 p.2 := by
  refine (join_finds hl scope k).mono fun p k' _ h => ?_
  obtain ⟨lhs, rhs, on, k₁, k₂, hleft, hright, hon, rfl⟩ := h
  -- the aliases of the right side were handed out after those of the left one
  have apart : Apart (lhs.references ++ rhs.references) :=
    (hleft.numbered.append hright.numbered hleft.le hright.le).nodup
  have leaves : Apart (lhs.leaves ++ rhs.leaves) :=
    apart.sublist (lhs.leaves_sublist.append rhs.leaves_sublist)
  exact scope.extends_seeing (.join on hleft.isFromItem hright.isFromItem) leaves

theorem tableRef_extends (scope : Scope) (k : Nat) :
    (tableRef S scope).Finds k fun p _ => scope.Extends p.1 (.table p.2) := by
  refine (tableRef_sound scope k).mono fun p k' _ h => ?_
  obtain ⟨sees, derived⟩ := h
  rw [sees]
  exact derived.extends

end Extend

/-- **FROM items extend a scope by just what they introduce**, whatever the scope and
whatever the words: what `source`, `join` or `tableRef` find consists of tables and joins,
is seen one level below, brings the leaves of the item into view, all of them and none
twice, and has the columns of those leaves. -/
theorem fromItems_extend (S : Setting) (n : Nat) (scope : Scope) (words : WordStream)
    (state : GenState) :
    (∀ inner item state', source S (tower S n) scope words state = (.found (inner, item), state') →
        scope.Extends inner item)
      ∧ (∀ inner item state', join (tower S n) scope words state = (.found (inner, item), state') →
        scope.Extends inner item)
      ∧ ∀ inner ref state', tableRef S scope words state = (.found (inner, ref), state') →
        scope.Extends inner (.table ref) := by
  have sound := tower_sound S n
  refine ⟨?_, ?_, ?_⟩
  · intro inner item state' found
    exact (source_extends sound scope _).of_found found
  · intro inner item state' found
    exact (join_extends sound scope _).of_found found
  · intro inner ref state' found
    exact (tableRef_extends scope _).of_found found

end Generate

namespace Sample

open Generate

/-- Two great words make a FROM item a join; the small ones behind them leave its sides
tables. -/
def joining : WordStream := fun i => if i < 2 then 0xFFFFFFFF else 0

/-- A scope one level below the outermost, with a reference in view already. -/
def nested : Scope := ⟨1, [⟨⟨"v", []⟩, "tab_9"⟩]⟩

/-- The references that the item which was found introduces. -/
def introduced : Outcome (Scope × Relation) → List TableRef
  | .found (_, item) => item.leaves
  | .nothing => []
  | .halted _ => []

/-- The FROM item is a join of two tables. -/
theorem nested_extends :
    (∃ inner item state', source session.setting (tower session.setting 4) nested joining {} =
        (.found (inner, item), state') ∧ item.leaves.length = 2 ∧ nested.Extends inner item)
      ∧ (∃ inner item state', join (tower session.setting 4) nested joining {} =
        (.found (inner, item), state') ∧ nested.Extends inner item)
      ∧ ∃ inner ref state', tableRef session.setting nested joining {} =
        (.found (inner, ref), state') ∧ nested.Extends inner (.table ref) := by
  obtain ⟨sources, joins, tables⟩ := fromItems_extend session.setting 4 nested joining {}
  have two : (introduced
      (source session.setting (tower session.setting 4) nested joining {}).1).length = 2 := by
    decide +kernel
  obtain ⟨⟨inner₁, item₁⟩, s₁, h₁⟩ := Outcome.exists_of_isFound
    (show (source session.setting (tower session.setting 4) nested joining {}).1.isFound = true
      by decide +kernel)
  obtain ⟨⟨inner₂, item₂⟩, s₂, h₂⟩ := Outcome.exists_of_isFound
    (show (join (tower session.setting 4) nested joining {}).1.isFound = true by decide +kernel)
  obtain ⟨⟨inner₃, ref₃⟩, s₃, h₃⟩ := Outcome.exists_of_isFound
    (show (tableRef session.setting nested joining {}).1.isFound = true by decide +kernel)
  rw [h₁] at two
  exact ⟨⟨inner₁, item₁, s₁, h₁, two, sources inner₁ item₁ s₁ h₁⟩,
    ⟨inner₂, item₂, s₂, h₂, joins inner₂ item₂ s₂ h₂⟩,
    inner₃, ref₃, s₃, h₃, tables inner₃ ref₃ s₃ h₃⟩

end Sample

end QueryFuzz
