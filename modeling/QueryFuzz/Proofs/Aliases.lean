/-
  QueryFuzz.Proofs.Aliases
  ────────────────────────
  **ALIASES ARE NUMBERED IN THE ORDER OF THE STATEMENT.**

  One counter numbers the aliases of a statement.  Attempts that fail leave gaps,
  and a tree is put together from what succeeded, so its aliases need not be
  `tab_1`, `tab_2` and so on, but their numbers still ascend along the whole
  tree, in the order in which it is generated: FROM before what is said about it,
  left before right, rows one after the other, subqueries in their places.
  Ascending numbers are different numbers, and different aliases shadow nothing.

      Relation.references — all table references of a tree, in that order
      Relation.Unshadowed — no table reference takes an alias that is visible where
                            it stands

  Main results:
    * `Derives.numbered` — every derivation numbers its table references;
    * `Relation.unshadowed` — different aliases shadow nothing, in any tree;
    * `Session.generate_numbered` — both hold of every generated statement.
-/
import QueryFuzz.Proofs.Scoping

namespace QueryFuzz

/-! ## §1. All table references of a tree. -/

mutual

/-- The table references in the subqueries of an expression. -/
def Scalar.references : Scalar → List TableRef
  | .case condition yes no => condition.references ++ (yes.references ++ no.references)
  | .coalesce first second => first.references ++ second.references
  | .const .. => []
  | .column .. => []
  | .binary _ left right => left.references ++ right.references
  | .call _ args => Scalar.referencesOfList args
  | .exists query => query.references
  | .subquery query _ => query.references

/-- Those of expressions one after the other. -/
def Scalar.referencesOfList : List Scalar → List TableRef
  | [] => []
  | e :: es => e.references ++ Scalar.referencesOfList es

/-- Those of rows one after the other. -/
def Scalar.referencesOfRows : List (List Scalar) → List TableRef
  | [] => []
  | row :: rows => Scalar.referencesOfList row ++ Scalar.referencesOfRows rows

/-- Those of a WHERE, if there is one. -/
def Scalar.referencesOfFilter : Option Scalar → List TableRef
  | none => []
  | some e => e.references

/-- Every table reference of a relation, at any depth: those of a join's sides before
those in its ON. -/
def Relation.references : Relation → List TableRef
  | .table ref => [ref]
  | .join lhs rhs on _ => lhs.references ++ (rhs.references ++ on.references)
  | .select query => query.references
  | .setOp _ left right => left.references ++ right.references
  | .values rows => Scalar.referencesOfRows rows
  | .insert _ _ source => source.references

/-- Every table reference of a query: FROM, items, WHERE, ORDER BY. -/
def Select.references : Select → List TableRef
  | .mk _ items source filter orderBy _ =>
      source.references ++ (Scalar.referencesOfList items
        ++ (Scalar.referencesOfFilter filter ++ Scalar.referencesOfList orderBy))

end

theorem Select.references_withLimit (q : Select) (l : Option Nat) :
    (q.withLimit l).references = q.references := by
  cases q
  rfl

/-- What a FROM item brings into view is among its table references, in the same order. -/
theorem Relation.leaves_sublist : ∀ r : Relation, r.leaves.Sublist r.references
  | .table ref => List.Sublist.refl [ref]
  | .join lhs rhs on _ => by
      have behind : rhs.leaves.Sublist (rhs.references ++ on.references) :=
        rhs.leaves_sublist.trans (List.sublist_append_left ..)
      exact lhs.leaves_sublist.append behind
  | .select _ => List.nil_sublist _
  | .setOp .. => List.nil_sublist _
  | .values _ => List.nil_sublist _
  | .insert .. => List.nil_sublist _

/-! ## §2. Aliases that shadow nothing. -/

mutual

/-- No table reference in the expression takes the alias of one that is visible there. -/
def Scalar.Unshadowed (visible : List TableRef) : Scalar → Prop
  | .case condition yes no =>
      condition.Unshadowed visible ∧ yes.Unshadowed visible ∧ no.Unshadowed visible
  | .coalesce first second => first.Unshadowed visible ∧ second.Unshadowed visible
  | .const .. => True
  | .column .. => True
  | .binary _ left right => left.Unshadowed visible ∧ right.Unshadowed visible
  | .call _ args => Scalar.UnshadowedList visible args
  | .exists query => query.Unshadowed visible
  | .subquery query _ => query.Unshadowed visible

/-- Nor does one in any expression of a list. -/
def Scalar.UnshadowedList (visible : List TableRef) : List Scalar → Prop
  | [] => True
  | e :: es => e.Unshadowed visible ∧ Scalar.UnshadowedList visible es

/-- Nor does one in any row. -/
def Scalar.UnshadowedRows (visible : List TableRef) : List (List Scalar) → Prop
  | [] => True
  | row :: rows => Scalar.UnshadowedList visible row ∧ Scalar.UnshadowedRows visible rows

/-- Nor does one in a WHERE, if there is one. -/
def Scalar.UnshadowedFilter (visible : List TableRef) : Option Scalar → Prop
  | none => True
  | some e => e.Unshadowed visible

/-- No table reference in the relation takes the alias of one that is visible where it
stands; the ON of a join sees the leaves of both sides. -/
def Relation.Unshadowed (visible : List TableRef) : Relation → Prop
  | .table ref => ∀ outer ∈ visible, outer.name ≠ ref.name
  | .join lhs rhs on _ =>
      lhs.Unshadowed visible ∧ rhs.Unshadowed visible
        ∧ on.Unshadowed (visible ++ (lhs.leaves ++ rhs.leaves))
  | .select query => query.Unshadowed visible
  | .setOp _ left right => left.Unshadowed visible ∧ right.Unshadowed visible
  | .values rows => Scalar.UnshadowedRows visible rows
  | .insert _ _ source => source.Unshadowed visible

/-- Items, WHERE and ORDER BY see the leaves of the FROM besides what the query sees. -/
def Select.Unshadowed (visible : List TableRef) : Select → Prop
  | .mk _ items source filter orderBy _ =>
      source.Unshadowed visible
        ∧ Scalar.UnshadowedList (visible ++ source.leaves) items
        ∧ Scalar.UnshadowedFilter (visible ++ source.leaves) filter
        ∧ Scalar.UnshadowedList (visible ++ source.leaves) orderBy

end

/-- No two of the table references have the same alias. -/
def Apart (refs : List TableRef) : Prop := (refs.map TableRef.name).Nodup

theorem Apart.sublist {refs some : List TableRef} (h : Apart refs) (part : some.Sublist refs) :
    Apart some :=
  List.Nodup.sublist (part.map TableRef.name) h

section Parts

variable {visible first second : List TableRef}

/-- The aliases that are visible and those of the first part of a tree. -/
theorem Apart.left (h : Apart (visible ++ (first ++ second))) : Apart (visible ++ first) :=
  h.sublist ((List.Sublist.refl visible).append (List.sublist_append_left ..))

/-- The aliases that are visible and those of the second part. -/
theorem Apart.right (h : Apart (visible ++ (first ++ second))) : Apart (visible ++ second) :=
  h.sublist ((List.Sublist.refl visible).append (List.sublist_append_right ..))

/-- What the first part brings into view is visible in the second one. -/
theorem Apart.seeing {leaves : List TableRef} (h : Apart (visible ++ (first ++ second)))
    (part : leaves.Sublist first) : Apart ((visible ++ leaves) ++ second) := by
  rw [List.append_assoc]
  exact h.sublist ((List.Sublist.refl visible).append (part.append (List.Sublist.refl second)))

end Parts

mutual

theorem Scalar.unshadowed (visible : List TableRef) :
    ∀ e : Scalar, Apart (visible ++ e.references) → e.Unshadowed visible
  | .case condition yes no, h =>
      ⟨condition.unshadowed visible h.left, yes.unshadowed visible h.right.left,
        no.unshadowed visible h.right.right⟩
  | .coalesce first second, h =>
      ⟨first.unshadowed visible h.left, second.unshadowed visible h.right⟩
  | .const .., _ => trivial
  | .column .., _ => trivial
  | .binary _ left right, h =>
      ⟨left.unshadowed visible h.left, right.unshadowed visible h.right⟩
  | .call _ args, h => Scalar.unshadowedList visible args h
  | .exists query, h => query.unshadowed visible h
  | .subquery query _, h => query.unshadowed visible h

theorem Scalar.unshadowedList (visible : List TableRef) :
    ∀ es : List Scalar, Apart (visible ++ Scalar.referencesOfList es) →
      Scalar.UnshadowedList visible es
  | [], _ => trivial
  | e :: es, h => ⟨e.unshadowed visible h.left, Scalar.unshadowedList visible es h.right⟩

theorem Scalar.unshadowedRows (visible : List TableRef) :
    ∀ rows : List (List Scalar), Apart (visible ++ Scalar.referencesOfRows rows) →
      Scalar.UnshadowedRows visible rows
  | [], _ => trivial
  | row :: rows, h =>
      ⟨Scalar.unshadowedList visible row h.left, Scalar.unshadowedRows visible rows h.right⟩

theorem Scalar.unshadowedFilter (visible : List TableRef) :
    ∀ filter : Option Scalar, Apart (visible ++ Scalar.referencesOfFilter filter) →
      Scalar.UnshadowedFilter visible filter
  | none, _ => trivial
  | some e, h => e.unshadowed visible h

/-- **Different aliases shadow nothing.** -/
theorem Relation.unshadowed (visible : List TableRef) :
    ∀ r : Relation, Apart (visible ++ r.references) → r.Unshadowed visible
  | .table ref, h => by
      have apart : Apart (visible ++ [ref]) := h
      unfold Apart at apart
      rw [List.map_append] at apart
      obtain ⟨-, -, different⟩ := List.nodup_append.1 apart
      exact fun outer member =>
        different _ (List.mem_map_of_mem member) _ (List.mem_singleton.2 rfl)
  | .join lhs rhs on _, h => by
      -- the ON sees the leaves of both sides, which are among their table references
      have both : Apart (visible ++ ((lhs.references ++ rhs.references) ++ on.references)) := by
        rw [List.append_assoc]
        exact h
      exact ⟨lhs.unshadowed visible h.left, rhs.unshadowed visible h.right.left,
        on.unshadowed _ (both.seeing (lhs.leaves_sublist.append rhs.leaves_sublist))⟩
  | .select query, h => query.unshadowed visible h
  | .setOp _ left right, h => ⟨left.unshadowed visible h.left, right.unshadowed visible h.right⟩
  | .values rows, h => Scalar.unshadowedRows visible rows h
  | .insert _ _ source, h => source.unshadowed visible h

theorem Select.unshadowed (visible : List TableRef) :
    ∀ q : Select, Apart (visible ++ q.references) → q.Unshadowed visible
  | .mk _ items source filter orderBy _, h => by
      have inner := h.seeing source.leaves_sublist
      exact ⟨source.unshadowed visible h.left, Scalar.unshadowedList _ items inner.left,
        Scalar.unshadowedFilter _ filter inner.right.left,
        Scalar.unshadowedList _ orderBy inner.right.right⟩

end

namespace Generate

/-! ## §3. The numbers of a derivation. -/

/-- The table references in what a judgement finds. -/
def Judgement.references : Judgement → List TableRef
  | .scalar _ _ e => e.references
  | .attempt _ _ _ e => e.references
  | .binary _ _ e => e.references
  | .predicate _ e => e.references
  | .row _ _ es => Scalar.referencesOfList es
  | .rows _ _ rs => Scalar.referencesOfRows rs
  | .filter _ condition => Scalar.referencesOfFilter condition
  | .terms _ es => Scalar.referencesOfList es
  | .source _ r => r.references
  | .select _ _ q => q.references
  | .returning _ _ r => r.references
  | .statement _ r => r.references

/-- **Every derivation numbers its table references** in the order of the tree, with
numbers that are handed out in the course of it. -/
theorem Derives.numbered {S : Setting} {j : Judgement} {k k' : Nat} (d : Derives S j k k') :
    Numbered j.references k k' := by
  -- by induction on the derivation; its parts are derived one after the other, so the
  -- numbers of each part are above those of the parts before it
  induction d with
  | skip le d ih => exact ih.mono le (Nat.le_refl _)
  | scalar resolution d ih => exact ih
  | const resolution value => exact .nil _ _
  | column inView ofTable serves => exact .nil _ _
  | case above shallow hcondition hyes hno ihcondition ihyes ihno =>
      have branches := ihyes.append ihno hyes.le hno.le
      exact ihcondition.append branches hcondition.le (Nat.le_trans hyes.le hno.le)
  | coalesce above shallow hfirst hsecond ihfirst ihsecond =>
      exact ihfirst.append ihsecond hfirst.le hsecond.le
  | operator above shallow d ih => exact ih
  | call above shallow resolution listed hargs ihargs => exact ihargs
  | subquery above shallow d hitems ih =>
      show Numbered (Select.references _) _ _
      rw [Select.references_withLimit]
      exact ih
  | binary resolution listed hleft hright ihleft ihright =>
      exact ihleft.append ihright hleft.le hright.le
  | predicateAtLimit limit d ih => exact ih
  | comparison above d ih => exact ih
  | truth above d ih => exact ih
  | existence above d ih => exact ih
  | rowNil => exact .nil _ _
  | rowCons head tail ihhead ihtail => exact ihhead.append ihtail head.le tail.le
  | rowsNil => exact .nil _ _
  | rowsCons head tail ihhead ihtail => exact ihhead.append ihtail head.le tail.le
  | noFilter => exact .nil _ _
  | filter d ih => exact ih
  | termsNil => exact .nil _ _
  | termsCons head tail ihhead ihtail => exact ihhead.append ihtail head.le tail.le
  | table listed => exact .single _ _
  | join above shallow hleft hright hon ihleft ihright ihon =>
      have behind := ihright.append ihon hright.le hon.le
      exact ihleft.append behind hleft.le (Nat.le_trans hright.le hon.le)
  | select served hsource hitems hfilter horder hdistinct hlimit ihsource ihitems ihfilter
      ihorder =>
      have afterItems := ihfilter.append ihorder hfilter.le horder.le
      have afterSource := ihitems.append afterItems hitems.le (Nat.le_trans hfilter.le horder.le)
      exact ihsource.append afterSource hsource.le
        (Nat.le_trans hitems.le (Nat.le_trans hfilter.le horder.le))
  | values served some most d ih => exact ih
  | setOp above shallow served hleft hright ihleft ihright =>
      exact ihleft.append ihright hleft.le hright.le
  | query above d ih => exact ih
  | insert chosen listed htargets some d ih => exact ih
  | returning chosen d ih => exact ih

end Generate

/-! ## §4. Sessions. -/

/-- **ALIASES ARE NUMBERED IN THE ORDER OF THE STATEMENT**, whatever the session generated
before and however many attempts failed.  Along the whole tree they are `tab_n` with
ascending numbers `n`, from one to as many as there are names handed out; no two table
references have the same alias, and none takes an alias that is visible where it
stands. -/
theorem Session.generate_numbered {s s' : Session} {r : Relation}
    (h : s.generate = (.found r, s')) :
    (∃ ns : List Nat, r.references.map TableRef.name = ns.map (NameCounter.name "tab")
        ∧ ns.Pairwise (· < ·) ∧ ∀ n ∈ ns, 1 ≤ n ∧ n ≤ s'.state.names.handedOut)
      ∧ (r.references.map TableRef.name).Nodup
      ∧ r.Unshadowed [] := by
  have numbered : Generate.Numbered r.references 0 s'.state.names.handedOut :=
    (Session.generate_derived h).numbered
  have apart : Apart ([] ++ r.references) := numbered.nodup
  exact ⟨numbered, numbered.nodup, r.unshadowed [] apart⟩

namespace Sample

/-- The table references of what was found. -/
def references : Outcome Relation → List TableRef
  | .found r => r.references
  | .nothing => []
  | .halted _ => []

/-- Two of the four aliases of the sample statement stand in a subquery. -/
theorem session_numbered :
    ∃ r s', session.generate = (.found r, s')
      ∧ (∃ ns : List Nat, ns.length = 4
        ∧ r.references.map TableRef.name = ns.map (NameCounter.name "tab")
        ∧ ns.Pairwise (· < ·))
      ∧ r.Unshadowed [] := by
  obtain ⟨r, s', h⟩ := session_generates
  obtain ⟨⟨ns, names, ascending, -⟩, -, unshadowed⟩ := Session.generate_numbered h
  have four : (references session.generate.1).length = 4 := by decide +kernel
  rw [h] at four
  have same : r.references.length = ns.length := by
    simpa using congrArg List.length names
  exact ⟨r, s', h, ⟨ns, same ▸ four, names, ascending⟩, unshadowed⟩

end Sample

end QueryFuzz
