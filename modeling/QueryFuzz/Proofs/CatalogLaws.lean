/-
  QueryFuzz.Proofs.CatalogLaws
  ────────────────────────────
  **LAWS OF EXTENDING A CATALOG.**

  A catalog may be built in stages: each stage adds to what the earlier ones built.
  Turning a catalog back into a draft loses the order in which operators and
  functions of different bases were added, and what was dropped; neither makes a
  difference to what is built next.

  A table that is put in place takes the place of all tables of its name and comes
  last.  Everything that has another name, and every operator and function, is left
  as it was.

  Main results:
    * `Draft.build_draft_addAll` — a stage may start from what was built as well as
      from what was added before;
    * `Catalog.staged_eq_at_once` — so any number of stages build what one builds;
    * `Catalog.withTable_replaces` — what a table that is put in place does, and what
      it leaves alone.
-/
import QueryFuzz.Proofs.Additions

namespace QueryFuzz

/-! ## §1. Building in stages. -/

namespace ResultIndex

variable {α : Type} (key : α → BaseType)

theorem ofList_append (xs ys : List α) :
    ofList key (xs ++ ys) = ys.foldl (fun ix y => insert (key y) y ix) (ofList key xs) :=
  List.foldl_append

/-- What is filed behind other entries is filed the same whether these come in their own
order or in that of their index. -/
theorem ofList_entries_append (xs ys : List α) :
    ofList key (entries (ofList key xs) ++ ys) = ofList key (xs ++ ys) := by
  rw [ofList_append, ofList_append, (filed_ofList key xs).ofList_entries]

/-- The same of entries some of which are dropped on the way. -/
theorem ofList_kept_append (keep : α → Bool) (xs ys : List α) :
    ofList key ((entries (ofList key (xs.filter keep)) ++ ys).filter keep)
      = ofList key ((xs ++ ys).filter keep) := by
  have kept : (entries (ofList key (xs.filter keep))).filter keep
      = entries (ofList key (xs.filter keep)) := by
    refine List.filter_eq_self.2 fun x hx => ?_
    have listed : x ∈ xs.filter keep := mem_of_mem_entries_ofList hx
    exact (List.mem_filter.1 listed).2
  rw [List.filter_append, kept, ofList_entries_append, List.filter_append]

end ResultIndex

namespace Draft

/-- Additions one after the other are the additions of both. -/
theorem addAll_append (d : Draft) (xs ys : List Entry) :
    d.addAll (xs ++ ys) = (d.addAll xs).addAll ys :=
  List.foldl_append

/-- **A stage may start from what was built.**  Neither what was dropped nor the order among
bases makes a difference to it. -/
theorem build_draft_addAll (d : Draft) (es : List Entry) :
    (d.build.draft.addAll es).build = (d.addAll es).build := by
  have tables (more : List Table) :
      (d.tables.filter Table.isUsable ++ more).filter Table.isUsable
        = (d.tables ++ more).filter Table.isUsable := by
    -- what was kept once is kept again
    rw [List.filter_append, List.filter_append, List.filter_filter]
    simp only [Bool.and_self]
  rw [addAll_eq, addAll_eq]
  unfold build Catalog.draft
  dsimp only
  rw [tables, ResultIndex.ofList_kept_append, ResultIndex.ofList_kept_append]

end Draft

namespace Catalog

/-- However many stages there are, they build what all of their additions build. -/
theorem stages_eq (stages : List (List Draft.Entry)) :
    ∀ d : Draft, stages.foldl (fun c es => (c.draft.addAll es).build) d.build
      = (d.addAll stages.flatten).build := by
  -- for every draft, since each stage leaves more additions behind it
  induction stages with
  | nil => exact fun _ => rfl
  | cons es stages ih =>
      intro d
      rw [List.foldl_cons, d.build_draft_addAll, ih, ← Draft.addAll_append]
      rfl

/-- **BUILDING IN STAGES EQUALS BUILDING AT ONCE.**  Additions to what was built give the
catalog of all additions, whichever kinds of entries they mix and in however many stages
they come.  A stage of no additions changes nothing, whichever way a catalog was come by. -/
theorem staged_eq_at_once :
    (∀ xs ys : List Draft.Entry,
        ((Draft.fromNothing xs).build.draft.addAll ys).build
          = (Draft.fromNothing (xs ++ ys)).build)
      ∧ (∀ (xs : List Draft.Entry) (stages : List (List Draft.Entry)),
          stages.foldl (fun c ys => (c.draft.addAll ys).build) (Draft.fromNothing xs).build
            = (Draft.fromNothing (xs ++ stages.flatten)).build)
      ∧ ∀ c : Catalog, c.Reachable → c.draft.build = c := by
  refine ⟨fun xs ys => ?_, fun xs stages => ?_, fun c reachable => reachable.built.build_draft⟩
  · rw [Draft.build_draft_addAll]
    unfold Draft.fromNothing
    rw [Draft.addAll_append]
  · unfold Draft.fromNothing
    rw [Draft.addAll_append]
    exact stages_eq stages _

end Catalog

namespace Sample

/-- The sample's additions in two stages and in three, and a catalog with a table put in place
that is built again. -/
theorem additions_staged :
    ((Draft.fromNothing additions).build.draft.addAll additions).build
        = (Draft.fromNothing (additions ++ additions)).build
      ∧ [additions, additions].foldl (fun c ys => (c.draft.addAll ys).build)
          (Draft.fromNothing additions).build
        = (Draft.fromNothing (additions ++ (additions ++ additions))).build
      ∧ depot.Reachable ∧ depot.draft.build = depot := by
  obtain ⟨twice, stages, again⟩ := Catalog.staged_eq_at_once
  exact ⟨twice additions additions, stages additions [additions, additions],
    depot_reachable, again depot depot_reachable⟩

end Sample

/-! ## §2. Tables that are put in place. -/

/-- What comes of a table that is put in place: the table, unless it is of no use. -/
def Table.placed (t : Table) : List Table := if t.Useful then [t] else []

/-- The tables that have another name than `t`, in their order. -/
def Catalog.others (c : Catalog) (t : Table) : List Table :=
  c.tables.filter fun u => decide (u.name ≠ t.name)

theorem Table.eq_of_mem_placed {t u : Table} (h : u ∈ t.placed) : u = t := by
  unfold placed at h
  split at h
  · exact List.mem_singleton.1 h
  · cases h

theorem Catalog.mem_others {c : Catalog} {t u : Table} :
    u ∈ c.others t ↔ u ∈ c.tables ∧ u.name ≠ t.name := by
  unfold others
  rw [List.mem_filter, decide_eq_true_iff]

namespace Catalog.Built

variable {c : Catalog} {t u : Table}

/-- Nothing but tables is touched. -/
theorem withTable_eq_placed (h : c.Built) (t : Table) :
    c.withTable t = { c with tables := c.others t ++ t.placed } := by
  have placed : (if t.isUsable then [t] else []) = t.placed := by
    unfold Table.placed
    by_cases useful : t.Useful
    · rw [if_pos useful, if_pos (t.isUsable_iff.2 useful)]
    · rw [if_neg useful, if_neg fun usable => useful (t.isUsable_iff.1 usable)]
  rw [h.withTable_eq, placed]
  rfl

theorem tables_withTable (h : c.Built) (t : Table) :
    (c.withTable t).tables = c.others t ++ t.placed := by
  rw [h.withTable_eq_placed]

theorem operatorsFor_withTable (h : c.Built) (t : Table) (out : SqlType) :
    (c.withTable t).operatorsFor out = c.operatorsFor out := by
  rw [h.withTable_eq_placed]
  rfl

theorem functionsFor_withTable (h : c.Built) (t : Table) (out : SqlType) :
    (c.withTable t).functionsFor out = c.functionsFor out := by
  rw [h.withTable_eq_placed]
  rfl

/-- The look-ups of all other names give what they gave. -/
theorem table?_withTable_of_ne (h : c.Built) {name : String} (other : name ≠ t.name) :
    (c.withTable t).table? name = c.table? name := by
  -- the look-up does not stop at `t`, nor at any table that made way for it
  have placed : t.placed.find? (fun u => decide (u.name = name)) = none := by
    rw [List.find?_eq_none]
    intro u hu
    rw [Table.eq_of_mem_placed hu, decide_eq_true_iff]
    exact other.symm
  have others : (c.others t).find? (fun u => decide (u.name = name))
      = c.tables.find? fun u => decide (u.name = name) := by
    unfold Catalog.others
    rw [List.find?_filter]
    congr 1
    funext u
    by_cases same : u.name = name
    · simp [same, other]
    · simp [same]
  unfold table?
  rw [h.tables_withTable, List.find?_append, placed, Option.or_none, others]

/-- The look-up of its own name gives a useful table that is put in place. -/
theorem table?_withTable_self (h : c.Built) (useful : t.Useful) :
    (c.withTable t).table? t.name = some t := by
  have others : (c.others t).find? (fun u => decide (u.name = t.name)) = none := by
    rw [List.find?_eq_none]
    intro u hu
    rw [decide_eq_true_iff]
    exact (mem_others.1 hu).2
  unfold table?
  rw [h.tables_withTable, List.find?_append, others, Option.none_or, Table.placed, if_pos useful]
  simp

/-- Names that are apart stay apart. -/
theorem nodup_withTable (h : c.Built) (t : Table) (apart : (c.tables.map Table.name).Nodup) :
    ((c.withTable t).tables.map Table.name).Nodup := by
  have others : ((c.others t).map Table.name).Nodup :=
    apart.sublist (List.filter_sublist.map Table.name)
  have placed : (t.placed.map Table.name).Nodup := by
    unfold Table.placed
    by_cases useful : t.Useful
    · simp [useful]
    · simp [useful]
  rw [h.tables_withTable, List.map_append, List.nodup_append]
  refine ⟨others, placed, fun name hothers name' hplaced => ?_⟩
  obtain ⟨u, hu, rfl⟩ := List.mem_map.1 hothers
  obtain ⟨v, hv, rfl⟩ := List.mem_map.1 hplaced
  rw [Table.eq_of_mem_placed hv]
  exact (mem_others.1 hu).2

/-- Once a table is in place, the tables of other names are those from before. -/
theorem others_withTable_self (h : c.Built) (t : Table) :
    (c.withTable t).others t = c.others t := by
  have placed : t.placed.filter (fun u => decide (u.name ≠ t.name)) = [] := by
    rw [List.filter_eq_nil_iff]
    intro u hu
    rw [Table.eq_of_mem_placed hu]
    simp
  have others : (c.others t).filter (fun u => decide (u.name ≠ t.name)) = c.others t :=
    List.filter_eq_self.2 fun u hu => decide_eq_true (mem_others.1 hu).2
  unfold Catalog.others at others ⊢
  rw [h.tables_withTable, List.filter_append, placed, List.append_nil]
  exact others

/-- A table of another name is among the others once it is in place. -/
theorem others_withTable_of_ne (h : c.Built) (other : u.name ≠ t.name) :
    (c.withTable t).others u
      = c.tables.filter (fun v => decide (v.name ≠ u.name ∧ v.name ≠ t.name)) ++ t.placed := by
  have placed : t.placed.filter (fun v => decide (v.name ≠ u.name)) = t.placed := by
    rw [List.filter_eq_self]
    intro v hv
    rw [Table.eq_of_mem_placed hv]
    exact decide_eq_true other.symm
  unfold Catalog.others
  rw [h.tables_withTable, List.filter_append, placed]
  unfold Catalog.others
  rw [List.filter_filter]
  simp only [Bool.decide_and]

/-- A table that is put in place a second time changes nothing. -/
theorem withTable_withTable (h : c.Built) (t : Table) :
    (c.withTable t).withTable t = c.withTable t := by
  rw [(withTable_built c t).withTable_eq_placed, h.others_withTable_self, ← h.tables_withTable]

/-- Tables of two names may be put in place in either order. -/
theorem withTable_perm (h : c.Built) (other : u.name ≠ t.name) :
    ((c.withTable t).withTable u).tables.Perm ((c.withTable u).withTable t).tables := by
  rw [(withTable_built c t).tables_withTable, (withTable_built c u).tables_withTable,
    h.others_withTable_of_ne other, h.others_withTable_of_ne other.symm]
  -- both orders keep the tables of neither name, and differ in which of the two comes last
  have both : (fun v : Table => decide (v.name ≠ u.name ∧ v.name ≠ t.name))
      = fun v => decide (v.name ≠ t.name ∧ v.name ≠ u.name) := by
    funext v
    rw [decide_eq_decide]
    exact and_comm
  rw [both, List.append_assoc, List.append_assoc]
  exact List.perm_append_comm.append_left _

end Catalog.Built

/-- **A TABLE THAT IS PUT IN PLACE REPLACES BY NAME AND TOUCHES NOTHING ELSE**, whichever way
the catalog was come by.  The tables of other names stay in their order, and the table comes
behind them if it has columns and no wildcard among them; operators and functions stay as they
are, for every type.  So look-ups of other names give what they gave, and the one of its own
name gives a useful table; names that are apart stay apart; a second time changes nothing; and
tables of two names may be put in place in either order.  The catalog it is put into is a value
and stays what it was. -/
theorem Catalog.withTable_replaces {c : Catalog} (h : c.Reachable) (t : Table) :
    (c.withTable t).tables
        = c.tables.filter (fun u => decide (u.name ≠ t.name)) ++ (if t.Useful then [t] else [])
      ∧ (∀ out, (c.withTable t).operatorsFor out = c.operatorsFor out
          ∧ (c.withTable t).functionsFor out = c.functionsFor out)
      ∧ (∀ name, name ≠ t.name → (c.withTable t).table? name = c.table? name)
      ∧ (t.Useful → (c.withTable t).table? t.name = some t)
      ∧ ((c.tables.map Table.name).Nodup → ((c.withTable t).tables.map Table.name).Nodup)
      ∧ (c.withTable t).withTable t = c.withTable t
      ∧ ∀ u : Table, u.name ≠ t.name →
          ((c.withTable t).withTable u).tables.Perm ((c.withTable u).withTable t).tables := by
  have built := h.built
  refine ⟨built.tables_withTable t, fun out => ?_, fun name => built.table?_withTable_of_ne,
    built.table?_withTable_self, built.nodup_withTable t, built.withTable_withTable t,
    fun u => built.withTable_perm⟩
  exact ⟨built.operatorsFor_withTable t out, built.functionsFor_withTable t out⟩

namespace Sample

/-- Another table of the name `stock`. -/
def counted : Table := ⟨"stock", [⟨"count", .int, .writable⟩]⟩

/-- A table of another name. -/
def bin : Table := ⟨"bin", [⟨"size", .int, .writable⟩]⟩

/-- A catalog that holds two tables of one name, on both sides of another. -/
def doubled : Catalog :=
  (Draft.fromNothing [.table stock, .table bin, .table stock, .operator plus]).build

theorem doubled_reachable : doubled.Reachable := .added _

/-- Both tables of the name give way to the one that is put in place, also to one that is of no
use; the other table and the operator stay. -/
theorem doubled_withTable_replaces :
    doubled.Reachable
      ∧ (doubled.withTable counted).tables = [bin, counted]
      ∧ (doubled.withTable counted).table? "stock" = some counted
      ∧ (doubled.withTable counted).table? "bin" = doubled.table? "bin"
      ∧ ((doubled.withTable counted).withTable bin).tables.Perm
          ((doubled.withTable bin).withTable counted).tables
      ∧ (doubled.withTable ⟨"stock", []⟩).tables = [bin]
      ∧ (doubled.withTable ⟨"stock", []⟩).operatorsFor .int = [plus]
      ∧ ((depot.withTable bin).tables.map Table.name).Nodup := by
  obtain ⟨replaced, -, others, found, -, -, orders⟩ :=
    Catalog.withTable_replaces doubled_reachable counted
  obtain ⟨removed, kept, -⟩ := Catalog.withTable_replaces doubled_reachable ⟨"stock", []⟩
  obtain ⟨-, -, -, -, apart, -⟩ := Catalog.withTable_replaces depot_reachable bin
  exact ⟨doubled_reachable, replaced.trans (by decide), found (by decide),
    others "bin" (by decide), orders bin (by decide), removed.trans (by decide),
    (kept .int).1.trans (by decide), apart (by decide)⟩

end Sample

end QueryFuzz
