/-
  QueryFuzz.Proofs.Occurrences
  ────────────────────────────
  **THE WALK OVER A STATEMENT VISITS EVERY EXPRESSION ONCE, OUTERMOST FIRST.**

  An expression may occur in a tree many times, so what a walk visits is told by
  where it occurs.  A way down from a node is a list of numbers, each the number
  of a part of the node that is reached by then.  The walk lists the expressions
  of a tree in the order of some ways, and these are all ways that lead to
  expressions.

      Node.parts  — the nodes right below a node
      Node.at?    — what stands at the end of a way down
      Node.Charts — ways to all expressions of a tree, each once, those to an
                    expression before those to what is nested in it

  Main results:
    * `Node.eq_of_parts` — no expression or relation of a node is missing in its parts;
    * `Node.walk_eq` — the walk visits a node and then its parts, one after the other;
    * `Node.exists_chart` — so it follows a chart of the tree;
    * `Relation.walk_complete` — what this says of the walk over a statement.
-/
import Mathlib.Data.List.Basic
import Mathlib.Data.List.Flatten
import Mathlib.Tactic.Choose
import QueryFuzz.Statement.Basic

namespace QueryFuzz

/-! ## §1. Nodes and their parts. -/

/-- A node of a tree; a query is the node of the relation that it makes. -/
inductive Node where
  | scalar (e : Scalar)
  | relation (r : Relation)

/-- The nodes right below the node of a query. -/
def Select.parts : Select → List Node
  | .mk _ items source filter orderBy _ =>
      .relation source :: (items.map Node.scalar ++ filter.toList.map Node.scalar
        ++ orderBy.map Node.scalar)

namespace Node

/-- The nodes right below a node. -/
def parts : Node → List Node
  | scalar (.case condition yes no) => [scalar condition, scalar yes, scalar no]
  | scalar (.coalesce first second) => [scalar first, scalar second]
  | scalar (.const ..) => []
  | scalar (.column ..) => []
  | scalar (.binary _ left right) => [scalar left, scalar right]
  | scalar (.call _ args) => args.map scalar
  | scalar (.exists query) => [relation (.select query)]
  | scalar (.subquery query _) => [relation (.select query)]
  | relation (.table _) => []
  | relation (.join lhs rhs on _) => [relation lhs, relation rhs, scalar on]
  | relation (.select query) => query.parts
  | relation (.setOp _ left right) => [relation left, relation right]
  | relation (.values rows) => rows.flatten.map scalar
  | relation (.insert _ _ source) => [relation source]

/-- What a node says besides its parts. -/
inductive Label where
  | case
  | coalesce
  | const (type : SqlType) (value : Literal)
  | column (qualifier name : String) (type : SqlType)
  | binary (op : Operator)
  | call (function : SqlFunction)
  | exists
  | subquery (type : SqlType)
  | table (source : TableRef)
  | join (columns : List Column)
  | select (distinct : Bool) (items filters : Nat) (limit : Option Nat)
  | setOp (op : SetOperator)
  | values (widths : List Nat)
  | insert (table : String) (targets : List Column)

/-- The label of a node: of lists of parts it tells how long they are. -/
def label : Node → Label
  | scalar (.case ..) => .case
  | scalar (.coalesce ..) => .coalesce
  | scalar (.const type value) => .const type value
  | scalar (.column qualifier name type) => .column qualifier name type
  | scalar (.binary op ..) => .binary op
  | scalar (.call function _) => .call function
  | scalar (.exists _) => .exists
  | scalar (.subquery _ type) => .subquery type
  | relation (.table source) => .table source
  | relation (.join _ _ _ columns) => .join columns
  | relation (.select query) =>
      .select query.distinct query.items.length query.filter.toList.length query.limit
  | relation (.setOp op ..) => .setOp op
  | relation (.values rows) => .values (rows.map List.length)
  | relation (.insert table targets _) => .insert table targets

theorem map_scalar_inj {es es' : List Scalar} (h : es.map scalar = es'.map scalar) : es = es' := by
  apply List.map_injective_iff.2 _ h
  intro e e' same
  injection same

end Node

theorem Select.eq_of_parts {q q' : Select} (hdistinct : q.distinct = q'.distinct)
    (hitems : q.items.length = q'.items.length)
    (hfilter : q.filter.toList.length = q'.filter.toList.length) (hlimit : q.limit = q'.limit)
    (hparts : q.parts = q'.parts) : q = q' := by
  obtain ⟨distinct, items, source, filter, orderBy, limit⟩ := q
  obtain ⟨distinct', items', source', filter', orderBy', limit'⟩ := q'
  obtain rfl : distinct = distinct' := hdistinct
  obtain rfl : limit = limit' := hlimit
  injection hparts with hsource expressions
  injection hsource with hsource
  -- the lists of expressions stand one behind the other, and are told apart by their lengths
  rw [← List.map_append, ← List.map_append, ← List.map_append, ← List.map_append] at expressions
  have lists := Node.map_scalar_inj expressions
  obtain ⟨hfront, horder⟩ := List.append_inj lists (by
    rw [List.length_append, List.length_append]
    exact congrArg₂ (· + ·) hitems hfilter)
  obtain ⟨sameItems, filters⟩ := List.append_inj hfront hitems
  have sameFilter : filter = filter' := by
    cases filter <;> cases filter' <;> simp_all
  rw [hsource, sameItems, sameFilter, horder]

namespace Node

/-- **A node is told by its label and its parts**, so no expression or relation in it is
missing in the parts. -/
theorem eq_of_parts {n n' : Node} (hlabel : n.label = n'.label) (hparts : n.parts = n'.parts) :
    n = n' := by
  cases n with
  | scalar e =>
      cases n' with
      | scalar e' =>
          cases e <;> cases e' <;> cases hlabel
          case call.call.refl => rw [map_scalar_inj hparts]
          all_goals simp_all [parts]
      | relation r => cases e <;> cases r <;> cases hlabel
  | relation r =>
      cases n' with
      | scalar e => cases r <;> cases e <;> cases hlabel
      | relation r' =>
          cases r <;> cases r' <;> injection hlabel
          case select.select q q' hdistinct hitems hfilter hlimit =>
            rw [Select.eq_of_parts hdistinct hitems hfilter hlimit hparts]
          case values.values rows rows' widths =>
            rw [List.eq_iff_flatten_eq.2 ⟨map_scalar_inj hparts, widths⟩]
          all_goals simp_all [parts]

end Node

/-! ## §2. The walk. -/

namespace Node

/-- The expression at a node, if it is one. -/
def own : Node → List Scalar
  | scalar e => [e]
  | relation _ => []

/-- The expressions that the walk visits from a node on. -/
def walk : Node → List Scalar
  | scalar e => e.nodes
  | relation r => r.nodes

theorem nodesOfList_eq (es : List Scalar) :
    Scalar.nodesOfList es = (es.map scalar).flatMap walk := by
  induction es with
  | nil => rfl
  | cons e es ih =>
      show e.nodes ++ Scalar.nodesOfList es = e.nodes ++ (es.map scalar).flatMap walk
      rw [ih]

theorem nodesOfRows_eq (rows : List (List Scalar)) :
    Scalar.nodesOfRows rows = (rows.flatten.map scalar).flatMap walk := by
  induction rows with
  | nil => rfl
  | cons row rows ih =>
      show Scalar.nodesOfList row ++ Scalar.nodesOfRows rows = _
      rw [ih, nodesOfList_eq, List.flatten_cons, List.map_append, List.flatMap_append]

theorem nodesOfOption_eq (filter : Option Scalar) :
    Scalar.nodesOfOption filter = (filter.toList.map scalar).flatMap walk := by
  cases filter with
  | none => rfl
  | some e => exact (List.append_nil e.nodes).symm

end Node

theorem Select.nodes_eq (q : Select) : q.nodes = q.parts.flatMap Node.walk := by
  obtain ⟨distinct, items, source, filter, orderBy, limit⟩ := q
  show source.nodes ++ Scalar.nodesOfList items ++ Scalar.nodesOfOption filter
      ++ Scalar.nodesOfList orderBy
    = source.nodes ++ (items.map Node.scalar ++ filter.toList.map Node.scalar
        ++ orderBy.map Node.scalar).flatMap Node.walk
  rw [Node.nodesOfList_eq, Node.nodesOfList_eq, Node.nodesOfOption_eq, List.flatMap_append,
    List.flatMap_append]
  simp only [List.append_assoc]

namespace Node

/-- **The walk visits a node and then its parts**, one after the other. -/
theorem walk_eq (n : Node) : n.walk = n.own ++ n.parts.flatMap walk := by
  cases n with
  | scalar e =>
      cases e with
      | const type value => rfl
      | column qualifier name type => rfl
      | call function args =>
          show _ :: Scalar.nodesOfList args = _ :: (args.map scalar).flatMap walk
          rw [nodesOfList_eq]
      | _ => simp [walk, own, parts, Scalar.nodes, Relation.nodes]
  | relation r =>
      cases r with
      | table source => rfl
      | select query => exact query.nodes_eq
      | values rows => exact nodesOfRows_eq rows
      | _ => simp [walk, own, parts, Relation.nodes]

end Node

/-! ## §3. Induction over the parts. -/

section Induction

variable {P : Node → Prop}

mutual

theorem Scalar.of_parts (step : ∀ n, (∀ m ∈ n.parts, P m) → P n) (e : Scalar) :
    P (.scalar e) := by
  apply step
  cases e with
  | case condition yes no =>
      exact List.forall_mem_cons.2 ⟨condition.of_parts step, List.forall_mem_cons.2
        ⟨yes.of_parts step, List.forall_mem_singleton.2 (no.of_parts step)⟩⟩
  | coalesce first second =>
      exact List.forall_mem_cons.2 ⟨first.of_parts step,
        List.forall_mem_singleton.2 (second.of_parts step)⟩
  | const type value => exact List.forall_mem_nil _
  | column qualifier name type => exact List.forall_mem_nil _
  | binary op left right =>
      exact List.forall_mem_cons.2 ⟨left.of_parts step,
        List.forall_mem_singleton.2 (right.of_parts step)⟩
  | call function args => exact Scalar.of_partsList step args
  | «exists» query =>
      have below : P (.relation (.select query)) := step _ (query.of_parts step)
      exact List.forall_mem_singleton.2 below
  | subquery query type =>
      have below : P (.relation (.select query)) := step _ (query.of_parts step)
      exact List.forall_mem_singleton.2 below

theorem Scalar.of_partsList (step : ∀ n, (∀ m ∈ n.parts, P m) → P n) (es : List Scalar) :
    ∀ m ∈ es.map Node.scalar, P m := by
  cases es with
  | nil => exact List.forall_mem_nil _
  | cons e es => exact List.forall_mem_cons.2 ⟨e.of_parts step, Scalar.of_partsList step es⟩

theorem Scalar.of_partsRows (step : ∀ n, (∀ m ∈ n.parts, P m) → P n)
    (rows : List (List Scalar)) : ∀ m ∈ rows.flatten.map Node.scalar, P m := by
  cases rows with
  | nil => exact List.forall_mem_nil _
  | cons row rows =>
      rw [List.flatten_cons, List.map_append]
      exact List.forall_mem_append.2 ⟨Scalar.of_partsList step row, Scalar.of_partsRows step rows⟩

theorem Scalar.of_partsFilter (step : ∀ n, (∀ m ∈ n.parts, P m) → P n)
    (filter : Option Scalar) : ∀ m ∈ filter.toList.map Node.scalar, P m := by
  cases filter with
  | none => exact List.forall_mem_nil _
  | some e => exact List.forall_mem_singleton.2 (e.of_parts step)

theorem Relation.of_parts (step : ∀ n, (∀ m ∈ n.parts, P m) → P n) (r : Relation) :
    P (.relation r) := by
  apply step
  cases r with
  | table source => exact List.forall_mem_nil _
  | join lhs rhs on columns =>
      exact List.forall_mem_cons.2 ⟨lhs.of_parts step, List.forall_mem_cons.2
        ⟨rhs.of_parts step, List.forall_mem_singleton.2 (on.of_parts step)⟩⟩
  | select query => exact query.of_parts step
  | setOp op left right =>
      exact List.forall_mem_cons.2 ⟨left.of_parts step,
        List.forall_mem_singleton.2 (right.of_parts step)⟩
  | values rows => exact Scalar.of_partsRows step rows
  | insert table targets source => exact List.forall_mem_singleton.2 (source.of_parts step)

theorem Select.of_parts (step : ∀ n, (∀ m ∈ n.parts, P m) → P n) (q : Select) :
    ∀ m ∈ q.parts, P m := by
  cases q with
  | mk distinct items source filter orderBy limit =>
      have front := List.forall_mem_append.2
        ⟨Scalar.of_partsList step items, Scalar.of_partsFilter step filter⟩
      exact List.forall_mem_cons.2 ⟨source.of_parts step,
        List.forall_mem_append.2 ⟨front, Scalar.of_partsList step orderBy⟩⟩

end

/-- **What holds of a node when it holds of all its parts holds of every node.** -/
theorem Node.of_parts (step : ∀ n, (∀ m ∈ n.parts, P m) → P n) : ∀ n, P n
  | .scalar e => e.of_parts step
  | .relation r => r.of_parts step

end Induction

/-! ## §4. Ways and charts. -/

namespace Node

/-- What stands at the end of a way down from a node. -/
def at? : Node → List Nat → Option Node
  | n, [] => some n
  | n, i :: way => n.parts[i]?.bind fun m => m.at? way

/-- `ways` are the ways from a node to all expressions at it and below it: each one once,
and none behind a way that leads through what it leads to. -/
structure Charts (n : Node) (ways : List (List Nat)) : Prop where
  complete : ∀ way, way ∈ ways ↔ ∃ e, n.at? way = some (scalar e)
  once : ways.Nodup
  outermostFirst : ways.Pairwise fun earlier later => ¬ later <+: earlier

/-- The way from an expression to itself; none from a relation. -/
def start (n : Node) : List (List Nat) := n.own.map fun _ => []

/-- The ways below a node, by those from its parts. -/
def below (n : Node) (ways : Node → List (List Nat)) : List (List Nat) :=
  n.parts.zipIdx.flatMap fun (m, i) => (ways m).map (i :: ·)

theorem mem_start {n : Node} {way : List Nat} :
    way ∈ n.start ↔ way = [] ∧ ∃ e, n = scalar e := by
  cases n with
  | scalar e => simp [start, own]
  | relation r => simp [start, own]

section Below

variable {n : Node} {ways : Node → List (List Nat)}

theorem mem_below {way : List Nat} :
    way ∈ n.below ways ↔ ∃ i rest m, way = i :: rest ∧ n.parts[i]? = some m ∧ rest ∈ ways m := by
  unfold below
  rw [List.mem_flatMap]
  constructor
  · rintro ⟨⟨m, i⟩, part, member⟩
    obtain ⟨rest, listed, rfl⟩ := List.mem_map.1 member
    exact ⟨i, rest, m, rfl, List.mem_zipIdx_iff_getElem?.1 part, listed⟩
  · rintro ⟨i, rest, m, rfl, part, listed⟩
    exact ⟨(m, i), List.mem_zipIdx_iff_getElem?.2 part, List.mem_map_of_mem listed⟩

theorem nil_not_mem_below : [] ∉ n.below ways := by
  intro listed
  obtain ⟨i, rest, m, same, -, -⟩ := mem_below.1 listed
  cases same

/-- The ways below a node lead to the expressions below it, when those from its parts lead to
the expressions of the parts. -/
theorem cons_mem_below_iff
    (h : ∀ m ∈ n.parts, ∀ way, way ∈ ways m ↔ ∃ e, m.at? way = some (scalar e))
    {i : Nat} {rest : List Nat} :
    i :: rest ∈ n.below ways ↔ ∃ e, n.at? (i :: rest) = some (scalar e) := by
  rw [mem_below]
  constructor
  · rintro ⟨j, rest', m, same, part, listed⟩
    injection same with hi hrest
    subst hi hrest
    obtain ⟨e, found⟩ := (h m (List.mem_of_getElem? part) rest).1 listed
    refine ⟨e, ?_⟩
    show n.parts[i]?.bind (fun m => m.at? rest) = some (scalar e)
    rw [part]
    exact found
  · rintro ⟨e, found⟩
    obtain ⟨m, part, inner⟩ := Option.bind_eq_some_iff.1 found
    have listed := (h m (List.mem_of_getElem? part) rest).2 ⟨e, inner⟩
    exact ⟨i, rest, m, rfl, part, listed⟩

/-- Ways that begin with different numbers lead to different parts. -/
theorem pairwise_below
    (h : ∀ m ∈ n.parts, (ways m).Pairwise fun earlier later => ¬ later <+: earlier) :
    (n.below ways).Pairwise fun earlier later => ¬ later <+: earlier := by
  have places : n.parts.zipIdx.Pairwise fun p q => p.2 < q.2 := by
    rw [← List.pairwise_map, List.zipIdx_map_snd]
    exact List.pairwise_lt_range'
  unfold below
  rw [List.pairwise_flatMap]
  constructor
  · rintro ⟨m, i⟩ part
    have member : m ∈ n.parts := List.mem_of_getElem? (List.mem_zipIdx_iff_getElem?.1 part)
    rw [List.pairwise_map]
    apply (h m member).imp
    intro earlier later apart enclosed
    exact apart (List.cons_prefix_cons.1 enclosed).2
  · apply places.imp
    rintro ⟨m, i⟩ ⟨m', j⟩ before earlier first later second enclosed
    obtain ⟨rest, -, rfl⟩ := List.mem_map.1 first
    obtain ⟨rest', -, rfl⟩ := List.mem_map.1 second
    obtain ⟨same, -⟩ := List.cons_prefix_cons.1 enclosed
    omega

theorem map_below
    (h : ∀ m ∈ n.parts, (ways m).map m.at? = m.walk.map fun e => some (scalar e)) :
    (n.below ways).map n.at? = (n.parts.flatMap walk).map fun e => some (scalar e) := by
  calc (n.below ways).map n.at?
      = n.parts.zipIdx.flatMap fun p => ((ways p.1).map (p.2 :: ·)).map n.at? := List.map_flatMap
    _ = n.parts.zipIdx.flatMap fun p => p.1.walk.map fun e => some (scalar e) := by
        apply List.flatMap_congr
        rintro ⟨m, i⟩ part
        have here : n.parts[i]? = some m := List.mem_zipIdx_iff_getElem?.1 part
        rw [← h m (List.mem_of_getElem? here), List.map_map]
        apply List.map_congr_left
        intro way _
        show n.parts[i]?.bind (fun m => m.at? way) = m.at? way
        rw [here]
        rfl
    _ = n.parts.flatMap fun m => m.walk.map fun e => some (scalar e) := by
        conv_rhs => rw [← List.zipIdx_map_fst 0 n.parts, List.flatMap_map]
    _ = (n.parts.flatMap walk).map fun e => some (scalar e) := List.map_flatMap.symm

end Below

/-- **The way to a node itself and then the ways below it chart the node**, when the ways
from its parts chart them. -/
theorem charts_below {n : Node} {ways : Node → List (List Nat)}
    (h : ∀ m ∈ n.parts, m.Charts (ways m)) : n.Charts (n.start ++ n.below ways) := by
  -- the node's own way is the empty one, and all others start with the place of a part
  have order : (n.start ++ n.below ways).Pairwise fun earlier later => ¬ later <+: earlier := by
    rw [List.pairwise_append]
    refine ⟨?_, pairwise_below fun m member => (h m member).outermostFirst, ?_⟩
    · cases n with
      | scalar e => exact List.pairwise_singleton _ _
      | relation r => exact List.Pairwise.nil
    · -- no way below the node is empty
      intro first own later listed enclosed
      obtain ⟨rfl, -⟩ := mem_start.1 own
      rw [List.prefix_nil] at enclosed
      subst enclosed
      exact nil_not_mem_below listed
  refine ⟨?_, ?_, order⟩
  · intro way
    rw [List.mem_append, mem_start]
    cases way with
    | nil => simp [nil_not_mem_below, at?]
    | cons i rest =>
        rw [cons_mem_below_iff fun m member => (h m member).complete]
        simp
  · apply order.imp
    rintro earlier later apart rfl
    exact apart (List.prefix_refl earlier)

/-- **The walk follows a chart**, from every node on. -/
theorem exists_chart (n : Node) :
    ∃ ways, n.Charts ways ∧ ways.map n.at? = n.walk.map fun e => some (scalar e) := by
  induction n using Node.of_parts with
  | step n ih =>
      choose! ways charts follows using ih
      refine ⟨n.start ++ n.below ways, charts_below charts, ?_⟩
      rw [walk_eq, List.map_append, List.map_append, map_below follows]
      cases n with
      | scalar e => rfl
      | relation r => rfl

end Node

/-- **THE WALK OVER A STATEMENT IS COMPLETE.**  It visits what stands at the ends of some
ways, one after the other.  They are just the ways that lead to expressions, whatever these
stand in, and each is taken once; and no later one leads to an expression around that of an
earlier one. -/
theorem Relation.walk_complete (r : Relation) :
    ∃ ways : List (List Nat),
      ways.map (Node.relation r).at? = r.nodes.map (fun e => some (.scalar e))
        ∧ (∀ way, way ∈ ways ↔ ∃ e, (Node.relation r).at? way = some (.scalar e))
        ∧ ways.Nodup
        ∧ ways.Pairwise fun earlier later => ¬ later <+: earlier := by
  obtain ⟨ways, chart, follows⟩ := (Node.relation r).exists_chart
  exact ⟨ways, follows, chart.complete, chart.once, chart.outermostFirst⟩

end QueryFuzz
