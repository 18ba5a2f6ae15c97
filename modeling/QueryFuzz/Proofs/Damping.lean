/-
  QueryFuzz.Proofs.Damping
  ────────────────────────
  **WHAT THE DICE BOUND WITHOUT ANY DEPTH CAP.**

  A construct that contains others is tried only while the level is below a roll,
  and no roll is above six faces, or nine for a join.  Every such construct opens
  a scope, so the levels run out: expressions are leaves from level six on, set
  operations end there too, and joins three levels below.  Only a predicate asks
  for no roll, so existence checks may nest for ever; what stands between two of
  them is bounded.

      Node.IsPath         — a way down a tree, from part to part
      Relation.joinDepth  — how deep the joins of a FROM item are nested
      Relation.blocks     — the SELECTs and VALUES that a statement combines
      Relation.Damped     — the bounds that hold of every generated statement

  Main results:
    * `Derives.isLeaf` — from level five on an expression that is asked for is a leaf;
    * `Derives.damped` — every derivation keeps the bounds that its level leaves;
    * `Session.generate_damped` — what this makes of a session's statements.
-/
import Mathlib.Data.List.Chain
import QueryFuzz.Proofs.Occurrences
import QueryFuzz.Proofs.Soundness

namespace QueryFuzz

/-! ## §1. Paths. -/

/-- How deep the joins of a FROM item are nested. -/
def Relation.joinDepth : Relation → Nat
  | .join lhs rhs _ _ => 1 + max lhs.joinDepth rhs.joinDepth
  | .table _ => 0
  | .select _ => 0
  | .setOp .. => 0
  | .values _ => 0
  | .insert .. => 0

namespace Node

/-- Whether the node is an existence check. -/
def isExists : Node → Bool
  | scalar (.exists _) => true
  | _ => false

/-- Whether the node is a set operation. -/
def isSetOp : Node → Bool
  | relation (.setOp ..) => true
  | _ => false

/-- How deep the joins of the FROM item at the node are nested. -/
def joinDepth : Node → Nat
  | scalar _ => 0
  | relation r => r.joinDepth

/-- The path starts at the node, and every other node on it is a part of the one before. -/
def IsPath (n : Node) (path : List Node) : Prop :=
  path.head? = some n ∧ path.IsChain fun above below => below ∈ above.parts

/-- How many bodies of existence checks the path enters. -/
def entered (path : List Node) : Nat := path.dropLast.countP isExists

/-- A path stops at its first node, or goes on with a path from one of its parts. -/
theorem IsPath.eq_or_parts {n : Node} {path : List Node} (h : n.IsPath path) :
    path = [n] ∨ ∃ m ∈ n.parts, ∃ rest, m.IsPath rest ∧ path = n :: rest := by
  obtain ⟨start, chain⟩ := h
  cases path with
  | nil => cases start
  | cons first rest =>
      obtain rfl : first = n := Option.some.inj start
      cases rest with
      | nil => exact .inl rfl
      | cons m others =>
          obtain ⟨part, below⟩ := List.isChain_cons_cons.1 chain
          exact .inr ⟨m, part, m :: others, ⟨rfl, below⟩, rfl⟩

/-- A path that goes on from an existence check enters one body more. -/
theorem entered_cons {n m : Node} {rest : List Node} (h : m.IsPath rest) :
    entered (n :: rest) = n.isExists.toNat + entered rest := by
  have some : rest ≠ [] := by
    rintro rfl
    cases h.1
  unfold entered
  rw [List.dropLast_cons_of_ne_nil some, List.countP_cons]
  cases n.isExists <;> simp [Nat.add_comm]

/-! ## §2. Bounds on all paths from a node. -/

/-- Bounds on a path: on the set operations, on the nodes outside of bodies of existence
checks, with fourteen more for each body that is entered, and on the joins anywhere. -/
structure Bounds (setOps nodes : Nat) (path : List Node) : Prop where
  setOps : path.countP isSetOp ≤ setOps
  length : path.length ≤ nodes + 14 * entered path
  joins : ∀ m ∈ path, m.joinDepth ≤ 9

/-- Every path from the node is within the bounds. -/
def Bounded (n : Node) (setOps nodes : Nat) : Prop :=
  ∀ path, n.IsPath path → Bounds setOps nodes path

theorem Bounded.mono {n : Node} {setOps nodes setOps' nodes' : Nat}
    (h : n.Bounded setOps nodes) (hs : setOps ≤ setOps') (hn : nodes ≤ nodes') :
    n.Bounded setOps' nodes' := by
  intro path isPath
  obtain ⟨few, short, joins⟩ := h path isPath
  exact ⟨by omega, by omega, joins⟩

/-- **One node above bounded ones**: it counts itself, but behind an existence check the
nodes are counted anew. -/
theorem Bounded.of_parts {n : Node} {setOps nodes setOps' nodes' : Nat}
    (parts : ∀ m ∈ n.parts, m.Bounded setOps nodes) (joins : n.joinDepth ≤ 9)
    (hs : setOps + n.isSetOp.toNat ≤ setOps') (one : 1 ≤ nodes')
    (hn : nodes + 1 ≤ nodes' + 14 * n.isExists.toNat) : n.Bounded setOps' nodes' := by
  intro path isPath
  have own : [n].countP isSetOp = n.isSetOp.toNat := by
    cases h : n.isSetOp <;> simp [h]
  obtain rfl | ⟨m, part, rest, below, rfl⟩ := isPath.eq_or_parts
  · refine ⟨?_, ?_, ?_⟩
    · omega
    · show 1 ≤ _
      omega
    · intro m member
      rw [List.mem_singleton.1 member]
      exact joins
  · obtain ⟨few, short, deep⟩ := parts m part rest below
    have sum : (n :: rest).countP isSetOp = [n].countP isSetOp + rest.countP isSetOp := by
      rw [← List.countP_append, List.singleton_append]
    refine ⟨?_, ?_, ?_⟩
    · omega
    · rw [entered_cons below, List.length_cons]
      omega
    · exact List.forall_mem_cons.2 ⟨joins, deep⟩

/-- A node without parts. -/
theorem Bounded.of_leaf {n : Node} {setOps nodes : Nat} (leaf : n.parts = [])
    (joins : n.joinDepth ≤ 9) (hs : n.isSetOp.toNat ≤ setOps) (one : 1 ≤ nodes) :
    n.Bounded setOps nodes := by
  have none : ∀ m ∈ n.parts, m.Bounded 0 0 := by
    rw [leaf]
    intro m member
    cases member
  exact .of_parts none joins (by omega) one (by omega)

end Node

/-- Another limit leaves the parts of a query as they were. -/
theorem Select.parts_withLimit (q : Select) (l : Option Nat) :
    (q.withLimit l).parts = q.parts := by
  cases q
  rfl

/-- A query is one node above its parts. -/
theorem Select.bounded {q : Select} {nodes : Nat} (h : ∀ m ∈ q.parts, m.Bounded 0 nodes) :
    (Node.relation (.select q)).Bounded 0 (nodes + 1) :=
  .of_parts h (Nat.zero_le 9) (Nat.le_refl 0) (by omega) (Nat.le_refl _)

/-- The SELECTs and VALUES that a statement combines by set operations. -/
def Relation.blocks : Relation → Nat
  | .select _ => 1
  | .values _ => 1
  | .setOp _ left right => left.blocks + right.blocks
  | .insert _ _ source => source.blocks
  | .table _ => 0
  | .join .. => 0

/-- Whether an expression contains no other. -/
def Scalar.isLeaf : Scalar → Bool
  | .const .. => true
  | .column .. => true
  | _ => false

namespace Generate

/-! ## §3. The invariant. -/

/-- **From level five on an expression is a leaf**: one level below no roll of a six-sided
die is above the level. -/
theorem Derives.isLeaf {S : Setting} {scope : Scope} {t : SqlType} {e : Scalar} {k k' : Nat}
    (d : Derives S (.scalar scope t e) k k') (deep : 5 ≤ scope.level) : e.isLeaf = true := by
  have attempts : ∀ {j : Judgement} {k k' : Nat}, Derives S j k k' →
      ∀ inner requested picked, j = .attempt inner requested picked e →
        6 ≤ inner.level → e.isLeaf = true := by
    intro j k k' d
    -- the constructs with operands all carry the roll that let them pass
    induction d with
    | skip le d ih => exact ih
    | const | column =>
        intro inner requested picked same _
        cases same
        rfl
    | case above shallow | coalesce above shallow | operator above shallow
    | call above shallow | subquery above shallow =>
        intro inner requested picked same bottom
        cases same
        omega
    | _ =>
        intro inner requested picked same
        cases same
  generalize hj : Judgement.scalar scope t e = j at d
  induction d with
  | skip le d ih => exact ih hj
  | scalar resolution d =>
      cases hj
      exact attempts d _ _ _ rfl (Nat.succ_le_succ deep)
  | _ => cases hj

/-- The nodes that a path may have from an expression of a level on. -/
def expressionRoom (level : Nat) : Nat := 1 + 2 * (6 - level) + 5 * min 1 (6 - level)

/-- The nodes that a path may have from a FROM item of a level on, or from another part of
its query. -/
def queryRoom (level : Nat) : Nat := max (1 + expressionRoom (level + 2)) (11 - level)

/-- What a judgement promises about the paths from what is found. -/
def Judgement.Damped : Judgement → Prop
  | .scalar scope _ e => (Node.scalar e).Bounded 0 (expressionRoom (scope.level + 1))
  | .attempt scope _ _ e => (Node.scalar e).Bounded 0 (expressionRoom scope.level)
  | .binary scope _ e => (Node.scalar e).Bounded 0 (expressionRoom (scope.level + 1) + 1)
  | .predicate scope e => (Node.scalar e).Bounded 0 (max (expressionRoom (scope.level + 1)) 2)
  | .row scope _ es => ∀ e ∈ es, (Node.scalar e).Bounded 0 (expressionRoom (scope.level + 1))
  | .rows scope _ rs =>
      ∀ e ∈ rs.flatten, (Node.scalar e).Bounded 0 (expressionRoom (scope.level + 1))
  | .filter scope condition =>
      ∀ e ∈ condition, (Node.scalar e).Bounded 0 (max (expressionRoom (scope.level + 1)) 2)
  | .terms scope es => ∀ e ∈ es, (Node.scalar e).Bounded 0 (expressionRoom (scope.level + 1))
  | .source scope r =>
      (Node.relation r).Bounded 0 (queryRoom scope.level) ∧ r.joinDepth ≤ 9 - scope.level
  | .select scope _ q => ∀ m ∈ q.parts, m.Bounded 0 (queryRoom scope.level)
  | .returning scope _ r =>
      (Node.relation r).Bounded (6 - scope.level) (1 + queryRoom scope.level)
        ∧ r.blocks ≤ 2 ^ (6 - scope.level)
  | .statement scope r =>
      (Node.relation r).Bounded (6 - scope.level) (2 + queryRoom scope.level)
        ∧ r.blocks ≤ 2 ^ (6 - scope.level)

section Room

variable {level : Nat}

theorem one_le_expressionRoom : 1 ≤ expressionRoom level := by
  unfold expressionRoom
  omega

theorem expressionRoom_succ (shallow : level < 6) :
    expressionRoom (level + 1) + 1 ≤ expressionRoom level := by
  unfold expressionRoom
  omega

/-- Behind a predicate there is an expression one level below. -/
theorem expressionRoom_le_max :
    expressionRoom (level + 1) + 1 ≤ max (expressionRoom level) 2 := by
  unfold expressionRoom
  omega

theorem expressionRoom_le_queryRoom : max (expressionRoom (level + 2)) 2 ≤ queryRoom level := by
  unfold queryRoom expressionRoom
  omega

/-- A join or a set operation is one node more, for it opens a level. -/
theorem queryRoom_succ (shallow : level < 9) : queryRoom (level + 1) + 1 ≤ queryRoom level := by
  unfold queryRoom expressionRoom
  omega

theorem expressionRoom_lt_queryRoom (shallow : level < 9) :
    max (expressionRoom (level + 2)) 2 + 1 ≤ queryRoom level := by
  unfold queryRoom expressionRoom
  omega

/-- A subquery and its query are two nodes on one level. -/
theorem queryRoom_le_expressionRoom (shallow : level < 6) :
    queryRoom level + 2 ≤ expressionRoom level := by
  unfold queryRoom expressionRoom
  omega

theorem queryRoom_succ_le : queryRoom (level + 1) ≤ 14 := by
  unfold queryRoom expressionRoom
  omega

end Room

/-- An expression is one node above its parts. -/
theorem bounded_scalar {e : Scalar} {nodes nodes' : Nat}
    (parts : ∀ m ∈ (Node.scalar e).parts, m.Bounded 0 nodes) (hn : nodes + 1 ≤ nodes') :
    (Node.scalar e).Bounded 0 nodes' := by
  apply Node.Bounded.of_parts parts
  · exact Nat.zero_le 9
  · exact Nat.le_refl 0
  · omega
  · omega

/-- Parts that stand in a list of expressions. -/
theorem bounded_map {es : List Scalar} {nodes : Nat}
    (h : ∀ e ∈ es, (Node.scalar e).Bounded 0 nodes) : ∀ m ∈ es.map Node.scalar, m.Bounded 0 nodes :=
  List.forall_mem_map.2 h

/-- No expression is in an empty list, and all of them are bounded. -/
theorem bounded_nil {nodes : Nat} : ∀ e ∈ ([] : List Scalar), (Node.scalar e).Bounded 0 nodes := by
  intro e member
  cases member

section Nodes

variable {level : Nat}

/-- A subquery stands on the level of its query. -/
theorem subquery_bounded {q : Select} {t : SqlType} (shallow : level < 6)
    (h : ∀ m ∈ q.parts, m.Bounded 0 (queryRoom level)) :
    (Node.scalar (.subquery (q.withLimit (some 1)) t)).Bounded 0 (expressionRoom level) := by
  have query : (Node.relation (.select (q.withLimit (some 1)))).Bounded 0
      (queryRoom level + 1) := by
    apply Select.bounded
    rw [Select.parts_withLimit]
    exact h
  exact bounded_scalar (List.forall_mem_singleton.2 query) (queryRoom_le_expressionRoom shallow)

/-- An existence check is asked for on any level: what is in its body is counted anew. -/
theorem exists_bounded {q : Select} (h : ∀ m ∈ q.parts, m.Bounded 0 (queryRoom (level + 1))) :
    (Node.scalar (.exists q)).Bounded 0 (max (expressionRoom (level + 1)) 2) := by
  have body := @queryRoom_succ_le level
  have query : (Node.relation (.select q)).Bounded 0 (queryRoom (level + 1) + 1) :=
    Select.bounded h
  have below : ∀ m ∈ (Node.scalar (.exists q)).parts,
      m.Bounded 0 (queryRoom (level + 1) + 1) := List.forall_mem_singleton.2 query
  apply Node.Bounded.of_parts below
  · exact Nat.zero_le 9
  · exact Nat.le_refl 0
  · omega
  · show queryRoom (level + 1) + 1 + 1 ≤ _ + 14 * 1
    omega

/-- The sides of a join are one level deeper, and its condition is an expression two levels
deeper. -/
theorem join_bounded {lhs rhs : Relation} {on : Scalar} {columns : List Column}
    (shallow : level < 9)
    (hleft : (Node.relation lhs).Bounded 0 (queryRoom (level + 1))
      ∧ lhs.joinDepth ≤ 9 - (level + 1))
    (hright : (Node.relation rhs).Bounded 0 (queryRoom (level + 1))
      ∧ rhs.joinDepth ≤ 9 - (level + 1))
    (hon : (Node.scalar on).Bounded 0 (max (expressionRoom (level + 2)) 2)) :
    (Node.relation (.join lhs rhs on columns)).Bounded 0 (queryRoom level)
      ∧ (Relation.join lhs rhs on columns).joinDepth ≤ 9 - level := by
  obtain ⟨left, leftJoins⟩ := hleft
  obtain ⟨right, rightJoins⟩ := hright
  have sides := queryRoom_succ shallow
  have condition := expressionRoom_lt_queryRoom shallow
  have depth : (Relation.join lhs rhs on columns).joinDepth ≤ 9 - level := by
    rw [Relation.joinDepth]
    omega
  have left' : (Node.relation lhs).Bounded 0 (queryRoom level - 1) :=
    left.mono (Nat.le_refl 0) (Nat.le_sub_one_of_lt sides)
  have right' : (Node.relation rhs).Bounded 0 (queryRoom level - 1) :=
    right.mono (Nat.le_refl 0) (Nat.le_sub_one_of_lt sides)
  have on' : (Node.scalar on).Bounded 0 (queryRoom level - 1) :=
    hon.mono (Nat.le_refl 0) (Nat.le_sub_one_of_lt condition)
  have parts : ∀ m ∈ (Node.relation (.join lhs rhs on columns)).parts,
      m.Bounded 0 (queryRoom level - 1) :=
    List.forall_mem_cons.2 ⟨left', List.forall_mem_cons.2 ⟨right',
      List.forall_mem_singleton.2 on'⟩⟩
  refine ⟨.of_parts parts ?_ (Nat.le_refl 0) ?_ ?_, depth⟩
  · exact Nat.le_trans depth (Nat.sub_le ..)
  · omega
  · omega

/-- All parts of a query but its FROM item are expressions in the scope that the item
opens. -/
theorem select_bounded {source : Relation} {items orderBy : List Scalar}
    {condition : Option Scalar} {distinct : Bool} {limit : Option Nat}
    (hsource : (Node.relation source).Bounded 0 (queryRoom level))
    (hitems : ∀ e ∈ items, (Node.scalar e).Bounded 0 (expressionRoom (level + 2)))
    (hfilter : ∀ e ∈ condition, (Node.scalar e).Bounded 0 (max (expressionRoom (level + 2)) 2))
    (horder : ∀ e ∈ orderBy, (Node.scalar e).Bounded 0 (expressionRoom (level + 2))) :
    ∀ m ∈ (Select.mk distinct items source condition orderBy limit).parts,
      m.Bounded 0 (queryRoom level) := by
  have room := @expressionRoom_le_queryRoom level
  have expressions : expressionRoom (level + 2) ≤ queryRoom level := by omega
  have filters : ∀ e ∈ condition.toList,
      (Node.scalar e).Bounded 0 (max (expressionRoom (level + 2)) 2) := by
    intro e listed
    exact hfilter e (Option.mem_toList.1 listed)
  intro m member
  -- the FROM item, then the items, the WHERE and the sort terms
  obtain rfl | member := List.mem_cons.1 member
  · exact hsource
  obtain member | member := List.mem_append.1 member
  · obtain member | member := List.mem_append.1 member
    · exact (bounded_map hitems m member).mono (Nat.le_refl 0) expressions
    · exact (bounded_map filters m member).mono (Nat.le_refl 0) room
  · exact (bounded_map horder m member).mono (Nat.le_refl 0) expressions

/-- A VALUES is one node above its expressions, and one block. -/
theorem values_bounded {rows : List (List Scalar)}
    (h : ∀ e ∈ rows.flatten, (Node.scalar e).Bounded 0 (expressionRoom (level + 2))) :
    (Node.relation (.values rows)).Bounded (6 - level) (1 + queryRoom level)
      ∧ (Relation.values rows).blocks ≤ 2 ^ (6 - level) := by
  have room := @expressionRoom_le_queryRoom level
  have expressions : ∀ m ∈ (Node.relation (.values rows)).parts,
      m.Bounded 0 (expressionRoom (level + 2)) := bounded_map h
  refine ⟨.of_parts expressions ?_ ?_ ?_ ?_, Nat.one_le_two_pow⟩
  · exact Nat.zero_le 9
  · exact Nat.zero_le _
  · omega
  · omega

/-- One set operation more than in the sides, and twice as many blocks. -/
theorem setOp_bounded {op : SetOperator} {left right : Relation} (shallow : level < 6)
    (hleft : (Node.relation left).Bounded (6 - (level + 1)) (1 + queryRoom (level + 1))
      ∧ left.blocks ≤ 2 ^ (6 - (level + 1)))
    (hright : (Node.relation right).Bounded (6 - (level + 1)) (1 + queryRoom (level + 1))
      ∧ right.blocks ≤ 2 ^ (6 - (level + 1))) :
    (Node.relation (.setOp op left right)).Bounded (6 - level) (1 + queryRoom level)
      ∧ (Relation.setOp op left right).blocks ≤ 2 ^ (6 - level) := by
  obtain ⟨leftBounded, leftBlocks⟩ := hleft
  obtain ⟨rightBounded, rightBlocks⟩ := hright
  have room := queryRoom_succ (Nat.lt_of_lt_of_le shallow (by decide : 6 ≤ 9))
  have levels : 6 - level = (6 - (level + 1)) + 1 := by omega
  have sides : ∀ m ∈ (Node.relation (.setOp op left right)).parts,
      m.Bounded (6 - (level + 1)) (1 + queryRoom (level + 1)) :=
    List.forall_mem_cons.2 ⟨leftBounded, List.forall_mem_singleton.2 rightBounded⟩
  refine ⟨.of_parts sides ?_ ?_ ?_ ?_, ?_⟩
  · exact Nat.zero_le 9
  · show 6 - (level + 1) + 1 ≤ 6 - level
    omega
  · omega
  · omega
  · calc left.blocks + right.blocks
        ≤ 2 ^ (6 - (level + 1)) + 2 ^ (6 - (level + 1)) := Nat.add_le_add leftBlocks rightBlocks
      _ = 2 ^ (6 - level) := by rw [levels, Nat.pow_succ, Nat.mul_two]

/-- An INSERT is one node above its source, on the same level. -/
theorem insert_bounded {table : String} {targets : List Column} {source : Relation}
    {setOps nodes : Nat} (h : (Node.relation source).Bounded setOps (1 + nodes)) :
    (Node.relation (.insert table targets source)).Bounded setOps (2 + nodes) := by
  have parts : ∀ m ∈ (Node.relation (.insert table targets source)).parts,
      m.Bounded setOps (1 + nodes) := List.forall_mem_singleton.2 h
  apply Node.Bounded.of_parts parts
  · exact Nat.zero_le 9
  · exact Nat.le_refl _
  · omega
  · omega

end Nodes

/-- **Every derivation keeps the bounds that its level leaves.** -/
theorem Derives.damped {S : Setting} {j : Judgement} {k k' : Nat} (d : Derives S j k k') :
    j.Damped := by
  -- by induction on the derivation; the level of a part is the level of the scope that is
  -- opened for it
  induction d with
  | skip le d ih => exact ih
  | scalar resolution d ih => exact ih
  | const resolution value =>
      exact .of_leaf rfl (Nat.zero_le 9) (Nat.le_refl 0) one_le_expressionRoom
  | column inView ofTable serves =>
      exact .of_leaf rfl (Nat.zero_le 9) (Nat.le_refl 0) one_le_expressionRoom
  | case above shallow hcondition hyes hno ihcondition ihyes ihno =>
      refine bounded_scalar ?_ (expressionRoom_succ shallow)
      exact List.forall_mem_cons.2 ⟨ihcondition, List.forall_mem_cons.2 ⟨ihyes,
        List.forall_mem_singleton.2 ihno⟩⟩
  | coalesce above shallow hfirst hsecond ihfirst ihsecond =>
      refine bounded_scalar ?_ (expressionRoom_succ shallow)
      exact List.forall_mem_cons.2 ⟨ihfirst, List.forall_mem_singleton.2 ihsecond⟩
  | operator above shallow d ih =>
      exact ih.mono (Nat.le_refl 0) (expressionRoom_succ shallow)
  | call above shallow resolution listed hargs ihargs =>
      exact bounded_scalar (bounded_map ihargs) (expressionRoom_succ shallow)
  | subquery above shallow d hitems ih => exact subquery_bounded shallow ih
  | binary resolution listed hleft hright ihleft ihright =>
      refine bounded_scalar ?_ (Nat.le_refl _)
      exact List.forall_mem_cons.2 ⟨ihleft, List.forall_mem_singleton.2 ihright⟩
  | predicateAtLimit limit d ih => exact ih.mono (Nat.le_refl 0) (Nat.le_max_left ..)
  | comparison above d ih => exact ih.mono (Nat.le_refl 0) expressionRoom_le_max
  | @truth scope e k k' above d ih =>
      -- two levels below, where a comparison needs only one
      have deeper := @expressionRoom_le_max (scope.level + 1)
      exact ih.mono (Nat.le_refl 0) (Nat.le_of_succ_le deeper)
  | existence above d ih => exact exists_bounded ih
  | rowNil => exact bounded_nil
  | rowCons head tail ihhead ihtail => exact List.forall_mem_cons.2 ⟨ihhead, ihtail⟩
  | rowsNil => exact bounded_nil
  | rowsCons head tail ihhead ihtail => exact List.forall_mem_append.2 ⟨ihhead, ihtail⟩
  | noFilter =>
      intro e member
      cases member
  | filter d ih =>
      intro e member
      cases member
      exact ih
  | termsNil => exact bounded_nil
  | termsCons head tail ihhead ihtail => exact List.forall_mem_cons.2 ⟨ihhead, ihtail⟩
  | @table scope table k listed =>
      refine ⟨.of_leaf rfl (Nat.zero_le 9) (Nat.le_refl 0) ?_, Nat.zero_le _⟩
      have := @expressionRoom_le_queryRoom scope.level
      omega
  | join above shallow hleft hright hon ihleft ihright ihon =>
      exact join_bounded shallow ihleft ihright ihon
  | select served hsource hitems hfilter horder hdistinct hlimit ihsource ihitems ihfilter
      ihorder => exact select_bounded ihsource.1 ihitems ihfilter ihorder
  | values served some most d ih => exact values_bounded ih
  | setOp above shallow served hleft hright ihleft ihright =>
      exact setOp_bounded shallow ihleft ihright
  | query above d ih =>
      have query := Select.bounded ih
      exact ⟨query.mono (Nat.zero_le _) (Nat.le_of_eq (Nat.add_comm ..)), Nat.one_le_two_pow⟩
  | insert chosen listed htargets some d ih => exact ⟨insert_bounded ih.1, ih.2⟩
  | returning chosen d ih =>
      exact ⟨ih.1.mono (Nat.le_refl _) (Nat.add_le_add_right (by decide) _), ih.2⟩

end Generate

/-! ## §4. Statements. -/

/-- **What the dice bound in a statement**: at most six set operations nested, hence at most
`2 ^ 6` blocks; joins nested at most nine deep in any FROM item; and at most seventeen nodes
on a path that enters no body of an existence check, with fourteen more for each body that
it enters. -/
structure Relation.Damped (r : Relation) : Prop where
  paths : (Node.relation r).Bounded 6 17
  blocks : r.blocks ≤ 64

/-- **The dice bound everything but predicates.**  From level five on only leaves are found
for an expression, whatever the generators below would find; and every statement is damped,
with a depth cap or without one. -/
theorem Session.generate_damped (s : Session) :
    (∀ n scope t words state e state', 5 ≤ scope.level →
      (Generate.tower s.setting n).scalar scope t words state = (.found e, state') →
        e.isLeaf = true)
      ∧ ∀ r s', s.generate = (.found r, s') → r.Damped := by
  refine ⟨?_, ?_⟩
  · intro n scope t words state e state' deep found
    have sound := (Generate.tower_sound s.setting n).scalar scope t state.names.handedOut
    exact (sound.of_found found).isLeaf deep
  · intro r s' found
    -- the outermost scope has level zero
    obtain ⟨paths, blocks⟩ := (Session.generate_derived found).damped
    exact ⟨paths.mono (by decide) (by decide), blocks⟩

namespace Sample

/-- The least of all words, and no depth cap: an INSERT from a union of VALUES. -/
def uncapped : Session where
  catalog := draft.build
  options := { maxDepth := none }
  words := fun _ => 0

/-- A scope of level five that sees both tables. -/
def fifth : Generate.Scope := ⟨5, draft.build.tables.map fun table => ⟨table, table.name⟩⟩

theorem uncapped_damped :
    (∃ e state', (Generate.tower uncapped.setting 2).scalar fifth .int uncapped.words {} =
        (.found e, state') ∧ e.isLeaf = true)
      ∧ ∃ r s', uncapped.generate = (.found r, s') ∧ r.Damped := by
  obtain ⟨e, state', hs⟩ := Outcome.exists_of_isFound
    (show ((Generate.tower uncapped.setting 2).scalar fifth .int uncapped.words {}).1.isFound = true
      by decide +kernel)
  obtain ⟨r, s', hr⟩ := Outcome.exists_of_isFound
    (show uncapped.generate.1.isFound = true by decide +kernel)
  obtain ⟨leaf, damped⟩ := uncapped.generate_damped
  exact ⟨⟨e, state', hs, leaf 2 fifth .int uncapped.words {} e state' (by decide) hs⟩,
    r, s', hr, damped r s' hr⟩

end Sample

end QueryFuzz
