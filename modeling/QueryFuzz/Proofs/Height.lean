/-
  QueryFuzz.Proofs.Height
  ───────────────────────
  **HOW HIGH GENERATED TREES GET UNDER A HARD DEPTH CAP.**

  The height of a tree is the number of nodes, relational and scalar, on its
  longest path.  A node costs a level at least every other time: a subquery or
  an existence check stands on the same level as its query, and a statement on
  that of the statement in it, so the height is about twice the distance to
  the cap (`Judgement.Low`).

  Main result:
    * `Session.height_le_of_generate` — statements are at most `2 * D + 3` high.
-/
import QueryFuzz.Proofs.Soundness

namespace QueryFuzz

/-! ## §1. The height of a tree. -/

mutual

/-- The nodes on the longest path of an expression. -/
def Scalar.height : Scalar → Nat
  | .case condition yes no => 1 + max condition.height (max yes.height no.height)
  | .coalesce first second => 1 + max first.height second.height
  | .const .. => 1
  | .column .. => 1
  | .binary _ left right => 1 + max left.height right.height
  | .call _ args => 1 + Scalar.heightList args
  | .exists query => 1 + query.height
  | .subquery query _ => 1 + query.height

/-- The greatest height of a list, zero for an empty one. -/
def Scalar.heightList : List Scalar → Nat
  | [] => 0
  | e :: es => max e.height (Scalar.heightList es)

/-- The greatest height in any row. -/
def Scalar.heightRows : List (List Scalar) → Nat
  | [] => 0
  | row :: rows => max (Scalar.heightList row) (Scalar.heightRows rows)

/-- The height of a WHERE, zero for none. -/
def Scalar.heightFilter : Option Scalar → Nat
  | none => 0
  | some e => e.height

/-- The nodes on the longest path of a relation. -/
def Relation.height : Relation → Nat
  | .table _ => 1
  | .join lhs rhs on _ => 1 + max (max lhs.height rhs.height) on.height
  | .select query => query.height
  | .setOp _ left right => 1 + max left.height right.height
  | .values rows => 1 + Scalar.heightRows rows
  | .insert _ _ source => 1 + source.height

/-- The nodes on the longest path of a query; the query is one of them. -/
def Select.height : Select → Nat
  | .mk _ items source filter orderBy _ =>
      1 + max (max source.height (Scalar.heightList items))
        (max (Scalar.heightFilter filter) (Scalar.heightList orderBy))

end

theorem Select.height_withLimit (q : Select) (l : Option Nat) :
    (q.withLimit l).height = q.height := by
  cases q
  rfl

namespace Generate

/-! ## §2. The invariant. -/

/-- What a judgement promises about heights under a cap `D`. -/
def Judgement.Low (D : Nat) : Judgement → Prop
  | .scalar scope _ e => e.height ≤ 2 * (D - scope.level) + 1
  | .attempt scope _ _ e =>
      e.height ≤ 1 ∨ scope.level < D ∧ e.height ≤ 2 * (D - scope.level) + 3
  | .binary scope _ e => e.height ≤ 2 * (D - scope.level) + 2
  | .predicate scope e => e.height ≤ 2 * (D - scope.level) + 1
  | .row scope _ es => Scalar.heightList es ≤ 2 * (D - scope.level) + 1
  | .rows scope _ rs => Scalar.heightRows rs ≤ 2 * (D - scope.level) + 1
  | .filter scope condition => Scalar.heightFilter condition ≤ 2 * (D - scope.level) + 1
  | .terms scope es => Scalar.heightList es ≤ 2 * (D - scope.level) + 1
  | .source scope r => r.height ≤ 2 * (D - scope.level) + 1
  | .select scope _ q => q.height ≤ 2 * (D - scope.level) + 2
  | .returning scope _ r => r.height ≤ 2 * (D - scope.level) + 2
  | .statement scope r => r.height ≤ 2 * (D - scope.level) + 3

theorem level_lt_of_atDepthLimit {S : Setting} {D : Nat} (hD : S.options.maxDepth = some D)
    {scope : Scope} (h : scope.atDepthLimit S.options = false) : scope.level < D := by
  unfold Scope.atDepthLimit at h
  rw [hD] at h
  simpa using h

/-- **Every derivation keeps the heights below the distance to the cap.** -/
theorem Derives.low {S : Setting} {D : Nat} (hD : S.options.maxDepth = some D) {j : Judgement}
    {k k' : Nat} (d : Derives S j k k') : j.Low D := by
  -- by induction on the derivation; constructs with operands are tried above the cap only, so
  -- that there is a level left for what is below them
  induction d with
  | skip le d ih => exact ih
  | scalar resolution d ih =>
      simp only [Judgement.Low, Scope.child_level] at ih ⊢
      omega
  | const resolution value => exact Or.inl (Nat.le_refl 1)
  | column inView ofTable serves => exact Or.inl (Nat.le_refl 1)
  | case above shallow hcondition hyes hno ihcondition ihyes ihno =>
      have := level_lt_of_atDepthLimit hD above
      simp only [Judgement.Low] at ihcondition ihyes ihno
      refine Or.inr ⟨this, ?_⟩
      rw [Scalar.height]
      omega
  | coalesce above shallow hfirst hsecond ihfirst ihsecond =>
      have := level_lt_of_atDepthLimit hD above
      simp only [Judgement.Low] at ihfirst ihsecond
      refine Or.inr ⟨this, ?_⟩
      rw [Scalar.height]
      omega
  | operator above shallow d ih =>
      have := level_lt_of_atDepthLimit hD above
      simp only [Judgement.Low] at ih
      exact Or.inr ⟨this, by omega⟩
  | call above shallow resolution listed hargs ihargs =>
      have := level_lt_of_atDepthLimit hD above
      simp only [Judgement.Low] at ihargs
      refine Or.inr ⟨this, ?_⟩
      rw [Scalar.height]
      omega
  | subquery above shallow d hitems ih =>
      have := level_lt_of_atDepthLimit hD above
      simp only [Judgement.Low] at ih
      refine Or.inr ⟨this, ?_⟩
      rw [Scalar.height, Select.height_withLimit]
      omega
  | binary resolution listed hleft hright ihleft ihright =>
      simp only [Judgement.Low] at ihleft ihright ⊢
      rw [Scalar.height]
      omega
  | predicateAtLimit limit d ih => exact ih
  | comparison above d ih =>
      -- the child is on a level above the cap, too, and so leaves room for the operator
      have := level_lt_of_atDepthLimit hD above
      simp only [Judgement.Low, Scope.child_level] at ih ⊢
      omega
  | truth above d ih =>
      simp only [Judgement.Low, Scope.child_level] at ih ⊢
      omega
  | existence above d ih =>
      have := level_lt_of_atDepthLimit hD above
      simp only [Judgement.Low, Scope.child_level] at ih ⊢
      rw [Scalar.height]
      omega
  | rowNil => exact Nat.zero_le _
  | rowCons head tail ihhead ihtail => exact Nat.max_le.2 ⟨ihhead, ihtail⟩
  | rowsNil => exact Nat.zero_le _
  | rowsCons head tail ihhead ihtail => exact Nat.max_le.2 ⟨ihhead, ihtail⟩
  | noFilter => exact Nat.zero_le _
  | filter d ih => exact ih
  | termsNil => exact Nat.zero_le _
  | termsCons head tail ihhead ihtail => exact Nat.max_le.2 ⟨ihhead, ihtail⟩
  | table listed =>
      show 1 ≤ _
      omega
  | join above shallow hleft hright hon ihleft ihright ihon =>
      have := level_lt_of_atDepthLimit hD above
      simp only [Judgement.Low, Scope.seeing_level, Scope.child_level] at ihleft ihright ihon ⊢
      rw [Relation.height]
      omega
  | select served hsource hitems hfilter horder hdistinct hlimit ihsource ihitems ihfilter
      ihorder =>
      -- a query stands on the level of its FROM item; all else in it is one level below
      simp only [Judgement.Low, Scope.seeing_level, Scope.child_level] at *
      rw [Select.height]
      omega
  | values served some most d ih =>
      simp only [Judgement.Low, Scope.child_level] at ih ⊢
      rw [Relation.height]
      omega
  | setOp above shallow served hleft hright ihleft ihright =>
      have := level_lt_of_atDepthLimit hD above
      simp only [Judgement.Low, Scope.child_level] at ihleft ihright ⊢
      rw [Relation.height]
      omega
  | query above d ih => exact ih
  | insert chosen listed htargets some d ih =>
      simp only [Judgement.Low] at ih ⊢
      rw [Relation.height]
      omega
  | returning chosen d ih =>
      simp only [Judgement.Low] at ih ⊢
      omega

end Generate

/-- **Statements are about twice as high as the cap.** -/
theorem Session.height_le_of_generate {s s' : Session} {r : Relation} {D : Nat}
    (hD : s.options.maxDepth = some D) (h : s.generate = (.found r, s')) :
    r.height ≤ 2 * D + 3 :=
  (Session.generate_derived h).low hD

end QueryFuzz
