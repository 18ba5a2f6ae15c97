/-
  QueryFuzz.Proofs.Choices
  ────────────────────────
  **WHAT THE GENERATORS CHOOSE BETWEEN TWO CALLS OF EACH OTHER.**

  Types for requests, column types for statements, literals, limits and INSERT
  targets are drawn without nesting.  Each has a predicate that says what may
  come of the choice, and one theorem that says so:

      Resolution  — the type that is picked for a request
      Served      — the column types that are picked for a statement
      LiteralOf   — the value of a literal of a type
      LimitOf     — a LIMIT
      Targets     — the columns that an INSERT names

  Options that are in range rule the faults of these choices out, but for the
  rounds of the one loop among them (`moreTypes`).
-/
import QueryFuzz.Proofs.Draws

namespace QueryFuzz.Generate

open Gen (Possible)

/-! ## §1. Types. -/

/-- What may be picked for a request: the request itself, or any nullable concrete
type for a wildcard. -/
def Resolution (request picked : SqlType) : Prop :=
  if request.isWildcard = true then picked.nullable = true ∧ picked.base ≠ .any
  else picked = request

theorem isWildcard_iff {t : SqlType} : t.isWildcard = true ↔ t.base = .any := by
  obtain ⟨base, nullable⟩ := t
  cases base <;> simp [SqlType.isWildcard, BaseType.isWildcard]

theorem Resolution.base_ne_any {request picked : SqlType} (h : Resolution request picked) :
    picked.base ≠ .any := by
  unfold Resolution at h
  split at h
  · exact h.2
  · rename_i hw
    rw [h]
    exact fun e => hw (isWildcard_iff.2 e)

/-- A concrete request is picked as it is. -/
theorem Resolution.eq_of_concrete {request picked : SqlType}
    (h : Resolution request picked) (hr : request.base ≠ .any) : picked = request := by
  unfold Resolution at h
  rwa [if_neg (fun hw => hr (isWildcard_iff.1 hw))] at h

/-- What is picked for a request serves it. -/
theorem Resolution.accepts {request picked : SqlType} (h : Resolution request picked) :
    request.accepts picked = true := by
  rw [SqlType.accepts_iff]
  by_cases hr : request.base = .any
  · exact Or.inl hr
  · rw [h.eq_of_concrete hr]
    exact Or.inr rfl

theorem sqlType_draws {F : Fault → Prop} :
    sqlType.Draws (fun t => t.nullable = true ∧ t.base ≠ .any) F := by
  refine (Gen.pick_draws BaseType.concrete).bind fun base hbase => Gen.pure_draws ⟨rfl, ?_⟩
  rintro rfl
  simp [BaseType.concrete] at hbase

theorem resolve_draws (request : SqlType) {F : Fault → Prop} :
    (resolve request).Draws (Resolution request) F := by
  unfold resolve
  split
  · rename_i hw
    exact sqlType_draws.mono (fun _ h => by rwa [Resolution, if_pos hw]) fun _ h => h
  · rename_i hw
    exact Gen.pure_draws (by rw [Resolution, if_neg hw])

/-- What may be picked as the column types of a statement: those that were asked
for, or some nullable concrete ones. -/
def Served (desired : Option (List SqlType)) (types : List SqlType) : Prop :=
  types ≠ [] ∧
    match desired with
    | some ts => types = ts
    | none => ∀ t ∈ types, t.nullable = true ∧ t.base ≠ .any

theorem moreTypes_draws :
    ∀ rounds, (moreTypes rounds).Draws
      (fun ts => ts.length < rounds ∧ ∀ t ∈ ts, t.nullable = true ∧ t.base ≠ .any)
      (fun why => why = .roundsExhausted)
  | 0 => Gen.halt_draws rfl
  | rounds + 1 => by
      refine (Gen.die_draws_of_ne_zero (by decide)).bind fun roll _ => ?_
      split
      · exact Gen.pure_draws ⟨Nat.succ_pos rounds, by simp⟩
      · refine sqlType_draws.bind fun t ht => (moreTypes_draws rounds).bind fun ts hts => ?_
        refine Gen.pure_draws ⟨?_, ?_⟩
        · rw [List.length_cons]
          exact Nat.succ_lt_succ hts.1
        · exact List.forall_mem_cons.2 ⟨ht, hts.2⟩

/-- The only fault of picking column types is that the rounds run out; random ones
are not more than there are rounds. -/
theorem desiredOrRandom_draws (rounds : Nat) :
    ∀ desired : Option (List SqlType), (desiredOrRandom rounds desired).Draws
      (fun types => Served desired types ∧ (desired = none → types.length ≤ rounds))
      (fun why => why = .roundsExhausted)
  | some [] => Gen.nothing_draws
  | some (t :: ts) => Gen.pure_draws ⟨⟨by simp, rfl⟩, fun h => by cases h⟩
  | none => by
      refine sqlType_draws.bind fun t ht => (moreTypes_draws rounds).bind fun ts hts => ?_
      refine Gen.pure_draws ⟨⟨by simp, List.forall_mem_cons.2 ⟨ht, hts.2⟩⟩, fun _ => ?_⟩
      rw [List.length_cons]
      exact hts.1

/-! ## §2. Options in range. -/

/-- What valid options promise, by the names of the knobs. -/
structure InRange (o : Options) : Prop where
  retryCount : o.retryCount ≠ 0
  maxDepth : ∀ d, o.maxDepth = some d → d ≠ 0
  insertProb : o.insertProb.isProbability = true
  nullLiteralProb : o.nullLiteralProb.isProbability = true
  distinctProb : o.distinctProb.isProbability = true
  limitProb : o.limitProb.isProbability = true
  maxLimit : o.maxLimit ≠ 0
  maxValuesRows : o.maxValuesRows ≠ 0

theorem inRange_of_isValid {o : Options} (h : o.isValid = true) : InRange o := by
  obtain ⟨retry, depth, insert, null, distinct, limit, most, rows⟩ := Options.isValid_iff.1 h
  exact ⟨retry, depth, insert, null, distinct, limit, most, rows⟩

/-- A probability out of range comes of invalid options only. -/
theorem invalid_of_prob {o : Options} {p : Double} (hp : p.isProbability = false)
    (h : InRange o → p.isProbability = true) : o.isValid = false := by
  refine Bool.eq_false_iff.2 fun hv => ?_
  rw [h (inRange_of_isValid hv)] at hp
  cases hp

/-- A count of zero comes of invalid options only. -/
theorem invalid_of_zero {o : Options} {n : Nat} (hn : n = 0)
    (h : InRange o → n ≠ 0) : o.isValid = false :=
  Bool.eq_false_iff.2 fun hv => h (inRange_of_isValid hv) hn

/-! ## §3. Literals and limits. -/

/-- What may be drawn as a value of a base type, NULL aside. -/
def Drawn : BaseType → Literal → Prop
  | .int, .int n => 1 ≤ n ∧ n ≤ 6
  | .bool, .bool _ => True
  | .string, .string s => s = "hello" ∨ s = "goodbye"
  | .any, .string s => s = "hello" ∨ s = "goodbye"
  | _, _ => False

theorem literalValue_draws (base : BaseType) {F : Fault → Prop} :
    (literalValue base).Draws (Drawn base) F := by
  have word : ∀ b : Bool, (if b then "hello" else "goodbye") = "hello"
      ∨ (if b then "hello" else "goodbye") = "goodbye" := by decide
  cases base with
  | int =>
      refine (Gen.die_draws_of_ne_zero (by decide)).bind fun n hn => Gen.pure_draws ?_
      show 1 ≤ (n : Int) ∧ (n : Int) ≤ 6
      omega
  | bool => exact Gen.coin_draws.bind fun _ _ => Gen.pure_draws trivial
  | string => exact Gen.coin_draws.bind fun b _ => Gen.pure_draws (word b)
  | any => exact Gen.coin_draws.bind fun b _ => Gen.pure_draws (word b)

/-- What the value of a literal of a type may be under the options. -/
def LiteralOf (o : Options) (t : SqlType) (v : Literal) : Prop :=
  (v = .null ∧ t.nullable = true ∧ Possible o.nullLiteralProb true)
    ∨ (Drawn t.base v ∧ (t.nullable = true → Possible o.nullLiteralProb false))

theorem nullLiteral_draws (S : Setting) (t : SqlType) :
    (nullLiteral S t).Draws
      (fun null => if null = true
        then t.nullable = true ∧ Possible S.options.nullLiteralProb true
        else t.nullable = true → Possible S.options.nullLiteralProb false)
      (fun _ => S.options.isValid = false) := by
  unfold nullLiteral
  split
  · rename_i ht
    refine (Gen.chance_draws S.options.nullLiteralProb).mono (fun null h => ?_) fun why hw => ?_
    · cases null with
      | true => exact ⟨ht, h⟩
      | false => exact fun _ => h
    · exact invalid_of_prob hw.2 fun hv => hv.nullLiteralProb
  · rename_i ht
    exact Gen.pure_draws fun h => absurd h ht

/-- What a LIMIT may be under the options. -/
def LimitOf (o : Options) : Option Nat → Prop
  | none => Possible o.limitProb false
  | some n => Possible o.limitProb true ∧ 1 ≤ n ∧ n ≤ o.maxLimit

theorem limit_draws (S : Setting) :
    (limit S).Draws (LimitOf S.options) (fun _ => S.options.isValid = false) := by
  refine ((Gen.chance_draws S.options.limitProb).mono (fun _ h => h) fun why hw => ?_).bind
    fun limited h => ?_
  · exact invalid_of_prob hw.2 fun hv => hv.limitProb
  · cases limited with
    | false => exact Gen.pure_draws h
    | true =>
        refine ((Gen.die_draws S.options.maxLimit).mono (fun _ h => h) fun why hw => ?_).bind
          fun n hn => Gen.pure_draws ⟨h, hn⟩
        exact invalid_of_zero hw.2 fun hv => hv.maxLimit

/-! ## §4. Targets of an INSERT. -/

/-- Whether an INSERT may leave a column out. -/
def Omissible (c : Column) : Prop :=
  c.isInsertTarget = false ∨ (c.writability ≠ .mustBeWritten ∧ c.type.nullable = true)

/-- The columns of a table that an INSERT may name, in the table's order. -/
inductive Targets : List Column → List Column → Prop where
  | nil : Targets [] []
  | named {c : Column} {columns targets : List Column} (h : c.isInsertTarget = true)
      (rest : Targets columns targets) : Targets (c :: columns) (c :: targets)
  | omitted {c : Column} {columns targets : List Column} (h : Omissible c)
      (rest : Targets columns targets) : Targets (c :: columns) targets

/-- Targets are columns of the table. -/
theorem Targets.subset {columns targets : List Column} (h : Targets columns targets) :
    targets ⊆ columns := by
  induction h with
  | nil => exact List.Subset.refl []
  | named _ _ ih => exact List.cons_subset_cons _ ih
  | omitted _ _ ih => exact List.subset_cons_of_subset _ ih

theorem isNamed_draws (c : Column) {F : Fault → Prop} :
    (isNamed c).Draws
      (fun named => if named = true then c.isInsertTarget = true else Omissible c) F := by
  unfold isNamed
  split
  · rename_i htarget
    split
    · exact Gen.pure_draws htarget
    · rename_i hfree
      simp only [Bool.or_eq_true, decide_eq_true_eq, Bool.not_eq_true', not_or,
        Bool.not_eq_false] at hfree
      refine Gen.coin_draws.mono (fun named _ => ?_) fun _ h => h
      cases named with
      | true => exact htarget
      | false => exact Or.inr hfree
  · rename_i htarget
    exact Gen.pure_draws (Or.inl (by simpa using htarget))

theorem insertTargets_draws {F : Fault → Prop} :
    ∀ columns, (insertTargets columns).Draws (Targets columns) F
  | [] => Gen.pure_draws .nil
  | c :: columns => by
      refine (isNamed_draws c).bind fun named hnamed =>
        (insertTargets_draws columns).bind fun targets htargets => Gen.pure_draws ?_
      cases named with
      | true => exact .named hnamed htargets
      | false => exact .omitted hnamed htargets

end QueryFuzz.Generate
