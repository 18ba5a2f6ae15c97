/-
  QueryFuzz.Options
  ─────────────────
  **THE KNOBS OF GENERATION, AND WHAT IS WRONG WITH A SETTING OF THEM.**

  `Options.problems` lists every knob out of range under its name, names in
  alphabetical order; a setting without problems is valid.  A `Report` is such
  a list, written one line per problem.
-/
import QueryFuzz.Double.Shortest

namespace QueryFuzz

/-! ## §1. Problems. -/

/-- What is wrong with one knob. -/
inductive KnobProblem where
  /-- A count is zero. -/
  | belowOne
  /-- A probability lies outside [0, 1]. -/
  | notProbability (value : Double)
  deriving DecidableEq, Repr

/-- The wording of a problem. -/
def KnobProblem.message : KnobProblem → String
  | belowOne => "lower than 1"
  | notProbability value =>
      "\x60" ++ value.render Double.plain ++ "\x60 is not a probability in [0, 1]"

/-- Problems under the name of their knob. -/
abbrev Report := List (String × KnobProblem)

/-- One line per problem. -/
def Report.render (r : Report) : String :=
  r.foldl (fun text p => text ++ p.1 ++ ": " ++ p.2.message ++ "\n") ""

/-- A report on a count that has to be at least one. -/
def Report.ofCount (name : String) (value : Nat) : Report :=
  if value = 0 then [(name, .belowOne)] else []

/-- A report on a number that has to be a probability. -/
def Report.ofProbability (name : String) (value : Double) : Report :=
  if value.isProbability then [] else [(name, .notProbability value)]

/-! ## §2. The knobs. -/

/-- How statements are generated. -/
structure Options where
  /-- Attempts at one place before it is given up. -/
  retryCount : Nat := 20
  /-- Scope level from which on only leaves are generated; `none` leaves the
  nesting to the dice. -/
  maxDepth : Option Nat := some 24
  /-- Probability that a statement is an INSERT: one third. -/
  insertProb : Double := ⟨0x3FD5555555555555⟩
  /-- Probability that a literal of a nullable type is NULL: one sixth. -/
  nullLiteralProb : Double := ⟨0x3FC5555555555555⟩
  /-- Probability of DISTINCT: one hundredth. -/
  distinctProb : Double := ⟨0x3F847AE147AE147B⟩
  /-- Probability of a LIMIT: two thirds. -/
  limitProb : Double := ⟨0x3FE5555555555555⟩
  /-- Greatest LIMIT. -/
  maxLimit : Nat := 100
  /-- Most rows of a VALUES. -/
  maxValuesRows : Nat := 5
  deriving DecidableEq, Repr, Inhabited

namespace Options

/-- Every knob out of range, in alphabetical order of the knobs' names. -/
def problems (o : Options) : Report :=
  Report.ofProbability "distinct_prob" o.distinctProb
    ++ Report.ofProbability "insert_prob" o.insertProb
    ++ Report.ofProbability "limit_prob" o.limitProb
    ++ (o.maxDepth.map (Report.ofCount "max_depth")).getD []
    ++ Report.ofCount "max_limit" o.maxLimit
    ++ Report.ofCount "max_values_rows" o.maxValuesRows
    ++ Report.ofProbability "null_literal_prob" o.nullLiteralProb
    ++ Report.ofCount "retry_count" o.retryCount

/-- Whether no knob is out of range. -/
def isValid (o : Options) : Bool := o.problems.isEmpty

example : ({} : Options).isValid = true := by decide

/-- What a valid setting promises. -/
theorem isValid_iff {o : Options} :
    o.isValid = true ↔
      o.retryCount ≠ 0 ∧ (∀ d, o.maxDepth = some d → d ≠ 0)
        ∧ o.insertProb.isProbability = true ∧ o.nullLiteralProb.isProbability = true
        ∧ o.distinctProb.isProbability = true ∧ o.limitProb.isProbability = true
        ∧ o.maxLimit ≠ 0 ∧ o.maxValuesRows ≠ 0 := by
  have count : ∀ (s : String) (n : Nat), Report.ofCount s n = [] ↔ n ≠ 0 := by
    intro s n
    by_cases h : n = 0 <;> simp [Report.ofCount, h]
  have prob : ∀ (s : String) (d : Double),
      Report.ofProbability s d = [] ↔ d.isProbability = true := by
    intro s d
    by_cases h : d.isProbability = true <;> simp [Report.ofProbability, h]
  cases hd : o.maxDepth with
  | none =>
      simp only [isValid, problems, hd, List.isEmpty_iff, List.append_eq_nil_iff, count, prob,
        Option.map_none, Option.getD_none]
      simp
      grind
  | some d =>
      simp only [isValid, problems, hd, List.isEmpty_iff, List.append_eq_nil_iff, count, prob,
        Option.map_some, Option.getD_some, Option.some.injEq]
      grind

end Options

end QueryFuzz
