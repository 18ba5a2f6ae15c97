/-
  QueryFuzz.Profile
  ─────────────────
  **HOW A CAMPAIGN IS RUN: PRESETS AND PROFILES.**

  A profile adds to the generation options how often the schema changes, how
  often progress is reported, and when to give up.  It is valid when no knob of
  either is out of range.
-/
import QueryFuzz.Document.Knobs

namespace QueryFuzz

/-! ## §1. Profiles. -/

/-- How a campaign is run. -/
structure Profile where
  generation : Options := {}
  /-- Steps between random new tables; zero for none. -/
  ddlInterval : Nat := 100
  /-- Steps between progress reports. -/
  progressInterval : Nat := 1000
  /-- Steps in a row without a statement after which the run is given up. -/
  maxConsecutiveFailures : Nat := 1000
  deriving DecidableEq, Repr, Inhabited

namespace Profile

/-- Every knob out of range, those of generation first. -/
def problems (p : Profile) : Report :=
  p.generation.problems.map (fun q => ("generation." ++ q.1, q.2))
    ++ Report.ofCount "max_consecutive_failures" p.maxConsecutiveFailures
    ++ Report.ofCount "progress_interval" p.progressInterval

/-- Whether no knob is out of range. -/
def isValid (p : Profile) : Bool := p.problems.isEmpty

/-- The profile that never changes the schema. -/
def noDdl : Profile := { ddlInterval := 0 }

/-- The profile of small statements. -/
def shallow : Profile := { generation := { maxDepth := some 6 } }

example : ({} : Profile).isValid = true ∧ noDdl.isValid = true ∧ shallow.isValid = true := by
  decide

/-- How profiles are written, given how options are read. -/
def shape {V : Type} (readers : KnobReaders V) (options : V → Except Flaw Options) :
    RecordShape V Profile where
  label := "Profile"
  fields :=
    [knob "generation" options fun g p => { p with generation := g },
      knob "ddl_interval" readers.count64 fun n p => { p with ddlInterval := n },
      knob "progress_interval" readers.count64 fun n p => { p with progressInterval := n },
      knob "max_consecutive_failures" readers.count64
        fun n p => { p with maxConsecutiveFailures := n }]
  strict := true
  skip := readers.skip
  start := {}

end Profile

/-! ## §2. Choosing a profile. -/

/-- A preset, or the path of a profile file. -/
inductive ProfileChoice where
  | default
  | noDdl
  | shallow
  | custom (path : String)
  deriving DecidableEq, Repr

namespace ProfileChoice

/-- The presets by their names. -/
def presets : List (String × ProfileChoice) :=
  [("default", default), ("no_ddl", noDdl), ("shallow", shallow)]

/-- The preset of a name, the case of ASCII letters ignored. -/
def preset? (name : String) : Option ProfileChoice :=
  (presets.find? fun p => decide (p.1 = name.toLower)).map Prod.snd

/-- A preset's name, or else the path of a file that exists. -/
def ofText (fileExists : String → Bool) (text : String) : Option ProfileChoice :=
  match preset? text with
  | some choice => some choice
  | none => if fileExists text then some (custom text) else none

/-- The preset's name; none for a file. -/
def name? (choice : ProfileChoice) : Option String :=
  (presets.find? fun p => decide (p.2 = choice)).map Prod.fst

/-- The choice as it is logged: a word for a preset, a quoted path for a file. -/
def label : ProfileChoice → String
  | default => "Default"
  | noDdl => "NoDdl"
  | shallow => "Shallow"
  | custom path => "Custom(" ++ Unicode.quotedText path ++ ")"

/-- The wording when a text names neither. -/
def unknownMessage (text : String) : String :=
  ReadProblem.quoted text ++ " is neither a predefined profile nor a profile file"

end ProfileChoice

end QueryFuzz
