/-
  QueryFuzz.CommandLine.Run
  ─────────────────────────
  **THE WHOLE PROGRAM, FILES AND ENVIRONMENT GIVEN.**

  The arguments choose a profile and a catalog file; a campaign runs against
  that catalog without a database, and its log is what the program prints.

      run — exit status, printed lines, and the report of an error
-/
import QueryFuzz.Campaign.Basic
import QueryFuzz.CommandLine.Arguments
import QueryFuzz.Loading
import QueryFuzz.Log.Directive

namespace QueryFuzz.CommandLine

/-! ## §1. What the program leaves behind. -/

/-- What a run of the program leaves behind. -/
structure Output where
  /-- Zero when all went well, one after an error or a crash, two when the
  arguments are unusable. -/
  status : Nat
  /-- Lines of the log. -/
  lines : List String := []
  /-- The report of an error. -/
  report : String := ""
  deriving DecidableEq, Repr

/-- The status when the program was halted by a fault. -/
def faultStatus : Nat := 101

/-- The surroundings of a run. -/
structure Surroundings where
  files : Files
  /-- The seed when none is given. -/
  randomSeed : UInt64
  /-- Directives for the filter of the log. -/
  directives : String := ""

/-! ## §2. Reports. -/

/-- A text with four blanks in front of each of its lines. -/
def indented (text : String) : String :=
  "\n".intercalate ((text.splitOn "\n").map fun line => "    " ++ line)

/-- The report of an error, with its cause behind it when there is one. -/
def report (outer : String) (cause : Option String) : String :=
  "Error: " ++ outer
    ++ (match cause with
      | none => ""
      | some c => "\n\nCaused by:\n" ++ indented c)
    ++ "\n"

/-- The report of a campaign's error. -/
def campaignReport (e : CampaignError) : String :=
  match e.context? with
  | some context => report context (some e.message)
  | none => report e.message none

/-- What is said when there is no catalog file, since no database can be reached. -/
def noDatabase : String := "no database can be reached"

/-! ## §3. Running. -/

/-- The lines of a log that a filter lets through. -/
def shown (filter : Filter) (log : Array Event) : List String :=
  (log.toList.filter filter.allows).map Event.line

/-- The output of a program that logged `log`. -/
def Surroundings.output (around : Surroundings) (status : Nat) (log : Array Event)
    (report : String) : Output :=
  { status
    lines := shown (Filter.ofText around.directives) log
    report := Filter.complaints around.directives ++ report }

/-- The output of a program that could not load a file. -/
def Surroundings.loadFailure (around : Surroundings) (log : Array Event) (e : LoadError) : Output :=
  around.output (if e.isFault then faultStatus else 1) log (report e.context (some e.cause))

/-- A campaign against a catalog without a database. -/
def campaign (around : Surroundings) (config : CampaignConfig) (catalog : Catalog)
    (log : Array Event) : Output :=
  match Campaign.start Backend.dryRun config catalog (.chacha8 config.seed) { log } with
  | (.failed e, _, s) => around.output 1 s.log (campaignReport e)
  | (.halted why, _, s) => around.output faultStatus s.log (why.message ++ "\n")
  | (.done c, _, _) =>
      match Campaign.run Backend.dryRun config c with
      | (.failed e, c) => around.output 1 c.session.state.log (campaignReport e)
      | (.halted why, c) =>
          around.output faultStatus c.session.state.log (why.message ++ "\n")
      | (.done result, c) =>
          match result.crash with
          | none => around.output 0 c.session.state.log ""
          | some crash =>
              around.output 1 (c.session.state.log.push (.crashDetected config.seed.toNat crash))
                ""

/-- Run the program with usable arguments: the profile is loaded before anything is
logged, the catalog after. -/
def runWith (around : Surroundings) (a : Arguments) : Output :=
  match a.profile.load around.files with
  | .error e => around.loadFailure #[] e
  | .ok profile =>
      let config : CampaignConfig :=
        { seed := a.seed.getD around.randomSeed
          iterations := a.iterations
          loud := a.loud
          profile }
      let log := #[Event.starting config.seed.toNat a.profile.label]
      match a.catalog with
      | none => around.output 1 log (report noDatabase none)
      | some path =>
          match loadCatalog around.files path with
          | .error e => around.loadFailure log e
          | .ok draft =>
              campaign around config draft.build
                (log ++ (Event.ofDropped draft.dropped).toArray)

/-- Run the program: the filter of the log is read before the arguments. -/
def run (around : Surroundings) (args : List String) : Output :=
  if Filter.isFault around.directives then { status := faultStatus }
  else
    match Arguments.ofList? around.files.has args with
    | none => { status := 2, report := "error: unusable arguments\n" }
    | some a => runWith around a

end QueryFuzz.CommandLine
