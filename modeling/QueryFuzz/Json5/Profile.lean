/-
  QueryFuzz.Json5.Profile
  ───────────────────────
  **PROFILES AS JSON5 DOCUMENTS.**

  Profiles are written by hand, so their language allows comments and trailing
  commas.  A profile is checked once it is read.
-/
import QueryFuzz.Json5.Complaint
import QueryFuzz.Json5.Typed
import QueryFuzz.Profile

namespace QueryFuzz

/-- Read options. -/
def Options.ofJson5 (v : Json5) : Except Flaw Options :=
  Json5.readRecord (Options.shape Json5.knobs) v

/-- Read a profile. -/
def Profile.ofJson5 (v : Json5) : Except Flaw Profile :=
  Json5.readRecord (Profile.shape Json5.knobs Options.ofJson5) v

/-- Why a text is no valid profile. -/
inductive ProfileProblem where
  /-- The text is not JSON5, for which it is reported why. -/
  | malformed (complaint : String)
  | unreadable (why : ReadProblem)
  | invalid (report : Report)
  deriving DecidableEq, Repr

namespace ProfileProblem

/-- The wording of a problem. -/
def message : ProfileProblem → String
  | malformed complaint => complaint
  | unreadable why => why.message
  | invalid report => report.render

/-- Whether reading ends in a fault. -/
def isFault : ProfileProblem → Bool
  | unreadable why => why.isFault
  | _ => false

end ProfileProblem

/-- The valid profile that a text describes. -/
def Profile.ofText (text : String) : Except ProfileProblem Profile :=
  match Json5.ofText text with
  | none => .error (.malformed (Json5.complaint text))
  | some v =>
      match Profile.ofJson5 v with
      | .error flaw => .error (.unreadable flaw.problem)
      | .ok profile =>
          if profile.isValid then .ok profile else .error (.invalid profile.problems)

end QueryFuzz
