/-
  QueryFuzz.Loading
  ─────────────────
  **CATALOGS AND PROFILES FROM FILES.**

  What goes wrong is told in two parts: what was being done, and the cause.
-/
import QueryFuzz.Catalog.Document
import QueryFuzz.Document.File
import QueryFuzz.Json5.Profile

namespace QueryFuzz

/-- Why a catalog or a profile could not be loaded from a path. -/
inductive LoadError where
  | catalogUnreadable (path : String) (why : FileProblem)
  | catalogRefused (path : String) (why : Json.LocatedProblem)
  | profileUnreadable (path : String) (why : FileProblem)
  | profileRefused (path : String) (why : ProfileProblem)
  deriving DecidableEq, Repr

namespace LoadError

/-- What was being done. -/
def context : LoadError → String
  | catalogUnreadable path _ => "failed to read catalog file " ++ path
  | catalogRefused path _ => "failed to parse catalog file " ++ path
  | profileUnreadable path _ | profileRefused path _ => "failed to parse profile " ++ path

/-- The wording of the cause. -/
def cause : LoadError → String
  | catalogUnreadable _ why | profileUnreadable _ why => why.message
  | catalogRefused _ why => why.message
  | profileRefused _ why => why.message

/-- Whether loading ends in a fault. -/
def isFault : LoadError → Bool
  | profileRefused _ why => why.isFault
  | _ => false

end LoadError

/-- What the catalog in a file is to be built from. -/
def loadCatalog (files : Files) (path : String) : Except LoadError Draft :=
  match files.read path with
  | .error why => .error (.catalogUnreadable path why)
  | .ok contents =>
      match Json.decode Draft.ofJson contents with
      | .error why => .error (.catalogRefused path why)
      | .ok draft => .ok draft

/-- The profile of a choice. -/
def ProfileChoice.load (files : Files) : ProfileChoice → Except LoadError Profile
  | .default => .ok {}
  | .noDdl => .ok .noDdl
  | .shallow => .ok .shallow
  | .custom path =>
      match files.read path with
      | .error why => .error (.profileUnreadable path why)
      | .ok contents =>
          match Profile.ofText contents with
          | .error why => .error (.profileRefused path why)
          | .ok profile => .ok profile

end QueryFuzz
