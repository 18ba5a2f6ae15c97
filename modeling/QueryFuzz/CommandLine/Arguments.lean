/-
  QueryFuzz.CommandLine.Arguments
  ───────────────────────────────
  **THE ARGUMENTS OF THE PROGRAM.**

  Options are given by a long name or some by a letter; each may be given once,
  and all but one take a value.  A value stands behind an equals sign, behind the
  letter, or in the next argument, which may then not look like an option.
  Anything else, and a value out of range, makes the arguments unusable.
-/
import QueryFuzz.Count
import QueryFuzz.Profile

namespace QueryFuzz

/-! ## §1. Arguments. -/

/-- What the program is asked to do. -/
structure Arguments where
  /-- The seed, unless it is left to chance. -/
  seed : Option UInt64 := none
  iterations : Nat := 10000
  host : String := "localhost"
  port : Nat := 26257
  user : String := "root"
  database : String := "defaultdb"
  profile : ProfileChoice := .default
  /-- Path of the catalog to generate against, without a database. -/
  catalog : Option String := none
  /-- Whether every statement is logged for all to see. -/
  loud : Bool := false
  deriving DecidableEq, Repr

namespace Arguments

/-- An option of the command line. -/
inductive Switch where
  | seed
  | iterations
  | host
  | port
  | user
  | database
  | profile
  | catalog
  | loud
  deriving DecidableEq, Repr

namespace Switch

/-- Options by their long names. -/
def longNames : List (String × Switch) :=
  [("seed", seed), ("iterations", iterations), ("host", host), ("port", port), ("user", user),
    ("dbname", database), ("profile", profile), ("catalog", catalog), ("verbose", loud)]

/-- Options by their letters. -/
def letters : List (Char × Switch) := [('s', seed), ('n', iterations), ('v', loud)]

/-- The option of a long name. -/
def ofName? (name : List Char) : Option Switch :=
  (longNames.find? fun n => decide (n.1 = String.ofList name)).map Prod.snd

/-- The option of a letter. -/
def ofLetter? (letter : Char) : Option Switch :=
  (letters.find? fun n => decide (n.1 = letter)).map Prod.snd

end Switch

/-! ## §2. Values. -/

/-- A port; zero may also be written with a minus. -/
def port? (value : String) : Option Nat :=
  match value.toList with
  | '-' :: cs => (decimal? cs).bind fun n => if n = 0 then some 0 else none
  | cs => count? 65535 cs

/-- Set an option to a value. -/
def set? (fileExists : String → Bool) (switch : Switch) (value : String) (a : Arguments) :
    Option Arguments :=
  match switch with
  | .seed => (count? (2 ^ 64 - 1) value.toList).map fun n => { a with seed := some (UInt64.ofNat n) }
  | .iterations => (count? (2 ^ 64 - 1) value.toList).map fun n => { a with iterations := n }
  | .host => some { a with host := value }
  | .port => (port? value).map fun n => { a with port := n }
  | .user => some { a with user := value }
  | .database => some { a with database := value }
  | .profile => (ProfileChoice.ofText fileExists value).map fun p => { a with profile := p }
  | .catalog => if value.isEmpty then none else some { a with catalog := some value }
  | .loud => none

/-! ## §3. Reading the arguments. -/

/-- What one argument gives: options without a value in front, and at its end
perhaps one that takes a value, which may still be missing. -/
structure Cluster where
  flags : List Switch
  setting : Option (Switch × Option String)

/-- The options of letters behind one dash. -/
def letterCluster? : List Char → Option Cluster
  | [] => some ⟨[], none⟩
  | c :: cs =>
      match Switch.ofLetter? c with
      | none => none
      | some .loud => (letterCluster? cs).map fun k => { k with flags := .loud :: k.flags }
      | some switch =>
          match cs with
          | [] => some ⟨[], some (switch, none)⟩
          | '=' :: value => some ⟨[], some (switch, some (String.ofList value))⟩
          | value => some ⟨[], some (switch, some (String.ofList value))⟩

/-- The option of a long name, perhaps with a value behind an equals sign. -/
def nameCluster? (cs : List Char) : Option Cluster := do
  let switch ← Switch.ofName? (cs.takeWhile (· ≠ '='))
  let value :=
    match cs.dropWhile (· ≠ '=') with
    | [] => none
    | _ :: value => some (String.ofList value)
  match switch, value with
  | .loud, none => some ⟨[.loud], none⟩
  | .loud, some _ => none
  | switch, value => some ⟨[], some (switch, value)⟩

/-- The options of an argument. -/
def cluster? (arg : String) : Option Cluster :=
  match arg.toList with
  | '-' :: '-' :: cs => nameCluster? cs
  | '-' :: c :: cs => letterCluster? (c :: cs)
  | _ => none

/-- Whether an argument may be the value of the option in front of it. -/
def isValue (arg : String) : Bool :=
  match arg.toList with
  | '-' :: _ :: _ => false
  | _ => true

/-- Note the flags of a cluster; none when one of them was given before. -/
def flags? (flags : List Switch) (seen : List Switch) (a : Arguments) :
    Option (List Switch × Arguments) :=
  match flags with
  | [] => some (seen, a)
  | f :: fs => if seen.contains f then none else flags? fs (f :: seen) { a with loud := true }

/-- Read arguments from left to right; `seen` are the options given so far. -/
def read? (fileExists : String → Bool) :
    List String → List Switch → Arguments → Option Arguments
  | [], _, a => some a
  | "--" :: rest, _, a => if rest.isEmpty then some a else none
  | arg :: rest, seen, a => do
      let k ← cluster? arg
      let (seen, a) ← flags? k.flags seen a
      match k.setting with
      | none => read? fileExists rest seen a
      | some (switch, value) =>
          if seen.contains switch then none
          else
            match value, rest with
            | some value, rest => do
                let a ← set? fileExists switch value a
                read? fileExists rest (switch :: seen) a
            | none, [] => none
            | none, value :: rest =>
                if isValue value then do
                  let a ← set? fileExists switch value a
                  read? fileExists rest (switch :: seen) a
                else none

/-- The arguments of a command line, if they are usable. -/
def ofList? (fileExists : String → Bool) (args : List String) : Option Arguments :=
  read? fileExists args [] {}

/-- The paths of the files that arguments name. -/
def paths (a : Arguments) : List String :=
  (match a.profile with
    | .custom path => [path]
    | _ => []) ++ a.catalog.toList

end Arguments

end QueryFuzz
