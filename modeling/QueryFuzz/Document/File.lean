/-
  QueryFuzz.Document.File
  ───────────────────────
  **FILES AS THE PROGRAM SEES THEM.**

  The program asks for nothing but the contents of a path, so the files around
  it are a function from paths.
-/

namespace QueryFuzz

/-- Why a path has no contents. -/
inductive FileProblem where
  | notFound
  /-- A part of the path that should be a directory is a file. -/
  | notDirectory
  | isDirectory
  | nameTooLong
  | other (why : String)
  deriving DecidableEq, Repr

/-- The wording of a problem. -/
def FileProblem.message : FileProblem → String
  | notFound => "No such file or directory (os error 2)"
  | notDirectory => "Not a directory (os error 20)"
  | isDirectory => "Is a directory (os error 21)"
  | nameTooLong => "File name too long (os error 36)"
  | other why => why

/-- What a path leads to. -/
inductive FileEntry where
  /-- Nothing. -/
  | missing (why : FileProblem)
  | directory
  | text (contents : String)
  /-- A file that cannot be read. -/
  | unreadable (why : FileProblem)
  deriving DecidableEq, Repr

/-- Everything there is to read. -/
abbrev Files := String → FileEntry

namespace Files

/-- Whether a path leads to anything. -/
def has (files : Files) (path : String) : Bool :=
  match files path with
  | .missing _ => false
  | _ => true

/-- The contents of a path. -/
def read (files : Files) (path : String) : Except FileProblem String :=
  match files path with
  | .missing why | .unreadable why => .error why
  | .directory => .error .isDirectory
  | .text contents => .ok contents

end Files

end QueryFuzz
