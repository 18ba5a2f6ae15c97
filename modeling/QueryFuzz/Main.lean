/-
  QueryFuzz.Main
  ──────────────
  **THE PROGRAM.**

  Looks up the files the arguments name, hands them on, and prints what comes
  back.  Log lines are printed without the time.
-/
import QueryFuzz.CommandLine.Run

namespace QueryFuzz

/-- The code of the error that a name is too long. -/
def nameTooLongCode : UInt32 := 0 - 36

/-- What a failed attempt to read a path tells about it: one that is opened but not read
is a directory. -/
def failedEntry : IO.Error → FileEntry
  | .noFileOrDirectory .. => .missing .notFound
  | .inappropriateType none .. => .directory
  | .inappropriateType (some _) .. => .missing .notDirectory
  | .invalidArgument path code details =>
      if code = nameTooLongCode then .missing .nameTooLong
      else .unreadable (.other (toString (IO.Error.invalidArgument path code details)))
  | other => .unreadable (.other (toString other))

/-- What a path leads to. -/
def fileEntry (path : String) : IO FileEntry := do
  try
    let contents ← IO.FS.readFile path
    pure (.text contents)
  catch e => pure (failedEntry e)

/-- A seed from the system's source of randomness. -/
def systemSeed : IO UInt64 := do
  let bytes ← IO.getRandomBytes 8
  pure (UInt64.ofNat (bytes.toList.foldl (fun n b => n * 256 + b.toNat) 0))

/-- Run the program with arguments and answer its exit status. -/
def program (args : List String) : IO UInt32 := do
  let paths := ((Arguments.ofList? (fun _ => true) args).map Arguments.paths).getD []
  let entries ← paths.mapM fun path => do
    let entry ← fileEntry path
    pure (path, entry)
  let files : Files := fun path =>
    ((entries.find? fun e => decide (e.1 = path)).map Prod.snd).getD (.missing .notFound)
  let randomSeed ← systemSeed
  let directives ← IO.getEnv "RUST_LOG"
  let output := CommandLine.run { files, randomSeed, directives := directives.getD "" } args
  output.lines.forM IO.println
  IO.eprint output.report
  pure (UInt32.ofNat output.status)

end QueryFuzz

/-- The entry point. -/
def main (args : List String) : IO UInt32 := QueryFuzz.program args
