import Typings.CommandLine.Run

/-!
# The command

Reads the input, prints or writes the result, and ends with the code of the run. No parser is
started from here: an input must hold a tree.
-/

namespace Typings

/-- The flaw that an error of the system stands for. -/
def flawOfError : IO.Error → FileFlaw
  | .permissionDenied .. => .denied
  | .alreadyExists .. => .occupied
  | .inappropriateType _ code _ => if code = 20 then .notDirectory else .isDirectory
  | _ => .notFound

/-- The contents of a file of the system. -/
def readBytes (path : String) : IO (Except FileError (List UInt8)) := do
  try
    let bytes ← IO.FS.readBinFile path
    return .ok bytes.toList
  catch e => return .error (.flawed (flawOfError e) path)

/-- Writes a file of the system and makes the directories that lead to it. -/
def writeText (path : Path) (content : String) : IO Unit := do
  IO.FS.createDirAll path.parent.toString
  IO.FS.writeFile path.toString content

/-- Ends the program with a failure that is not reported. -/
def passOn (e : Failure) : IO UInt32 :=
  throw (IO.userError e.message)

/-- A run with options that were accepted and give the width of the indentation, on the files of the
system. -/
def Options.performWith (o : Options) (width : Nat) : IO UInt32 := do
  let (tree, _) := o.tree (← readBytes o.input) .missing
  let (result, log) := (o.render width tree).run []
  match result with
  | .error e =>
    if e.isReported then
      IO.eprint e.report
      return 1
    else passOn e
  | .ok content =>
    match o.target with
    | none => IO.print content
    | some path =>
      writeText path content
      IO.eprint (writtenLine path)
    let report := log.report o.verbose
    IO.eprint report.text
    match report.ending with
    | .ok () => return 0
    | .error m => passOn (.malformed m)

/-- A run with options that were accepted, on the files of the system. -/
def Options.perform (o : Options) : IO UInt32 := do
  match o.indentWidth with
  | .ok width => o.performWith width
  | .error m => passOn (.malformed m)

end Typings

def main (arguments : List String) : IO UInt32 := do
  match Typings.Options.ofArguments arguments with
  | .ok o => o.perform
  | .error .help =>
    IO.print Typings.help
    return 0
  | .error (.usage e) =>
    IO.eprint e.complaint
    return 2
