import Typings.CommandLine.Usage
import Typings.Json.Writer
import Typings.Session

/-!
# Runs of the command

A run reads its input, makes a document or dumps the tree, and then writes the result and reports
the diagnostics. Nothing is written before the whole result is there. Failures to make it are
reported and end the run with code one; malformed values and paths, integers that are too long,
texts that no encoding has, and failures to write or to report are passed on.
-/

namespace Typings

/-! ## Results -/

/-- The tree in a file, and the starts of the parser that were needed for it. A file whose name
ends in `.json` holds a tree, any other file a source. -/
def Options.tree (o : Options) (file : Except FileError (List UInt8)) (launch : Launch) :
    Except Failure Json × List Call :=
  match file with
  | .error e => (.error (.file e), [])
  | .ok bytes =>
    match Text.decodeUtf8 bytes with
    | .error e => (.error (.undecodable e), [])
    | .ok decoded =>
      let text := String.ofList (Text.unifyLineEnds decoded.toList)
      if (Path.ofString o.input).suffix = ".json" then
        ((Json.read text).mapError (.ofReadError (.treeFile o.input)), [])
      else (launch.tree o.parser, [⟨o.parser, text⟩])

/-- The text of a dumped tree. -/
def dumpTree (tree : Json) : String :=
  tree.write ++ "\n"

/-- What a tree is made into: its dump, or its document with `width` blanks of indentation. -/
def Options.render (o : Options) (width : Nat) (tree : Except Failure Json) :
    Rendering String := do
  let tree ← Rendering.ofExcept tree
  if o.dump then return dumpTree tree
  else documentOfTree ⟨Text.copies " " width, o.input⟩ tree

/-! ## Endings -/

/-- Whether the command reports a failure itself. -/
def Failure.isReported : Failure → Bool
  | .unhandled _ | .rejected _ | .parserMissing _ | .parserDenied _ | .undecodable _ => true
  | .file (.flawed ..) => true
  | .malformed _ | .notProgram _ | .longInteger _ | .unpairedHalf | .file .nullInPath => false

/-- The line that reports a failure. -/
def Failure.report (e : Failure) : String :=
  "Error: " ++ e.message ++ "\n"

/-- The code of a run whose diagnostics have been printed. -/
def Printout.code (report : Printout) : Except Failure Nat :=
  match report.ending with
  | .ok () => .ok 0
  | .error m => .error (.malformed m)

/-- The line that reports a written file. -/
def writtenLine (path : Path) : String :=
  "Written: " ++ path.toString ++ "\n"

/-- How a run ended: a code or a failure that is passed on, what was printed, the files as they are
afterwards, and the starts of the parser. -/
structure Outcome where
  ending : Except Failure Nat
  stdout : String
  stderr : String
  files : FileSystem
  calls : List Call

/-- Where the result goes: to a file unless none, or an empty name, is given. -/
def Options.target (o : Options) : Option Path :=
  match o.output with
  | none => none
  | some name => if name = "" then none else some (Path.ofString name)

/-- Writes a result to a file and makes the directories that lead to it. -/
def FileSystem.deliver (fs : FileSystem) (path : Path) (content : String) :
    Except FileError Unit × FileSystem :=
  match fs.makeDirectories path.parent with
  | (.error e, left) => (.error e, left)
  | (.ok (), made) =>
    match made.write path.toString (Text.encodeUtf8 content) with
    | .error e => (.error e, made)
    | .ok written => (.ok (), written)

/-- A run with options that were accepted and give the width of the indentation. -/
def Options.runWith (o : Options) (width : Nat) (fs : FileSystem) (launch : Launch) : Outcome :=
  let (tree, calls) := o.tree (fs.read o.input) launch
  let (result, log) := (o.render width tree).run []
  match result with
  | .error e =>
    if e.isReported then ⟨.ok 1, "", e.report, fs, calls⟩ else ⟨.error e, "", "", fs, calls⟩
  | .ok content =>
    let report := log.report o.verbose
    match o.target with
    | none => ⟨report.code, content, report.text, fs, calls⟩
    | some path =>
      match fs.deliver path content with
      | (.ok (), written) => ⟨report.code, "", writtenLine path ++ report.text, written, calls⟩
      | (.error e, left) => ⟨.error (.file e), "", "", left, calls⟩

/-- A run with options that were accepted. Nothing is read if the indentation is impossible. -/
def Options.run (o : Options) (fs : FileSystem) (launch : Launch) : Outcome :=
  match o.indentWidth with
  | .ok width => o.runWith width fs launch
  | .error m => ⟨.error (.malformed m), "", "", fs, []⟩

def run (arguments : List String) (fs : FileSystem) (launch : Launch) : Outcome :=
  match Options.ofArguments arguments with
  | .ok o => o.run fs launch
  | .error .help => ⟨.ok 0, help, "", fs, []⟩
  | .error (.usage e) => ⟨.ok 2, "", e.complaint, fs, []⟩

end Typings
