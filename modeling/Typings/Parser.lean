import Typings.Estree.Statement
import Typings.Failure

/-!
# The parser

Sources are parsed by another program, which reads the source and writes its tree as JSON. What
matters of a run is how it ended.
-/

namespace Typings

/-- The program that parses unless another one is named. -/
def defaultParser : String := "flow"

/-- How a run of the parser went. -/
inductive Launch where
  /-- There is no such program. -/
  | missing
  /-- The program may not be started. -/
  | denied
  /-- The program ended, but what it wrote is no text. -/
  | undecodable (e : Text.Utf8Error)
  /-- The program ended with a code, having written its output and its complaints. -/
  | finished (code : Int) (output complaint : String)
  deriving DecidableEq, Repr

/-- A start of the parser: the program, if it has a name, and the source that it is given. -/
structure Call where
  program : Option String
  input : String
  deriving DecidableEq, Repr

def Launch.tree (program : Option String) : Launch → Except Failure Json
  | .missing => .error (.parserMissing program)
  | .denied => .error (.parserDenied program)
  | .undecodable e => .error (.undecodable e)
  | .finished code output complaint =>
    if code = 0 then
      match Json.read output with
      | .ok (.object fields) => .ok (.object fields)
      | .ok _ => .error (.rejected .noTree)
      | .error e => .error (.ofReadError .parserOutput e)
    else .error (.rejected (.parserFailed code (Text.trimBlank complaint)))

def Program.ofEstree (tree : Json) : Except Failure Program :=
  match notProgram? tree with
  | some found => do
    let shown ← found.display.mapError .malformed
    .error (.notProgram shown)
  | none => (Program.ofParts tree).mapError .malformed

/-- Rejects a program with errors in its source. The first of them is named with its message and its
position, which it must be possible to show. -/
def Program.check (p : Program) : Except Failure Program :=
  match p.errors with
  | [] => .ok p
  | first :: others =>
    match first.text with
    | .ok _ => .error (.rejected (.sourceErrors first others))
    | .error m => .error (.malformed m)

/-- The program that a run gives, if its source has no errors. -/
def Launch.program (program : Option String) (launch : Launch) : Except Failure Program := do
  let tree ← launch.tree program
  let p ← Program.ofEstree tree
  p.check

end Typings
