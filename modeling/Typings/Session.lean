import Typings.Declaration.Statement
import Typings.Parser

/-!
# Documents and sessions

A document is made in three steps: the whole tree is read, the errors reported by the parser are
checked, and the statements are rendered. A session makes one document after another, and all of them
record their diagnostics in its one log.
-/

namespace Typings

/-! ## Documents -/

/-- Reads a tree that must be a program without errors in its source. -/
def acceptTree (tree : Json) : Except Failure Program :=
  match Program.ofEstree tree with
  | .ok p => p.check
  | .error (.notProgram found) => .error (.rejected (.notProgram found))
  | .error (.malformed .tooManyDigits) => .error (.rejected .longInteger)
  | .error e => .error e

def documentOfTree (ctx : Context) (tree : Json) : Rendering String := do
  let p ← Rendering.ofExcept (acceptTree tree)
  p.render ctx

/-- The document of a source, given how the run of the parser on it went. -/
def documentOfSource (ctx : Context) (program : Option String) (launch : Launch) :
    Rendering String := do
  let tree ← Rendering.ofExcept (launch.tree program)
  documentOfTree ctx tree

def defaultIndent : String := "  "

/-- The context of a document that belongs to no file. -/
def defaultContext : Context := ⟨defaultIndent, ""⟩

/-- What stays the same in a session: the parser, the unit of indentation, and whether reports list
every diagnostic. -/
structure Settings where
  parser : Option String
  indent : String
  verbose : Bool
  deriving DecidableEq, Repr

/-- The context of a document of a session. -/
def Settings.context (settings : Settings) (file : String) : Context :=
  ⟨settings.indent, file⟩

structure Session where
  settings : Settings
  log : Log

namespace Session

/-- A session that has made no document. -/
def fresh (settings : Settings) : Session := ⟨settings, []⟩

/-- Renders with the log of the session. -/
def render (s : Session) (r : Rendering String) : Except Failure String × Session :=
  let (result, log) := r.run s.log
  (result, { s with log })

def addTree (s : Session) (tree : Json) (file : String) : Except Failure String × Session :=
  s.render (documentOfTree (s.settings.context file) tree)

def addSource (s : Session) (file : String) (launch : Launch) :
    Except Failure String × Session :=
  s.render (documentOfSource (s.settings.context file) s.settings.parser launch)

/-- The report on all documents so far. -/
def report (s : Session) : Printout := s.log.report s.settings.verbose

/-- The summary of all documents so far. -/
def summary (s : Session) : String := s.log.summary

end Session

end Typings
