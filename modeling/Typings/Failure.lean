import Typings.FileSystem.Basic
import Typings.Json.Reader
import Typings.Syntax.Statement
import Typings.Text.Utf8

/-!
# Failures

Why there is no declaration document. Each failure is a cause; `Failure.message` has the wording.
-/

namespace Typings

/-! ## Constructs without a rendering -/

/-- What a node was to be when it turned out to have no rendering. -/
inductive Role where
  | type
  | member
  | parameter
  | restArgument
  | defaultTarget
  | importSpecifier
  | exportSpecifier
  | aliasRight
  | declaration
  | statement
  deriving DecidableEq, Repr

def Role.message : Role → String
  | .type => "Unknown annotation type"
  | .member => "Unknown object type member"
  | .parameter => "Unknown parameter type"
  | .restArgument => "Rest argument must be an identifier"
  | .defaultTarget => "Unknown default parameter target"
  | .importSpecifier => "Unknown import specifier"
  | .exportSpecifier => "Unknown export specifier"
  | .aliasRight => "Unhandled rval type of type alias"
  | .declaration => "Unhandled declaration"
  | .statement => "Unhandled expression"

/-- A node of a kind that has no rendering in its role. -/
structure Unhandled where
  role : Role
  kind : Json
  loc : Option Location

def Unhandled.detail (u : Unhandled) : Except Malformed String := do
  return u.role.message ++ ": " ++ (← u.kind.display)

/-- A text followed by the position of a location, if there is one. -/
def withPosition (text : String) : Option Location → Except Malformed String
  | some loc => do return text ++ " " ++ (← loc.position)
  | none => .ok text

/-- The detail with the position of the node, if both can be shown. -/
def Unhandled.text (u : Unhandled) : Except Malformed String := do
  withPosition ("Never reach here: " ++ (← u.detail)) u.loc

/-! ## Rejected sources -/

/-- The message of an error in the source with its position, if both can be shown. -/
def ParseError.text (e : ParseError) : Except Malformed String := do
  withPosition (← e.message.display) e.loc

/-- Why a source gives no usable tree. -/
inductive Rejection where
  /-- The parser reported errors in the source. -/
  | sourceErrors (first : ParseError) (others : List ParseError)
  /-- The parser ended with a code other than zero. -/
  | parserFailed (code : Int) (complaint : String)
  /-- The output of the parser is no JSON document. -/
  | parserOutput (e : Json.ReadError)
  /-- The output of the parser is no object. -/
  | noTree
  /-- A file that should hold a tree is no JSON document. -/
  | treeFile (path : String) (e : Json.ReadError)
  /-- The tree is no program. -/
  | notProgram (found : String)
  /-- An integer that must be shown to read the tree is too long. -/
  | longInteger

def notProgramMessage (found : String) : String :=
  "Expected a Program node, got " ++ found

/-- A text that can be shown, and nothing in place of one that can not. -/
def textOrNothing : Except Malformed String → String
  | .ok text => text
  | .error _ => ""

def Rejection.message : Rejection → String
  | .sourceErrors first others =>
    "Parse error: " ++ textOrNothing first.text
      ++ (if others.isEmpty then "" else " (and " ++ others.length.repr ++ " more)")
  | .parserFailed code complaint =>
    "Flow parser failed: " ++ (if complaint = "" then "exit status " ++ code.repr else complaint)
  | .parserOutput e => "Flow parser produced invalid JSON: " ++ e.message
  | .noTree => "Flow parser produced no Program node"
  | .treeFile path e => "Invalid AST JSON in " ++ path ++ ": " ++ e.message
  | .notProgram found => notProgramMessage found
  | .longInteger => Decimal.unwritableMessage

def Rejection.errors : Rejection → List ParseError
  | .sourceErrors first others => first :: others
  | _ => []

/-! ## All failures -/

/-- Why there is no document. A parser that was given without a name has none here either. -/
inductive Failure where
  | malformed (m : Malformed)
  | unhandled (u : Unhandled)
  | notProgram (found : String)
  | rejected (r : Rejection)
  | longInteger (digits : Nat)
  | unpairedHalf
  | parserMissing (program : Option String)
  | parserDenied (program : Option String)
  | file (e : FileError)
  | undecodable (e : Text.Utf8Error)

/-- What messages show in place of a name that was not given. -/
def noName : String := "[]"

/-- The wording of a malformed value. Most are not worded. -/
def Malformed.message : Malformed → String
  | .missing key => Text.quoted key
  | .tooManyDigits => Decimal.unwritableMessage
  | _ => ""

def Failure.message : Failure → String
  | .malformed m => m.message
  | .unhandled u => textOrNothing u.text
  | .notProgram found => notProgramMessage found
  | .rejected r => r.message
  | .longInteger digits => Decimal.unreadableMessage digits
  | .unpairedHalf => Json.Flaw.unpairedHalf.message
  | .parserMissing program => "Flow parser not found: " ++ program.getD noName
  | .parserDenied program =>
    FileFlaw.denied.message ++ ": " ++ (program.map Text.quoted).getD noName
  | .file e => e.message
  | .undecodable e => e.message

/-- The failure to read a tree. A text that is no document is rejected for the given reason; an
integer that is too long and half a surrogate pair are failures of their own. -/
def Failure.ofReadError (reason : Json.ReadError → Rejection) (e : Json.ReadError) : Failure :=
  match e.flaw with
  | .longInteger digits => .longInteger digits
  | .unpairedHalf => .unpairedHalf
  | _ => .rejected (reason e)

/-- The failure of a node without a rendering. If its kind or its position can not be shown, the
node is malformed. -/
def Failure.ofUnhandled (role : Role) (kind : Json) (loc : Option Location) : Failure :=
  let u : Unhandled := ⟨role, kind, loc⟩
  match u.text with
  | .ok _ => .unhandled u
  | .error m => .malformed m

end Typings
