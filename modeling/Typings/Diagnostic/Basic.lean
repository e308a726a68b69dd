import Typings.Json.Display

/-!
# Diagnostics

A gap is a construct that is left out of the document or rendered incompletely. A diagnostic says
which gap was met in which file and on which line.
-/

namespace Typings

/-- How serious a diagnostic is. -/
inductive Severity where
  | warning
  | info
  deriving DecidableEq, Repr

def Severity.name : Severity → String
  | .warning => "warning"
  | .info => "info"

/-- The constructs with gaps. -/
inductive Construct where
  | declareClass
  | exportSpecifier
  | importNamespace
  | implementation
  deriving DecidableEq, Repr

def Construct.name : Construct → String
  | .declareClass => "declare class"
  | .exportSpecifier => "export specifier"
  | .importNamespace => "import namespace"
  | .implementation => "implementation"

/-- A construct that the document does not have, or not completely. -/
inductive Gap where
  /-- An import of a whole module became an empty specifier. -/
  | namespaceImport (localName : Json)
  /-- A default or namespace export became an empty specifier. -/
  | exportSpecifier (kind : String) (exported : Json)
  /-- A declared class became a stub. -/
  | declareClass (name : Json)
  /-- A function or variable that is not exported was dropped. -/
  | implementation (kind name : Json)

namespace Gap

def construct : Gap → Construct
  | .namespaceImport _ => .importNamespace
  | .exportSpecifier .. => .exportSpecifier
  | .declareClass _ => .declareClass
  | .implementation .. => .implementation

/-- What is dropped on purpose is worth a remark, everything else a warning. -/
def severity (gap : Gap) : Severity :=
  if gap.construct = .implementation then .info else .warning

def code : Gap → String
  | .namespaceImport _ => "W001"
  | .exportSpecifier .. => "W002"
  | .declareClass _ => "W003"
  | .implementation .. => "I001"

/-- The wording of a gap, if the names in it can be shown. -/
def message : Gap → Except Malformed String
  | .namespaceImport localName => do
    let shown ← localName.display
    return "Namespace import \"* as " ++ shown ++ "\" was rendered as an empty specifier."
  | .exportSpecifier kind exported => do
    let shown ← exported.display
    return kind ++ " export specifier \"" ++ shown ++ "\" was rendered as an empty specifier."
  | .declareClass name => do
    let shown ← name.display
    return "declare class \"" ++ shown ++ "\" is not supported; emitted a stub."
  | .implementation kind name => do
    let shown ← kind.display
    let label ← if name.isPresent then do pure (" \"" ++ (← name.display) ++ "\"") else pure ""
    return "Unexported " ++ shown ++ label ++ " has no declaration output."

end Gap

/-- A gap with its place. The line is null if it is not known. -/
structure Diagnostic where
  gap : Gap
  file : String
  line : Json

namespace Diagnostic

def severity (d : Diagnostic) : Severity := d.gap.severity

def construct (d : Diagnostic) : Construct := d.gap.construct

/-- The file and the line, as far as they are known. -/
def place (d : Diagnostic) : Except Malformed String :=
  if d.line.isPresent then do return d.file ++ ":" ++ (← d.line.display) else .ok d.file

/-- The text of a diagnostic, if its line and the names in its wording can be shown. -/
def text (d : Diagnostic) : Except Malformed String := do
  let place ← d.place
  let message ← d.gap.message
  return "[" ++ d.severity.name ++ "] " ++ (if place = "" then "" else place ++ ": ")
    ++ message ++ " (" ++ d.gap.code ++ ")"

end Diagnostic

end Typings
