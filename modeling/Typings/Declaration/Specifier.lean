import Typings.Declaration.FlowType
import Typings.Declaration.Rendering

/-!
# Imports and exports

A name that is imported or exported under another one is written with `as`. Imports of a whole
module, and default and namespace exports, are written as empty entries and recorded as gaps.
-/

namespace Typings

/-- The piece for a name and its new name. -/
def renderRenamed (name other shown : Json) : Except Failure Json :=
  if name.same other then .ok shown
  else do
    let old ← shownText name
    return .string (old ++ " as " ++ (← shownText other))

def Specifier.renderImport (ctx : Context) : Specifier → Rendering Json
  | .importNamed imported localName _ => .ofExcept (renderRenamed imported localName imported)
  | .importDefault localName _ => pure localName
  | .importNamespace localName loc => do
    ctx.record (.namespaceImport localName) loc
    return .string ""
  | other => .ofExcept (.error (.ofUnhandled .importSpecifier other.kind other.loc))

def Specifier.renderExport (ctx : Context) : Specifier → Rendering Json
  | .exportNamed localName exported _ => .ofExcept (renderRenamed localName exported exported)
  | .exportDefault exported loc => do
    ctx.record (.exportSpecifier "Default" exported) loc
    return .string ""
  | .exportNamespace exported loc => do
    ctx.record (.exportSpecifier "Namespace" exported) loc
    return .string ""
  | other => .ofExcept (.error (.ofUnhandled .exportSpecifier other.kind other.loc))

/-- Whether the list of an import is written in braces: if it starts with a named import. -/
def startsNamed : List Specifier → Bool
  | .importNamed .. :: _ => true
  | _ => false

def renderImport (ctx : Context) (source : String) (specifiers : List Specifier) :
    Rendering String := do
  let pieces ← specifiers.mapM (Specifier.renderImport ctx)
  let list ← Rendering.ofExcept (joinPieces ", " pieces)
  let list := if startsNamed specifiers then "\x7b " ++ list ++ " \x7d" else list
  return "import " ++ list ++ " from '" ++ source ++ "';"

/-- The text of an export of names, possibly from another module. -/
def renderExport (ctx : Context) (source : Option String) (specifiers : List Specifier) :
    Rendering String := do
  let pieces ← specifiers.mapM (Specifier.renderExport ctx)
  let list ← Rendering.ofExcept (joinPieces ", " pieces)
  let origin := match source with
    | some source => " from '" ++ source ++ "'"
    | none => ""
  return "export \x7b " ++ list ++ " \x7d" ++ origin ++ ";"

/-- The text of an export of everything from another module. -/
def renderExportAll (source : String) : String :=
  "export * from '" ++ source ++ "';"

end Typings
