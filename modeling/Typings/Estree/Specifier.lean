import Typings.Estree.Location
import Typings.Syntax.Specifier

/-!
# Specifiers from ESTree nodes

The names of a specifier stand in identifiers or in string literals, under keys that differ between
versions of the parser. A name that is not given is that of its counterpart.
-/

namespace Typings

/-- The name in an identifier or a literal; empty if there is none. -/
def nameIn (data : Json) : Except Malformed Json :=
  if data.isPresent then do
    match ← data.get "type" with
    | .string "Literal" =>
      let value ← data.getD "value" (.string "")
      return .string (← value.display)
    | _ => data.getD "name" (.string "")
  else .ok (.string "")

/-- The name under the first of two keys that is present. -/
def nameUnder (data : Json) (key other : String) : Except Malformed Json := do
  let first ← data.get key
  let second ← data.get other
  nameIn (first.orElse second)

def Specifier.ofEstree (data : Json) : Except Malformed Specifier := do
  let tag ← data.get "type"
  let loc ← Location.ofNode data
  match tag with
  | .string "ImportSpecifier" =>
    let imported ← nameUnder data "imported" "id"
    let localName ← nameUnder data "local" "name"
    return .importNamed imported (localName.orElse imported) loc
  | .string "ImportDefaultSpecifier" =>
    return .importDefault (← nameUnder data "local" "id") loc
  | .string "ImportNamespaceSpecifier" =>
    return .importNamespace (← nameUnder data "local" "id") loc
  | .string "ExportSpecifier" =>
    let localName ← nameIn (← data.get "local")
    let exported ← nameIn (← data.get "exported")
    return .exportNamed localName (exported.orElse localName) loc
  | .string "ExportDefaultSpecifier" =>
    return .exportDefault (← nameIn (← data.get "exported")) loc
  | .string "ExportNamespaceSpecifier" =>
    return .exportNamespace (← nameIn (← data.get "exported")) loc
  | _ => return .unknown (← unknownTag data) loc

end Typings
