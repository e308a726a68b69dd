import Typings.Syntax.Location

/-!
# Import and export specifiers
-/

namespace Typings

/-- One entry of the list of an import or an export. -/
inductive Specifier where
  | importNamed (imported localName : Json) (loc : Option Location)
  | importDefault (localName : Json) (loc : Option Location)
  | importNamespace (localName : Json) (loc : Option Location)
  | exportNamed (localName exported : Json) (loc : Option Location)
  | exportDefault (exported : Json) (loc : Option Location)
  | exportNamespace (exported : Json) (loc : Option Location)
  | unknown (tag : Json) (loc : Option Location)

/-- The kind of a specifier: the tag of its node. -/
def Specifier.kind : Specifier → Json
  | .importNamed .. => .string "ImportSpecifier"
  | .importDefault .. => .string "ImportDefaultSpecifier"
  | .importNamespace .. => .string "ImportNamespaceSpecifier"
  | .exportNamed .. => .string "ExportSpecifier"
  | .exportDefault .. => .string "ExportDefaultSpecifier"
  | .exportNamespace .. => .string "ExportNamespaceSpecifier"
  | .unknown tag _ => tag

def Specifier.loc : Specifier → Option Location
  | .importNamed _ _ loc | .importDefault _ loc | .importNamespace _ loc
  | .exportNamed _ _ loc | .exportDefault _ loc | .exportNamespace _ loc | .unknown _ loc => loc

end Typings
