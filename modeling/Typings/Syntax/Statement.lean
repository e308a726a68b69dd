import Typings.Syntax.Pattern
import Typings.Syntax.Specifier

/-!
# Statements and programs

The statements that matter to a declaration document. A statement of another kind keeps its tag.
-/

namespace Typings

/-- The head of a function declaration; its body is not kept. The name is null if it has none. -/
structure Signature where
  name : Json
  params : List Pattern
  returns : Option FlowType
  typeParams : Option (List TypeParameter)
  loc : Option Location

/-- A name for a type. -/
structure TypeAlias where
  name : Json
  right : FlowType
  typeParams : Option (List TypeParameter)
  loc : Option Location

mutual

inductive Statement where
  | function (f : Signature)
  | variableDeclaration (kind : Json) (loc : Option Location)
  | typeAlias (a : TypeAlias)
  | importDeclaration (source : String) (specifiers : List Specifier) (kind : Json)
      (loc : Option Location)
  | exportDefault (declaration : Statement) (loc : Option Location)
  | exportNamed (declaration : Option Statement) (specifiers : List Specifier)
      (source : Option String) (kind : Json) (loc : Option Location)
  | exportAll (source : String) (loc : Option Location)
  | block (b : Block)
  | declareModule (name : Json) (body : Block) (loc : Option Location)
  | declareTypeAlias (a : TypeAlias)
  | declareClass (name : Json) (loc : Option Location)
  | unknown (tag : Json) (loc : Option Location)

/-- A sequence of statements. -/
structure Block where
  body : List Statement
  loc : Option Location

end

/-- An error that the parser found in the source. -/
structure ParseError where
  message : Json
  loc : Option Location

/-- A whole source file. -/
structure Program where
  body : List Statement
  errors : List ParseError
  loc : Option Location

/-- The kind of a statement: the tag of its node. -/
def Statement.kind : Statement → Json
  | .function _ => .string "FunctionDeclaration"
  | .variableDeclaration .. => .string "VariableDeclaration"
  | .typeAlias _ => .string "TypeAlias"
  | .importDeclaration .. => .string "ImportDeclaration"
  | .exportDefault .. => .string "ExportDefaultDeclaration"
  | .exportNamed .. => .string "ExportNamedDeclaration"
  | .exportAll .. => .string "ExportAllDeclaration"
  | .block _ => .string "BlockStatement"
  | .declareModule .. => .string "DeclareModule"
  | .declareTypeAlias _ => .string "DeclareTypeAlias"
  | .declareClass .. => .string "DeclareClass"
  | .unknown tag _ => tag

end Typings
