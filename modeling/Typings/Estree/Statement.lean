import Typings.Estree.Pattern
import Typings.Estree.Specifier
import Typings.Syntax.Statement
import Typings.Text.Blank

/-!
# Statements and programs from ESTree nodes

A tree is read as a whole before anything else happens to it: first the statements, then the errors
that the parser reported, then the location.
-/

namespace Typings

/-! ## Module names -/

/-- The text of a literal: its value as shown, or its raw text without quotes around it. -/
def literalText (data : Json) : Except Malformed String := do
  match ← data.get "value" with
  | .null =>
    match ← data.getD "raw" (.string "") with
    | .string raw => return Text.strip (fun c => c == '\'' || c == '"') raw
    | _ => .error .noMember
  | value => value.display

/-- The name of a declared module: a plain identifier or a literal. -/
def nameOfModule (data : Json) : Except Malformed Json := do
  match ← data.get "type" with
  | .string "Identifier" =>
    let name ← data.required "name"
    return name.val
  | _ => return .string (← literalText data)

/-! ## Statements -/

/-- The name in the identifier that a declaration must have. -/
def declaredName (data : Json) : Except Malformed Json := do
  let id ← data.required "id"
  let name ← id.val.required "name"
  return name.val

/-- Reads the head of a function declaration. -/
def Signature.ofEstree (data : Json) : Except Malformed Signature := do
  let name ← nameOfId data
  let params ← (← data.children "params").mapM fun p => Pattern.ofEstree p.val
  let returns ← FlowType.ofField? data "returnType"
  let typeParams ← TypeParameter.listOf? data
  return ⟨name, params, returns, typeParams, ← Location.ofNode data⟩

def TypeAlias.ofEstree (data : Json) : Except Malformed TypeAlias := do
  let name ← declaredName data
  let inner ← data.required "right"
  let right ← FlowType.ofEstree inner.val
  let typeParams ← TypeParameter.listOf? data
  return ⟨name, right, typeParams, ← Location.ofNode data⟩

/-- The specifiers of an import or an export. -/
def Specifier.listOf (data : Json) : Except Malformed (List Specifier) := do
  (← data.children "specifiers").mapM fun p => Specifier.ofEstree p.val

/-- The kind of an import or an export: of values unless it says otherwise. -/
def moduleKind (data : Json) (key : String) : Except Malformed Json := do
  let kind ← data.get key
  return kind.orElse (.string "value")

mutual

def Statement.ofEstree (data : Json) : Except Malformed Statement := do
  let tag ← data.get "type"
  let loc ← Location.ofNode data
  match tag with
  | .string "FunctionDeclaration" => return .function (← Signature.ofEstree data)
  | .string "VariableDeclaration" =>
    return .variableDeclaration (← data.getD "kind" (.string "var")) loc
  | .string "TypeAlias" => return .typeAlias (← TypeAlias.ofEstree data)
  | .string "ImportDeclaration" =>
    let source ← data.required "source"
    let name ← literalText source.val
    let specifiers ← Specifier.listOf data
    return .importDeclaration name specifiers (← moduleKind data "importKind") loc
  | .string "ExportDefaultDeclaration" =>
    let declaration ← data.required "declaration"
    return .exportDefault (← Statement.ofEstree declaration.val) loc
  | .string "ExportNamedDeclaration" =>
    let declaration ← (← data.child? "declaration").mapM fun p => Statement.ofEstree p.val
    let specifiers ← Specifier.listOf data
    let source ← (← data.child? "source").mapM fun p => literalText p.val
    return .exportNamed declaration specifiers source (← moduleKind data "exportKind") loc
  | .string "ExportAllDeclaration" =>
    let source ← data.required "source"
    return .exportAll (← literalText source.val) loc
  | .string "BlockStatement" =>
    let body ← (← data.children "body").mapM fun p => Statement.ofEstree p.val
    return .block ⟨body, loc⟩
  | .string "DeclareModule" =>
    let id ← data.required "id"
    let name ← nameOfModule id.val
    let body ← (← data.child? "body").mapM fun p => Block.ofEstree p.val
    return .declareModule name (body.getD ⟨[], none⟩) loc
  | .string "DeclareTypeAlias" => return .declareTypeAlias (← TypeAlias.ofEstree data)
  | .string "DeclareClass" => return .declareClass (← declaredName data) loc
  | _ => return .unknown (← unknownTag data) loc
termination_by data.size
decreasing_by all_goals exact Json.Part.size_lt _

/-- Reads the body of a module. -/
def Block.ofEstree (data : Json) : Except Malformed Block := do
  let body ← (← data.children "body").mapM fun p => Statement.ofEstree p.val
  return ⟨body, ← Location.ofNode data⟩
termination_by data.size
decreasing_by exact Json.Part.size_lt _

end

/-! ## Programs -/

def ParseError.ofEstree (data : Json) : Except Malformed ParseError := do
  let message ← data.getD "message" (.string "")
  return ⟨message, ← Location.ofNode data⟩

/-- Reads the parts of a program, whatever the tag of its node. -/
def Program.ofParts (data : Json) : Except Malformed Program := do
  let body ← (← data.children "body").mapM fun p => Statement.ofEstree p.val
  let errors ← (← data.children "errors").mapM fun p => ParseError.ofEstree p.val
  return ⟨body, errors, ← Location.ofNode data⟩

/-- What a tree is if it is no program: the tag of a node, or the kind of a value that is no node.
None if the tree is a program. -/
def notProgram? : Json → Option Json
  | .object fields =>
    match (fields.lookup "type").getD .null with
    | .string "Program" => none
    | tag => some tag
  | .null => some (.string "NoneType")
  | .bool _ => some (.string "bool")
  | .int _ => some (.string "int")
  | .real _ => some (.string "float")
  | .string _ => some (.string "str")
  | .list _ => some (.string "list")

end Typings
