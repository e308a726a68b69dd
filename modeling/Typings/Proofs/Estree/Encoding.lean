import Typings.Failure
import Typings.Proofs.Estree.Statement

/-!
# Syntax as a tree

The tree of a program, as a parser gives it. Names stand in identifiers, the names of modules in
literals; annotations of names, results and bounds stand in `TypeAnnotation` wrappers, and lists of
type parameters and of type arguments in nodes of their own. What is left out is null. A node that
only wraps something has the location of what it belongs to.
-/

namespace Typings

/-! ## Nodes -/

def Position.encode (p : Position) : Json :=
  .object [("line", p.line), ("column", p.column)]

def Location.encode : Option Location → Json
  | none => .null
  | some loc =>
    .object [("start", loc.start.encode), ("end", loc.stop.encode), ("source", loc.source)]

/-- A node with a tag, a location and further fields. -/
def node (tag : String) (loc : Option Location) (fields : List (String × Json)) : Json :=
  .object (("type", .string tag) :: ("loc", Location.encode loc) :: fields)

/-- A node with nothing but a tag, which may be any value, and a location. -/
def bareNode (tag : Json) (loc : Option Location) : Json :=
  .object [("type", tag), ("loc", Location.encode loc)]

/-- The annotation in its wrapper. -/
def wrapped (loc : Option Location) (type : Json) : Json :=
  node "TypeAnnotation" loc [("typeAnnotation", type)]

/-- An identifier that is nothing but a name. -/
def plainName (loc : Option Location) (name : Json) : Json :=
  node "Identifier" loc
    [("name", name), ("typeAnnotation", .null), ("optional", .bool false)]

/-- An identifier with a name, if there is one. -/
def optionalName (loc : Option Location) : Json → Json
  | .null => .null
  | name => plainName loc name

def textLiteral (loc : Option Location) (text : String) : Json :=
  node "Literal" loc [("value", .string text), ("raw", .string (Text.quoted text))]

/-! ## Annotations -/

mutual

def FlowType.encode : FlowType → Json
  | .keyword k loc => node k.tag loc []
  | .function params returns rest loc =>
    node "FunctionTypeAnnotation" loc [("params", encodeParams? params),
      ("returnType", encodeType? returns), ("rest", encodeParam? rest)]
  | .generic name args loc =>
    node "GenericTypeAnnotation" loc
      [("id", plainName loc name), ("typeParameters", encodeArguments loc args)]
  | .nullable inner loc => node "NullableTypeAnnotation" loc [("typeAnnotation", inner.encode)]
  | .object members indexers exact loc =>
    node "ObjectTypeAnnotation" loc [("properties", .list (encodeMembers members)),
      ("indexers", .list (encodeIndexers indexers)), ("exact", .bool exact)]
  | .union types loc => node "UnionTypeAnnotation" loc [("types", .list (encodeTypes types))]
  | .intersection types loc =>
    node "IntersectionTypeAnnotation" loc [("types", .list (encodeTypes types))]
  | .stringLiteral value raw loc =>
    node "StringLiteralTypeAnnotation" loc [("value", value), ("raw", raw)]
  | .booleanLiteral value raw loc =>
    node "BooleanLiteralTypeAnnotation" loc [("value", .bool value), ("raw", raw)]
  | .tuple types loc => node "TupleTypeAnnotation" loc [("types", .list (encodeTypes types))]
  | .unknown tag loc => bareNode tag loc

def encodeTypes : List FlowType → List Json
  | [] => []
  | t :: ts => t.encode :: encodeTypes ts

def encodeType? : Option FlowType → Json
  | none => .null
  | some t => t.encode

def encodeArguments (loc : Option Location) : Option (List FlowType) → Json
  | none => .null
  | some ts => node "TypeParameterInstantiation" loc [("params", .list (encodeTypes ts))]

def FunctionParam.encode : FunctionParam → Json
  | ⟨name, type, optional, loc⟩ =>
    node "FunctionTypeParam" loc [("name", optionalName loc name),
      ("typeAnnotation", type.encode), ("optional", .bool optional)]

def encodeParams : List FunctionParam → List Json
  | [] => []
  | p :: ps => p.encode :: encodeParams ps

def encodeParams? : Option (List FunctionParam) → Json
  | none => .null
  | some ps => .list (encodeParams ps)

def encodeParam? : Option FunctionParam → Json
  | none => .null
  | some p => p.encode

def Member.encode : Member → Json
  | .property key value optional loc =>
    node "ObjectTypeProperty" loc
      [("key", plainName loc key), ("value", value.encode), ("optional", .bool optional)]
  | .unknown tag loc => bareNode tag loc

def encodeMembers : List Member → List Json
  | [] => []
  | m :: ms => m.encode :: encodeMembers ms

def Indexer.encode : Indexer → Json
  | ⟨name, key, value, loc⟩ =>
    node "ObjectTypeIndexer" loc
      [("id", optionalName loc name), ("key", key.encode), ("value", value.encode)]

def encodeIndexers : List Indexer → List Json
  | [] => []
  | i :: is => i.encode :: encodeIndexers is

end

/-- An annotation in its wrapper, if there is one. -/
def encodeWrapped (loc : Option Location) (type : Option FlowType) : Json :=
  (type.map fun t => wrapped loc t.encode).getD .null

def TypeParameter.encode (p : TypeParameter) : Json :=
  node "TypeParameter" p.loc [("name", p.name), ("bound", encodeWrapped p.loc p.bound)]

def encodeTypeParams (loc : Option Location) (params : Option (List TypeParameter)) : Json :=
  (params.map fun ps => node "TypeParameterDeclaration" loc
    [("params", .list (ps.map TypeParameter.encode))]).getD .null

/-! ## Patterns and specifiers -/

def Identifier.encode (i : Identifier) : Json :=
  node "Identifier" i.loc [("name", i.name), ("typeAnnotation", encodeWrapped i.loc i.type),
    ("optional", .bool i.optional)]

def Expression.encode : Expression → Json
  | .literal value raw loc => node "Literal" loc [("value", value), ("raw", raw)]
  | .identifier i => i.encode
  | .unknown tag loc => bareNode tag loc

def Pattern.encode : Pattern → Json
  | .identifier i => i.encode
  | .rest argument loc => node "RestElement" loc [("argument", argument.encode)]
  | .assignment left right loc =>
    node "AssignmentPattern" loc [("left", left.encode), ("right", right.encode)]
  | .unknown tag loc => bareNode tag loc

def Specifier.encode : Specifier → Json
  | .importNamed imported localName loc =>
    node "ImportSpecifier" loc
      [("imported", plainName loc imported), ("local", plainName loc localName)]
  | .importDefault localName loc =>
    node "ImportDefaultSpecifier" loc [("local", plainName loc localName)]
  | .importNamespace localName loc =>
    node "ImportNamespaceSpecifier" loc [("local", plainName loc localName)]
  | .exportNamed localName exported loc =>
    node "ExportSpecifier" loc
      [("local", plainName loc localName), ("exported", plainName loc exported)]
  | .exportDefault exported loc =>
    node "ExportDefaultSpecifier" loc [("exported", plainName loc exported)]
  | .exportNamespace exported loc =>
    node "ExportNamespaceSpecifier" loc [("exported", plainName loc exported)]
  | .unknown tag loc => bareNode tag loc

/-! ## Statements and programs -/

def Signature.encode (f : Signature) : Json :=
  node "FunctionDeclaration" f.loc [("id", optionalName f.loc f.name),
    ("params", .list (f.params.map Pattern.encode)),
    ("body", node "BlockStatement" f.loc [("body", .list [])]),
    ("returnType", encodeWrapped f.loc f.returns),
    ("typeParameters", encodeTypeParams f.loc f.typeParams)]

def TypeAlias.encode (tag : String) (a : TypeAlias) : Json :=
  node tag a.loc [("id", plainName a.loc a.name),
    ("typeParameters", encodeTypeParams a.loc a.typeParams), ("right", a.right.encode)]

mutual

def Statement.encode : Statement → Json
  | .function f => f.encode
  | .variableDeclaration kind loc =>
    node "VariableDeclaration" loc [("kind", kind), ("declarations", .list [])]
  | .typeAlias a => a.encode "TypeAlias"
  | .importDeclaration source specifiers kind loc =>
    node "ImportDeclaration" loc [("source", textLiteral loc source),
      ("specifiers", .list (specifiers.map Specifier.encode)), ("importKind", kind)]
  | .exportDefault declaration loc =>
    node "ExportDefaultDeclaration" loc [("declaration", declaration.encode)]
  | .exportNamed declaration specifiers source kind loc =>
    node "ExportNamedDeclaration" loc [("declaration", encodeStatement? declaration),
      ("specifiers", .list (specifiers.map Specifier.encode)),
      ("source", (source.map (textLiteral loc)).getD .null), ("exportKind", kind)]
  | .exportAll source loc => node "ExportAllDeclaration" loc [("source", textLiteral loc source)]
  | .block b => b.encode
  | .declareModule name body loc =>
    node "DeclareModule" loc
      [("id", textLiteral loc (textOrNothing name.display)), ("body", body.encode)]
  | .declareTypeAlias a => a.encode "DeclareTypeAlias"
  | .declareClass name loc => node "DeclareClass" loc [("id", plainName loc name)]
  | .unknown tag loc => bareNode tag loc

def encodeStatement? : Option Statement → Json
  | none => .null
  | some s => s.encode

def Block.encode : Block → Json
  | ⟨body, loc⟩ => node "BlockStatement" loc [("body", .list (encodeStatements body))]

def encodeStatements : List Statement → List Json
  | [] => []
  | s :: rest => s.encode :: encodeStatements rest

end

def ParseError.encode (e : ParseError) : Json :=
  .object [("message", e.message), ("loc", Location.encode e.loc)]

def Program.encode (p : Program) : Json :=
  node "Program" p.loc [("body", .list (encodeStatements p.body)),
    ("errors", .list (p.errors.map ParseError.encode)), ("comments", .list [])]

/-! ## Well-formed syntax

Syntax is well-formed if none of it is lost in its tree. An unknown node must have a tag that is not
known where it stands. The name of a parameter of a function type, the new name of what is imported
or exported and the kind of an import or an export must not be empty, since an empty one counts as
missing. The name of a module must be a text. Other names, raw texts, lines and columns may be any
values.
-/

/-- A tag that is none of the given ones. -/
def IsOtherTag (tags : List String) (tag : Json) : Prop :=
  ∃ s, tag = .string s ∧ s ∉ tags

mutual

inductive FlowType.WellFormed : FlowType → Prop where
  | keyword {k loc} : FlowType.WellFormed (.keyword k loc)
  | function {params returns rest loc} :
      (∀ ps, params = some ps → ∀ p ∈ ps, FunctionParam.WellFormed p) →
      (∀ t, returns = some t → FlowType.WellFormed t) →
      (∀ p, rest = some p → FunctionParam.WellFormed p) →
      FlowType.WellFormed (.function params returns rest loc)
  | generic {name args loc} : (∀ ts, args = some ts → ∀ t ∈ ts, FlowType.WellFormed t) →
      FlowType.WellFormed (.generic name args loc)
  | nullable {inner loc} : FlowType.WellFormed inner → FlowType.WellFormed (.nullable inner loc)
  | object {members indexers exact loc} : (∀ m ∈ members, Member.WellFormed m) →
      (∀ i ∈ indexers, Indexer.WellFormed i) →
      FlowType.WellFormed (.object members indexers exact loc)
  | union {types loc} : (∀ t ∈ types, FlowType.WellFormed t) →
      FlowType.WellFormed (.union types loc)
  | intersection {types loc} : (∀ t ∈ types, FlowType.WellFormed t) →
      FlowType.WellFormed (.intersection types loc)
  | stringLiteral {value raw loc} : FlowType.WellFormed (.stringLiteral value raw loc)
  | booleanLiteral {value raw loc} : FlowType.WellFormed (.booleanLiteral value raw loc)
  | tuple {types loc} : (∀ t ∈ types, FlowType.WellFormed t) →
      FlowType.WellFormed (.tuple types loc)
  | unknown {tag loc} : IsOtherTag typeTags tag → FlowType.WellFormed (.unknown tag loc)

inductive FunctionParam.WellFormed : FunctionParam → Prop where
  | mk {name type optional loc} : name = .null ∨ name.isPresent → FlowType.WellFormed type →
      FunctionParam.WellFormed ⟨name, type, optional, loc⟩

inductive Member.WellFormed : Member → Prop where
  | property {key value optional loc} : FlowType.WellFormed value →
      Member.WellFormed (.property key value optional loc)
  | unknown {tag loc} : IsOtherTag ["ObjectTypeProperty"] tag → Member.WellFormed (.unknown tag loc)

inductive Indexer.WellFormed : Indexer → Prop where
  | mk {name key value loc} : FlowType.WellFormed key → FlowType.WellFormed value →
      Indexer.WellFormed ⟨name, key, value, loc⟩

end

/-- The annotation is well-formed, if there is one. -/
def WellFormedType (type : Option FlowType) : Prop :=
  ∀ t, type = some t → t.WellFormed

/-- The bounds of type parameters are well-formed. -/
def WellFormedBounds (params : Option (List TypeParameter)) : Prop :=
  ∀ ps, params = some ps → ∀ p ∈ ps, WellFormedType p.bound

inductive Expression.WellFormed : Expression → Prop where
  | literal {value raw loc} : Expression.WellFormed (.literal value raw loc)
  | identifier {i} : WellFormedType i.type → Expression.WellFormed (.identifier i)
  | unknown {tag loc} : IsOtherTag expressionTags tag → Expression.WellFormed (.unknown tag loc)

inductive Pattern.WellFormed : Pattern → Prop where
  | identifier {i} : WellFormedType i.type → Pattern.WellFormed (.identifier i)
  | rest {argument loc} : Pattern.WellFormed argument → Pattern.WellFormed (.rest argument loc)
  | assignment {left right loc} : Pattern.WellFormed left → right.WellFormed →
      Pattern.WellFormed (.assignment left right loc)
  | unknown {tag loc} : IsOtherTag patternTags tag → Pattern.WellFormed (.unknown tag loc)

inductive Specifier.WellFormed : Specifier → Prop where
  | importNamed {imported localName loc} : localName.isPresent →
      Specifier.WellFormed (.importNamed imported localName loc)
  | importDefault {localName loc} : Specifier.WellFormed (.importDefault localName loc)
  | importNamespace {localName loc} : Specifier.WellFormed (.importNamespace localName loc)
  | exportNamed {localName exported loc} : exported.isPresent →
      Specifier.WellFormed (.exportNamed localName exported loc)
  | exportDefault {exported loc} : Specifier.WellFormed (.exportDefault exported loc)
  | exportNamespace {exported loc} : Specifier.WellFormed (.exportNamespace exported loc)
  | unknown {tag loc} : IsOtherTag specifierTags tag → Specifier.WellFormed (.unknown tag loc)

structure Signature.WellFormed (f : Signature) : Prop where
  params : ∀ p ∈ f.params, p.WellFormed
  returns : WellFormedType f.returns
  bounds : WellFormedBounds f.typeParams

structure TypeAlias.WellFormed (a : TypeAlias) : Prop where
  right : a.right.WellFormed
  bounds : WellFormedBounds a.typeParams

mutual

inductive Statement.WellFormed : Statement → Prop where
  | function {f} : f.WellFormed → Statement.WellFormed (.function f)
  | variableDeclaration {kind loc} : Statement.WellFormed (.variableDeclaration kind loc)
  | typeAlias {a} : a.WellFormed → Statement.WellFormed (.typeAlias a)
  | importDeclaration {source specifiers kind loc} : (∀ s ∈ specifiers, s.WellFormed) →
      kind.isPresent → Statement.WellFormed (.importDeclaration source specifiers kind loc)
  | exportDefault {declaration loc} : Statement.WellFormed declaration →
      Statement.WellFormed (.exportDefault declaration loc)
  | exportNamed {declaration specifiers source kind loc} :
      (∀ s, declaration = some s → Statement.WellFormed s) →
      (∀ s ∈ specifiers, s.WellFormed) → kind.isPresent →
      Statement.WellFormed (.exportNamed declaration specifiers source kind loc)
  | exportAll {source loc} : Statement.WellFormed (.exportAll source loc)
  | block {b} : Block.WellFormed b → Statement.WellFormed (.block b)
  | declareModule {name body loc} : name.IsText → Block.WellFormed body →
      Statement.WellFormed (.declareModule name body loc)
  | declareTypeAlias {a} : a.WellFormed → Statement.WellFormed (.declareTypeAlias a)
  | declareClass {name loc} : Statement.WellFormed (.declareClass name loc)
  | unknown {tag loc} : IsOtherTag statementTags tag → Statement.WellFormed (.unknown tag loc)

inductive Block.WellFormed : Block → Prop where
  | mk {body loc} : (∀ s ∈ body, Statement.WellFormed s) → Block.WellFormed ⟨body, loc⟩

end

/-- Every statement of the program is well-formed. -/
def Program.WellFormed (p : Program) : Prop :=
  ∀ s ∈ p.body, s.WellFormed

end Typings
