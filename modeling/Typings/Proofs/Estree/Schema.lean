import Typings.Proofs.Estree.Statement

/-!
# Trees that fit the schema

What a tree must look like for its parts to be read as they are meant. A node is an object whose
location, if it has one, gives whole numbers. Where a tag is looked at, it is a text, if there is one.
Of a node whose tag is known, the fields that are read must have the right shape; of any other node
nothing more is asked.

Literals that are shown may have values of any kind; they may be restricted to those with a property
`L`.
-/

namespace Typings

/-! ## Fields -/

namespace Json

/-- The field is a text. -/
def NameAt (data : Json) (key : String) : Prop :=
  ∃ s, data.at? key = some (.string s)

/-- The field is missing or a text. -/
def TextAt (data : Json) (key : String) : Prop :=
  ∀ v, data.at? key = some v → v.IsText

/-- The field is missing, null or a list. -/
def ListAt (data : Json) (key : String) : Prop :=
  ∀ v, data.nonNull? key = some v → ∃ items, v = .list items

def items : Json → List Json
  | .list vs => vs
  | _ => []

/-- The items of a field that is a list. -/
def itemsAt (data : Json) (key : String) : List Json :=
  ((data.at? key).getD .null).items

end Json

/-! ## Nodes -/

structure Position.Conforms (data : Json) : Prop where
  line : ∃ n, data.at? "line" = some (.int n)
  column : ∃ n, data.at? "column" = some (.int n)

structure Location.Conforms (data : Json) : Prop where
  start : ∃ v, data.at? "start" = some v ∧ Position.Conforms v
  stop : ∀ v, data.nonNull? "end" = some v → Position.Conforms v

/-- A node: an object with a proper location, if it has one. -/
structure IsNode (data : Json) : Prop where
  isObject : data.IsObject
  loc : ∀ v, data.nonNull? "loc" = some v → Location.Conforms v

/-! ## Names -/

variable (L : Json → Prop)

/-- The value of a literal, if it has one, has the property. -/
def ValueAt (data : Json) : Prop :=
  ∀ v, data.nonNull? "value" = some v → L v

/-- The name of a type, with any number of qualifications. -/
inductive TypeName.Conforms : Json → Prop where
  | plain {data} : ¬ data.HasTag "QualifiedTypeIdentifier" → data.NameAt "name" →
      TypeName.Conforms data
  | qualified {data outer id} : data.HasTag "QualifiedTypeIdentifier" →
      data.at? "qualification" = some outer → TypeName.Conforms outer →
      data.at? "id" = some id → id.NameAt "name" → TypeName.Conforms data

/-- The key of a property: an identifier, or a literal with its raw text. -/
def PropertyKey.Conforms (key : Json) : Prop :=
  (key.HasTag "Identifier" ∧ key.NameAt "name") ∨
    (¬ key.HasTag "Identifier" ∧ key.IsObject ∧ key.TextAt "raw" ∧ ValueAt L key)

/-- The name of a function parameter: a text, or an object that may have one. -/
def ParamName.Conforms (name : Json) : Prop :=
  name.IsText ∨ name.IsObject ∧ ∀ v, name.nonNull? "name" = some v → v.IsText

/-- The name in a specifier: a literal, or an object that may have a name. -/
def SpecifierName.Conforms (name : Json) : Prop :=
  name.IsObject ∧ (name.HasTag "Literal" → ValueAt L name) ∧
    (¬ name.HasTag "Literal" → name.TextAt "name")

/-- The source of a module: a literal with a value, or with a raw text. -/
def Source.Conforms (source : Json) : Prop :=
  source.IsObject ∧ ValueAt L source ∧ (source.nonNull? "value" = none → source.TextAt "raw")

/-- The name of a module: an identifier or a literal. -/
def ModuleName.Conforms (id : Json) : Prop :=
  (id.HasTag "Identifier" ∧ id.NameAt "name") ∨ (¬ id.HasTag "Identifier" ∧ Source.Conforms L id)

/-! ## Annotations -/

/-- The elements of a tuple stand under one key, in older trees under another. -/
def tupleItems (data : Json) : List Json :=
  match data.nonNull? "types" with
  | some v => v.items
  | none => data.itemsAt "elementTypes"

/-- Whether a tuple element stands in a wrapper that labels it. -/
def IsLabelled (v : Json) : Prop :=
  (∃ element, v.at? "elementType" = some element) ∧
    ∃ tag, v.HasTag tag ∧ "TupleType".toList <+: tag.toList

mutual

inductive FlowType.Conforms : Json → Prop where
  | keyword {data k} : IsNode data → data.HasTag (Keyword.tag k) → FlowType.Conforms data
  | function {data} : IsNode data → data.HasTag "FunctionTypeAnnotation" →
      data.ListAt "params" → (∀ v ∈ data.itemsAt "params", FunctionParam.Conforms v) →
      (∀ v, data.nonNull? "returnType" = some v → FlowType.Conforms v) →
      (∀ v, data.nonNull? "rest" = some v → FunctionParam.Conforms v) → FlowType.Conforms data
  | generic {data id} : IsNode data → data.HasTag "GenericTypeAnnotation" →
      data.at? "id" = some id → TypeName.Conforms id →
      (∀ v, data.nonNull? "typeParameters" = some v → v.IsObject ∧ v.ListAt "params") →
      (∀ v, data.nonNull? "typeParameters" = some v →
        ∀ w ∈ v.itemsAt "params", FlowType.Conforms w) → FlowType.Conforms data
  | nullable {data inner} : IsNode data → data.HasTag "NullableTypeAnnotation" →
      data.at? "typeAnnotation" = some inner → FlowType.Conforms inner → FlowType.Conforms data
  | object {data} : IsNode data → data.HasTag "ObjectTypeAnnotation" →
      data.ListAt "callProperties" →
      (∀ v ∈ data.itemsAt "callProperties", IsNode v ∧ v.HasOtherTag []) →
      data.ListAt "internalSlots" →
      (∀ v ∈ data.itemsAt "internalSlots", IsNode v ∧ v.HasOtherTag []) →
      data.ListAt "properties" → (∀ v ∈ data.itemsAt "properties", Member.Conforms v) →
      data.ListAt "indexers" → (∀ v ∈ data.itemsAt "indexers", Indexer.Conforms v) →
      FlowType.Conforms data
  | union {data} : IsNode data → data.HasTag "UnionTypeAnnotation" → data.ListAt "types" →
      (∀ v ∈ data.itemsAt "types", FlowType.Conforms v) → FlowType.Conforms data
  | intersection {data} : IsNode data → data.HasTag "IntersectionTypeAnnotation" →
      data.ListAt "types" → (∀ v ∈ data.itemsAt "types", FlowType.Conforms v) →
      FlowType.Conforms data
  | stringLiteral {data} : IsNode data → data.HasTag "StringLiteralTypeAnnotation" →
      data.TextAt "raw" → FlowType.Conforms data
  | booleanLiteral {data} : IsNode data → data.HasTag "BooleanLiteralTypeAnnotation" →
      data.TextAt "raw" → FlowType.Conforms data
  | tuple {data} : IsNode data → data.HasTag "TupleTypeAnnotation" →
      data.ListAt "types" → data.ListAt "elementTypes" →
      (∀ v ∈ tupleItems data, TupleElement.Conforms v) → FlowType.Conforms data
  | other {data} : IsNode data → data.HasOtherTag typeTags → FlowType.Conforms data

inductive TupleElement.Conforms : Json → Prop where
  | labelled {v element} : IsLabelled v → v.at? "elementType" = some element →
      FlowType.Conforms element → TupleElement.Conforms v
  | plain {v} : ¬ IsLabelled v → FlowType.Conforms v → TupleElement.Conforms v

inductive FunctionParam.Conforms : Json → Prop where
  | mk {data inner} : IsNode data →
      (∀ v, data.nonNull? "name" = some v → ParamName.Conforms v) →
      data.at? "typeAnnotation" = some inner → FlowType.Conforms inner →
      FunctionParam.Conforms data

inductive Member.Conforms : Json → Prop where
  | property {data key inner} : IsNode data → data.HasTag "ObjectTypeProperty" →
      data.at? "key" = some key → PropertyKey.Conforms L key →
      data.at? "value" = some inner → FlowType.Conforms inner → Member.Conforms data
  | other {data} : IsNode data → data.HasOtherTag ["ObjectTypeProperty"] → Member.Conforms data

inductive Indexer.Conforms : Json → Prop where
  | mk {data key value} : IsNode data →
      (∀ v, data.nonNull? "id" = some v → v.NameAt "name") →
      data.at? "key" = some key → FlowType.Conforms key →
      data.at? "value" = some value → FlowType.Conforms value → Indexer.Conforms data

end

/-- An annotation in a field, with or without its wrapper. -/
def AnnotationAt (data : Json) (key : String) : Prop :=
  ∀ v, data.nonNull? key = some v → v.IsObject ∧
    (v.HasTag "TypeAnnotation" →
      ∀ inner, v.nonNull? "typeAnnotation" = some inner → FlowType.Conforms L inner) ∧
    (¬ v.HasTag "TypeAnnotation" → FlowType.Conforms L v)

structure TypeParameter.Conforms (data : Json) : Prop where
  node : IsNode data
  name : data.NameAt "name"
  bound : AnnotationAt L data "bound"

/-- The type parameters of a declaration. -/
def TypeParametersAt (data : Json) : Prop :=
  ∀ v, data.nonNull? "typeParameters" = some v → v.IsObject ∧ v.ListAt "params" ∧
    ∀ w ∈ v.itemsAt "params", TypeParameter.Conforms L w

/-! ## Patterns and specifiers -/

structure Identifier.Conforms (data : Json) : Prop where
  node : IsNode data
  name : data.NameAt "name"
  type : AnnotationAt L data "typeAnnotation"

inductive Expression.Conforms : Json → Prop where
  | literal {data} : IsNode data → data.HasTag "Literal" → data.TextAt "raw" →
      Expression.Conforms data
  | identifier {data} : data.HasTag "Identifier" → Identifier.Conforms L data →
      Expression.Conforms data
  | other {data} : IsNode data → data.HasOtherTag expressionTags → Expression.Conforms data

inductive Pattern.Conforms : Json → Prop where
  | identifier {data} : data.HasTag "Identifier" → Identifier.Conforms L data →
      Pattern.Conforms data
  | rest {data argument} : IsNode data → data.HasTag "RestElement" →
      data.at? "argument" = some argument → Pattern.Conforms argument → Pattern.Conforms data
  | assignment {data left} : IsNode data → data.HasTag "AssignmentPattern" →
      data.at? "left" = some left → Pattern.Conforms left →
      (∀ v, data.nonNull? "right" = some v → Expression.Conforms L v) → Pattern.Conforms data
  | other {data} : IsNode data → data.HasOtherTag patternTags → Pattern.Conforms data

/-- The names of a specifier under the keys at which it may have them. -/
def NamesAt (data : Json) (keys : List String) : Prop :=
  ∀ key ∈ keys, ∀ v, data.nonNull? key = some v → SpecifierName.Conforms L v

inductive Specifier.Conforms : Json → Prop where
  | importNamed {data} : IsNode data → data.HasTag "ImportSpecifier" →
      NamesAt L data ["imported", "id", "local", "name"] → Specifier.Conforms data
  | importDefault {data} : IsNode data → data.HasTag "ImportDefaultSpecifier" →
      NamesAt L data ["local", "id"] → Specifier.Conforms data
  | importNamespace {data} : IsNode data → data.HasTag "ImportNamespaceSpecifier" →
      NamesAt L data ["local", "id"] → Specifier.Conforms data
  | exportNamed {data} : IsNode data → data.HasTag "ExportSpecifier" →
      NamesAt L data ["local", "exported"] → Specifier.Conforms data
  | exportDefault {data} : IsNode data → data.HasTag "ExportDefaultSpecifier" →
      NamesAt L data ["exported"] → Specifier.Conforms data
  | exportNamespace {data} : IsNode data → data.HasTag "ExportNamespaceSpecifier" →
      NamesAt L data ["exported"] → Specifier.Conforms data
  | other {data} : IsNode data → data.HasOtherTag specifierTags → Specifier.Conforms data

/-- The specifiers of an import or an export. -/
def SpecifiersAt (data : Json) : Prop :=
  data.ListAt "specifiers" ∧ ∀ v ∈ data.itemsAt "specifiers", Specifier.Conforms L v

/-! ## Statements and programs -/

/-- The identifier that a declaration must have. -/
def DeclaredNameAt (data : Json) : Prop :=
  ∃ id, data.at? "id" = some id ∧ id.NameAt "name"

structure Signature.Conforms (data : Json) : Prop where
  node : IsNode data
  name : ∀ v, data.nonNull? "id" = some v → v.NameAt "name"
  isList : data.ListAt "params"
  params : ∀ v ∈ data.itemsAt "params", Pattern.Conforms L v
  returns : AnnotationAt L data "returnType"
  typeParams : TypeParametersAt L data

structure TypeAlias.Conforms (data : Json) : Prop where
  node : IsNode data
  name : DeclaredNameAt data
  right : ∃ v, data.at? "right" = some v ∧ FlowType.Conforms L v
  typeParams : TypeParametersAt L data

mutual

inductive Statement.Conforms : Json → Prop where
  | function {data} : data.HasTag "FunctionDeclaration" → Signature.Conforms L data →
      Statement.Conforms data
  | variableDeclaration {data} : IsNode data → data.HasTag "VariableDeclaration" →
      data.TextAt "kind" → Statement.Conforms data
  | typeAlias {data} : data.HasTag "TypeAlias" → TypeAlias.Conforms L data →
      Statement.Conforms data
  | importDeclaration {data source} : IsNode data → data.HasTag "ImportDeclaration" →
      data.at? "source" = some source → Source.Conforms L source → SpecifiersAt L data →
      Statement.Conforms data
  | exportDefault {data declaration} : IsNode data → data.HasTag "ExportDefaultDeclaration" →
      data.at? "declaration" = some declaration → Statement.Conforms declaration →
      Statement.Conforms data
  | exportNamed {data} : IsNode data → data.HasTag "ExportNamedDeclaration" →
      (∀ v, data.nonNull? "declaration" = some v → Statement.Conforms v) → SpecifiersAt L data →
      (∀ v, data.nonNull? "source" = some v → Source.Conforms L v) → Statement.Conforms data
  | exportAll {data source} : IsNode data → data.HasTag "ExportAllDeclaration" →
      data.at? "source" = some source → Source.Conforms L source → Statement.Conforms data
  | block {data} : data.HasTag "BlockStatement" → Block.Conforms data → Statement.Conforms data
  | declareModule {data id} : IsNode data → data.HasTag "DeclareModule" →
      data.at? "id" = some id → ModuleName.Conforms L id →
      (∀ v, data.nonNull? "body" = some v → Block.Conforms v) → Statement.Conforms data
  | declareTypeAlias {data} : data.HasTag "DeclareTypeAlias" → TypeAlias.Conforms L data →
      Statement.Conforms data
  | declareClass {data} : IsNode data → data.HasTag "DeclareClass" → DeclaredNameAt data →
      Statement.Conforms data
  | other {data} : IsNode data → data.HasOtherTag statementTags → Statement.Conforms data

inductive Block.Conforms : Json → Prop where
  | mk {data} : IsNode data → data.ListAt "body" →
      (∀ v ∈ data.itemsAt "body", Statement.Conforms v) → Block.Conforms data

end

structure ParseError.Conforms (data : Json) : Prop where
  node : IsNode data
  message : data.TextAt "message"

/-- A tree that fits the schema. -/
structure Program.Conforms (data : Json) : Prop where
  node : IsNode data
  tag : data.HasTag "Program"
  bodyList : data.ListAt "body"
  body : ∀ v ∈ data.itemsAt "body", Statement.Conforms L v
  errorList : data.ListAt "errors"
  errors : ∀ v ∈ data.itemsAt "errors", ParseError.Conforms v

end Typings
