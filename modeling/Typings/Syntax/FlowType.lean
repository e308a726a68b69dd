import Typings.Syntax.Location

/-!
# Type annotations

The types of Flow. Names, keys and raw texts are kept as the tree gives them. An annotation of a
kind that is not known here keeps its tag.
-/

namespace Typings

/-- The types that are a single word. -/
inductive Keyword where
  | any
  | mixed
  | empty
  | void
  | nullLiteral
  | number
  | string
  | boolean
  deriving DecidableEq, Repr

/-- The tag of the node of a keyword type. -/
def Keyword.tag : Keyword → String
  | .any => "AnyTypeAnnotation"
  | .mixed => "MixedTypeAnnotation"
  | .empty => "EmptyTypeAnnotation"
  | .void => "VoidTypeAnnotation"
  | .nullLiteral => "NullLiteralTypeAnnotation"
  | .number => "NumberTypeAnnotation"
  | .string => "StringTypeAnnotation"
  | .boolean => "BooleanTypeAnnotation"

def Keyword.all : List Keyword :=
  [.any, .mixed, .empty, .void, .nullLiteral, .number, .string, .boolean]

/-- The keyword type whose node has the given tag. -/
def Keyword.ofTag? (tag : String) : Option Keyword :=
  Keyword.all.find? fun k => k.tag == tag

mutual

/-- A type annotation. -/
inductive FlowType where
  | keyword (k : Keyword) (loc : Option Location)
  /-- A function type. Without parameters it says nothing but that the value is a function. -/
  | function (params : Option (List FunctionParam)) (returns : Option FlowType)
      (rest : Option FunctionParam) (loc : Option Location)
  | generic (name : Json) (args : Option (List FlowType)) (loc : Option Location)
  | nullable (inner : FlowType) (loc : Option Location)
  | object (members : List Member) (indexers : List Indexer) (exact : Bool)
      (loc : Option Location)
  | union (types : List FlowType) (loc : Option Location)
  | intersection (types : List FlowType) (loc : Option Location)
  | stringLiteral (value raw : Json) (loc : Option Location)
  | booleanLiteral (value : Bool) (raw : Json) (loc : Option Location)
  | tuple (types : List FlowType) (loc : Option Location)
  | unknown (tag : Json) (loc : Option Location)

/-- A parameter of a function type. The name is null if it has none. -/
structure FunctionParam where
  name : Json
  type : FlowType
  optional : Bool
  loc : Option Location

/-- A member of an object type. -/
inductive Member where
  | property (key : Json) (value : FlowType) (optional : Bool) (loc : Option Location)
  | unknown (tag : Json) (loc : Option Location)

/-- An indexer of an object type. The name is null if it has none. -/
structure Indexer where
  name : Json
  key : FlowType
  value : FlowType
  loc : Option Location

end

/-- A parameter of a generic declaration. -/
structure TypeParameter where
  name : Json
  bound : Option FlowType
  loc : Option Location

/-- The kind of an annotation: the tag of its node. -/
def FlowType.kind : FlowType → Json
  | .keyword k _ => .string k.tag
  | .function .. => .string "FunctionTypeAnnotation"
  | .generic .. => .string "GenericTypeAnnotation"
  | .nullable .. => .string "NullableTypeAnnotation"
  | .object .. => .string "ObjectTypeAnnotation"
  | .union .. => .string "UnionTypeAnnotation"
  | .intersection .. => .string "IntersectionTypeAnnotation"
  | .stringLiteral .. => .string "StringLiteralTypeAnnotation"
  | .booleanLiteral .. => .string "BooleanLiteralTypeAnnotation"
  | .tuple .. => .string "TupleTypeAnnotation"
  | .unknown tag _ => tag

def FlowType.isNullable : FlowType → Bool
  | .nullable .. => true
  | _ => false

end Typings
