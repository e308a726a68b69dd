import Typings.Estree.Location
import Typings.Syntax.FlowType

/-!
# Annotations from ESTree nodes

Every node is read in the order in which its fields are listed here; the first field of a wrong
shape decides how the tree is malformed. An annotation may stand in a `TypeAnnotation` wrapper, a
tuple element in a wrapper that labels it.
-/

namespace Typings

/-! ## Names -/

/-- The name of a type: a plain one as it stands, a qualified one with points. -/
def dottedName (data : Json) : Except Malformed Json := do
  match ← data.get "type" with
  | .string "QualifiedTypeIdentifier" =>
    let qualification ← data.required "qualification"
    let outer ← (← dottedName qualification.val).display
    let id ← data.required "id"
    let name ← id.val.required "name"
    return .string (outer ++ "." ++ (← name.val.display))
  | _ =>
    let name ← data.required "name"
    return name.val
termination_by data.size
decreasing_by exact qualification.size_lt

/-- The key of a property: the name of an identifier, else the raw text, else the shown value. -/
def propertyKey (key : Json) : Except Malformed Json := do
  match ← key.get "type" with
  | .string "Identifier" =>
    let name ← key.required "name"
    return name.val
  | _ =>
    let value ← key.getD "value" (.string "")
    key.getD "raw" (.string (← value.display))

/-- The name in the identifier of a field; null if the field is absent. -/
def nameOfId (data : Json) : Except Malformed Json := do
  match ← data.child? "id" with
  | some id =>
    let name ← id.val.required "name"
    return name.val
  | none => return .null

/-- The name of a parameter of a function type, given as it stands or in an identifier; null if
there is none. -/
def paramName (data : Json) : Except Malformed Json := do
  match ← data.get "name" with
  | .object fields =>
    let name ← (Json.object fields).get "name"
    return name.orElse .null
  | name => return name.orElse .null

/-! ## Annotations -/

/-- The keyword type of a tag. A tag that is a list or an object can not be looked up. -/
def Keyword.ofEstree? : Json → Except Malformed (Option Keyword)
  | .string tag => .ok (Keyword.ofTag? tag)
  | .list _ | .object _ => .error .mismatch
  | _ => .ok none

/-- A tuple element without the wrapper that labels it. -/
def tupleElement {whole : Json} (p : Json.Part whole) : Except Malformed (Json.Part whole) := do
  if ← p.val.holds "elementType" then
    match ← p.val.getD "type" (.string "") with
    | .string tag =>
      if "TupleType".toList.isPrefixOf tag.toList then
        let element ← p.val.required "elementType"
        return ⟨element.val, Nat.lt_trans element.property p.property⟩
      else return p
    | _ => .error .noMember
  else return p

/-- A member that is kept with its tag only. -/
def Member.ofUnknown (data : Json) : Except Malformed Member := do
  let tag ← unknownTag data
  return .unknown tag (← Location.ofNode data)

mutual

def FlowType.ofEstree (data : Json) : Except Malformed FlowType := do
  let tag ← data.get "type"
  let loc ← Location.ofNode data
  match ← Keyword.ofEstree? tag with
  | some k => return .keyword k loc
  | none =>
    match tag with
    | .string "FunctionTypeAnnotation" =>
      let params ← (← data.given? "params").mapM fun p => do
        (← Json.partElements p).mapM fun q => FunctionParam.ofEstree q.val
      let returns ← (← data.child? "returnType").mapM fun p => FlowType.ofEstree p.val
      let rest ← (← data.child? "rest").mapM fun p => FunctionParam.ofEstree p.val
      return .function params returns rest loc
    | .string "GenericTypeAnnotation" =>
      let id ← data.required "id"
      let name ← dottedName id.val
      let args ← (← data.child? "typeParameters").mapM fun p => do
        (← p.val.children "params").mapM fun q => FlowType.ofEstree q.val
      return .generic name args loc
    | .string "NullableTypeAnnotation" =>
      let inner ← data.required "typeAnnotation"
      return .nullable (← FlowType.ofEstree inner.val) loc
    | .string "ObjectTypeAnnotation" =>
      let calls ← data.get "callProperties"
      let slots ← data.get "internalSlots"
      let others ← (calls.orElse (.list [])).add (slots.orElse (.list []))
      let members ← (← data.children "properties").mapM fun p => Member.ofEstree p.val
      let unknowns ← (← others.elements).mapM Member.ofUnknown
      let indexers ← (← data.children "indexers").mapM fun p => Indexer.ofEstree p.val
      let exact ← data.get "exact"
      return .object (members ++ unknowns) indexers exact.isPresent loc
    | .string "UnionTypeAnnotation" =>
      let types ← (← data.children "types").mapM fun p => FlowType.ofEstree p.val
      return .union types loc
    | .string "IntersectionTypeAnnotation" =>
      let types ← (← data.children "types").mapM fun p => FlowType.ofEstree p.val
      return .intersection types loc
    | .string "StringLiteralTypeAnnotation" =>
      let value ← data.getD "value" (.string "")
      return .stringLiteral value (← data.getD "raw" (.string "")) loc
    | .string "BooleanLiteralTypeAnnotation" =>
      let value ← data.get "value"
      return .booleanLiteral value.isPresent (← data.getD "raw" (.string "")) loc
    | .string "TupleTypeAnnotation" =>
      let elements ← match ← data.given? "types" with
        | some p => Json.partElements p
        | none => data.children "elementTypes"
      let types ← elements.mapM fun p => do
        let element ← tupleElement p
        FlowType.ofEstree element.val
      return .tuple types loc
    | _ => return .unknown (← unknownTag data) loc
termination_by data.size
decreasing_by
  all_goals first
    | exact Json.Part.size_lt _
    | exact Nat.lt_trans (Json.Part.size_lt _) (Json.Part.size_lt _)

def FunctionParam.ofEstree (data : Json) : Except Malformed FunctionParam := do
  let name ← paramName data
  let inner ← data.required "typeAnnotation"
  let type ← FlowType.ofEstree inner.val
  let optional ← data.get "optional"
  return ⟨name, type, optional.isPresent, ← Location.ofNode data⟩
termination_by data.size
decreasing_by exact inner.size_lt

def Member.ofEstree (data : Json) : Except Malformed Member := do
  match ← data.get "type" with
  | .string "ObjectTypeProperty" =>
    let key ← data.required "key"
    let name ← propertyKey key.val
    let inner ← data.required "value"
    let value ← FlowType.ofEstree inner.val
    let optional ← data.get "optional"
    return .property name value optional.isPresent (← Location.ofNode data)
  | _ => Member.ofUnknown data
termination_by data.size
decreasing_by exact inner.size_lt

def Indexer.ofEstree (data : Json) : Except Malformed Indexer := do
  let name ← nameOfId data
  let key ← data.required "key"
  let keyType ← FlowType.ofEstree key.val
  let value ← data.required "value"
  let valueType ← FlowType.ofEstree value.val
  return ⟨name, keyType, valueType, ← Location.ofNode data⟩
termination_by data.size
decreasing_by all_goals exact Json.Part.size_lt _

end

/-! ## Annotations in fields -/

/-- Reads the annotation in a field, with or without its wrapper; none if the field is absent. -/
def FlowType.ofField? (data : Json) (key : String) : Except Malformed (Option FlowType) := do
  match ← data.child? key with
  | none => return none
  | some p =>
    match ← p.val.get "type" with
    | .string "TypeAnnotation" =>
      (← p.val.child? "typeAnnotation").mapM fun q => FlowType.ofEstree q.val
    | _ => return some (← FlowType.ofEstree p.val)

def TypeParameter.ofEstree (data : Json) : Except Malformed TypeParameter := do
  let name ← data.required "name"
  let bound ← FlowType.ofField? data "bound"
  return ⟨name.val, bound, ← Location.ofNode data⟩

/-- Reads the type parameters of a declaration; none if it has no list of them. -/
def TypeParameter.listOf? (data : Json) : Except Malformed (Option (List TypeParameter)) := do
  (← data.child? "typeParameters").mapM fun p => do
    (← p.val.children "params").mapM fun q => TypeParameter.ofEstree q.val

end Typings
