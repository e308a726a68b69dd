import Typings.Estree.FlowType
import Typings.Syntax.Pattern

/-!
# Patterns from ESTree nodes
-/

namespace Typings

def Identifier.ofEstree (data : Json) : Except Malformed Identifier := do
  let name ← data.required "name"
  let type ← FlowType.ofField? data "typeAnnotation"
  let optional ← data.get "optional"
  return ⟨name.val, type, optional.isPresent, ← Location.ofNode data⟩

/-- Reads a default value. -/
def Expression.ofEstree (data : Json) : Except Malformed Expression := do
  match ← data.get "type" with
  | .string "Literal" =>
    let value ← data.get "value"
    let raw ← data.getD "raw" (.string "")
    return .literal value raw (← Location.ofNode data)
  | .string "Identifier" => return .identifier (← Identifier.ofEstree data)
  | _ =>
    let tag ← unknownTag data
    return .unknown tag (← Location.ofNode data)

def Pattern.ofEstree (data : Json) : Except Malformed Pattern := do
  let tag ← data.get "type"
  let loc ← Location.ofNode data
  match tag with
  | .string "Identifier" => return .identifier (← Identifier.ofEstree data)
  | .string "RestElement" =>
    let argument ← data.required "argument"
    return .rest (← Pattern.ofEstree argument.val) loc
  | .string "AssignmentPattern" =>
    let target ← data.required "left"
    let left ← Pattern.ofEstree target.val
    let right ← data.get "right"
    return .assignment left (← Expression.ofEstree (right.orElse (.object []))) loc
  | _ => return .unknown (← unknownTag data) loc
termination_by data.size
decreasing_by all_goals exact Json.Part.size_lt _

end Typings
