import Typings.Syntax.FlowType

/-!
# Parameter patterns

What stands in the parameter list of a function: a name, a rest parameter, or a pattern with a
default value.
-/

namespace Typings

/-- A name with its annotation. -/
structure Identifier where
  name : Json
  type : Option FlowType
  optional : Bool
  loc : Option Location

/-- A default value. Only literals and names are kept. -/
inductive Expression where
  | literal (value raw : Json) (loc : Option Location)
  | identifier (i : Identifier)
  | unknown (tag : Json) (loc : Option Location)

/-- A parameter of a function. -/
inductive Pattern where
  | identifier (i : Identifier)
  | rest (argument : Pattern) (loc : Option Location)
  | assignment (left : Pattern) (right : Expression) (loc : Option Location)
  | unknown (tag : Json) (loc : Option Location)

/-- The kind of a pattern: the tag of its node. -/
def Pattern.kind : Pattern → Json
  | .identifier _ => .string "Identifier"
  | .rest .. => .string "RestElement"
  | .assignment .. => .string "AssignmentPattern"
  | .unknown tag _ => tag

end Typings
