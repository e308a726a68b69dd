import Typings.Declaration.FlowType

/-!
# Functions as signatures

A function becomes a signature without a body. A parameter whose annotation is nullable is optional;
default values are left out.
-/

namespace Typings

/-- The piece for a name with its annotation. -/
def Identifier.render (i : Identifier) : Except Failure Json := do
  match i.type with
  | some type =>
    let optional := i.optional || type.isNullable
    let name ← shownText i.name
    return .string (name ++ optionalMark optional ++ ": " ++ (← type.renderText))
  | none => if i.optional then return .string ((← shownText i.name) ++ "?") else return i.name

/-- The text of a rest parameter. -/
def Identifier.renderRest (i : Identifier) : Except Failure String := do
  let name ← shownText i.name
  match i.type with
  | some type => return "..." ++ name ++ ": " ++ (← type.renderText)
  | none => return "..." ++ name

def Pattern.render : Pattern → Except Failure Json
  | .identifier i => i.render
  | .rest (.identifier i) _ => do return .string (← i.renderRest)
  | .rest argument loc => .error (.ofUnhandled .restArgument argument.kind loc)
  | .assignment (.identifier i) _ _ => i.render
  | .assignment left _ loc => .error (.ofUnhandled .defaultTarget left.kind loc)
  | .unknown tag loc => .error (.ofUnhandled .parameter tag loc)

def renderParameters (params : List Pattern) : Except Failure String := do
  joinPieces ", " (← params.mapM Pattern.render)

/-- The result type after a colon; nothing if there is none. -/
def renderReturns : Option FlowType → Except Failure String
  | some type => do return ": " ++ (← type.renderText)
  | none => .ok ""

/-- The name of a function after a blank; nothing if it has none. -/
def renderName (name : Json) : Except Failure String :=
  if name.isPresent then do return " " ++ (← shownText name) else .ok ""

def Signature.render (f : Signature) : Except Failure String := do
  let name ← renderName f.name
  let typeParams ← renderTypeParams f.typeParams
  let params ← renderParameters f.params
  let returns ← renderReturns f.returns
  return "function" ++ name ++ typeParams ++ "(" ++ params ++ ")" ++ returns ++ ";"

end Typings
