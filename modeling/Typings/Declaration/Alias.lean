import Typings.Declaration.FlowType

/-!
# Aliases as types and interfaces

An alias of an object type becomes an interface, any other alias a type. Nullable and boolean
literal types have no alias.
-/

namespace Typings

/-- Whether an alias may stand for the annotation, other than as an interface. -/
def FlowType.hasTypeAlias : FlowType → Bool
  | .keyword .. | .function .. | .generic .. | .union .. | .intersection .. | .stringLiteral ..
  | .tuple .. => true
  | .nullable .. | .object .. | .booleanLiteral .. | .unknown .. => false

def TypeAlias.render (a : TypeAlias) : Except Failure String := do
  let typeParams ← renderTypeParams a.typeParams
  match a.right with
  | .object members indexers _ _ =>
    let name ← pieceText a.name
    let properties ← renderMembers members
    let indices ← renderIndexers indexers
    return "interface " ++ name ++ typeParams ++ " \x7b\n" ++ properties ++ indices ++ "\x7d"
  | right =>
    if right.hasTypeAlias then
      let name ← shownText a.name
      return "type " ++ name ++ typeParams ++ " = " ++ (← right.renderText) ++ ";"
    else .error (.ofUnhandled .aliasRight right.kind a.loc)

/-- The text of a declared alias, which is always a type. -/
def TypeAlias.renderDeclared (a : TypeAlias) : Except Failure String := do
  let typeParams ← renderTypeParams a.typeParams
  let name ← shownText a.name
  return "declare type " ++ name ++ typeParams ++ " = " ++ (← a.right.renderText) ++ ";"

end Typings
