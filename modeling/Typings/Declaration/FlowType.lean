import Typings.Failure

/-!
# Types as TypeScript

Every annotation has one text. Nullable types are written as what they wrap; the mark of optional
parameters stands at their names. A literal type is written as its raw text, which the tree may
give as a value of any kind: such a value is shown inside other text, but it can not be joined with
other pieces.
-/

namespace Typings

/-! ## Names -/

def Keyword.text : Keyword → String
  | .string => "string"
  | .number => "number"
  | .boolean => "boolean"
  | .void => "void"
  | .mixed => "any"
  | .any => "any"
  | .empty => "never"
  | .nullLiteral => "null"

/-- The word for a function type that says nothing but that the value is a function. -/
def anyFunction : String := "Function"

/-- The word for the kind of node with the given tag, if every node of the kind has the same. -/
def wordOfTag? (tag : String) : Option String :=
  if tag = "FunctionTypeAnnotation" then some anyFunction
  else (Keyword.ofTag? tag).map Keyword.text

/-- The word that takes the place of a type name and its arguments: only the name for any object is
replaced. -/
def replacement? : Json → Option String
  | .string "Object" => some "object"
  | _ => none

/-- The result type of a function type that gives none. -/
def defaultResult : String := "void"

/-- The name of an indexer that has none. -/
def unnamedIndexer : Json := .string "key"

/-! ## Pieces -/

/-- The text of a piece that must be text. -/
def pieceText : Json → Except Failure String
  | .string s => .ok s
  | _ => .error (.malformed .mismatch)

/-- Joins pieces, all of which must be text. -/
def joinPieces (separator : String) (pieces : List Json) : Except Failure String := do
  return separator.intercalate (← pieces.mapM pieceText)

/-- The text of a piece inside other text. -/
def shownText (piece : Json) : Except Failure String :=
  piece.display.mapError .malformed

/-- The mark of what may be left out. -/
def optionalMark (optional : Bool) : String :=
  if optional then "?" else ""

/-! ## Annotations -/

mutual

def FlowType.render : FlowType → Except Failure Json
  | .keyword k _ => .ok (.string k.text)
  | .function none _ _ _ => .ok (.string anyFunction)
  | .function (some params) returns rest _ => do
    let pieces ← renderParams params
    let restPieces ← match rest with
      | some param => do
        let text ← pieceText (← param.render)
        pure [.string ("..." ++ text)]
      | none => pure []
    let list ← joinPieces ", " (pieces ++ restPieces)
    let result ← match returns with
      | some type => do
        let piece ← type.render
        shownText piece
      | none => pure defaultResult
    return .string ("(" ++ list ++ ") => " ++ result)
  | .generic name args _ =>
    match replacement? name with
    | some word => .ok (.string word)
    | none => do
      let shown ← shownText name
      let list ← match args with
        | some (arg :: more) => do
          let list ← joinPieces ", " (← renderList (arg :: more))
          pure ("<" ++ list ++ ">")
        | _ => pure ""
      return .string (shown ++ list)
  | .nullable inner _ => inner.render
  | .object members indexers _ _ => do
    let properties ← renderMembers members
    let indices ← renderIndexers indexers
    return .string ("\x7b\n" ++ properties ++ indices ++ "\x7d")
  | .union types _ => do return .string (← joinPieces " | " (← renderList types))
  | .intersection types _ => do return .string (← joinPieces " & " (← renderList types))
  | .stringLiteral _ raw _ => .ok raw
  | .booleanLiteral _ raw _ => .ok raw
  | .tuple types _ => do
    let list ← joinPieces ", " (← renderList types)
    return .string ("[" ++ list ++ "]")
  | .unknown tag loc => .error (.ofUnhandled .type tag loc)

def renderList : List FlowType → Except Failure (List Json)
  | [] => .ok []
  | type :: rest => do
    let piece ← type.render
    return piece :: (← renderList rest)

def FunctionParam.render : FunctionParam → Except Failure Json
  | ⟨name, type, optional, _⟩ => do
    let piece ← type.render
    if name.isPresent then
      let shown ← shownText name
      return .string (shown ++ optionalMark optional ++ ": " ++ (← shownText piece))
    else return piece

def renderParams : List FunctionParam → Except Failure (List Json)
  | [] => .ok []
  | param :: rest => do
    let piece ← param.render
    return piece :: (← renderParams rest)

/-- The lines for the members of an object type. -/
def renderMembers : List Member → Except Failure String
  | [] => .ok ""
  | .property key value optional _ :: rest => do
    let shown ← shownText key
    let type ← shownText (← value.render)
    let line := "  " ++ shown ++ optionalMark optional ++ ": " ++ type ++ ";\n"
    return line ++ (← renderMembers rest)
  | .unknown tag loc :: _ => .error (.ofUnhandled .member tag loc)

/-- The lines for the indexers of an object type. -/
def renderIndexers : List Indexer → Except Failure String
  | [] => .ok ""
  | ⟨name, key, value, _⟩ :: rest => do
    let keyPiece ← key.render
    let valuePiece ← value.render
    let shown ← shownText (name.orElse unnamedIndexer)
    let keyType ← shownText keyPiece
    let valueType ← shownText valuePiece
    let line := "  [" ++ shown ++ ": " ++ keyType ++ "]: " ++ valueType ++ ";\n"
    return line ++ (← renderIndexers rest)

end

/-- The text of an annotation inside other text. -/
def FlowType.renderText (type : FlowType) : Except Failure String := do
  shownText (← type.render)

/-! ## Type parameters -/

def TypeParameter.render (param : TypeParameter) : Except Failure Json := do
  match param.bound with
  | some bound =>
    let shown ← shownText param.name
    return .string (shown ++ ": " ++ (← bound.renderText))
  | none => return param.name

/-- The list of type parameters of a declaration; nothing if there are none. -/
def renderTypeParams : Option (List TypeParameter) → Except Failure String
  | some (param :: rest) => do
    let list ← joinPieces ", " (← (param :: rest).mapM TypeParameter.render)
    return "<" ++ list ++ ">"
  | _ => .ok ""

end Typings
