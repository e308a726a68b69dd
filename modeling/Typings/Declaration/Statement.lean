import Typings.Declaration.Alias
import Typings.Declaration.Signature
import Typings.Declaration.Specifier
import Typings.Text.Indentation

/-!
# Documents

Statements are rendered one by one. What is not exported is dropped and recorded: its text is
empty, and empty texts leave no trace in the document. The statements of a block stand one level
deeper than the block.
-/

namespace Typings

/-- The stub that stands for every declared class. -/
def classStub : String := "declare class;"

/-- The text of a default export. Only functions can be exported so. -/
def renderExportDefault (declaration : Statement) (loc : Option Location) :
    Except Failure String := do
  match declaration with
  | .function f => return "export default " ++ (← f.render)
  | other => .error (.ofUnhandled .declaration other.kind loc)

/-- The text of an exported declaration. Variables are dropped. -/
def renderExported (declaration : Statement) (loc : Option Location) :
    Except Failure String := do
  match declaration with
  | .function f => return "export " ++ (← f.render)
  | .typeAlias a => return "export " ++ (← a.render)
  | .variableDeclaration .. => return ""
  | other => .error (.ofUnhandled .statement other.kind loc)

/-- The text of a statement that holds no others, without indentation. Blocks and modules are not
of this kind. -/
def Statement.renderFlat (ctx : Context) : Statement → Rendering String
  | .exportDefault declaration loc => .ofExcept (renderExportDefault declaration loc)
  | .importDeclaration source specifiers _ _ => renderImport ctx source specifiers
  | .exportNamed (some declaration) _ _ _ loc => .ofExcept (renderExported declaration loc)
  | .exportNamed none specifiers source _ _ => renderExport ctx source specifiers
  | .exportAll source _ => pure (renderExportAll source)
  | .typeAlias a => .ofExcept a.render
  | .function f => do
    ctx.record (.implementation (.string "function") (f.name.orElse (.string ""))) f.loc
    return ""
  | .variableDeclaration kind loc => do
    ctx.record (.implementation kind (.string "")) loc
    return ""
  | .declareTypeAlias a => .ofExcept a.renderDeclared
  | .declareClass name loc => do
    ctx.record (.declareClass name) loc
    return classStub
  | .unknown tag loc => .ofExcept (.error (.ofUnhandled .statement tag loc))
  | .block _ | .declareModule .. => pure ""

/-- Puts texts below each other with an empty line between neighbours; empty texts are left out. -/
def stack (texts : List String) : String :=
  "\n\n".intercalate (texts.filter (· != ""))

/-- The text of a module around the text of its body. -/
def renderModule (lead name body : String) : String :=
  let header := lead ++ "declare module '" ++ name ++ "' \x7b"
  let footer := lead ++ "\x7d"
  "\n".intercalate (if body = "" then [header, footer] else [header, body, footer])

/-- What stands in front of a line at a depth. -/
def Context.lead (ctx : Context) (depth : Int) : Rendering String :=
  .ofExcept ((Text.repeated ctx.indent depth).mapError .malformed)

/-- A text at a depth. -/
def Context.indentText (ctx : Context) (depth : Int) (text : String) : Rendering String :=
  .ofExcept ((Text.indentText ctx.indent depth text).mapError .malformed)

mutual

/-- The text of a statement at a depth. -/
def Statement.render (ctx : Context) : Statement → Int → Rendering String
  | .block b, depth => b.render ctx depth
  | .declareModule name body _, depth => do
    let lead ← ctx.lead depth
    let shown ← Rendering.ofExcept (shownText name)
    let text ← body.render ctx depth
    return renderModule lead shown text
  | statement, depth => do
    let text ← statement.renderFlat ctx
    ctx.indentText depth text

/-- The text of a block at a depth, its statements one level deeper. -/
def Block.render (ctx : Context) : Block → Int → Rendering String
  | ⟨body, _⟩, depth => do return stack (← renderStatements ctx body (depth + 1))

/-- The texts of statements at a depth. -/
def renderStatements (ctx : Context) : List Statement → Int → Rendering (List String)
  | [], _ => pure []
  | statement :: rest, depth => do
    let text ← statement.render ctx depth
    return text :: (← renderStatements ctx rest depth)

end

/-- Ends a document with a line feed, unless it is empty. -/
def endDocument (text : String) : String :=
  if text = "" then "" else text ++ "\n"

def Program.render (ctx : Context) (p : Program) : Rendering String := do
  return endDocument (stack (← renderStatements ctx p.body 0))

end Typings
