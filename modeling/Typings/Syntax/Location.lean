import Typings.Json.Display
import Typings.Json.Operation

/-!
# Source locations

Lines and columns are kept as the tree gives them. Lines count from one and columns from zero; both
are shown counting from one.
-/

namespace Typings

/-- A place in a source text. -/
structure Position where
  line : Json
  column : Json

/-- The extent of a node in a source text. -/
structure Location where
  start : Position
  stop : Position
  source : Json

/-- The place where a node starts, as `(line:column)`. It can not be shown if the line is too long a
number, or the column no number or too long a one. -/
def Location.position (loc : Location) : Except Malformed String := do
  let line ← loc.start.line.display
  let column ← (← loc.start.column.add (.int 1)).display
  return "(" ++ line ++ ":" ++ column ++ ")"

/-- The line where a node starts, null without a location. -/
def Location.lineOf : Option Location → Json
  | some loc => loc.start.line
  | none => .null

end Typings
