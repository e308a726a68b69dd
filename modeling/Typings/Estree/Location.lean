import Typings.Json.Part
import Typings.Syntax.Location

/-!
# Locations of ESTree nodes

A node may carry a record `loc` with the places where it starts and ends. A record without a start
is no location; one without an end ends where it starts.
-/

namespace Typings

def Position.ofEstree (data : Json) : Except Malformed Position := do
  let line ← data.required "line"
  let column ← data.required "column"
  return ⟨line.val, column.val⟩

def Location.ofEstree? (data : Json) : Except Malformed (Option Location) := do
  if !data.isPresent then
    return none
  else if !(← data.holds "start") then
    return none
  else
    let stop ← data.get "end"
    let start ← data.required "start"
    let first ← Position.ofEstree start.val
    let last ← Position.ofEstree (stop.orElse start.val)
    return some ⟨first, last, ← data.get "source"⟩

def Location.ofNode (data : Json) : Except Malformed (Option Location) := do
  Location.ofEstree? (← data.get "loc")

/-- The tag of a node that is kept as unknown. -/
def unknownTag (data : Json) : Except Malformed Json :=
  data.getD "type" (.string "<missing>")

end Typings
