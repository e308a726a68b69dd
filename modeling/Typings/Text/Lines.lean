/-!
# Lines of a text

A text is the list of its lines joined by line feeds, so the empty text has one empty line.
-/

namespace Typings.Text

def lines (text : String) : List String :=
  (text.toList.splitOn '\n').map String.ofList

/-- Reads every kind of line end as one line feed: a carriage return, a line feed, or the first
followed by the second. -/
def unifyLineEnds : List Char → List Char
  | '\r' :: '\n' :: rest => '\n' :: unifyLineEnds rest
  | '\r' :: rest => '\n' :: unifyLineEnds rest
  | c :: rest => c :: unifyLineEnds rest
  | [] => []

end Typings.Text
