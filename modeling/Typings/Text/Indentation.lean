import Typings.Text.Copies
import Typings.Text.Lines

/-!
# Indentation

Indentation puts copies of a unit in front of every line that is not empty.
-/

namespace Typings.Text

/-- A line with `lead` in front of it, unless the line is empty. -/
def leadLine (lead line : String) : String :=
  if line = "" then line else lead ++ line

/-- A text with `lead` in front of every line that is not empty. -/
def leadText (lead text : String) : String :=
  "\n".intercalate ((lines text).map (leadLine lead))

/-- Indents a text by `depth` copies of `unit`. A depth below zero counts as zero; nothing is asked
of the unit where there is nothing to indent. -/
def indentText (unit : String) (depth : Int) (text : String) : Except Malformed String :=
  if depth ≤ 0 ∨ text = "" then .ok text
  else (repeated unit depth).map (leadText · text)

end Typings.Text
