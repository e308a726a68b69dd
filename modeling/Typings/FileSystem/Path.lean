/-!
# Paths

A path is a root and the parts below it. Parts that say nothing, empty ones and single points, are
left out; double points stay, since they only mean something where the path is followed.
-/

namespace Typings

/-- A path. The root is empty for a path relative to the current directory. -/
structure Path where
  root : String
  parts : List String
  deriving DecidableEq, Repr

namespace Path

/-- The root of a written path: one slash, two slashes if there are exactly two, or nothing. -/
def rootOf : List Char → String
  | '/' :: '/' :: '/' :: _ => "/"
  | '/' :: '/' :: _ => "//"
  | '/' :: _ => "/"
  | _ => ""

/-- The components of a written path, with all that say nothing. -/
def components (text : String) : List String :=
  (text.toList.splitOn '/').map String.ofList

def ofString (text : String) : Path :=
  { root := rootOf text.toList
    parts := (components text).filter fun part => part != "" && part != "." }

/-- Writes a path. The current directory is a single point. -/
def toString (path : Path) : String :=
  if path.root = "" ∧ path.parts = [] then "."
  else path.root ++ "/".intercalate path.parts

/-- The path without its last part. A path without parts is its own parent. -/
def parent (path : Path) : Path :=
  { path with parts := path.parts.dropLast }

/-- The last part, empty if there is none. -/
def name (path : Path) : String :=
  path.parts.getLast?.getD ""

/-- The last part from its last point on. A point at the front or at the end of the part starts no
suffix. -/
def suffix (path : Path) : String :=
  let cs := path.name.toList
  let last := (cs.reverse.takeWhile (· != '.')).length
  if last = 0 ∨ cs.length ≤ last + 1 then ""
  else String.ofList (cs.drop (cs.length - (last + 1)))

end Path

end Typings
