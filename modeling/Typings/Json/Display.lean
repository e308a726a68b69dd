import Typings.Decimal.Digits
import Typings.Decimal.Written
import Typings.Json.Basic
import Typings.Malformed
import Typings.Text.Quoted

/-!
# Display text of a value

A value that stands where text is expected is shown: text as it is, other scalars by their name or
number, and lists and objects in brackets with quoted text inside. An integer can be too long to be
shown, and then so is every value that holds it.
-/

namespace Typings.Json

/-- Shown reals are positional from `0.0001` up to sixteen digits before the point. -/
def shownReal : Decimal.Style :=
  { above := -4, upTo := 16, exponentWidth := 2, infinity := "inf", undefined := "nan" }

/-- The digits of an integer, if there are not too many. -/
def shownInt (n : Int) : Except Malformed String :=
  if Decimal.isTooLong n then .error .tooManyDigits else .ok n.repr

mutual

/-- A value as a member of a shown list or object. -/
def inside : Json → Except Malformed String
  | .null => .ok "None"
  | .bool true => .ok "True"
  | .bool false => .ok "False"
  | .int n => shownInt n
  | .real x => .ok (Decimal.writeReal shownReal x)
  | .string s => .ok (Text.quoted s)
  | .list items => do return "[" ++ ", ".intercalate (← insideItems items) ++ "]"
  | .object fields => do return "\x7b" ++ ", ".intercalate (← insideFields fields) ++ "\x7d"

/-- The members of a shown list. -/
def insideItems : List Json → Except Malformed (List String)
  | [] => .ok []
  | v :: rest => do
    let shown ← v.inside
    return shown :: (← insideItems rest)

/-- The members of a shown object, each with its key. -/
def insideFields : List (String × Json) → Except Malformed (List String)
  | [] => .ok []
  | (key, v) :: rest => do
    let shown ← v.inside
    return (Text.quoted key ++ ": " ++ shown) :: (← insideFields rest)

end

/-- The text shown for a value. -/
def display : Json → Except Malformed String
  | .string s => .ok s
  | v => v.inside

end Typings.Json
