import Typings.Json.Equality
import Typings.Malformed

/-!
# Operations on values

Addition joins two texts, two lists or two numbers; an integer is added to a real as the nearest
real, so it must not be too large to have one. Searching asks an object for a key, a list for
a text among its items, and a text for a text inside it.
-/

namespace Typings.Json

/-- Integers from here on, of either sign, have no nearest real: half a step above the greatest. -/
def realBound : Nat := Nat.pow 2 1024 - Nat.pow 2 970

/-- The real nearest to an integer. -/
def realOfInt (n : Int) : Except Malformed Float :=
  if n.natAbs < realBound then .ok (Float.ofInt n) else .error .outOfRange

/-- The sum of two numbers, exact for integers. -/
def addNumbers : Json → Json → Except Malformed Json
  | .int m, .int n => .ok (.int (m + n))
  | .int m, .real y => (realOfInt m).map fun x => .real (x + y)
  | .real x, .int n => (realOfInt n).map fun y => .real (x + y)
  | .real x, .real y => .ok (.real (x + y))
  | _, _ => .error .mismatch

/-- Puts two values together. -/
def add : Json → Json → Except Malformed Json
  | .string s, .string t => .ok (.string (s ++ t))
  | .list items, .list others => .ok (.list (items ++ others))
  | v, w =>
    match v.number?, w.number? with
    | some m, some n => addNumbers m n
    | _, _ => .error .mismatch

/-- Whether `part` stands somewhere inside a text. -/
def occursIn (part : List Char) : List Char → Bool
  | [] => part.isEmpty
  | c :: rest => part.isPrefixOf (c :: rest) || occursIn part rest

/-- Whether a value holds a text: as a key, as an item, or inside itself. -/
def holds (v : Json) (text : String) : Except Malformed Bool :=
  match v with
  | .object fields => .ok (fields.any fun f => f.1 == text)
  | .list items => .ok (items.any fun item => item.same (.string text))
  | .string s => .ok (occursIn text.toList s.toList)
  | _ => .error .mismatch

end Typings.Json
