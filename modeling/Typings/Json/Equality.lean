import Typings.Json.Basic
import Typings.Decimal.Basic

/-!
# Equality of values

Values are equal when they say the same: numbers by their exact value whatever their kind, where
true counts as one and false as zero, lists item by item, objects by key without regard to order. An
undefined real differs from itself, but not as a member of a list or an object.
-/

namespace Typings.Json

/-- The number that a value stands for: itself, or one and zero for true and false. -/
def number? : Json → Option Json
  | .bool b => some (.int (if b then 1 else 0))
  | .int n => some (.int n)
  | .real x => some (.real x)
  | _ => none

/-- Whether a real has exactly the value of an integer. -/
def realIsInt (x : Float) (n : Int) : Bool :=
  match Binary.ofFloat x with
  | .finite negative significand exponent =>
    let size := significand * Nat.pow 2 exponent.toNat
    let value : Int := if negative then -(size : Int) else size
    value == n * (Nat.pow 2 (-exponent).toNat : Nat)
  | _ => false

/-- Equality of numbers by value. -/
def sameNumber : Json → Json → Bool
  | .int m, .int n => m == n
  | .int m, .real y => realIsInt y m
  | .real x, .int n => realIsInt x n
  | .real x, .real y => x == y
  | _, _ => false

/-- Equality of two values of which at least one is a scalar. -/
def sameScalar : Json → Json → Bool
  | .null, .null => true
  | .string s, .string t => s == t
  | v, w =>
    match v.number?, w.number? with
    | some m, some n => sameNumber m n
    | _, _ => false

/-- Whether a value is the undefined real. -/
def isUndefined : Json → Bool
  | .real x => x.isNaN
  | _ => false

mutual

def same : Json → Json → Bool
  | .list items, .list others => sameItems items others
  | .object fields, .object others =>
    fields.length == others.length && sameFields fields others
  | v, w => sameScalar v w

/-- Equality of lists, item by item. -/
def sameItems : List Json → List Json → Bool
  | [], [] => true
  | v :: rest, w :: others =>
    (v.same w || (v.isUndefined && w.isUndefined)) && sameItems rest others
  | _, _ => false

/-- Whether every field is among the others with an equal value. -/
def sameFields : List (String × Json) → List (String × Json) → Bool
  | [], _ => true
  | (key, v) :: rest, others =>
    (match others.lookup key with
      | some w => v.same w || (v.isUndefined && w.isUndefined)
      | none => false) && sameFields rest others

end

end Typings.Json
