/-!
# Malformed values

A step that works on a value asks for a shape, and for numbers that it can handle. There are several
ways not to have them.
-/

namespace Typings

/-- How a value fails to be what a step asks for. -/
inductive Malformed where
  /-- An object lacks a field that must be there. -/
  | missing (key : String)
  /-- A field or another member was asked of a value that has none of the kind. -/
  | noMember
  /-- An operation met a value of a kind it does not work on. -/
  | mismatch
  /-- An operation met a number beyond the range it works on. -/
  | outOfRange
  /-- An integer has too many digits to be written. -/
  | tooManyDigits
  deriving DecidableEq, Repr

end Typings
