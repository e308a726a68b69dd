/-!
# Long integers

Integers may be of any size, but one with more than a fixed number of decimal digits is neither read
nor written.
-/

namespace Typings.Decimal

/-- The most digits of an integer that is read or written. -/
def maxDigits : Nat := 4300

/-- Whether an integer has more digits than that. -/
def isTooLong (n : Int) : Bool :=
  Nat.pow 10 maxDigits ≤ n.natAbs

/-- The number of digits of a whole number. -/
def digitCount (n : Nat) : Nat := n.repr.length

/-- The limit, as messages name it. -/
def limitMessage : String :=
  "Exceeds the limit (" ++ maxDigits.repr ++ " digits) for integer string conversion"

/-- The way out, as messages name it. -/
def limitAdvice : String :=
  "; use sys.set_int_max_str_digits() to increase the limit"

/-- The complaint about an integer that can not be read, given the number of its digits. -/
def unreadableMessage (digits : Nat) : String :=
  limitMessage ++ ": value has " ++ digits.repr ++ " digits" ++ limitAdvice

/-- The complaint about an integer that can not be written. -/
def unwritableMessage : String :=
  limitMessage ++ limitAdvice

end Typings.Decimal
