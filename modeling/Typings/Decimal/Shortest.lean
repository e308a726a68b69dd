import Typings.Decimal.Basic

/-!
# The shortest decimal of a real

Of all decimals that are nearest to no other real, the shortest is the one with the fewest digits,
and of several such the one closest to the value. On the grid of multiples of `10 ^ k` it is enough
to look at the two neighbours of the value: if any point of the grid lies in the interval of
decimals that read back, so does one of these.
-/

namespace Typings.Decimal

/-- The decimals that read back as one real: those between `low / den` and `high / den`, with both
ends included when `closed` holds. The real itself is `mid / den`. -/
structure Interval where
  low : Nat
  mid : Nat
  high : Nat
  den : Nat
  closed : Bool
  deriving Repr

namespace Interval

/-- The interval of the real `significand · 2 ^ exponent`. Below a power of two the reals are twice
as dense, so the lower half of the interval is then half as long. -/
def ofBinary (significand : Nat) (exponent : Int) : Interval :=
  let below :=
    if significand = Nat.pow 2 Binary.fractionBits ∧ Binary.minExponent < exponent then 1 else 2
  let up := Nat.pow 2 exponent.toNat
  { low := (4 * significand - below) * up
    mid := 4 * significand * up
    high := (4 * significand + 2) * up
    den := 4 * Nat.pow 2 (-exponent).toNat
    closed := significand % 2 = 0 }

/-- The same interval in units of `10 ^ power`. -/
def inUnits (i : Interval) (power : Int) : Interval :=
  let up := Nat.pow 10 (-power).toNat
  { low := i.low * up
    mid := i.mid * up
    high := i.high * up
    den := i.den * Nat.pow 10 power.toNat
    closed := i.closed }

/-- Whether the whole number `n` lies in the interval. -/
def holds (i : Interval) (n : Nat) : Bool :=
  let point := n * i.den
  if i.closed then i.low ≤ point && point ≤ i.high
  else i.low < point && point < i.high

/-- The whole number of the interval nearest to its middle, the even one of two at one distance. -/
def pick? (i : Interval) : Option Nat :=
  let floor := i.mid / i.den
  let twice := 2 * (i.mid % i.den)
  match i.holds floor, i.holds (floor + 1) with
  | false, false => none
  | true, false => some floor
  | false, true => some (floor + 1)
  | true, true =>
    if twice < i.den then some floor
    else if i.den < twice then some (floor + 1)
    else some (floor + floor % 2)

/-- Whether the middle is at least `10 ^ power`. -/
def reaches (i : Interval) (power : Int) : Bool :=
  let j := i.inUnits power
  j.den ≤ j.mid

end Interval

/-- The number of decimal digits before the point of the middle of an interval, found from an
estimate that is too small by at most a few. It is zero or less for a value below one. -/
def integerDigits (i : Interval) (estimate : Int) : Nat → Int
  | 0 => estimate
  | tries + 1 => if i.reaches estimate then integerDigits i (estimate + 1) tries else estimate

/-- The digits that a real never needs more of. -/
def mostDigits : Nat := 17

/-- Looks for a decimal of the interval on finer and finer grids, starting with `count` digits. -/
def search (i : Interval) (places : Int) (count : Nat) : Nat → Option Decimal
  | 0 => none
  | tries + 1 =>
    let power := places - count
    match (i.inUnits power).pick? with
    | some digits => some ⟨digits, power⟩
    | none => search i places (count + 1) tries

/-- Removes final zeros from the digits. -/
def dropZeros (digits : Nat) (exponent : Int) : Decimal :=
  if h : digits ≠ 0 ∧ digits % 10 = 0 then dropZeros (digits / 10) (exponent + 1)
  else ⟨digits, exponent⟩
termination_by digits
decreasing_by omega

/-- The shortest decimal that reads back as the positive real `significand · 2 ^ exponent`. -/
def shortest (significand : Nat) (exponent : Int) : Decimal :=
  let i := Interval.ofBinary significand exponent
  let estimate : Int := ((Nat.log2 significand : Int) + exponent) * 3 / 10 - 18
  let places := integerDigits i estimate 60
  match search i places 1 mostDigits with
  | some d => dropZeros d.digits d.exponent
  | none => ⟨significand, 0⟩

end Typings.Decimal
