/-!
# Decimals and binary reals

A finite 64-bit real is `m · 2 ^ q` with a whole significand `m`. A decimal is `d · 10 ^ e`. This
module takes a real apart into its significand and exponent, and finds the real nearest to a
decimal: the one with the closest value, of two the one whose significand is even.
-/

namespace Typings

/-- The number `digits · 10 ^ exponent`. -/
structure Decimal where
  digits : Nat
  exponent : Int
  deriving DecidableEq, Repr

/-- The parts of a 64-bit real. A finite one has the value `significand · 2 ^ exponent`. -/
inductive Binary where
  | finite (negative : Bool) (significand : Nat) (exponent : Int)
  | infinite (negative : Bool)
  | undefined
  deriving DecidableEq, Repr

namespace Binary

/-- The bits of the significand that are stored. -/
def fractionBits : Nat := 52

/-- The exponent of the least positive real. -/
def minExponent : Int := -1074

/-- Takes a real apart. -/
def ofFloat (x : Float) : Binary :=
  let bits : Nat := x.toBits.toNat
  let negative := bits / Nat.pow 2 63 == 1
  let biased : Nat := bits / Nat.pow 2 fractionBits % Nat.pow 2 11
  let fraction : Nat := bits % Nat.pow 2 fractionBits
  if biased = 2047 then
    if fraction = 0 then .infinite negative else .undefined
  else if biased = 0 then .finite negative fraction minExponent
  else .finite negative (fraction + Nat.pow 2 fractionBits) ((biased : Int) - 1 + minExponent)

end Binary

namespace Decimal

/-- A quotient rounded to the nearest whole number, a half to the even one. -/
def roundDiv (num den : Nat) : Nat :=
  let quotient := num / den
  let twice := 2 * (num % den)
  if twice < den then quotient
  else if den < twice then quotient + 1
  else quotient + quotient % 2

/-- The numerator and the denominator of `num / den / base ^ power`. -/
def scale (num den base : Nat) (power : Int) : Nat × Nat :=
  if 0 ≤ power then (num, den * Nat.pow base power.toNat)
  else (num * Nat.pow base (-power).toNat, den)

/-- The bits, without the sign, of the real nearest to `num / den`. What is too large for every
finite real gives infinity. -/
def nearestBits (num den : Nat) : Nat :=
  if num = 0 then 0
  else
    let guess : Int := (Nat.log2 num : Int) - Nat.log2 den - Binary.fractionBits
    let fits (exponent : Int) : Bool :=
      let (n, d) := scale num den 2 exponent
      n < d * Nat.pow 2 (Binary.fractionBits + 1)
    let least := if fits (guess - 1) then guess - 1 else guess
    let exponent := max least Binary.minExponent
    let (n, d) := scale num den 2 exponent
    let bits := (exponent - Binary.minExponent).toNat * Nat.pow 2 Binary.fractionBits + roundDiv n d
    min bits (2047 * Nat.pow 2 Binary.fractionBits)

/-- The power of ten from which on every decimal is too large for a real, and below whose inverse
every decimal is too small. -/
def extremeExponent : Int := 400

/-- The real nearest to a decimal with the given sign. A decimal whose size is out of reach is told
by its number of binary digits, so that no power of its exponent is formed. -/
def toFloat (negative : Bool) (d : Decimal) : Float :=
  let atLeast : Int := d.exponent + (Nat.log2 d.digits : Int) * 30 / 100
  let atMost : Int := d.exponent + (Nat.log2 d.digits + 1 : Int) * 31 / 100 + 1
  let bits :=
    if d.digits = 0 ∨ atMost < -extremeExponent then 0
    else if extremeExponent < atLeast then 2047 * Nat.pow 2 Binary.fractionBits
    else
      let (num, den) := scale d.digits 1 10 (-d.exponent)
      nearestBits num den
  Float.ofBits (UInt64.ofNat (if negative then bits + Nat.pow 2 63 else bits))

end Decimal

end Typings
