import Typings.Decimal.Shortest

/-!
# Written reals

A real is written with its shortest digits: positionally while its size is moderate, with an
exponent otherwise.
-/

namespace Typings.Decimal

/-- How reals are written. -/
structure Style where
  /-- Positional when the number of digits before the point is greater than this, … -/
  above : Int
  /-- … and at most this. -/
  upTo : Int
  /-- The least number of digits of a written exponent. -/
  exponentWidth : Nat
  infinity : String
  undefined : String

/-- The digits of a number, at least `width` of them. -/
def paddedDigits (width n : Nat) : String :=
  let digits := Nat.toDigits 10 n
  String.ofList (List.replicate (width - digits.length) '0' ++ digits)

/-- The digits with a point after the first `places` of them. Where digits are missing there are
zeros, and a whole number has one zero after the point. -/
def positional (digits : List Char) (places : Int) : String :=
  if places ≤ 0 then
    "0." ++ String.ofList (List.replicate (-places).toNat '0' ++ digits)
  else
    let whole := digits.take places.toNat
    let part := digits.drop places.toNat
    String.ofList (whole ++ List.replicate (places.toNat - whole.length) '0') ++ "."
      ++ (if part.isEmpty then "0" else String.ofList part)

/-- One digit, the others after a point if there are any, and a signed exponent. -/
def scientific (width : Nat) (digits : List Char) (exponent : Int) : String :=
  let lead := String.ofList (digits.take 1)
  let part := digits.drop 1
  let fraction := if part.isEmpty then "" else "." ++ String.ofList part
  let sign := if exponent < 0 then "-" else "+"
  lead ++ fraction ++ "e" ++ sign ++ paddedDigits width exponent.natAbs

/-- A positive decimal in the given style. -/
def write (style : Style) (d : Decimal) : String :=
  let digits := Nat.toDigits 10 d.digits
  let places : Int := digits.length + d.exponent
  if style.above < places ∧ places ≤ style.upTo then positional digits places
  else scientific style.exponentWidth digits (places - 1)

/-- A real in the given style. -/
def writeReal (style : Style) (x : Float) : String :=
  match Binary.ofFloat x with
  | .undefined => style.undefined
  | .infinite negative => if negative then "-" ++ style.infinity else style.infinity
  | .finite negative significand exponent =>
    let text := if significand = 0 then "0.0" else write style (shortest significand exponent)
    if negative then "-" ++ text else text

end Typings.Decimal
