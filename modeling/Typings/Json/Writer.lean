import Typings.Json.Basic
import Typings.Text.Quoted
import Typings.Decimal.Written

/-!
# JSON text

A value is written on one line in printable ASCII: fields in their order, a blank after each comma
and colon, and every other character as an escape, beyond the basic plane as two.
-/

namespace Typings.Json

/-- Written reals are positional from `0.0001` up to sixteen digits before the point. -/
def writtenReal : Decimal.Style :=
  { above := -4, upTo := 16, exponentWidth := 2, infinity := "Infinity", undefined := "NaN" }

/-- One code unit as an escape. -/
def unitEscape (unit : Nat) : List Char :=
  '\\' :: 'u' :: Text.hexDigits 4 unit

/-- A character of a written string. -/
def writeChar (c : Char) : List Char :=
  if c = '"' then ['\\', '"']
  else if c = '\\' then ['\\', '\\']
  else if c = '\n' then ['\\', 'n']
  else if c = '\r' then ['\\', 'r']
  else if c = '\t' then ['\\', 't']
  else if c = '\x08' then ['\\', 'b']
  else if c = '\x0c' then ['\\', 'f']
  else if 0x20 ≤ c.toNat ∧ c.toNat ≤ 0x7e then [c]
  else if c.toNat < 0x10000 then unitEscape c.toNat
  else
    let beyond := c.toNat - 0x10000
    unitEscape (0xd800 + beyond / 0x400) ++ unitEscape (0xdc00 + beyond % 0x400)

/-- A written string with its quotes. -/
def writeString (s : String) : List Char :=
  '"' :: s.toList.flatMap writeChar ++ ['"']

/-- The digits of an integer with a sign if it is negative. -/
def writeInt : Int → List Char
  | .ofNat n => Nat.toDigits 10 n
  | .negSucc n => '-' :: Nat.toDigits 10 (n + 1)

mutual

/-- The characters of a written value. -/
def writeChars : Json → List Char
  | .null => ['n', 'u', 'l', 'l']
  | .bool true => ['t', 'r', 'u', 'e']
  | .bool false => ['f', 'a', 'l', 's', 'e']
  | .int n => writeInt n
  | .real x => (Decimal.writeReal writtenReal x).toList
  | .string s => writeString s
  | .list [] => ['[', ']']
  | .list (v :: rest) => '[' :: v.writeChars ++ writeItems rest
  | .object [] => ['\x7b', '\x7d']
  | .object ((key, v) :: rest) =>
    '\x7b' :: writeString key ++ ':' :: ' ' :: v.writeChars ++ writeFields rest

/-- The items after the first, each after a comma, and the closing bracket. -/
def writeItems : List Json → List Char
  | [] => [']']
  | v :: rest => ',' :: ' ' :: v.writeChars ++ writeItems rest

/-- The fields after the first, each after a comma, and the closing brace. -/
def writeFields : List (String × Json) → List Char
  | [] => ['\x7d']
  | (key, v) :: rest =>
    ',' :: ' ' :: writeString key ++ ':' :: ' ' :: v.writeChars ++ writeFields rest

end

def write (v : Json) : String :=
  String.ofList v.writeChars

end Typings.Json
