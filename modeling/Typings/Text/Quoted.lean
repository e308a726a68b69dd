import Typings.Text.Printable

/-!
# Quoted text

Text inside another text stands between quotes: single ones, or double ones when the text holds a
single quote and no double quote. The quote, the backslash, and what can not be shown are escaped.
-/

namespace Typings.Text

/-- The hexadecimal digits of a number, at least `width` of them. -/
def hexDigits (width n : Nat) : List Char :=
  let digits := Nat.toDigits 16 n
  List.replicate (width - digits.length) '0' ++ digits

/-- A code point as an escape of the least width: two, four or eight digits. -/
def codeEscape (code : Nat) : List Char :=
  if code ≤ 0xff then '\\' :: 'x' :: hexDigits 2 code
  else if code ≤ 0xffff then '\\' :: 'u' :: hexDigits 4 code
  else '\\' :: 'U' :: hexDigits 8 code

/-- A character between quotes of the given kind. -/
def quoteChar (quote c : Char) : List Char :=
  if c = quote ∨ c = '\\' then ['\\', c]
  else if c = '\t' then ['\\', 't']
  else if c = '\n' then ['\\', 'n']
  else if c = '\r' then ['\\', 'r']
  else if isPrintable c then [c]
  else codeEscape c.toNat

/-- The quote to put around a text. -/
def quoteFor (cs : List Char) : Char :=
  if cs.contains '\'' && !cs.contains '"' then '"' else '\''

/-- A text between quotes. -/
def quoted (text : String) : String :=
  let cs := text.toList
  let quote := quoteFor cs
  String.ofList (quote :: cs.flatMap (quoteChar quote) ++ [quote])

end Typings.Text
