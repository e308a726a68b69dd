import Typings.Decimal.Basic
import Typings.Decimal.Digits
import Typings.Json.Basic

/-!
# Reading JSON text

The reader takes a document from the front of a list of characters. Each step returns what is left,
which is shorter than what it was given; reading stops at the first flaw, and the position of the
flaw is told by what is left there. Of fields with one key the last value counts, in the place of
the first. The names of the three reals without digits are read as well. A string with half a
surrogate pair is refused: it has code units that are no characters.
-/

namespace Typings.Json

/-! ## Flaws -/

/-- What is wrong with a text that is no JSON document. -/
inductive Flaw where
  | value
  | propertyName
  | colon
  | comma
  | extra
  | unterminated
  | control
  | escape
  | unicodeEscape
  | byteOrderMark
  /-- An integer has more digits than are read. -/
  | longInteger (digits : Nat)
  /-- A string has one half of a surrogate pair without the other. -/
  | unpairedHalf
  deriving DecidableEq, Repr

def Flaw.message : Flaw → String
  | .value => "Expecting value"
  | .propertyName => "Expecting property name enclosed in double quotes"
  | .colon => "Expecting ':' delimiter"
  | .comma => "Expecting ',' delimiter"
  | .extra => "Extra data"
  | .unterminated => "Unterminated string starting at"
  | .control => "Invalid control character at"
  | .escape => "Invalid \\escape"
  | .unicodeEscape => "Invalid \\uXXXX escape"
  | .byteOrderMark => "Unexpected UTF-8 BOM (decode using utf-8-sig)"
  | .longInteger digits => Decimal.unreadableMessage digits
  | .unpairedHalf => "surrogates not allowed"

/-- A flaw and the characters of the text from there on. -/
structure Stop where
  flaw : Flaw
  rest : List Char
  deriving DecidableEq, Repr

/-- A flaw and its position: line and column count from one, the offset counts the characters
before it. -/
structure ReadError where
  flaw : Flaw
  line : Nat
  column : Nat
  offset : Nat
  deriving DecidableEq, Repr

/-- The flaw with its position. -/
def ReadError.message (e : ReadError) : String :=
  e.flaw.message ++ ": line " ++ e.line.repr ++ " column " ++ e.column.repr
    ++ " (char " ++ e.offset.repr ++ ")"

/-- Finds the position in a text where reading stopped. -/
def Stop.locate (text : List Char) (stop : Stop) : ReadError :=
  let offset := text.length - stop.rest.length
  let before := text.take offset
  { flaw := stop.flaw
    line := before.count '\n' + 1
    column := (before.reverse.takeWhile (· != '\n')).length + 1
    offset := offset }

/-! ## Strings -/

/-- The value of a hexadecimal digit. -/
def hexValue? (c : Char) : Option Nat :=
  if '0' ≤ c ∧ c ≤ '9' then some (c.toNat - '0'.toNat)
  else if 'a' ≤ c ∧ c ≤ 'f' then some (c.toNat - 'a'.toNat + 10)
  else if 'A' ≤ c ∧ c ≤ 'F' then some (c.toNat - 'A'.toNat + 10)
  else none

/-- The code unit written with four hexadecimal digits. -/
def unitValue? (a b c d : Char) : Option Nat := do
  return ((16 * (← hexValue? a) + (← hexValue? b)) * 16 + (← hexValue? c)) * 16 + (← hexValue? d)

/-- The character that a backslash and `c` stand for. -/
def escaped? (c : Char) : Option Char :=
  match c with
  | '"' => some '"'
  | '\\' => some '\\'
  | '/' => some '/'
  | 'b' => some '\x08'
  | 'f' => some '\x0c'
  | 'n' => some '\n'
  | 'r' => some '\r'
  | 't' => some '\t'
  | _ => none

/-- Reads up to the closing quote of the string that opens at `opening`. The result is a list of
code points in which escapes may have left halves of surrogate pairs. An escape of a code unit must
be followed by some character. -/
def readUnits (opening : List Char) : List Char → Except Stop (List Nat × List Char)
  | [] => .error ⟨.unterminated, opening⟩
  | '"' :: rest => .ok ([], rest)
  | '\\' :: [] => .error ⟨.unterminated, opening⟩
  | '\\' :: 'u' :: a :: b :: c :: d :: rest =>
    match rest.isEmpty, unitValue? a b c d with
    | false, some unit => do
      let (units, left) ← readUnits opening rest
      return (unit :: units, left)
    | _, _ => .error ⟨.unicodeEscape, 'u' :: a :: b :: c :: d :: rest⟩
  | '\\' :: 'u' :: rest => .error ⟨.unicodeEscape, 'u' :: rest⟩
  | '\\' :: c :: rest =>
    match escaped? c with
    | some x => do
      let (units, left) ← readUnits opening rest
      return (x.toNat :: units, left)
    | none => .error ⟨.escape, '\\' :: c :: rest⟩
  | c :: rest =>
    if c.toNat < 0x20 then .error ⟨.control, c :: rest⟩
    else do
      let (units, left) ← readUnits opening rest
      return (c.toNat :: units, left)

/-- Whether a code unit is the first half of a surrogate pair. -/
def isHighHalf (unit : Nat) : Bool := 0xd800 ≤ unit && unit < 0xdc00

/-- Whether a code unit is the second half of a surrogate pair. -/
def isLowHalf (unit : Nat) : Bool := 0xdc00 ≤ unit && unit < 0xe000

/-- The character of a code point. Half a pair is none. -/
def charOfUnit? (unit : Nat) : Option Char :=
  if isHighHalf unit || isLowHalf unit then none else some (Char.ofNat unit)

/-- Puts the halves of surrogate pairs together. All of them must be in pairs. -/
def joinHalves? : List Nat → Option (List Char)
  | [] => some []
  | [unit] => do return [← charOfUnit? unit]
  | high :: low :: rest =>
    if isHighHalf high && isLowHalf low then do
      let c := Char.ofNat (0x10000 + (high - 0xd800) * 0x400 + (low - 0xdc00))
      return c :: (← joinHalves? rest)
    else do
      let c ← charOfUnit? high
      return c :: (← joinHalves? (low :: rest))

theorem readUnits_length {opening : List Char} : {s : List Char} → {units : List Nat} →
    {rest : List Char} → readUnits opening s = .ok (units, rest) → rest.length < s.length := by
  intro s
  fun_induction readUnits opening s <;> intro units rest h
  all_goals
    first
    | (simp_all [bind, Except.bind, pure, Except.pure]; done)
    | skip
  all_goals
    simp only [bind, Except.bind, pure, Except.pure] at h
    split at h
    · simp at h
    · rename_i ih _ _ hr
      simp only [Except.ok.injEq, Prod.mk.injEq] at h
      have := ih hr
      rw [← h.2]
      simp only [List.length_cons]
      omega

/-! ## Numbers -/

/-- The decimal digits at the front. -/
def digitsOf (s : List Char) : List Char := s.takeWhile Char.isDigit

/-- What follows the decimal digits at the front. -/
def afterDigits (s : List Char) : List Char := s.dropWhile Char.isDigit

/-- The whole number that digits stand for. -/
def digitsValue (digits : List Char) : Nat :=
  digits.foldl (fun value c => 10 * value + (c.toNat - '0'.toNat)) 0

/-- The digits of the whole part of a number: a single zero, or digits that start with no zero. -/
def wholePart? : List Char → Option (List Char × List Char)
  | '0' :: rest => some (['0'], rest)
  | c :: rest => if c.isDigit then some (c :: digitsOf rest, afterDigits rest) else none
  | [] => none

/-- The digits after a point, if there are a point and a digit. -/
def fractionPart? : List Char → Option (List Char × List Char)
  | '.' :: c :: rest => if c.isDigit then some (c :: digitsOf rest, afterDigits rest) else none
  | _ => none

/-- A written exponent with at least one digit. -/
def exponentPart? : List Char → Option (Int × List Char)
  | e :: rest =>
    if e = 'e' ∨ e = 'E' then
      let (negative, rest) :=
        match rest with
        | '-' :: rest => (true, rest)
        | '+' :: rest => (false, rest)
        | rest => (false, rest)
      match digitsOf rest with
      | [] => none
      | digits =>
        let value : Int := digitsValue digits
        some (if negative then -value else value, afterDigits rest)
    else none
  | [] => none

/-- A number without its sign. It is a real if it has a point or an exponent. -/
def readMagnitude? (negative : Bool) (s : List Char) : Option (Json × List Char) := do
  let (whole, rest) ← wholePart? s
  match fractionPart? rest, exponentPart? rest with
  | none, none =>
    let value : Int := digitsValue whole
    return (.int (if negative then -value else value), rest)
  | none, some (exponent, rest) =>
    return (.real (Decimal.toFloat negative ⟨digitsValue whole, exponent⟩), rest)
  | some (fraction, rest), _ =>
    let digits := digitsValue (whole ++ fraction)
    let (exponent, rest) := (exponentPart? rest).getD (0, rest)
    return (.real (Decimal.toFloat negative ⟨digits, exponent - fraction.length⟩), rest)

/-- A number at the front. -/
def readNumber? : List Char → Option (Json × List Char)
  | '-' :: rest => readMagnitude? true rest
  | rest => readMagnitude? false rest

theorem afterDigits_length (s : List Char) : (afterDigits s).length ≤ s.length :=
  (List.dropWhile_sublist _).length_le

theorem wholePart?_length {s digits rest : List Char} (h : wholePart? s = some (digits, rest)) :
    rest.length < s.length := by
  unfold wholePart? at h
  split at h
  · simp_all
  · rename_i tail _
    split at h
    · simp only [Option.some.injEq, Prod.mk.injEq] at h
      have := afterDigits_length tail
      simp only [← h.2, List.length_cons]
      omega
    · simp at h
  · simp at h

theorem fractionPart?_length {s digits rest : List Char}
    (h : fractionPart? s = some (digits, rest)) : rest.length ≤ s.length := by
  unfold fractionPart? at h
  split at h
  · rename_i tail
    split at h
    · simp only [Option.some.injEq, Prod.mk.injEq] at h
      have := afterDigits_length tail
      simp only [← h.2, List.length_cons]
      omega
    · simp at h
  · simp at h

theorem exponentPart?_length {s rest : List Char} {exponent : Int}
    (h : exponentPart? s = some (exponent, rest)) : rest.length ≤ s.length := by
  unfold exponentPart? at h
  split at h
  · rename_i e tail
    split at h
    · dsimp only at h
      split at h
      · simp at h
      · simp only [Option.some.injEq, Prod.mk.injEq] at h
        rw [← h.2]
        refine Nat.le_trans (afterDigits_length _) ?_
        split <;> simp <;> omega
    · simp at h
  · simp at h

theorem readMagnitude?_length {negative : Bool} {s rest : List Char} {v : Json}
    (h : readMagnitude? negative s = some (v, rest)) : rest.length < s.length := by
  unfold readMagnitude? at h
  simp only [Option.bind_eq_bind, Option.bind_eq_some_iff] at h
  obtain ⟨⟨whole, tail⟩, hw, h⟩ := h
  have hwhole := wholePart?_length hw
  dsimp only at h
  split at h
  · simp_all
  · rename_i exponent left _ he
    have := exponentPart?_length he
    simp only [Option.pure_def, Option.some.injEq, Prod.mk.injEq] at h
    rw [← h.2]
    omega
  · rename_i fraction left hf
    have hfraction := fractionPart?_length hf
    simp only [Option.pure_def, Option.some.injEq, Prod.mk.injEq] at h
    rw [← h.2]
    cases he : exponentPart? left with
    | none => simp only [Option.getD_none]; omega
    | some p =>
      have := exponentPart?_length he
      simp only [Option.getD_some]
      omega

theorem readNumber?_length {s rest : List Char} {v : Json} (h : readNumber? s = some (v, rest)) :
    rest.length < s.length := by
  unfold readNumber? at h
  split at h
  · have := readMagnitude?_length h
    simp only [List.length_cons]
    omega
  · exact readMagnitude?_length h

/-! ## Values -/

def isSpace (c : Char) : Bool :=
  c == ' ' || c == '\t' || c == '\n' || c == '\r'

/-- The text without the space at its front. -/
def skipSpace (s : List Char) : List Char := s.dropWhile isSpace

theorem skipSpace_length (s : List Char) : (skipSpace s).length ≤ s.length :=
  (List.dropWhile_sublist _).length_le

/-- What is left of `s` after a part of the document was read from it. -/
abbrev Rest (s : List Char) := { rest : List Char // rest.length < s.length }

/-- Reads the string whose opening quote is the first of the characters `opening`. -/
def readString (opening s : List Char) : Except Stop (String × Rest s) :=
  match h : readUnits opening s with
  | .error stop => .error stop
  | .ok (units, rest) =>
    match joinHalves? units with
    | some chars => .ok (String.ofList chars, ⟨rest, readUnits_length h⟩)
    | none => .error ⟨.unpairedHalf, opening⟩

/-- The number of digits of an integer that has too many of them. -/
def longInteger? : Json → Option Nat
  | .int n => if Decimal.isTooLong n then some (Decimal.digitCount n.natAbs) else none
  | _ => none

/-- A name with a fixed meaning, or a number, at the front. -/
def readPlain (s : List Char) : Except Stop (Json × Rest s) :=
  match s with
  | 'n' :: 'u' :: 'l' :: 'l' :: rest => .ok (.null, ⟨rest, by simp; omega⟩)
  | 't' :: 'r' :: 'u' :: 'e' :: rest => .ok (.bool true, ⟨rest, by simp; omega⟩)
  | 'f' :: 'a' :: 'l' :: 's' :: 'e' :: rest => .ok (.bool false, ⟨rest, by simp; omega⟩)
  | 'N' :: 'a' :: 'N' :: rest => .ok (.real (0.0 / 0.0), ⟨rest, by simp; omega⟩)
  | 'I' :: 'n' :: 'f' :: 'i' :: 'n' :: 'i' :: 't' :: 'y' :: rest =>
    .ok (.real (1.0 / 0.0), ⟨rest, by simp; omega⟩)
  | '-' :: 'I' :: 'n' :: 'f' :: 'i' :: 'n' :: 'i' :: 't' :: 'y' :: rest =>
    .ok (.real (-1.0 / 0.0), ⟨rest, by simp; omega⟩)
  | s =>
    match h : readNumber? s with
    | some (v, rest) =>
      match longInteger? v with
      | none => .ok (v, ⟨rest, readNumber?_length h⟩)
      | some digits => .error ⟨.longInteger digits, s⟩
    | none => .error ⟨.value, s⟩

mutual

/-- Reads a value at the front. -/
def readValue (s : List Char) : Except Stop (Json × Rest s) :=
  match s with
  | '"' :: tail => do
    let (text, ⟨rest, h⟩) ← readString ('"' :: tail) tail
    return (.string text, ⟨rest, by simp only [List.length_cons]; omega⟩)
  | '[' :: tail =>
    have hs := skipSpace_length tail
    match hm : skipSpace tail with
    | ']' :: rest => .ok (.list [], ⟨rest, by simp only [hm, List.length_cons] at *; omega⟩)
    | _ => do
      let (items, ⟨rest, h⟩) ← readItems (skipSpace tail)
      return (.list items, ⟨rest, by simp only [List.length_cons]; omega⟩)
  | '\x7b' :: tail =>
    have hs := skipSpace_length tail
    match hm : skipSpace tail with
    | '\x7d' :: rest => .ok (.object [], ⟨rest, by simp only [hm, List.length_cons] at *; omega⟩)
    | _ => do
      let (fields, ⟨rest, h⟩) ← readFields [] (skipSpace tail)
      return (.object fields, ⟨rest, by simp only [List.length_cons]; omega⟩)
  | s => readPlain s
termination_by 2 * s.length
decreasing_by all_goals (simp_all only [List.length_cons]; omega)

/-- Reads the items of a list from the first one to the closing bracket. -/
def readItems (s : List Char) : Except Stop (List Json × Rest s) := do
  let (v, ⟨left, h⟩) ← readValue s
  have hl := skipSpace_length left
  match hm : skipSpace left with
  | ']' :: rest => return ([v], ⟨rest, by simp only [hm, List.length_cons] at *; omega⟩)
  | ',' :: tail =>
    have ht := skipSpace_length tail
    let (items, ⟨rest, hr⟩) ← readItems (skipSpace tail)
    return (v :: items, ⟨rest, by simp only [hm, List.length_cons] at *; omega⟩)
  | other => .error ⟨.comma, other⟩
termination_by 2 * s.length + 1
decreasing_by
  · omega
  · simp_all only [List.length_cons]
    omega

/-- Reads the fields of an object from the next one to the closing brace, after the given ones. -/
def readFields (fields : List (String × Json)) (s : List Char) :
    Except Stop (List (String × Json) × Rest s) :=
  match s with
  | '"' :: body => do
    let (key, ⟨afterKey, hk⟩) ← readString ('"' :: body) body
    have hc := skipSpace_length afterKey
    match hm : skipSpace afterKey with
    | ':' :: tail =>
      have ht := skipSpace_length tail
      let (v, ⟨left, h⟩) ← readValue (skipSpace tail)
      have hl := skipSpace_length left
      let fields := setField key v fields
      match hd : skipSpace left with
      | '\x7d' :: rest =>
        return (fields, ⟨rest, by simp only [hm, hd, List.length_cons] at *; omega⟩)
      | ',' :: more =>
        have hmore := skipSpace_length more
        let (fields, ⟨rest, hr⟩) ← readFields fields (skipSpace more)
        return (fields, ⟨rest, by simp only [hm, hd, List.length_cons] at *; omega⟩)
      | other => .error ⟨.comma, other⟩
    | other => .error ⟨.colon, other⟩
  | other => .error ⟨.propertyName, other⟩
termination_by 2 * s.length
decreasing_by all_goals (simp_all only [List.length_cons]; omega)

end

/-! ## Documents -/

/-- Reads a whole document, given by its characters. -/
def readChars (s : List Char) : Except Stop Json :=
  match s with
  | '\ufeff' :: _ => .error ⟨.byteOrderMark, s⟩
  | _ => do
    let (v, ⟨rest, _⟩) ← readValue (skipSpace s)
    match skipSpace rest with
    | [] => return v
    | other => .error ⟨.extra, other⟩

/-- Reads a whole document. -/
def read (text : String) : Except ReadError Json :=
  (readChars text.toList).mapError (Stop.locate text.toList)

end Typings.Json
