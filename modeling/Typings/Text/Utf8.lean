import Typings.Text.Quoted

/-!
# UTF-8

Bytes are decoded strictly: no overlong forms, no surrogates, nothing beyond the last code point.
What is wrong is told with the bytes concerned: the longest beginning of a sequence that could have
gone on, or the single byte that can not start one.
-/

namespace Typings.Text

/-- A sequence of which some bytes have been read. -/
structure Pending where
  /-- The offset of its first byte. -/
  start : Nat
  /-- Its first byte. -/
  lead : UInt8
  /-- The code point as far as it is known. -/
  code : Nat
  /-- The number of bytes to come, less one. -/
  more : Nat
  /-- The least value of the next byte. -/
  least : Nat
  /-- The greatest value of the next byte. -/
  greatest : Nat
  deriving Repr

/-- Why bytes are not UTF-8. -/
inductive Utf8Flaw where
  | startByte
  | continuationByte
  | endOfData
  deriving DecidableEq, Repr

def Utf8Flaw.message : Utf8Flaw → String
  | .startByte => "invalid start byte"
  | .continuationByte => "invalid continuation byte"
  | .endOfData => "unexpected end of data"

/-- Bytes that are not UTF-8: `count` of them from the offset `start` on, the first being `lead`. -/
structure Utf8Error where
  flaw : Utf8Flaw
  start : Nat
  count : Nat
  lead : UInt8
  deriving DecidableEq, Repr

/-- The flaw with the bytes concerned. -/
def Utf8Error.message (e : Utf8Error) : String :=
  let bytes :=
    if e.count = 1 then
      "byte 0x" ++ String.ofList (hexDigits 2 e.lead.toNat) ++ " in position " ++ e.start.repr
    else "bytes in position " ++ e.start.repr ++ "-" ++ (e.start + e.count - 1).repr
  "'utf-8' codec can't decode " ++ bytes ++ ": " ++ e.flaw.message

/-- The sequence that a byte of at least `0x80` starts. -/
def startSequence? (start : Nat) (lead : UInt8) : Option Pending :=
  let b := lead.toNat
  if b < 0xc2 then none
  else if b < 0xe0 then some ⟨start, lead, b - 0xc0, 0, 0x80, 0xbf⟩
  else if b = 0xe0 then some ⟨start, lead, 0, 1, 0xa0, 0xbf⟩
  else if b = 0xed then some ⟨start, lead, 0xd, 1, 0x80, 0x9f⟩
  else if b < 0xf0 then some ⟨start, lead, b - 0xe0, 1, 0x80, 0xbf⟩
  else if b = 0xf0 then some ⟨start, lead, 0, 2, 0x90, 0xbf⟩
  else if b < 0xf4 then some ⟨start, lead, b - 0xf0, 2, 0x80, 0xbf⟩
  else if b = 0xf4 then some ⟨start, lead, 4, 2, 0x80, 0x8f⟩
  else none

/-- Decodes the bytes from an offset on, possibly in the middle of a sequence. -/
def decodeFrom (offset : Nat) : Option Pending → List UInt8 → Except Utf8Error (List Char)
  | none, [] => .ok []
  | some p, [] => .error ⟨.endOfData, p.start, offset - p.start, p.lead⟩
  | none, b :: rest =>
    if b.toNat < 0x80 then do
      let more ← decodeFrom (offset + 1) none rest
      return Char.ofNat b.toNat :: more
    else
      match startSequence? offset b with
      | some p => decodeFrom (offset + 1) (some p) rest
      | none => .error ⟨.startByte, offset, 1, b⟩
  | some p, b :: rest =>
    if p.least ≤ b.toNat ∧ b.toNat ≤ p.greatest then
      let code := 64 * p.code + (b.toNat - 0x80)
      match p.more with
      | 0 => do
        let more ← decodeFrom (offset + 1) none rest
        return Char.ofNat code :: more
      | more + 1 =>
        decodeFrom (offset + 1) (some ⟨p.start, p.lead, code, more, 0x80, 0xbf⟩) rest
    else .error ⟨.continuationByte, p.start, offset - p.start, p.lead⟩

def decodeUtf8 (bytes : List UInt8) : Except Utf8Error String :=
  (decodeFrom 0 none bytes).map String.ofList

/-- The bytes of a text. -/
def encodeUtf8 (text : String) : List UInt8 :=
  text.toUTF8.toList

end Typings.Text
