import Typings.Json.Writer
import Typings.Proofs.Json.Reading
import Typings.Proofs.Text.Utf8

/-!
# Written strings and integers

A written string or integer is read again, whatever text follows it. A character beyond the basic
plane is written as two code units that are put together again. What follows an integer must not
continue it.
-/

namespace Typings.Json

/-! ## Hexadecimal digits -/

theorem hexValue?_digitChar : ∀ d < 16, hexValue? (Nat.digitChar d) = some d := by
  decide

theorem hexDigits_eq {n : Nat} (h : n < 0x10000) :
    Text.hexDigits 4 n = [(n / 0x1000).digitChar, (n / 0x100 % 16).digitChar,
      (n / 0x10 % 16).digitChar, (n % 16).digitChar] := by
  have hz : Nat.digitChar 0 = '0' := rfl
  have hb : 1 < 16 := by omega
  rw [Text.hexDigits]
  by_cases h1 : n < 0x10
  · rw [Nat.toDigits_of_lt_base h1, show n / 0x1000 = 0 by omega,
      show n / 0x100 % 16 = 0 by omega, show n / 0x10 % 16 = 0 by omega, show n % 16 = n by omega]
    rfl
  by_cases h2 : n < 0x100
  · rw [Nat.toDigits_of_base_le hb (by omega), Nat.toDigits_of_lt_base (by omega),
      show n / 0x1000 = 0 by omega, show n / 0x100 % 16 = 0 by omega,
      show n / 0x10 % 16 = n / 16 by omega]
    rfl
  by_cases h3 : n < 0x1000
  · rw [Nat.toDigits_of_base_le hb (by omega), Nat.toDigits_of_base_le hb (by omega),
      Nat.toDigits_of_lt_base (by omega), show n / 0x1000 = 0 by omega,
      show n / 0x100 % 16 = n / 16 / 16 by omega]
    rfl
  · rw [Nat.toDigits_of_base_le hb (by omega), Nat.toDigits_of_base_le hb (by omega),
      Nat.toDigits_of_base_le hb (by omega), Nat.toDigits_of_lt_base (by omega),
      show n / 0x1000 = n / 16 / 16 / 16 by omega, show n / 0x100 % 16 = n / 16 / 16 % 16 by omega]
    rfl

theorem unitValue?_hexDigits {n : Nat} (h : n < 0x10000) :
    unitValue? (n / 0x1000).digitChar (n / 0x100 % 16).digitChar (n / 0x10 % 16).digitChar
      (n % 16).digitChar = some n := by
  rw [unitValue?, hexValue?_digitChar _ (by omega), hexValue?_digitChar _ (by omega),
    hexValue?_digitChar _ (by omega), hexValue?_digitChar _ (by omega)]
  change some _ = some n
  congr 1
  omega

/-! ## Strings -/

/-- The code units of a character. -/
def unitsOf (c : Char) : List Nat :=
  if c.toNat < 0x10000 then [c.toNat]
  else [0xd800 + (c.toNat - 0x10000) / 0x400, 0xdc00 + (c.toNat - 0x10000) % 0x400]

/-- The units of a string that goes on after some of them have been read. -/
def prepend (units : List Nat) (r : Except Stop (List Nat × List Char)) :
    Except Stop (List Nat × List Char) :=
  r.map fun (more, left) => (units ++ more, left)

variable {opening rest : List Char}

theorem readUnits_unitEscape {n : Nat} (h : n < 0x10000) (hr : rest ≠ []) :
    readUnits opening (unitEscape n ++ rest) = prepend [n] (readUnits opening rest) := by
  have he : rest.isEmpty = false := by simpa using hr
  rw [unitEscape, hexDigits_eq h]
  simp only [List.cons_append, List.nil_append, readUnits, he, unitValue?_hexDigits h]
  cases readUnits opening rest <;> rfl

theorem readUnits_escaped {c x : Char} (hu : c ≠ 'u') (h : escaped? c = some x) :
    readUnits opening ('\\' :: c :: rest) = prepend [x.toNat] (readUnits opening rest) := by
  rw [readUnits]
  · rw [h]
    cases readUnits opening rest <;> rfl
  · intros
    contradiction
  · intros
    contradiction

theorem readUnits_plain {c : Char} (hq : c ≠ '"') (hb : c ≠ '\\') (h : 0x20 ≤ c.toNat) :
    readUnits opening (c :: rest) = prepend [c.toNat] (readUnits opening rest) := by
  rw [readUnits]
  · rw [if_neg (by omega)]
    cases readUnits opening rest <;> rfl
  all_goals
    intros
    contradiction

theorem prepend_nil (r : Except Stop (List Nat × List Char)) : prepend [] r = r := by
  cases r <;> rfl

theorem prepend_prepend (us vs : List Nat) (r : Except Stop (List Nat × List Char)) :
    prepend us (prepend vs r) = prepend (us ++ vs) r := by
  cases r with
  | error stop => rfl
  | ok p => simp [prepend, Except.map]

theorem unitsOf_lt (c : Char) : ∀ unit ∈ unitsOf c, unit < 0x10000 := by
  have hc := Text.char_not_surrogate c
  rw [unitsOf]
  split
  · simpa
  · simp only [List.mem_cons, List.not_mem_nil, or_false]
    omega

theorem unitsOf_of_lt {c : Char} (h : c.toNat < 0x10000) : unitsOf c = [c.toNat] :=
  if_pos h

/-- Whether a character is a blank or a visible character of ASCII. -/
def isPlainAscii (c : Char) : Bool :=
  0x20 ≤ c.toNat && c.toNat ≤ 0x7e

/-- The ways in which a character is written: after a backslash, as it is, or by its units. -/
theorem writeChar_cases (c : Char) :
    (∃ e, writeChar c = ['\\', e] ∧ e ≠ 'u' ∧ escaped? e = some c ∧ isPlainAscii e = true ∧
      c.toNat < 0x10000) ∨
    (writeChar c = [c] ∧ c ≠ '"' ∧ c ≠ '\\' ∧ isPlainAscii c = true) ∨
    writeChar c = (unitsOf c).flatMap unitEscape := by
  by_cases hq : c = '"'
  · subst hq
    exact .inl ⟨_, rfl, by decide, rfl, by decide, by decide⟩
  by_cases hb : c = '\\'
  · subst hb
    exact .inl ⟨_, rfl, by decide, rfl, by decide, by decide⟩
  by_cases hn : c = '\n'
  · subst hn
    exact .inl ⟨_, rfl, by decide, rfl, by decide, by decide⟩
  by_cases hr : c = '\r'
  · subst hr
    exact .inl ⟨_, rfl, by decide, rfl, by decide, by decide⟩
  by_cases ht : c = '\t'
  · subst ht
    exact .inl ⟨_, rfl, by decide, rfl, by decide, by decide⟩
  by_cases h8 : c = '\x08'
  · subst h8
    exact .inl ⟨_, rfl, by decide, rfl, by decide, by decide⟩
  by_cases hf : c = '\x0c'
  · subst hf
    exact .inl ⟨_, rfl, by decide, rfl, by decide, by decide⟩
  right
  rw [writeChar, if_neg hq, if_neg hb, if_neg hn, if_neg hr, if_neg ht, if_neg h8, if_neg hf]
  by_cases hp : 0x20 ≤ c.toNat ∧ c.toNat ≤ 0x7e
  · rw [if_pos hp]
    exact .inl ⟨rfl, hq, hb, by simpa [isPlainAscii] using hp⟩
  right
  rw [if_neg hp, unitsOf]
  split
  · simp
  · simp

theorem readUnits_units {units : List Nat} (h : ∀ unit ∈ units, unit < 0x10000) (hr : rest ≠ []) :
    readUnits opening (units.flatMap unitEscape ++ rest) =
      prepend units (readUnits opening rest) := by
  induction units with
  | nil => exact (prepend_nil _).symm
  | cons unit units ih =>
    have hne : units.flatMap unitEscape ++ rest ≠ [] := List.append_ne_nil_of_right_ne_nil _ hr
    rw [List.flatMap_cons, List.append_assoc, readUnits_unitEscape (h unit List.mem_cons_self) hne,
      ih fun u hu => h u (List.mem_cons_of_mem _ hu), prepend_prepend, List.singleton_append]

theorem readUnits_writeChar (c : Char) (hr : rest ≠ []) :
    readUnits opening (writeChar c ++ rest) = prepend (unitsOf c) (readUnits opening rest) := by
  rcases writeChar_cases c with ⟨e, h, hu, he, -, hc⟩ | ⟨h, hq, hb, hc⟩ | h
  · rw [h, unitsOf_of_lt hc]
    exact readUnits_escaped hu he
  · simp only [isPlainAscii, Bool.and_eq_true, decide_eq_true_eq] at hc
    rw [h, unitsOf_of_lt (by omega)]
    exact readUnits_plain hq hb hc.1
  · rw [h]
    exact readUnits_units (unitsOf_lt c) hr

theorem readUnits_written (opening s rest : List Char) :
    readUnits opening (s.flatMap writeChar ++ '"' :: rest) = .ok (s.flatMap unitsOf, rest) := by
  induction s with
  | nil => simp [readUnits]
  | cons c s ih =>
    rw [List.flatMap_cons, List.append_assoc, readUnits_writeChar c (by simp), ih]
    rfl

theorem isHighHalf_char (c : Char) : isHighHalf c.toNat = false := by
  have hc := Text.char_not_surrogate c
  simp only [isHighHalf, Bool.and_eq_false_iff, decide_eq_false_iff_not]
  omega

theorem isLowHalf_char (c : Char) : isLowHalf c.toNat = false := by
  have hc := Text.char_not_surrogate c
  simp only [isLowHalf, Bool.and_eq_false_iff, decide_eq_false_iff_not]
  omega

theorem joinHalves?_char (c : Char) (units : List Nat) :
    joinHalves? (c.toNat :: units) = (joinHalves? units).map (c :: ·) := by
  have hc : charOfUnit? c.toNat = some c := by
    simp [charOfUnit?, isHighHalf_char, isLowHalf_char]
  cases units with
  | nil => simp [joinHalves?, hc]
  | cons u units =>
      rw [joinHalves?, isHighHalf_char, hc, Bool.false_and, if_neg Bool.false_ne_true]
      cases joinHalves? (u :: units) <;> rfl

/-- A pair of halves becomes one character again, and no character is itself half a pair. -/
theorem joinHalves?_unitsOf (c : Char) (units : List Nat) :
    joinHalves? (unitsOf c ++ units) = (joinHalves? units).map (c :: ·) := by
  by_cases h : c.toNat < 0x10000
  · rw [unitsOf_of_lt h]
    exact joinHalves?_char c units
  · have hc := Text.char_not_surrogate c
    have hhigh : isHighHalf (0xd800 + (c.toNat - 0x10000) / 0x400) = true := by
      simp only [isHighHalf, Bool.and_eq_true, decide_eq_true_eq]
      omega
    have hlow : isLowHalf (0xdc00 + (c.toNat - 0x10000) % 0x400) = true := by
      simp only [isLowHalf, Bool.and_eq_true, decide_eq_true_eq]
      omega
    have hsum : 0x10000 + (0xd800 + (c.toNat - 0x10000) / 0x400 - 0xd800) * 0x400
        + (0xdc00 + (c.toNat - 0x10000) % 0x400 - 0xdc00) = c.toNat := by omega
    rw [unitsOf, if_neg h]
    change joinHalves? (_ :: _ :: units) = _
    rw [joinHalves?, hhigh, hlow, hsum, Char.ofNat_toNat, Bool.and_self, if_pos rfl]
    cases joinHalves? units <;> rfl

theorem joinHalves?_flatMap (s : List Char) : joinHalves? (s.flatMap unitsOf) = some s := by
  induction s with
  | nil => rfl
  | cons c s ih => rw [List.flatMap_cons, joinHalves?_unitsOf, ih, Option.map_some]

theorem readString_written (opening rest : List Char) (s : String) :
    left (readString opening (s.toList.flatMap writeChar ++ '"' :: rest)) = .ok (s, rest) := by
  have hu := readUnits_written opening s.toList rest
  rw [readString]
  split
  · rename_i hs
    rw [hu] at hs
    cases hs
  · rename_i hs
    rw [hu] at hs
    cases hs
    simp only [joinHalves?_flatMap, String.ofList_toList, left_ok]

/-! ## Integers -/

/-- Whether nothing of a number goes on here. -/
def endsNumber : List Char → Bool
  | [] => true
  | c :: _ => !(c.isDigit || c == '.' || c == 'e' || c == 'E')

theorem digitsOf_append {digits : List Char} (hd : ∀ c ∈ digits, c.isDigit = true)
    (hr : endsNumber rest = true) :
    digitsOf (digits ++ rest) = digits ∧ afterDigits (digits ++ rest) = rest := by
  rw [digitsOf, afterDigits, List.takeWhile_append_of_pos hd, List.dropWhile_append_of_pos hd]
  cases rest with
  | nil => simp
  | cons c rest =>
    simp only [endsNumber, Bool.not_eq_true', Bool.or_eq_false_iff] at hr
    simp [hr.1.1.1]

theorem fractionPart?_of_endsNumber (hr : endsNumber rest = true) : fractionPart? rest = none := by
  unfold fractionPart?
  split
  · simp [endsNumber] at hr
  · rfl

theorem exponentPart?_of_endsNumber (hr : endsNumber rest = true) : exponentPart? rest = none := by
  cases rest with
  | nil => rfl
  | cons c rest =>
    simp only [endsNumber, Bool.not_eq_true', Bool.or_eq_false_iff, beq_eq_false_iff_ne] at hr
    exact if_neg (by simp [hr.1.2, hr.2])

/-- The digits of a number start with a zero only if it is zero. -/
theorem toDigits_head (n : Nat) :
    n = 0 ∨ ∃ d digits, Nat.toDigits 10 n = d :: digits ∧ d ≠ '0' := by
  induction n using Nat.strongRecOn with
  | ind n ih =>
    by_cases hn : n < 10
    · have hd : ∀ d < 10, d = 0 ∨ Nat.digitChar d ≠ '0' := by decide
      rw [Nat.toDigits_of_lt_base hn]
      rcases hd n hn with h | h
      · exact .inl h
      · exact .inr ⟨_, _, rfl, h⟩
    · rw [Nat.toDigits_of_base_le (by omega) (by omega)]
      rcases ih (n / 10) (by omega) with h | ⟨d, digits, h, hd⟩
      · omega
      · exact .inr ⟨d, _, by rw [h, List.cons_append], hd⟩

theorem wholePart?_toDigits (n : Nat) (hr : endsNumber rest = true) :
    wholePart? (Nat.toDigits 10 n ++ rest) = some (Nat.toDigits 10 n, rest) := by
  rcases toDigits_head n with h | ⟨d, digits, h, hd⟩
  · subst h
    rfl
  · have hall : ∀ c ∈ d :: digits, c.isDigit = true := by
      rw [← h]
      exact fun c hc => Nat.isDigit_of_mem_toDigits (by omega) (by omega) hc
    have hsplit := digitsOf_append (fun c hc => hall c (List.mem_cons_of_mem _ hc)) hr
    rw [h, List.cons_append, wholePart?]
    · rw [if_pos (hall d List.mem_cons_self), hsplit.1, hsplit.2]
    · exact hd

theorem digitsValue_toDigits (n : Nat) : digitsValue (Nat.toDigits 10 n) = n :=
  Nat.ofDigitChars_toDigits (by omega) (by omega)

theorem readMagnitude?_toDigits (negative : Bool) (n : Nat) (hr : endsNumber rest = true) :
    readMagnitude? negative (Nat.toDigits 10 n ++ rest) =
      some (.int (if negative then -(n : Int) else n), rest) := by
  rw [readMagnitude?, wholePart?_toDigits n hr]
  simp [fractionPart?_of_endsNumber hr, exponentPart?_of_endsNumber hr, digitsValue_toDigits]

theorem toDigits_append_ne (n : Nat) {c : Char} (hc : c.isDigit = false) (s : List Char) :
    Nat.toDigits 10 n ++ rest ≠ c :: s := by
  cases h : Nat.toDigits 10 n with
  | nil => exact absurd h Nat.toDigits_ne_nil
  | cons d digits =>
    intro he
    have hd : d.isDigit = true := Nat.isDigit_of_mem_toDigits (by omega) (by omega)
      (h ▸ List.mem_cons_self)
    rw [(List.cons.inj he).1, hc] at hd
    cases hd

theorem readNumber?_writeInt (n : Int) (hr : endsNumber rest = true) :
    readNumber? (writeInt n ++ rest) = some (.int n, rest) := by
  cases n with
  | ofNat n =>
    rw [writeInt, readNumber?]
    · rw [readMagnitude?_toDigits false n hr]
      rfl
    · intro s
      exact toDigits_append_ne n (by decide) s
  | negSucc n =>
    rw [writeInt, List.cons_append, readNumber?, readMagnitude?_toDigits true (n + 1) hr]
    rfl

theorem readPlain_number {s : List Char} {v : Json} (h : readNumber? s = some (v, rest))
    (hv : longInteger? v = none) : left (readPlain s) = .ok (v, rest) := by
  rcases left_readPlain s with hp | ⟨hn, -⟩
  · simp [hp, numberAt, h, hv]
  · rw [h] at hn
    cases hn

theorem longInteger?_eq_none {n : Int} (h : Decimal.isTooLong n = false) :
    longInteger? (.int n) = none := by
  simp [longInteger?, h]

end Typings.Json
