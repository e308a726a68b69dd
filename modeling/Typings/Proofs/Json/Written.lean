import Typings.Proofs.Json.Reading
import Typings.Proofs.Json.Scalars

/-!
# Written values are read again

What is written is printable ASCII on one line, and it is read as the value it was written for. The
value must be readable, and it must have no reals: the digits of a real need not tell all of it.
-/

namespace Typings.Json

/-! ## Values without reals -/

mutual

/-- Whether there is no real in a value. -/
def hasNoReal : Json → Bool
  | .real _ => false
  | .list items => haveNoReal items
  | .object fields => fieldsHaveNoReal fields
  | _ => true

def haveNoReal : List Json → Bool
  | [] => true
  | v :: rest => v.hasNoReal && haveNoReal rest

def fieldsHaveNoReal : List (String × Json) → Bool
  | [] => true
  | (_, v) :: rest => v.hasNoReal && fieldsHaveNoReal rest

end

/-! ## The first character -/

theorem skipSpace_cons {c : Char} (h : isSpace c = false) (s : List Char) :
    skipSpace (c :: s) = c :: s := by
  simp [skipSpace, h]

/-- What the first character of a written value is not: a space, a closing bracket, or the mark at
the front of a text. -/
structure StartsValue (c : Char) : Prop where
  isSpace : isSpace c = false
  ne_bracket : c ≠ ']'
  ne_mark : c ≠ '\ufeff'

theorem startsValue_of_isDigit {c : Char} (h : c.isDigit = true) : StartsValue c where
  isSpace := by
    cases hs : isSpace c with
    | false => rfl
    | true =>
      simp only [isSpace, Bool.or_eq_true, beq_iff_eq] at hs
      rcases hs with ((rfl | rfl) | rfl) | rfl <;> cases h
  ne_bracket := by
    rintro rfl
    cases h
  ne_mark := by
    rintro rfl
    cases h

theorem writeInt_cons (n : Int) :
    ∃ c s, writeInt n = c :: s ∧ (c.isDigit = true ∨ c = '-') := by
  cases n with
  | ofNat n =>
    cases h : Nat.toDigits 10 n with
    | nil => exact absurd h Nat.toDigits_ne_nil
    | cons c s =>
      have hm : c ∈ Nat.toDigits 10 _ := h ▸ List.mem_cons_self
      exact ⟨c, s, h, .inl (Nat.isDigit_of_mem_toDigits (by omega) (by omega) hm)⟩
  | negSucc n => exact ⟨'-', _, rfl, .inr rfl⟩

theorem writeChars_cons {v : Json} (hr : v.hasNoReal = true) :
    ∃ c s, v.writeChars = c :: s ∧ StartsValue c := by
  cases v with
  | null => exact ⟨_, _, rfl, by decide, by decide, by decide⟩
  | bool b => cases b <;> exact ⟨_, _, rfl, by decide, by decide, by decide⟩
  | int n =>
    obtain ⟨c, s, h, hc⟩ := writeInt_cons n
    refine ⟨c, s, h, ?_⟩
    rcases hc with hc | rfl
    · exact startsValue_of_isDigit hc
    · exact ⟨by decide, by decide, by decide⟩
  | real x => cases hr
  | string s => exact ⟨_, _, rfl, by decide, by decide, by decide⟩
  | list items => cases items <;> exact ⟨_, _, rfl, by decide, by decide, by decide⟩
  | object fields => cases fields <;> exact ⟨_, _, rfl, by decide, by decide, by decide⟩

theorem skipSpace_writeChars {v : Json} (hr : v.hasNoReal = true) (s : List Char) :
    skipSpace (v.writeChars ++ s) = v.writeChars ++ s := by
  obtain ⟨c, t, h, hc⟩ := writeChars_cons hr
  rw [h, List.cons_append, skipSpace_cons hc.isSpace]

/-! ## Steps over written text -/

variable {rest : List Char} {v : Json} {s : List Char}

theorem readItems_last (h : left (readValue s) = .ok (v, ']' :: rest)) :
    left (readItems s) = .ok ([v], rest) := by
  rw [left_readItems, h]
  rfl

theorem readItems_more {tail : List Char} {items : List Json}
    (h : left (readValue s) = .ok (v, ',' :: ' ' :: tail)) (hs : skipSpace tail = tail)
    (hi : left (readItems tail) = .ok (items, rest)) :
    left (readItems s) = .ok (v :: items, rest) := by
  rw [left_readItems, h]
  change (left (readItems (skipSpace tail)) >>= fun p => pure (v :: p.1, p.2)) = _
  rw [hs, hi]
  rfl

theorem readValue_items {c : Char} {tail : List Char} {items : List Json} (hc : StartsValue c)
    (hi : left (readItems (c :: tail)) = .ok (items, rest)) :
    left (readValue ('[' :: c :: tail)) = .ok (.list items, rest) := by
  rw [left_readValue_list, skipSpace_cons hc.isSpace]
  split
  · rename_i h
    exact absurd (List.cons.inj h).1 hc.ne_bracket
  · rw [hi]
    rfl

/-- The text of a field whose value is read from `s`. -/
theorem readFields_key (fields : List (String × Json)) (key : String) (hs : skipSpace s = s) :
    left (readFields fields (writeString key ++ ':' :: ' ' :: s)) = (do
      let (v, rest) ← left (readValue s)
      match skipSpace rest with
      | '\x7d' :: rest => return (setField key v fields, rest)
      | ',' :: more => left (readFields (setField key v fields) (skipSpace more))
      | other => .error ⟨.comma, other⟩) := by
  rw [writeString, List.append_assoc, List.cons_append, List.singleton_append, left_readFields,
    readString_written]
  change (left (readValue (skipSpace s)) >>= _) = _
  exact hs.symm ▸ rfl

theorem skipSpace_writeString (key : String) (s : List Char) :
    skipSpace (writeString key ++ s) = writeString key ++ s :=
  skipSpace_cons (by decide) _

theorem readValue_fields {fields : List (String × Json)} {key : String}
    (h : left (readFields [] (writeString key ++ s)) = .ok (fields, rest)) :
    left (readValue ('\x7b' :: (writeString key ++ s))) = .ok (.object fields, rest) := by
  rw [left_readValue_object, skipSpace_writeString, h]
  rfl

theorem readFields_last {fields : List (String × Json)} {key : String} (hs : skipSpace s = s)
    (h : left (readValue s) = .ok (v, '\x7d' :: rest)) :
    left (readFields fields (writeString key ++ ':' :: ' ' :: s)) =
      .ok (setField key v fields, rest) := by
  rw [readFields_key fields key hs, h]
  rfl

theorem readFields_more {fields : List (String × Json)} {key : String} {tail : List Char}
    (hs : skipSpace s = s)
    (h : left (readValue s) = .ok (v, ',' :: ' ' :: tail)) (ht : skipSpace tail = tail) :
    left (readFields fields (writeString key ++ ':' :: ' ' :: s)) =
      left (readFields (setField key v fields) tail) := by
  rw [readFields_key fields key hs, h]
  change left (readFields _ (skipSpace tail)) = _
  rw [ht]

theorem readValue_writeInt {n : Int} (hn : Decimal.isTooLong n = false)
    (he : endsNumber rest = true) :
    left (readValue (writeInt n ++ rest)) = .ok (.int n, rest) := by
  have hp := readPlain_number (readNumber?_writeInt n he) (longInteger?_eq_none hn)
  obtain ⟨c, s, h, hc⟩ := writeInt_cons n
  have hne : c ≠ '"' ∧ c ≠ '[' ∧ c ≠ '\x7b' := by
    rcases hc with hc | rfl
    · refine ⟨?_, ?_, ?_⟩ <;> (rintro rfl; cases hc)
    · decide
  rw [h] at hp ⊢
  rw [List.cons_append] at hp ⊢
  rw [readValue_plain hne.1 hne.2.1 hne.2.2]
  exact hp

theorem readValue_writeString (s : String) :
    left (readValue (writeString s ++ rest)) = .ok (.string s, rest) := by
  rw [writeString, List.append_assoc, List.cons_append, List.singleton_append,
    left_readValue_string, readString_written]
  rfl

/-! ## Round trip -/

theorem endsNumber_writeItems (items : List Json) (s : List Char) :
    endsNumber (writeItems items ++ s) = true := by
  cases items <;> rfl

theorem endsNumber_writeFields (fields : List (String × Json)) (s : List Char) :
    endsNumber (writeFields fields ++ s) = true := by
  cases fields <;> rfl

mutual

theorem readValue_written (v : Json) (hv : v.isReadable = true) (hr : v.hasNoReal = true)
    (rest : List Char) (he : endsNumber rest = true) :
    left (readValue (v.writeChars ++ rest)) = .ok (v, rest) := by
  cases v with
  | null => exact congrArg left (readValue_plain (by decide) (by decide) (by decide))
  | bool b =>
    cases b
    · exact congrArg left (readValue_plain (by decide) (by decide) (by decide))
    · exact congrArg left (readValue_plain (by decide) (by decide) (by decide))
  | int n => exact readValue_writeInt (by simpa [isReadable] using hv) he
  | real x => cases hr
  | string s => exact readValue_writeString s
  | list items =>
    cases items with
    | nil =>
      change left (readValue ('[' :: ']' :: rest)) = _
      rw [left_readValue_list]
      rfl
    | cons v items =>
      simp only [isReadable, areReadable, hasNoReal, haveNoReal, Bool.and_eq_true] at hv hr
      have hfirst := readValue_written v hv.1 hr.1 _ (endsNumber_writeItems items rest)
      have hitems := readItems_written items hv.2 hr.2 v _ rest hfirst
      obtain ⟨c, s, h, hc⟩ := writeChars_cons hr.1
      rw [writeChars, List.append_assoc, List.cons_append]
      rw [h] at hitems ⊢
      exact readValue_items hc hitems
  | object fields =>
    cases fields with
    | nil =>
      change left (readValue ('\x7b' :: '\x7d' :: rest)) = _
      rw [left_readValue_object]
      rfl
    | cons field fields =>
      obtain ⟨key, v⟩ := field
      simp only [isReadable, fieldsAreReadable, hasNoReal, fieldsHaveNoReal, Bool.and_eq_true,
        decide_eq_true_eq] at hv hr
      have hfirst := readValue_written v hv.2.1 hr.1 _ (endsNumber_writeFields fields rest)
      have hfields := readFields_written fields hv.2.2 hr.2 [] key v _ rest
        (skipSpace_writeChars hr.1 _) hfirst hv.1
      have htext : (Json.object ((key, v) :: fields)).writeChars ++ rest =
          '\x7b' :: (writeString key ++
            ':' :: ' ' :: (v.writeChars ++ (writeFields fields ++ rest))) := by
        simp [writeChars]
      rw [htext]
      exact readValue_fields hfields

theorem readItems_written (items : List Json) (hi : areReadable items = true)
    (hr : haveNoReal items = true) (v : Json) (s rest : List Char)
    (h : left (readValue s) = .ok (v, writeItems items ++ rest)) :
    left (readItems s) = .ok (v :: items, rest) := by
  cases items with
  | nil => exact readItems_last h
  | cons w items =>
    simp only [areReadable, haveNoReal, Bool.and_eq_true] at hi hr
    have hw := readValue_written w hi.1 hr.1 _ (endsNumber_writeItems items rest)
    rw [writeItems, List.append_assoc, List.cons_append, List.cons_append] at h
    exact readItems_more h (skipSpace_writeChars hr.1 _)
      (readItems_written items hi.2 hr.2 w _ rest hw)

theorem readFields_written (fields : List (String × Json)) (hf : fieldsAreReadable fields = true)
    (hr : fieldsHaveNoReal fields = true) (before : List (String × Json)) (key : String) (v : Json)
    (s rest : List Char) (hs : skipSpace s = s)
    (h : left (readValue s) = .ok (v, writeFields fields ++ rest))
    (hd : ((before ++ (key, v) :: fields).map Prod.fst).Nodup) :
    left (readFields before (writeString key ++ ':' :: ' ' :: s)) =
      .ok (before ++ (key, v) :: fields, rest) := by
  have hk : setField key v before = before ++ [(key, v)] := by
    apply setField_of_notMem
    intro hm
    rw [List.map_append, List.map_cons, List.nodup_append] at hd
    exact hd.2.2 key hm key List.mem_cons_self rfl
  cases fields with
  | nil =>
    rw [← hk]
    exact readFields_last hs h
  | cons field fields =>
    obtain ⟨next, w⟩ := field
    simp only [fieldsAreReadable, fieldsHaveNoReal, Bool.and_eq_true] at hf hr
    have hw := readValue_written w hf.1 hr.1 _ (endsNumber_writeFields fields rest)
    have hm := readFields_written fields hf.2 hr.2 (before ++ [(key, v)]) next w _ rest
      (skipSpace_writeChars hr.1 _) hw (by simpa using hd)
    simp only [writeFields, List.append_assoc, List.cons_append] at h
    rw [readFields_more hs h (skipSpace_writeString _ _), hk, hm, List.append_assoc,
      List.singleton_append]

end

/-- A value on a line of its own is read as it was written. -/
theorem readChars_line {v : Json} (hv : v.isReadable = true) (hr : v.hasNoReal = true) :
    readChars (v.writeChars ++ ['\n']) = .ok v := by
  obtain ⟨c, s, h, hc⟩ := writeChars_cons hr
  rw [readChars_eq, skipSpace_writeChars hr, readValue_written v hv hr ['\n'] rfl]
  · rfl
  · intro tail ht
    rw [h] at ht
    exact hc.ne_mark (List.cons.inj ht).1

/-! ## Characters of written text -/

theorem isPlainAscii_digitChar : ∀ d < 16, isPlainAscii (Nat.digitChar d) = true := by
  decide

theorem unitEscape_all {n : Nat} (h : n < 0x10000) :
    (unitEscape n).all isPlainAscii = true := by
  rw [unitEscape, hexDigits_eq h]
  simp only [List.all_cons, List.all_nil, Bool.and_true, Bool.and_eq_true]
  exact ⟨rfl, rfl, isPlainAscii_digitChar _ (by omega), isPlainAscii_digitChar _ (by omega),
    isPlainAscii_digitChar _ (by omega), isPlainAscii_digitChar _ (by omega)⟩

theorem writeChar_all (c : Char) : (writeChar c).all isPlainAscii = true := by
  rcases writeChar_cases c with ⟨e, h, -, -, he, -⟩ | ⟨h, -, -, hc⟩ | h
  · rw [h, List.all_cons, List.all_cons, he]
    rfl
  · simp [h, hc]
  · rw [h, List.all_flatMap, List.all_eq_true]
    exact fun unit hu => unitEscape_all (unitsOf_lt c unit hu)

theorem writeString_all (s : String) : (writeString s).all isPlainAscii = true := by
  have h : (s.toList.flatMap writeChar).all isPlainAscii = true := by
    simpa [List.all_flatMap] using fun c _ => writeChar_all c
  rw [writeString, List.cons_append, List.all_cons, List.all_append, h]
  rfl

theorem toDigits_all (n : Nat) : (Nat.toDigits 10 n).all isPlainAscii = true := by
  rw [List.all_eq_true]
  intro c hc
  have hd := Nat.isDigit_of_mem_toDigits (by omega) (by omega) hc
  simp only [Char.isDigit, Bool.and_eq_true, decide_eq_true_eq] at hd
  simp only [isPlainAscii, Bool.and_eq_true, decide_eq_true_eq]
  have hlow : 48 ≤ c.toNat := hd.1
  have hhigh : c.toNat ≤ 57 := hd.2
  omega

theorem writeInt_all (n : Int) : (writeInt n).all isPlainAscii = true := by
  cases n with
  | ofNat n => exact toDigits_all n
  | negSucc n => exact toDigits_all (n + 1)

mutual

theorem writeChars_all (v : Json) (hr : v.hasNoReal = true) :
    v.writeChars.all isPlainAscii = true := by
  cases v with
  | null => rfl
  | bool b => cases b <;> rfl
  | int n => exact writeInt_all n
  | real x => cases hr
  | string s => exact writeString_all s
  | list items =>
    cases items with
    | nil => rfl
    | cons v items =>
      simp only [hasNoReal, haveNoReal, Bool.and_eq_true] at hr
      rw [writeChars, List.all_append, List.all_cons, writeChars_all v hr.1,
        writeItems_all items hr.2]
      rfl
  | object fields =>
    cases fields with
    | nil => rfl
    | cons field fields =>
      obtain ⟨key, v⟩ := field
      simp only [hasNoReal, fieldsHaveNoReal, Bool.and_eq_true] at hr
      rw [writeChars, List.all_append, List.all_append, List.all_cons, List.all_cons, List.all_cons,
        writeString_all, writeChars_all v hr.1, writeFields_all fields hr.2]
      rfl

theorem writeItems_all (items : List Json) (hr : haveNoReal items = true) :
    (writeItems items).all isPlainAscii = true := by
  cases items with
  | nil => rfl
  | cons v items =>
    simp only [haveNoReal, Bool.and_eq_true] at hr
    rw [writeItems, List.all_append, List.all_cons, List.all_cons, writeChars_all v hr.1,
      writeItems_all items hr.2]
    rfl

theorem writeFields_all (fields : List (String × Json)) (hr : fieldsHaveNoReal fields = true) :
    (writeFields fields).all isPlainAscii = true := by
  cases fields with
  | nil => rfl
  | cons field fields =>
    obtain ⟨key, v⟩ := field
    simp only [fieldsHaveNoReal, Bool.and_eq_true] at hr
    rw [writeFields, List.all_append, List.all_append, List.all_cons, List.all_cons, List.all_cons,
      List.all_cons, writeString_all, writeChars_all v hr.1, writeFields_all fields hr.2]
    rfl

end

end Typings.Json
