import Typings.Json.Reader
import Typings.Proofs.Outcome

/-!
# What is read

The steps of the reader without the bounds on what they leave, and what holds of every value that is
read: no integer of it is too long, and no object of it has two fields with one key.
-/

namespace Typings.Json

/-! ## Steps -/

/-- What was read and what is left of the text. -/
def left {α : Type} {s : List Char} (r : Except Stop (α × Rest s)) :
    Except Stop (α × List Char) :=
  r.map fun p => (p.1, p.2.val)

theorem left_ok {α : Type} {s rest : List Char} (x : α) (h : rest.length < s.length) :
    left (.ok (x, ⟨rest, h⟩) : Except Stop (α × Rest s)) = .ok (x, rest) := rfl

theorem left_error {α : Type} {s : List Char} (stop : Stop) :
    left (.error stop : Except Stop (α × Rest s)) = .error stop := rfl

theorem readValue_plain {c : Char} {tail : List Char} (hq : c ≠ '"') (hl : c ≠ '[')
    (ho : c ≠ '\x7b') : readValue (c :: tail) = readPlain (c :: tail) := by
  rw [readValue]
  all_goals
    intros
    simp_all

theorem left_readValue_string (tail : List Char) :
    left (readValue ('"' :: tail)) =
      (left (readString ('"' :: tail) tail)).map fun p => (.string p.1, p.2) := by
  rw [readValue]
  cases readString ('"' :: tail) tail <;> rfl

theorem left_readValue_list (tail : List Char) :
    left (readValue ('[' :: tail)) = match skipSpace tail with
      | ']' :: rest => .ok (.list [], rest)
      | _ => (left (readItems (skipSpace tail))).map fun p => (.list p.1, p.2) := by
  rw [readValue]
  dsimp only
  split
  · rename_i hs
    simp only [hs]
    rfl
  · rename_i hs
    split
    · rename_i hs'
      exact (hs _ hs').elim
    · cases readItems (skipSpace tail) <;> rfl

theorem left_readValue_object (tail : List Char) :
    left (readValue ('\x7b' :: tail)) = match skipSpace tail with
      | '\x7d' :: rest => .ok (.object [], rest)
      | _ => (left (readFields [] (skipSpace tail))).map fun p => (.object p.1, p.2) := by
  rw [readValue]
  dsimp only
  split
  · rename_i hs
    simp only [hs]
    rfl
  · rename_i hs
    split
    · rename_i hs'
      exact (hs _ hs').elim
    · cases readFields [] (skipSpace tail) <;> rfl

theorem left_readItems (s : List Char) :
    left (readItems s) = (do
      let (v, rest) ← left (readValue s)
      match skipSpace rest with
      | ']' :: rest => return ([v], rest)
      | ',' :: tail =>
        let (items, rest) ← left (readItems (skipSpace tail))
        return (v :: items, rest)
      | other => .error ⟨.comma, other⟩) := by
  rw [readItems]
  cases readValue s with
  | error stop => rfl
  | ok p =>
    obtain ⟨v, rest, h⟩ := p
    simp only [bind, Except.bind, left_ok]
    split
    · rename_i hs
      simp only [hs]
      rfl
    · rename_i tail hs
      simp only [hs]
      cases readItems (skipSpace tail) <;> rfl
    · simp only [left_error]

theorem left_readFields (fields : List (String × Json)) (body : List Char) :
    left (readFields fields ('"' :: body)) = (do
      let (key, rest) ← left (readString ('"' :: body) body)
      match skipSpace rest with
      | ':' :: tail =>
        let (v, rest) ← left (readValue (skipSpace tail))
        match skipSpace rest with
        | '\x7d' :: rest => return (setField key v fields, rest)
        | ',' :: more => left (readFields (setField key v fields) (skipSpace more))
        | other => .error ⟨.comma, other⟩
      | other => .error ⟨.colon, other⟩) := by
  rw [readFields]
  cases readString ('"' :: body) body with
  | error stop => rfl
  | ok p =>
    obtain ⟨key, rest, h⟩ := p
    simp only [bind, Except.bind, left_ok]
    split
    · rename_i tail hs
      simp only [hs]
      cases readValue (skipSpace tail) with
      | error stop => rfl
      | ok q =>
        obtain ⟨v, rest, h⟩ := q
        simp only [left_ok]
        split
        · rename_i hs
          simp only [hs]
          rfl
        · rename_i more hs
          simp only [hs]
          cases readFields (setField key v fields) (skipSpace more) <;> rfl
        · simp only [left_error]
    · simp only [left_error]

theorem readFields_other (fields : List (String × Json)) {s : List Char}
    (h : ∀ body, s = '"' :: body → False) :
    readFields fields s = .error ⟨.propertyName, s⟩ := by
  rw [readFields]
  exact h

theorem readChars_eq {s : List Char} (h : ∀ tail, s = '\ufeff' :: tail → False) :
    readChars s = (do
      let (v, rest) ← left (readValue (skipSpace s))
      match skipSpace rest with
      | [] => return v
      | other => .error ⟨.extra, other⟩) := by
  rw [readChars]
  · cases readValue (skipSpace s) <;> rfl
  · exact h

/-! ## Readable values -/

mutual

/-- Whether no integer is too long to be read and the keys of each object are distinct. -/
def isReadable : Json → Bool
  | .int n => !Decimal.isTooLong n
  | .list items => areReadable items
  | .object fields => decide (fields.map Prod.fst).Nodup && fieldsAreReadable fields
  | _ => true

def areReadable : List Json → Bool
  | [] => true
  | v :: rest => v.isReadable && areReadable rest

def fieldsAreReadable : List (String × Json) → Bool
  | [] => true
  | (_, v) :: rest => v.isReadable && fieldsAreReadable rest

end

theorem setField_of_notMem {key : String} {v : Json} {fields : List (String × Json)}
    (h : key ∉ fields.map Prod.fst) : setField key v fields = fields ++ [(key, v)] := by
  induction fields with
  | nil => rfl
  | cons field fields ih =>
    obtain ⟨k, w⟩ := field
    simp only [List.map_cons, List.mem_cons, not_or] at h
    rw [setField, if_neg (Ne.symm h.1), ih h.2, List.cons_append]

theorem keys_setField_of_mem {key : String} {v : Json} {fields : List (String × Json)}
    (h : key ∈ fields.map Prod.fst) :
    (setField key v fields).map Prod.fst = fields.map Prod.fst := by
  induction fields with
  | nil => simp at h
  | cons field fields ih =>
    obtain ⟨k, w⟩ := field
    rw [setField]
    by_cases hk : k = key
    · simp [hk]
    · have hm : key ∈ fields.map Prod.fst := by
        simpa [Ne.symm hk] using h
      rw [if_neg hk, List.map_cons, List.map_cons, ih hm]

theorem nodup_keys_setField (key : String) (v : Json) {fields : List (String × Json)}
    (h : (fields.map Prod.fst).Nodup) : ((setField key v fields).map Prod.fst).Nodup := by
  by_cases hm : key ∈ fields.map Prod.fst
  · rwa [keys_setField_of_mem hm]
  · rw [setField_of_notMem hm, List.map_append, List.nodup_append]
    refine ⟨h, by simp, ?_⟩
    intro k hk k' hk' he
    simp only [List.map_cons, List.map_nil, List.mem_singleton] at hk'
    subst he hk'
    exact hm hk

theorem fieldsAreReadable_setField (key : String) {v : Json} {fields : List (String × Json)}
    (hv : v.isReadable = true) (h : fieldsAreReadable fields = true) :
    fieldsAreReadable (setField key v fields) = true := by
  induction fields with
  | nil => simp [setField, fieldsAreReadable, hv]
  | cons field fields ih =>
    obtain ⟨k, w⟩ := field
    simp only [fieldsAreReadable, Bool.and_eq_true] at h
    rw [setField]
    split
    · simp [fieldsAreReadable, hv, h.2]
    · simp [fieldsAreReadable, h.1, ih h.2]

/-! ## Numbers and names -/

/-- The number at the front, unless it is an integer that is too long. -/
def numberAt (s : List Char) : Except Stop (Json × List Char) :=
  match readNumber? s with
  | some (v, rest) =>
    match longInteger? v with
    | none => .ok (v, rest)
    | some digits => .error ⟨.longInteger digits, s⟩
  | none => .error ⟨.value, s⟩

/-- No name with a fixed meaning is the start of a number. -/
theorem left_readPlain (s : List Char) : left (readPlain s) = numberAt s ∨
    readNumber? s = none ∧ ∃ v rest, left (readPlain s) = .ok (v, rest) ∧ v.isReadable = true := by
  unfold readPlain
  split
  case h_7 =>
    left
    rw [numberAt]
    split
    · rename_i v _ hn
      simp only [hn]
      cases longInteger? v <;> rfl
    · rename_i hn
      simp only [hn]
      rfl
  all_goals exact .inr ⟨rfl, _, _, rfl, rfl⟩

/-! ## Every value that is read is readable -/

theorem left_ensures {α : Type} {s : List Char} (r : Except Stop (α × Rest s)) :
    Ensures (left r) fun p => p.2.length < s.length := by
  cases r with
  | error stop => exact .error stop
  | ok p => exact .ok p.2.property

theorem readMagnitude?_scalar {negative : Bool} {s rest : List Char} {v : Json}
    (h : readMagnitude? negative s = some (v, rest)) : (∃ n, v = .int n) ∨ ∃ x, v = .real x := by
  simp only [readMagnitude?, Option.bind_eq_bind, Option.bind_eq_some_iff] at h
  obtain ⟨⟨whole, tail⟩, -, h⟩ := h
  dsimp only at h
  split at h
  · cases h
    exact .inl ⟨_, rfl⟩
  · cases h
    exact .inr ⟨_, rfl⟩
  · cases h
    exact .inr ⟨_, rfl⟩

theorem readNumber?_scalar {s rest : List Char} {v : Json} (h : readNumber? s = some (v, rest)) :
    (∃ n, v = .int n) ∨ ∃ x, v = .real x := by
  unfold readNumber? at h
  split at h
  · exact readMagnitude?_scalar h
  · exact readMagnitude?_scalar h

theorem readPlain_ensures (s : List Char) :
    Ensures (left (readPlain s)) fun p => p.1.isReadable = true := by
  rcases left_readPlain s with h | ⟨-, v, rest, h, hv⟩
  · rw [h, numberAt]
    split
    · rename_i hn
      split
      · rename_i hv
        refine .ok ?_
        rcases readNumber?_scalar hn with ⟨n, rfl⟩ | ⟨x, rfl⟩
        · simpa [longInteger?, isReadable] using hv
        · rfl
      · exact .error _
    · exact .error _
  · rw [h]
    exact .ok hv

theorem reader_ensures :
    (∀ s, Ensures (left (readValue s)) fun p => p.1.isReadable = true) ∧
      (∀ fields s, (fields.map Prod.fst).Nodup → fieldsAreReadable fields = true →
        Ensures (left (readFields fields s)) fun p =>
          (p.1.map Prod.fst).Nodup ∧ fieldsAreReadable p.1 = true) ∧
      ∀ s, Ensures (left (readItems s)) fun p => areReadable p.1 = true := by
  apply readValue.mutual_induct
  case case1 =>
    intro tail
    rw [left_readValue_string]
    exact .mapAfter fun _ => rfl
  case case2 =>
    intro tail _ rest hs
    rw [left_readValue_list, hs]
    exact .ok rfl
  case case3 =>
    intro tail _ hs ih
    rw [left_readValue_list]
    split
    · exact .ok rfl
    · exact ih.map fun p hp => hp
  case case4 =>
    intro tail _ rest hs
    rw [left_readValue_object, hs]
    exact .ok rfl
  case case5 =>
    intro tail _ hs ih
    rw [left_readValue_object]
    split
    · exact .ok rfl
    · refine (ih List.nodup_nil rfl).map fun p hp => ?_
      simp [isReadable, hp.1, hp.2]
  case case6 =>
    intro s hq hl ho
    rw [readValue]
    · exact readPlain_ensures s
    · exact hq
    · exact hl
    · exact ho
  case case7 =>
    intro fields body ihv ihf hd hr
    rw [left_readFields]
    refine (left_ensures _).bind fun ⟨key, afterKey⟩ hk => ?_
    dsimp only
    split
    · rename_i tail hs
      refine ((ihv afterKey hk tail hs).and (left_ensures _)).bind fun ⟨v, rest⟩ ⟨hv, hl⟩ => ?_
      have hnodup := nodup_keys_setField key v hd
      have hreadable := fieldsAreReadable_setField key hv hr
      dsimp only
      split
      · exact .ok ⟨hnodup, hreadable⟩
      · rename_i more hm
        exact ihf key afterKey hk tail hs v rest hl more hm hnodup hreadable
      · exact .error _
    · exact .error _
  case case8 =>
    intro fields s hs _ _
    rw [readFields_other fields hs]
    exact .error _
  case case9 =>
    intro s ihv ihi
    rw [left_readItems]
    refine (ihv.and (left_ensures _)).bind fun ⟨v, rest⟩ ⟨hv, hl⟩ => ?_
    dsimp only
    split
    · exact .ok (by simpa [areReadable] using hv)
    · rename_i tail hs
      exact (ihi rest hl tail hs).bind fun p hp => .ok (by simpa [areReadable] using ⟨hv, hp⟩)
    · exact .error _

theorem readChars_ensures (s : List Char) : Ensures (readChars s) fun v => v.isReadable = true := by
  by_cases h : ∃ tail, s = '\ufeff' :: tail
  · obtain ⟨tail, rfl⟩ := h
    exact .error _
  · rw [readChars_eq fun tail hs => h ⟨tail, hs⟩]
    refine (reader_ensures.1 (skipSpace s)).bind fun ⟨v, rest⟩ hv => ?_
    dsimp only
    split
    · exact .ok hv
    · exact .error _

/-- No text stands for a value with an integer that is too long or with a repeated key. -/
theorem read_isReadable {text : String} {v : Json} (h : read text = .ok v) :
    v.isReadable = true := by
  rw [read] at h
  cases hr : readChars text.toList with
  | error stop =>
    rw [hr] at h
    cases h
  | ok w =>
    rw [hr] at h
    cases h
    exact readChars_ensures _ _ hr

end Typings.Json
