import Typings.Json.Part

/-!
# Fields without sizes

The readers of trees go through parts, which carry that they are smaller than the whole. What they
compute does not depend on that. Here every way to reach a field is tied to a plain look-up, `at?`,
and every way to read what was reached to a reader of plain values.
-/

namespace Typings.Json

variable {α β : Type}

/-! ## Looking up -/

/-- The value of a key; none if the value is no object or lacks the key. -/
def at? (data : Json) (key : String) : Option Json :=
  match data with
  | .object fields => fields.lookup key
  | _ => none

/-- The value of a key, unless it is null. -/
def nonNull? (data : Json) (key : String) : Option Json :=
  match data.at? key with
  | some .null => none
  | found => found

/-- The value of a key, if it is present. -/
def present? (data : Json) (key : String) : Option Json :=
  (data.at? key).filter isPresent

/-- Whether the value of a key is present. -/
def flag (data : Json) (key : String) : Bool :=
  ((data.at? key).getD .null).isPresent

def IsObject (data : Json) : Prop :=
  ∃ fields, data = .object fields

@[simp] theorem at?_object (fields : List (String × Json)) (key : String) :
    (object fields).at? key = fields.lookup key :=
  rfl

theorem isObject_of_at? {data v : Json} {key : String} (h : data.at? key = some v) :
    data.IsObject := by
  cases data with
  | object fields => exact ⟨fields, rfl⟩
  | _ => simp [at?] at h

theorem at?_of_nonNull? {data v : Json} {key : String} (h : data.nonNull? key = some v) :
    data.at? key = some v := by
  unfold nonNull? at h
  split at h
  · cases h
  · exact h

theorem at?_of_present? {data v : Json} {key : String} (h : data.present? key = some v) :
    data.at? key = some v :=
  (Option.filter_eq_some_iff.1 h).1

theorem nonNull?_of_at? {data v : Json} {key : String} (h : data.at? key = some v)
    (hv : v ≠ .null) : data.nonNull? key = some v := by
  unfold nonNull?
  rw [h]
  split
  · rename_i he; cases he; exact absurd rfl hv
  · rfl

/-- What stands for a field, null if it is missing, is the field itself unless it is null. -/
theorem nonNull?_of_ne_null {data : Json} {key : String} (h : (data.at? key).getD .null ≠ .null) :
    data.nonNull? key = some ((data.at? key).getD .null) := by
  cases hv : data.at? key with
  | none => rw [hv] at h; exact absurd rfl h
  | some v => rw [hv] at h; exact nonNull?_of_at? hv h

theorem ne_null_of_isPresent {v : Json} (h : v.isPresent = true) : v ≠ .null := by
  rintro rfl
  cases h

theorem nonNull?_of_present? {data v : Json} {key : String} (h : data.present? key = some v) :
    data.nonNull? key = some v := by
  obtain ⟨hv, hp⟩ := Option.filter_eq_some_iff.1 h
  exact nonNull?_of_at? hv (ne_null_of_isPresent hp)

/-! ## Fields of objects -/

theorem lookupPart_val (key : String) (fields : List (String × Json)) :
    (lookupPart key fields).map (·.val) = fields.lookup key := by
  induction fields with
  | nil => rfl
  | cons f rest ih =>
    obtain ⟨k, v⟩ := f
    simp only [lookupPart, List.lookup_cons]
    by_cases h : key = k
    · simp [h]
    · have hk : (key == k) = false := by simpa using h
      simp only [h, ↓reduceIte, hk, Option.map_map]
      rw [← ih]
      rfl

/-- A field of an object is what looking up gives. -/
theorem field?_eq {data : Json} (h : data.IsObject) (key : String) :
    ∃ found, data.field? key = .ok found ∧ found.map (·.val) = data.at? key := by
  obtain ⟨fields, rfl⟩ := h
  refine ⟨_, rfl, ?_⟩
  rw [at?_object, ← lookupPart_val, Option.map_map]
  rfl

theorem getD_eq {data : Json} (h : data.IsObject) (key : String) (default : Json) :
    data.getD key default = .ok ((data.at? key).getD default) := by
  obtain ⟨found, hf, hv⟩ := field?_eq h key
  rw [getD, hf, ← hv]
  cases found <;> rfl

theorem get_eq {data : Json} (h : data.IsObject) (key : String) :
    data.get key = .ok ((data.at? key).getD .null) :=
  getD_eq h key .null

theorem isPresent_of_at? {data v : Json} {key : String} (h : data.at? key = some v) :
    data.isPresent = true := by
  obtain ⟨fields, rfl⟩ := isObject_of_at? h
  cases fields with
  | nil => simp at h
  | cons f rest => rfl

theorem child?_eq {data : Json} (h : data.IsObject) (key : String) :
    ∃ found, data.child? key = .ok found ∧ found.map (·.val) = data.present? key := by
  obtain ⟨found, hf, hv⟩ := field?_eq h key
  rw [child?, hf, present?, ← hv]
  cases found with
  | none => exact ⟨none, rfl, rfl⟩
  | some p =>
    refine ⟨if p.val.isPresent then some p else none, rfl, ?_⟩
    by_cases hp : p.val.isPresent <;> simp [hp, Option.filter]

theorem given?_eq {data : Json} (h : data.IsObject) (key : String) :
    ∃ found, data.given? key = .ok found ∧ found.map (·.val) = data.nonNull? key := by
  obtain ⟨found, hf, hv⟩ := field?_eq h key
  rw [given?, hf, nonNull?, ← hv]
  cases found with
  | none => exact ⟨none, rfl, rfl⟩
  | some p =>
    obtain ⟨v, hs⟩ := p
    cases v <;> exact ⟨_, rfl, rfl⟩

theorem required_eq {data v : Json} {key : String} (h : data.at? key = some v) :
    ∃ part, data.required key = .ok part ∧ part.val = v := by
  obtain ⟨fields, rfl⟩ := isObject_of_at? h
  rw [at?_object, ← lookupPart_val, Option.map_eq_some_iff] at h
  obtain ⟨p, hp, rfl⟩ := h
  simp only [required]
  split
  · rename_i q hq
    rw [hp] at hq
    cases hq
    exact ⟨_, rfl, rfl⟩
  · rename_i hn
    rw [hp] at hn
    cases hn

/-! ## Readers -/

/-- Reads every element of a value. -/
def eachElement (f : Json → Except Malformed α) (v : Json) : Except Malformed (List α) := do
  (← v.elements).mapM f

/-- Reads every element of a field; there are none if the field is absent. -/
def eachItem (data : Json) (key : String) (f : Json → Except Malformed α) :
    Except Malformed (List α) :=
  match data.present? key with
  | some v => eachElement f v
  | none => .ok []

/-- Reads a field, if it is present. -/
def ifPresent (data : Json) (key : String) (f : Json → Except Malformed α) :
    Except Malformed (Option α) :=
  (data.present? key).mapM f

/-- Reads a field, unless it is missing or null. -/
def ifNonNull (data : Json) (key : String) (f : Json → Except Malformed α) :
    Except Malformed (Option α) :=
  (data.nonNull? key).mapM f

theorem partElements_val {whole : Json} (p : Part whole) :
    (partElements p).map (List.map Subtype.val) = p.val.elements := by
  unfold partElements
  split
  · rename_i h
    exact h.symm
  · rename_i h
    simp only [Except.map, List.attachWith_map_subtype_val]
    exact h.symm

theorem partElements_mapM {whole : Json} (p : Part whole) (f : Json → Except Malformed α) :
    (partElements p >>= fun ps => ps.mapM fun q => f q.val) = eachElement f p.val := by
  rw [eachElement, ← partElements_val]
  cases partElements p with
  | error e => rfl
  | ok ps => exact List.mapM_map.symm

theorem mapM_parts {whole : Json} (found : Option (Part whole)) (f : Json → Except Malformed α) :
    (found.mapM fun p => f p.val) = (found.map (·.val)).mapM f := by
  cases found <;> rfl

theorem child?_bind {data : Json} (h : data.IsObject) (key : String)
    (f : Json → Except Malformed α) (g : Option α → Except Malformed β) :
    (data.child? key >>= fun found => found.mapM (fun p => f p.val) >>= g)
      = data.ifPresent key f >>= g := by
  obtain ⟨found, hf, hv⟩ := child?_eq h key
  rw [hf, ifPresent, ← hv, ← mapM_parts]
  rfl

theorem given?_bind {data : Json} (h : data.IsObject) (key : String)
    (f : Json → Except Malformed α) (g : Option α → Except Malformed β) :
    (data.given? key >>= fun found => found.mapM (fun p => f p.val) >>= g)
      = data.ifNonNull key f >>= g := by
  obtain ⟨found, hf, hv⟩ := given?_eq h key
  rw [hf, ifNonNull, ← hv, ← mapM_parts]
  rfl

theorem children_mapM {data : Json} (h : data.IsObject) (key : String)
    (f : Json → Except Malformed α) :
    (data.children key >>= fun ps => ps.mapM fun p => f p.val) = data.eachItem key f := by
  obtain ⟨found, hf, hv⟩ := child?_eq h key
  rw [children, hf, eachItem, ← hv]
  cases found with
  | none => rfl
  | some p => exact partElements_mapM p f

/-- Reads the items of a field, given the value that has it. -/
def itemsOf (key : String) (f : Json → Except Malformed α) (v : Json) :
    Except Malformed (List α) := do
  (← v.children key).mapM fun p => f p.val

theorem itemsOf_eq {v : Json} (h : v.IsObject) (key : String) (f : Json → Except Malformed α) :
    itemsOf key f v = v.eachItem key f :=
  children_mapM h key f

theorem children_bind {data : Json} (h : data.IsObject) (key : String)
    (f : Json → Except Malformed α) (g : List α → Except Malformed β) :
    (data.children key >>= fun ps => ps.mapM (fun p => f p.val) >>= g)
      = data.eachItem key f >>= g := by
  rw [← children_mapM h, bind_assoc]

/-! ## Fields that must be there -/

variable {data : Json}

/-- Reads a field that must be there. -/
def need (data : Json) (key : String) (f : Json → Except Malformed α) : Except Malformed α :=
  ((data.at? key).map f).getD (.error (.missing key))

theorem need_eq {v : Json} {key : String} (h : data.at? key = some v)
    (f : Json → Except Malformed α) : data.need key f = f v := by
  rw [need, h]
  rfl

theorem required_eq_missing {key : String} (h : data.IsObject) (hn : data.at? key = none) :
    data.required key = .error (.missing key) := by
  obtain ⟨fields, rfl⟩ := h
  rw [at?_object, ← lookupPart_val, Option.map_eq_none_iff] at hn
  simp only [required, hn]

theorem required_bind (h : data.IsObject) (key : String) (f : Json → Except Malformed α) :
    (data.required key >>= fun p => f p.val) = data.need key f := by
  cases hv : data.at? key with
  | none =>
    rw [required_eq_missing h hv, need, hv]
    rfl
  | some v =>
    obtain ⟨part, hp, rfl⟩ := required_eq hv
    rw [hp, need, hv]
    rfl

theorem need_bind (data : Json) (key : String) (f : Json → Except Malformed α)
    (g : α → Except Malformed β) :
    data.need key (fun v => f v >>= g) = data.need key f >>= g := by
  rw [need, need]
  cases data.at? key <;> rfl

theorem required_bind_bind (h : data.IsObject) (key : String) (f : Json → Except Malformed α)
    (g : α → Except Malformed β) :
    (data.required key >>= fun p => f p.val >>= g) = data.need key f >>= g := by
  rw [← need_bind]
  exact required_bind h key fun v => f v >>= g

theorem required_val_bind (h : data.IsObject) (key : String) (g : Json → Except Malformed β) :
    (data.required key >>= fun p => g p.val) = data.need key pure >>= g := by
  rw [← need_bind]
  exact required_bind h key g

/-- A field in place of which another value is read if it is absent. -/
theorem orElse_eq_ifPresent (data : Json) (key : String) (f : Json → Except Malformed α)
    (other : Json) :
    f (((data.at? key).getD .null).orElse other) =
      data.ifPresent key f >>= fun found => found.elim (f other) pure := by
  rw [ifPresent, present?]
  cases hv : data.at? key with
  | none => rfl
  | some v =>
    rw [Option.getD_some, orElse]
    cases hp : v.isPresent with
    | false => simp [Option.filter, hp]
    | true =>
      simp only [Option.filter, hp, if_true]
      change f v = (some <$> f v) >>= _
      cases f v <;> rfl

/-- A field that is read in the same way whether it is absent or stands for nothing. -/
theorem getD_eq_ifPresent (data : Json) (key : String) {f : Json → Except Malformed α} {a : α}
    (hf : ∀ v, v.isPresent = false → f v = .ok a) :
    f ((data.at? key).getD .null) = do return (← data.ifPresent key f).getD a := by
  rw [ifPresent, present?]
  cases hv : data.at? key with
  | none => exact hf .null rfl
  | some v =>
    rw [Option.getD_some]
    cases hp : v.isPresent with
    | false =>
      simp only [hf v hp, Option.filter, hp]
      rfl
    | true =>
      simp only [Option.filter, hp, if_true]
      change f v = (some <$> f v) >>= _
      cases f v <;> rfl

end Typings.Json
