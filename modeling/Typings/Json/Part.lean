import Typings.Json.Basic
import Typings.Malformed

/-!
# Parts of a value

Reading a tree goes from a value to values strictly inside it. A `Part` carries that it is smaller
than the whole, so that every reader of trees ends. An optional field is *absent* when it is
missing or stands for nothing (`Json.isPresent`).
-/

namespace Typings.Json

/-- A value strictly inside another. -/
abbrev Part (whole : Json) := { part : Json // part.size < whole.size }

theorem Part.size_lt {whole : Json} (p : Part whole) : p.val.size < whole.size :=
  p.property

/-! ## Fields -/

/-- The value of a key among fields. -/
def lookupPart (key : String) :
    (fields : List (String × Json)) → Option { part : Json // part.size ≤ sizeFields fields }
  | [] => none
  | (k, v) :: rest =>
    if key = k then some ⟨v, by simp only [sizeFields]; omega⟩
    else (lookupPart key rest).map fun p => ⟨p.val, by
      have := p.property
      simp only [sizeFields]
      omega⟩

/-- The field of an object, if it is there. -/
def field? (whole : Json) (key : String) : Except Malformed (Option (Part whole)) :=
  match whole with
  | .object fields => .ok ((lookupPart key fields).map fun p => ⟨p.val, by
      have := p.property
      simp only [size]
      omega⟩)
  | _ => .error .noMember

/-- The field of an object that must have it. -/
def required (whole : Json) (key : String) : Except Malformed (Part whole) :=
  match whole with
  | .object fields =>
    match lookupPart key fields with
    | some p => .ok ⟨p.val, by have := p.property; simp only [size]; omega⟩
    | none => .error (.missing key)
  | _ => .error .mismatch

/-- The value of a field, or `default` if the object lacks it. -/
def getD (whole : Json) (key : String) (default : Json) : Except Malformed Json := do
  match ← whole.field? key with
  | some p => return p.val
  | none => return default

/-- The value of a field, or null if the object lacks it. -/
def get (whole : Json) (key : String) : Except Malformed Json :=
  whole.getD key .null

/-- The field of an object, if it is there and present. -/
def child? (whole : Json) (key : String) : Except Malformed (Option (Part whole)) := do
  match ← whole.field? key with
  | some p => return if p.val.isPresent then some p else none
  | none => return none

/-- The field of an object, if it is there and not null. -/
def given? (whole : Json) (key : String) : Except Malformed (Option (Part whole)) := do
  match ← whole.field? key with
  | some ⟨.null, _⟩ => return none
  | given => return given

/-! ## Elements -/

/-- The values that a value is a sequence of: the items of a list, the characters of a text, the
keys of an object. -/
def elements : Json → Except Malformed (List Json)
  | .list items => .ok items
  | .string s => .ok (s.toList.map fun c => .string (String.singleton c))
  | .object fields => .ok (fields.map fun f => .string f.1)
  | _ => .error .mismatch

theorem size_le_of_mem_elements {v : Json} {es : List Json} (h : v.elements = .ok es) {e : Json}
    (he : e ∈ es) : e.size ≤ v.size := by
  cases v with
  | list items =>
    simp only [elements, Except.ok.injEq] at h
    subst h
    have := size_le_sizeItems he
    simp only [size]
    omega
  | string s =>
    simp only [elements, Except.ok.injEq] at h
    subst h
    obtain ⟨c, _, rfl⟩ := List.mem_map.1 he
    simp only [size]
    omega
  | object fields =>
    simp only [elements, Except.ok.injEq] at h
    subst h
    obtain ⟨f, _, rfl⟩ := List.mem_map.1 he
    simp only [size]
    omega
  | _ => simp [elements] at h

/-- The elements of a part, as parts of the whole. -/
def partElements {whole : Json} (p : Part whole) : Except Malformed (List (Part whole)) :=
  match h : p.val.elements with
  | .error e => .error e
  | .ok es => .ok (es.attachWith _ fun _ he =>
      Nat.lt_of_le_of_lt (size_le_of_mem_elements h he) p.property)

/-- The elements of a field; none if the field is absent. -/
def children (whole : Json) (key : String) : Except Malformed (List (Part whole)) := do
  match ← whole.child? key with
  | some p => partElements p
  | none => return []

end Typings.Json
