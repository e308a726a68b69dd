import Typings.Proofs.Json.Fields
import Typings.Estree.Location

/-!
# Nodes and their tags

A reader chooses by the tag of a node what to read of it. A node whose tag the reader does not know
is kept with its tag; a node without one counts among these.
-/

namespace Typings

/-! ## Tags -/

namespace Json

def HasTag (data : Json) (tag : String) : Prop :=
  data.at? "type" = some (.string tag)

def IsText (v : Json) : Prop :=
  ∃ s, v = .string s

@[simp] theorem isText_string (s : String) : (Json.string s).IsText :=
  ⟨s, rfl⟩

theorem HasTag.isObject {data : Json} {tag : String} (h : data.HasTag tag) : data.IsObject :=
  isObject_of_at? h

theorem HasTag.get_eq {data : Json} {tag : String} (h : data.HasTag tag) :
    data.get "type" = .ok (.string tag) := by
  rw [Json.get_eq h.isObject, h]
  rfl

/-- The tag of a node is none of the given ones; the node may have no tag at all. -/
def HasOtherTag (data : Json) (tags : List String) : Prop :=
  data.IsObject ∧ ∀ v, data.at? "type" = some v → ∃ tag, v = .string tag ∧ tag ∉ tags

theorem HasTag.hasOtherTag {data : Json} {tag : String} {tags : List String} (h : data.HasTag tag)
    (hn : tag ∉ tags) : data.HasOtherTag tags := by
  refine ⟨h.isObject, fun v hv => ?_⟩
  rw [h] at hv
  cases hv
  exact ⟨tag, rfl, hn⟩

theorem HasOtherTag.not_hasTag {data : Json} {tags : List String} (h : data.HasOtherTag tags) :
    ∀ tag ∈ tags, ¬ data.HasTag tag := by
  intro tag hm ht
  obtain ⟨other, he, hn⟩ := h.2 _ ht
  cases he
  exact hn hm

/-- A choice by the tag of an object falls to the default if the object has another tag. -/
theorem get_type_ne {data : Json} {tag : String} (h : data.IsObject) (ht : ¬ data.HasTag tag) :
    ∃ v, data.get "type" = .ok v ∧ v ≠ .string tag := by
  refine ⟨_, get_eq h "type", fun he => ht ?_⟩
  cases hv : data.at? "type" with
  | none => rw [hv] at he; cases he
  | some v => rw [hv] at he; rw [HasTag, hv, ← he]; rfl

theorem type_ne_of_not_hasTag {data : Json} {tags : List String} (h : data.IsObject)
    (ht : ∀ tag ∈ tags, ¬ data.HasTag tag) :
    ∀ tag ∈ tags, (data.at? "type").getD .null ≠ .string tag := by
  intro tag hm he
  obtain ⟨v, hv, hne⟩ := get_type_ne h (ht tag hm)
  rw [get_eq h, he] at hv
  cases hv
  exact hne rfl

end Json

/-- The tag that a node is kept with if it is not known. -/
def keptTag (data : Json) : Json :=
  (data.at? "type").getD (.string "<missing>")

theorem unknownTag_eq {data : Json} (h : data.IsObject) : unknownTag data = .ok (keptTag data) :=
  Json.getD_eq h _ _

/-! ## Locations -/

theorem Json.holds_eq {data : Json} (h : data.IsObject) (key : String) :
    data.holds key = .ok (data.at? key).isSome := by
  obtain ⟨fields, rfl⟩ := h
  simp only [holds, at?_object, Except.ok.injEq]
  induction fields with
  | nil => rfl
  | cons f rest ih =>
    obtain ⟨k, v⟩ := f
    simp only [List.any_cons, List.lookup_cons, ih]
    by_cases hk : key = k
    · simp [hk]
    · have hk₁ : (key == k) = false := by simpa using hk
      have hk₂ : (k == key) = false := by simpa using Ne.symm hk
      simp [hk₁, hk₂]

theorem Position.ofEstree_eq {data line column : Json} (hl : data.at? "line" = some line)
    (hc : data.at? "column" = some column) : Position.ofEstree data = .ok ⟨line, column⟩ := by
  obtain ⟨linePart, hlp, rfl⟩ := Json.required_eq hl
  obtain ⟨columnPart, hcp, rfl⟩ := Json.required_eq hc
  rw [Position.ofEstree, hlp, hcp]
  rfl

theorem Location.ofEstree?_record {data start : Json} (hs : data.at? "start" = some start) :
    Location.ofEstree? data = do
      let first ← Position.ofEstree start
      let last ← Position.ofEstree (((data.at? "end").getD .null).orElse start)
      return some ⟨first, last, (data.at? "source").getD .null⟩ := by
  have ho := Json.isObject_of_at? hs
  obtain ⟨part, hp, rfl⟩ := Json.required_eq hs
  rw [Location.ofEstree?, Json.isPresent_of_at? hs, Json.holds_eq ho, hs, Json.get_eq ho, hp,
    Json.get_eq ho]
  rfl

theorem Location.ofNode_eq {data : Json} (h : data.IsObject) :
    Location.ofNode data = Location.ofEstree? ((data.at? "loc").getD .null) := by
  rw [Location.ofNode, Json.get_eq h]
  rfl

end Typings
