import Typings.Json.Display

/-!
# Values that can be shown

Nothing but the length of an integer keeps a value from being shown. A text is shown as it is.
-/

namespace Typings.Json

mutual

/-- Whether a value holds an integer that is too long. -/
def hasLongInteger : Json → Bool
  | .int n => Decimal.isTooLong n
  | .list items => haveLongInteger items
  | .object fields => fieldsHaveLongInteger fields
  | _ => false

def haveLongInteger : List Json → Bool
  | [] => false
  | v :: rest => v.hasLongInteger || haveLongInteger rest

/-- Whether the value of one of the fields holds an integer that is too long. -/
def fieldsHaveLongInteger : List (String × Json) → Bool
  | [] => false
  | (_, v) :: rest => v.hasLongInteger || fieldsHaveLongInteger rest

end

/-- There is a result, unless an integer is too long. -/
structure ShownUnless (isLong : Bool) {α : Type} (r : Except Malformed α) : Prop where
  long : isLong = true → r = .error .tooManyDigits
  short : isLong = false → ∃ a, r = .ok a

namespace ShownUnless

variable {α β : Type} {isLong isLonger : Bool} {r : Except Malformed α}

theorem ok (a : α) : ShownUnless false (.ok a) :=
  ⟨fun h => (by cases h), fun _ => ⟨a, rfl⟩⟩

theorem bind {f : α → Except Malformed β} (h : ShownUnless isLong r)
    (hf : ∀ a, ShownUnless isLonger (f a)) : ShownUnless (isLong || isLonger) (r >>= f) := by
  cases isLong with
  | true =>
      rw [h.long rfl]
      exact ⟨fun _ => rfl, fun hs => (by cases hs)⟩
  | false =>
      obtain ⟨a, rfl⟩ := h.short rfl
      exact hf a

/-- What is put around the texts does not matter. -/
theorem map {f : α → β} (h : ShownUnless isLong r) :
    ShownUnless isLong (r >>= fun a => .ok (f a)) := by
  have hb := h.bind fun a => ok (f a)
  rwa [Bool.or_false] at hb

end ShownUnless

theorem shownInt_shownUnless (n : Int) : ShownUnless (Decimal.isTooLong n) (shownInt n) where
  long h := by rw [shownInt, if_pos h]
  short h := ⟨n.repr, by rw [shownInt, h, if_neg Bool.false_ne_true]⟩

mutual

theorem inside_shownUnless : (v : Json) → ShownUnless v.hasLongInteger v.inside
  | .null => .ok _
  | .bool true => .ok _
  | .bool false => .ok _
  | .real _ => .ok _
  | .string _ => .ok _
  | .int n => shownInt_shownUnless n
  | .list items => by
      rw [inside, hasLongInteger]
      exact (insideItems_shownUnless items).map
  | .object fields => by
      rw [inside, hasLongInteger]
      exact (insideFields_shownUnless fields).map

theorem insideItems_shownUnless :
    (items : List Json) → ShownUnless (haveLongInteger items) (insideItems items)
  | [] => .ok _
  | v :: rest => by
      rw [insideItems, haveLongInteger]
      exact (inside_shownUnless v).bind fun _ => (insideItems_shownUnless rest).map

theorem insideFields_shownUnless :
    (fields : List (String × Json)) →
      ShownUnless (fieldsHaveLongInteger fields) (insideFields fields)
  | [] => .ok _
  | (_, v) :: rest => by
      rw [insideFields, fieldsHaveLongInteger]
      exact (inside_shownUnless v).bind fun _ => (insideFields_shownUnless rest).map

end

theorem display_shownUnless (v : Json) : ShownUnless v.hasLongInteger v.display := by
  unfold display
  split
  · exact .ok _
  · exact inside_shownUnless v

theorem display_of_long {v : Json} (h : v.hasLongInteger = true) :
    v.display = .error .tooManyDigits :=
  v.display_shownUnless.long h

theorem display_of_not_long {v : Json} (h : v.hasLongInteger = false) :
    ∃ shown, v.display = .ok shown :=
  v.display_shownUnless.short h

theorem display_eq_error_iff {v : Json} {m : Malformed} :
    v.display = .error m ↔ v.hasLongInteger = true ∧ m = .tooManyDigits := by
  cases h : v.hasLongInteger with
  | true => simp [display_of_long h, eq_comm]
  | false =>
      obtain ⟨shown, hs⟩ := display_of_not_long h
      simp [hs]

end Typings.Json
