import Typings.Malformed

/-!
# Copies of a text

A text is repeated as often as a count says, not at all if the count is below zero. A count must fit
in a signed word of 64 bits, and so must the length of the result.
-/

namespace Typings.Text

/-! ## Unbounded counts -/

/-- `count` copies of a text. Two copies are put together first, so that few steps are enough for
many copies. -/
def copies (text : String) (count : Nat) : String :=
  if count = 0 then ""
  else
    let pairs := copies (text ++ text) (count / 2)
    if count % 2 = 0 then pairs else pairs ++ text
termination_by count

@[simp] theorem copies_zero (text : String) : copies text 0 = "" := by
  rw [copies, if_pos rfl]

theorem copies_two_mul (text : String) (n : Nat) :
    copies text (2 * n) = copies (text ++ text) n := by
  rw [copies]
  split
  · have : n = 0 := by omega
    simp [this]
  · rw [if_pos (by omega), show 2 * n / 2 = n by omega]

theorem copies_two_mul_add_one (text : String) (n : Nat) :
    copies text (2 * n + 1) = copies (text ++ text) n ++ text := by
  rw [copies, if_neg (by omega), show (2 * n + 1) / 2 = n by omega]
  exact if_neg (by omega)

/-- One copy more stands behind the others. -/
theorem copies_succ (text : String) (n : Nat) :
    copies text (n + 1) = copies text n ++ text := by
  induction n using Nat.strongRecOn generalizing text with
  | ind n ih =>
    obtain ⟨k, rfl | rfl⟩ : ∃ k, n = 2 * k ∨ n = 2 * k + 1 := ⟨n / 2, by omega⟩
    · rw [copies_two_mul_add_one, copies_two_mul]
    · rw [show 2 * k + 1 + 1 = 2 * (k + 1) by omega, copies_two_mul, copies_two_mul_add_one,
        ih k (by omega), String.append_assoc]

/-! ## Bounded counts -/

/-- No count and no length reaches this number. -/
def countBound : Nat := Nat.pow 2 63

/-- The number of copies of a text that a count asks for, if so many can be made. -/
def copyCount (text : String) (count : Int) : Except Malformed Nat :=
  let size := count.toNat * text.length
  if count < -countBound ∨ countBound ≤ count ∨ countBound ≤ size then .error .outOfRange
  else .ok count.toNat

/-- As many copies of a text as a count asks for. -/
def repeated (text : String) (count : Int) : Except Malformed String :=
  (copyCount text count).map (copies text)

end Typings.Text
