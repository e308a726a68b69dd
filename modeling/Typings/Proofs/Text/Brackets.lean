import Typings.Proofs.Text.Indentation

/-!
# Brackets

The brackets of a text are read from left to right, the arrow `=>` being one sign and no bracket. A
stretch of text takes the brackets that are open before it to those that are open after it, and
stretches are put together where no arrow is broken. A balanced stretch leaves open what was open
before. Indentation without brackets is not seen.
-/

namespace Typings.Text

/-! ## Marks -/

inductive Bracket where
  | round
  | square
  | curly
  | angle
  deriving DecidableEq

inductive Mark where
  | opening (b : Bracket)
  | closing (b : Bracket)

def mark? : Char → Option Mark
  | '(' => some (.opening .round)
  | ')' => some (.closing .round)
  | '[' => some (.opening .square)
  | ']' => some (.closing .square)
  | '\x7b' => some (.opening .curly)
  | '\x7d' => some (.closing .curly)
  | '<' => some (.opening .angle)
  | '>' => some (.closing .angle)
  | _ => none

def marks : List Char → List Mark
  | '=' :: '>' :: rest => marks rest
  | c :: rest => (mark? c).toList ++ marks rest
  | [] => []

/-- The brackets that are open after one more, the innermost first; none if it closes what is not
open, or not the innermost. -/
def Mark.read : List Bracket → Mark → Option (List Bracket)
  | opened, .opening b => some (b :: opened)
  | b :: opened, .closing c => if b = c then some opened else none
  | [], .closing _ => none

/-- Every beginning closes only what is open, in the right order, and the whole leaves nothing
open. -/
structure WellNested (text : String) : Prop where
  beginning : ∀ front, front <+: marks text.toList →
    ∃ opened, front.foldlM Mark.read [] = some opened
  whole : (marks text.toList).foldlM Mark.read [] = some []

/-- No bracket and no sign that is part of an arrow. -/
def Bracketless (text : String) : Prop :=
  ∀ c ∈ text.toList, c ∉ ['(', ')', '[', ']', '\x7b', '\x7d', '<', '>', '=']

instance (text : String) : Decidable (Bracketless text) :=
  decidable_of_iff
    (text.toList.all fun c => c ∉ ['(', ')', '[', ']', '\x7b', '\x7d', '<', '>', '='])
    (by simp [Bracketless])

/-! ## Marks of parts -/

theorem marks_append {s t : List Char} (h : s.getLast? = some '=' → t.head? ≠ some '>') :
    marks (s ++ t) = marks s ++ marks t := by
  fun_induction marks s with
  | case1 rest ih =>
      rw [List.cons_append, List.cons_append, marks]
      apply ih
      cases rest with
      | nil => simp
      | cons d rest => simpa using h
  | case2 c rest hne ih =>
      have hc : marks (c :: (rest ++ t)) = (mark? c).toList ++ marks (rest ++ t) := by
        rw [marks]
        rintro tail rfl he
        cases rest with
        | nil => exact h rfl (by rw [show t = '>' :: tail from he]; rfl)
        | cons d rest =>
            cases he
            exact hne rest rfl rfl
      rw [List.cons_append, hc, ih, List.append_assoc]
      cases rest with
      | nil => simp
      | cons d rest => simpa using h
  | case3 => simp

theorem Bracketless.marks_eq_nil {text : String} (h : Bracketless text) :
    marks text.toList = [] := by
  unfold Bracketless at h
  generalize text.toList = cs at h
  fun_induction marks cs with
  | case1 rest ih => simp at h
  | case2 c rest hne ih =>
      rw [List.forall_mem_cons] at h
      have hc : mark? c = none := by
        have hs := h.1
        unfold mark?
        split <;> simp_all
      rw [hc, ih h.2]
      rfl
  | case3 => rfl

theorem Bracketless.getLast?_ne {text : String} (h : Bracketless text) :
    text.toList.getLast? ≠ some '=' := by
  intro hl
  exact h '=' (List.mem_of_getLast? hl) (by simp)

theorem Bracketless.append {s t : String} (hs : Bracketless s) (ht : Bracketless t) :
    Bracketless (s ++ t) := by
  intro c hc
  rw [String.toList_append, List.mem_append] at hc
  exact hc.elim (hs c) (ht c)

theorem Bracketless.copies {unit : String} (h : Bracketless unit) (n : Nat) :
    Bracketless (copies unit n) := by
  induction n with
  | zero => simp [Bracketless]
  | succ n ih => rw [copies_succ]; exact ih.append h

theorem marks_leadText {lead : String} (h : Bracketless lead) (text : String) :
    marks (leadText lead text).toList = marks text.toList := by
  have hl : ∀ line, marks (leadLine lead line).toList = marks line.toList := by
    intro line
    unfold leadLine
    split
    · rfl
    · rw [String.toList_append, marks_append (fun he => absurd he h.getLast?_ne), h.marks_eq_nil,
        List.nil_append]
  -- A line feed is no part of an arrow, so the lines can be read one by one.
  have hj : ∀ pieces : List String, marks ("\n".intercalate pieces).toList =
      pieces.flatMap fun piece => marks piece.toList := by
    intro pieces
    induction pieces with
    | nil => rfl
    | cons piece rest ih =>
        by_cases hr : rest = []
        · subst hr
          simp
        · have hn : marks ("\n".toList ++ ("\n".intercalate rest).toList) =
              marks ("\n".intercalate rest).toList := marks_append (s := "\n".toList) (by simp)
          rw [String.intercalate_cons_of_ne_nil hr, String.append_assoc, String.toList_append,
            marks_append (by simp), String.toList_append, hn, ih, List.flatMap_cons]
  have ht : marks text.toList = (lines text).flatMap fun line => marks line.toList := by
    rw [← hj, intercalate_lines]
  rw [leadText, hj, ht, List.flatMap_map]
  simp only [hl]

/-! ## Stretches of text -/

/-- With the brackets `before` open, the text opens and closes brackets so that those of `after` are
open. It does not end in the middle of an arrow. -/
structure Leaves (before : List Bracket) (text : String) (after : List Bracket) : Prop where
  read : (marks text.toList).foldlM Mark.read before = some after
  whole : text.toList.getLast? ≠ some '='

theorem Leaves.append {before between after : List Bracket} {s t : String}
    (hs : Leaves before s between) (ht : Leaves between t after) :
    Leaves before (s ++ t) after := by
  constructor
  · rw [String.toList_append, marks_append (fun he => absurd he hs.whole), List.foldlM_append,
      hs.read]
    exact ht.read
  · rw [String.toList_append, List.getLast?_append]
    have hw := ht.whole
    cases hl : t.toList.getLast? with
    | none => exact hs.whole
    | some c => rwa [hl] at hw

/-- What was open before is open again, and nothing else. -/
def Balanced (text : String) : Prop :=
  ∀ opened, Leaves opened text opened

theorem Bracketless.balanced {text : String} (h : Bracketless text) : Balanced text :=
  fun opened => ⟨by rw [h.marks_eq_nil]; rfl, h.getLast?_ne⟩

namespace Balanced

variable {s t : String}

theorem empty : Balanced "" :=
  Bracketless.balanced (by decide)

theorem append (hs : Balanced s) (ht : Balanced t) : Balanced (s ++ t) :=
  fun opened => (hs opened).append (ht opened)

theorem wrap {b : Bracket} {opener closer : String}
    (ho : ∀ opened, Leaves opened opener (b :: opened)) (hs : Balanced s)
    (hc : ∀ opened, Leaves (b :: opened) closer opened) : Balanced (opener ++ s ++ closer) :=
  fun opened => ((ho opened).append (hs _)).append (hc opened)

theorem intercalate {separator : String} (hs : Balanced separator) {pieces : List String}
    (h : ∀ piece ∈ pieces, Balanced piece) : Balanced (separator.intercalate pieces) := by
  induction pieces with
  | nil => exact empty
  | cons piece rest ih =>
      rw [List.forall_mem_cons] at h
      by_cases hr : rest = []
      · subst hr
        exact h.1
      · rw [String.intercalate_cons_of_ne_nil hr]
        exact (h.1.append hs).append (ih h.2)

theorem leadText {lead : String} (hl : Bracketless lead) (h : Balanced t) :
    Balanced (leadText lead t) := by
  intro opened
  constructor
  · rw [marks_leadText hl]
    exact (h opened).read
  · rw [getLast?_leadText]
    exact (h opened).whole

theorem wellNested (h : Balanced t) : WellNested t where
  beginning := by
    rintro front ⟨rest, hr⟩
    have hw := (h []).read
    rw [← hr, List.foldlM_append] at hw
    obtain ⟨opened, ho, -⟩ := Option.bind_eq_some_iff.1 hw
    exact ⟨opened, ho⟩
  whole := (h []).read

end Balanced

end Typings.Text
