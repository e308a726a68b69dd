import Typings.Text.Indentation
import Typings.Proofs.Declaration.Assembly

/-!
# Lines and their indentation

A text is its lines put together, and lines without line feeds are the lines of the text they make.
Indentation is put in front of lines one after the other, so indenting twice is indenting by the sum
of the depths, and it can be taken away again. The only limit is how many copies of the unit can be
counted.
-/

namespace Typings.Text

/-! ## Lines -/

theorem notMem_of_mem_splitOn {separator : Char} {cs piece : List Char}
    (h : piece ∈ cs.splitOn separator) : separator ∉ piece := by
  induction cs generalizing piece with
  | nil => simp_all
  | cons c cs ih =>
      obtain ⟨first, more, hs⟩ := List.exists_cons_of_ne_nil (List.splitOn_ne_nil separator cs)
      rw [List.splitOn_cons_eq_if_modifyHead] at h
      split at h
      case isTrue hc =>
        rcases List.mem_cons.1 h with rfl | h
        · simp
        · exact ih h
      case isFalse hc =>
        rw [hs] at h ih
        rcases List.mem_cons.1 h with rfl | h
        · have hf : separator ∉ first := ih (by simp)
          have hne : separator ≠ c := fun he => hc (by simp [he])
          simp [hf, hne]
        · exact ih (by simp [h])

theorem lines_ne_nil (text : String) : lines text ≠ [] := by
  simp [lines, List.splitOn_ne_nil]

theorem newline_notMem_of_mem_lines {text line : String} (h : line ∈ lines text) :
    '\n' ∉ line.toList := by
  obtain ⟨piece, hp, rfl⟩ := List.mem_map.1 h
  simpa using notMem_of_mem_splitOn hp

theorem lines_intercalate {pieces : List String} (hn : pieces ≠ [])
    (h : ∀ piece ∈ pieces, '\n' ∉ piece.toList) : lines ("\n".intercalate pieces) = pieces := by
  have hs : (['\n'].intercalate (pieces.map String.toList)).splitOn '\n' =
      pieces.map String.toList :=
    List.splitOn_intercalate '\n' (by simpa using h) (by simpa using hn)
  have hc : "\n".toList = ['\n'] := rfl
  rw [lines, String.toList_intercalate, hc, hs, List.map_map]
  simp [Function.comp_def]

theorem intercalate_lines (text : String) : "\n".intercalate (lines text) = text := by
  have hc : "\n".toList = ['\n'] := rfl
  rw [← String.toList_inj, String.toList_intercalate, hc, lines, List.map_map]
  simp [Function.comp_def, List.intercalate_splitOn]

theorem lines_append (s t : String) : lines (s ++ "\n" ++ t) = lines s ++ lines t := by
  have hj : "\n".intercalate (lines s ++ lines t) = s ++ "\n" ++ t := by
    rw [String.intercalate_append_of_ne_nil (lines_ne_nil s) (lines_ne_nil t), intercalate_lines,
      intercalate_lines]
  rw [← hj]
  refine lines_intercalate (by simp [lines_ne_nil]) fun line hl => ?_
  exact (List.mem_append.1 hl).elim newline_notMem_of_mem_lines newline_notMem_of_mem_lines

theorem intercalate_eq_empty_iff {pieces : List String} :
    "\n".intercalate pieces = "" ↔ pieces = [] ∨ pieces = [""] := by
  match pieces with
  | [] => simp
  | [piece] => simp
  | piece :: next :: more => simp

/-! ## Copies -/

theorem copies_append (unit : String) (m n : Nat) :
    copies unit m ++ copies unit n = copies unit (m + n) := by
  induction n with
  | zero => simp
  | succ n ih => rw [copies_succ, ← String.append_assoc, ih, ← Nat.add_assoc, copies_succ]

theorem newline_notMem_copies {unit : String} (h : '\n' ∉ unit.toList) (n : Nat) :
    '\n' ∉ (copies unit n).toList := by
  induction n with
  | zero => simp
  | succ n ih => simp [copies_succ, ih, h]

/-- The count and the length of so many copies are within the bound. -/
def Fits (unit : String) (count : Nat) : Prop :=
  count < countBound ∧ count * unit.length < countBound

instance (unit : String) (count : Nat) : Decidable (Fits unit count) :=
  inferInstanceAs (Decidable (_ ∧ _))

theorem repeated_eq_ok_iff {unit lead : String} {count : Nat} :
    repeated unit count = .ok lead ↔ Fits unit count ∧ lead = copies unit count := by
  simp only [repeated, copyCount, Fits, Int.toNat_natCast]
  split
  case isTrue h =>
    refine ⟨fun he => (by cases he), fun hf => ?_⟩
    obtain ⟨⟨hcount, hsize⟩, -⟩ := hf
    omega
  case isFalse h =>
    have hf : count < countBound ∧ count * unit.length < countBound := by omega
    exact ⟨fun he => ⟨hf, (Except.ok.inj he).symm⟩, fun he => congrArg Except.ok he.2.symm⟩

theorem repeated_of_fits {unit : String} {count : Nat} (h : Fits unit count) :
    repeated unit count = .ok (copies unit count) :=
  repeated_eq_ok_iff.2 ⟨h, rfl⟩

theorem fits_zero (unit : String) : Fits unit 0 := by
  simp [Fits, countBound]

theorem Fits.mono {unit : String} {m n : Nat} (h : Fits unit n) (hm : m ≤ n) : Fits unit m :=
  ⟨Nat.lt_of_le_of_lt hm h.1, Nat.lt_of_le_of_lt (Nat.mul_le_mul_right _ hm) h.2⟩

/-! ## Indentation -/

theorem leadLine_eq_empty_iff {lead line : String} : leadLine lead line = "" ↔ line = "" := by
  by_cases h : line = "" <;> simp [leadLine, h]

@[simp] theorem leadLine_empty (line : String) : leadLine "" line = line := by
  simp [leadLine]

theorem leadLine_leadLine (lead more line : String) :
    leadLine lead (leadLine more line) = leadLine (lead ++ more) line := by
  by_cases h : line = "" <;> simp [leadLine, h, String.append_assoc]

theorem newline_notMem_leadLine {lead line : String} (hl : '\n' ∉ lead.toList)
    (h : '\n' ∉ line.toList) : '\n' ∉ (leadLine lead line).toList := by
  unfold leadLine
  split
  · exact h
  · simp [hl, h]

@[simp] theorem leadText_empty (text : String) : leadText "" text = text := by
  have h : leadLine "" = id := funext leadLine_empty
  rw [leadText, h, List.map_id, intercalate_lines]

theorem leadText_of_empty (lead : String) : leadText lead "" = "" := rfl

theorem lines_leadText {lead : String} (h : '\n' ∉ lead.toList) (text : String) :
    lines (leadText lead text) = (lines text).map (leadLine lead) := by
  refine lines_intercalate (by simp [lines_ne_nil]) ?_
  simp only [List.forall_mem_map]
  intro line hl
  exact newline_notMem_leadLine h (newline_notMem_of_mem_lines hl)

theorem leadText_leadText {more : String} (h : '\n' ∉ more.toList) (lead text : String) :
    leadText lead (leadText more text) = leadText (lead ++ more) text := by
  rw [leadText, lines_leadText h, List.map_map, leadText]
  congr 1
  exact List.map_congr_left fun line _ => leadLine_leadLine lead more line

theorem leadText_append (lead s t : String) :
    leadText lead (s ++ "\n" ++ t) = leadText lead s ++ "\n" ++ leadText lead t := by
  rw [leadText, lines_append, List.map_append,
    String.intercalate_append_of_ne_nil (by simp [lines_ne_nil]) (by simp [lines_ne_nil]),
    ← leadText, ← leadText]

/-- The empty line between two paragraphs has no lead. -/
theorem leadText_paragraphs (lead s t : String) :
    leadText lead (s ++ "\n\n" ++ t) = leadText lead s ++ "\n\n" ++ leadText lead t := by
  have hn : ∀ above below : String,
      above ++ "\n\n" ++ below = above ++ "\n" ++ ("" ++ "\n" ++ below) := by
    intro above below
    rw [← String.toList_inj]
    simp
  rw [hn, leadText_append, leadText_append, leadText_of_empty, ← hn]

/-- A lead stands in front of lines, so it is not the end of a text. -/
theorem getLast?_leadText (lead text : String) :
    (leadText lead text).toList.getLast? = text.toList.getLast? := by
  have hl : ∀ line, (leadLine lead line).toList.getLast? = line.toList.getLast? := by
    intro line
    by_cases h : line = ""
    · simp [leadLine, h]
    · obtain ⟨c, hc⟩ : ∃ c, line.toList.getLast? = some c :=
        Option.ne_none_iff_exists'.1 (by simpa using h)
      simp [leadLine, h, hc]
  have hj : ∀ pieces : List String,
      ("\n".intercalate (pieces.map (leadLine lead))).toList.getLast? =
        ("\n".intercalate pieces).toList.getLast? := by
    intro pieces
    induction pieces with
    | nil => rfl
    | cons piece rest ih =>
        by_cases hr : rest = []
        · subst hr
          simpa using hl piece
        · rw [List.map_cons, String.intercalate_cons_of_ne_nil (by simpa using hr),
            String.intercalate_cons_of_ne_nil hr]
          simp only [String.toList_append, List.getLast?_append, ih, hl]
  rw [leadText, hj, intercalate_lines]

theorem indentText_of_ne_empty {text : String} (h : text ≠ "") (unit : String) (depth : Nat) :
    indentText unit depth text = (repeated unit depth).map (leadText · text) := by
  unfold indentText
  split
  case isTrue hd =>
    have hz : depth = 0 := by
      have := hd.resolve_right h
      omega
    rw [hz, repeated_of_fits (fits_zero unit), copies_zero]
    exact congrArg Except.ok (leadText_empty text).symm
  case isFalse => rfl

/-- A text can be indented as far as its indentation can be made. The empty text needs none. -/
theorem indentText_eq_ok_iff {unit text led : String} {depth : Nat} :
    indentText unit depth text = .ok led ↔
      (text = "" ∨ Fits unit depth) ∧ led = leadText (copies unit depth) text := by
  by_cases ht : text = ""
  · rw [ht, leadText_of_empty, indentText, if_pos (.inr rfl)]
    simp [eq_comm]
  · rw [indentText_of_ne_empty ht]
    cases hr : repeated unit depth with
    | error m =>
        refine ⟨fun h => (by cases h), fun h => ?_⟩
        rw [repeated_of_fits (h.1.resolve_left ht)] at hr
        cases hr
    | ok lead =>
        obtain ⟨hf, rfl⟩ := repeated_eq_ok_iff.1 hr
        refine ⟨fun h => ⟨.inr hf, (Except.ok.inj h).symm⟩, fun h => ?_⟩
        rw [h.2]
        rfl

/-! ## Indentation taken away -/

/-- A text with as many characters as `lead` has taken away from the front of every line. -/
def unleadText (lead text : String) : String :=
  "\n".intercalate ((lines text).map fun line => String.ofList (line.toList.drop lead.length))

theorem drop_leadLine (lead line : String) :
    (leadLine lead line).toList.drop lead.length = line.toList := by
  by_cases h : line = ""
  · simp [leadLine, h]
  · simp [leadLine, h, ← String.length_toList]

theorem unleadText_leadText {lead : String} (h : '\n' ∉ lead.toList) (text : String) :
    unleadText lead (leadText lead text) = text := by
  rw [unleadText, lines_leadText h, List.map_map]
  simp only [Function.comp_def, drop_leadLine, String.ofList_toList, List.map_id']
  exact intercalate_lines text

/-- A text is another one with a lead in front of its lines: it has as many lines, the same of them
are empty, and all others are those of the other text behind the lead. -/
structure Leads (lead text led : String) : Prop where
  count : (lines led).length = (lines text).length
  blank : ∀ i : Nat, (lines led)[i]? = some "" ↔ (lines text)[i]? = some ""
  front : ∀ line ∈ lines led, line ≠ "" → lead.toList <+: line.toList
  back : unleadText lead led = text

theorem leadText_leads {lead : String} (h : '\n' ∉ lead.toList) (text : String) :
    Leads lead text (leadText lead text) where
  count := by rw [lines_leadText h, List.length_map]
  blank i := by
    rw [lines_leadText h, List.getElem?_map]
    cases (lines text)[i]? with
    | none => simp
    | some line => simp [leadLine_eq_empty_iff]
  front := by
    rw [lines_leadText h]
    simp only [List.forall_mem_map]
    intro line _ hl
    rw [ne_eq, leadLine_eq_empty_iff] at hl
    simp [leadLine, hl]
  back := unleadText_leadText h text

/-! ## Depths -/

theorem indentText_leads {unit : String} (hu : '\n' ∉ unit.toList) {depth : Nat}
    {text led : String} (h : indentText unit depth text = .ok led) :
    Leads (copies unit depth) text led := by
  obtain ⟨-, rfl⟩ := indentText_eq_ok_iff.1 h
  exact leadText_leads (newline_notMem_copies hu depth) text

/-- The lead of the sum is made of the leads of both depths, so these can be made if it can. -/
theorem indentText_bind_of_add {unit : String} (hu : '\n' ∉ unit.toList) {first second : Nat}
    {text led : String} (h : indentText unit (first + second : Nat) text = .ok led) :
    (indentText unit first text >>= indentText unit second) = .ok led := by
  obtain ⟨hf, rfl⟩ := indentText_eq_ok_iff.1 h
  have hfirst : indentText unit first text = .ok (leadText (copies unit first) text) :=
    indentText_eq_ok_iff.2 ⟨hf.imp_right fun hs => hs.mono (by omega), rfl⟩
  rw [hfirst]
  refine indentText_eq_ok_iff.2 ⟨?_, ?_⟩
  · rcases hf with rfl | hs
    · exact .inl (leadText_of_empty _)
    · exact .inr (hs.mono (by omega))
  · rw [leadText_leadText (newline_notMem_copies hu first), copies_append, Nat.add_comm]

/-- Paragraphs are indented one by one, and if one of them cannot be, then none can. -/
theorem indentText_paragraphs {s t : String} (hs : s ≠ "") (ht : t ≠ "") (unit : String)
    (depth : Nat) :
    indentText unit depth (s ++ "\n\n" ++ t) = do
      let above ← indentText unit depth s
      let below ← indentText unit depth t
      return above ++ "\n\n" ++ below := by
  have hst : s ++ "\n\n" ++ t ≠ "" := append_ne_empty (append_ne_empty hs)
  rw [indentText_of_ne_empty hs, indentText_of_ne_empty ht, indentText_of_ne_empty hst]
  cases repeated unit depth with
  | error m => rfl
  | ok lead => exact congrArg Except.ok (leadText_paragraphs lead s t)

/-- Indenting is an action of the depths on texts that can be undone, as far as the indentation can
be made. -/
theorem indentText_action {unit : String} (hu : '\n' ∉ unit.toList) (a b : Nat) :
    (∀ text, (∃ led, indentText unit a text = .ok led) ↔ text = "" ∨ Fits unit a) ∧
    (∀ text led, indentText unit (a + b : Nat) text = .ok led →
      (indentText unit a text >>= indentText unit b) = .ok led) ∧
    (∀ text led, indentText unit a text = .ok led → Leads (copies unit a) text led) ∧
    (∀ s t led, indentText unit a s = .ok led → indentText unit a t = .ok led → s = t) ∧
    (∀ s t, s ≠ "" → t ≠ "" → indentText unit a (s ++ "\n\n" ++ t) = do
      let above ← indentText unit a s
      let below ← indentText unit a t
      return above ++ "\n\n" ++ below) := by
  refine ⟨fun text => ?_, fun text led => indentText_bind_of_add hu,
    fun text led => indentText_leads hu, fun s t led hs ht => ?_,
    fun s t hs ht => indentText_paragraphs hs ht unit a⟩
  · simp [indentText_eq_ok_iff]
  · rw [← (indentText_leads hu hs).back, (indentText_leads hu ht).back]

theorem indentText_action_of_ragged :
    '\n' ∉ "\t".toList ∧
      (indentText "\t" (1 : Nat) "x\n\n \n" >>= indentText "\t" (2 : Nat)) =
        .ok "\t\t\tx\n\n\t\t\t \n" ∧
      Leads (copies "\t" 1) "x\n\n \n" "\tx\n\n\t \n" ∧
      indentText "\t" (1 : Nat) ("x\n" ++ "\n\n" ++ "\ny") = .ok "\tx\n\n\n\n\ty" := by
  have hu : '\n' ∉ "\t".toList := by decide
  have hf : Fits "\t" 3 := by decide
  have hone : copies "\t" 1 = "\t" := by rw [copies_succ, copies_zero]; rfl
  have hthree : copies "\t" 3 = "\t\t\t" := by
    rw [copies_succ, copies_succ, hone]
    rfl
  obtain ⟨hmade, hadd, hleads, -, hparagraphs⟩ := indentText_action hu 1 2
  have hled : ∀ text, indentText "\t" (1 : Nat) text = .ok (leadText "\t" text) := by
    intro text
    obtain ⟨led, hl⟩ := (hmade text).2 (.inr (hf.mono (by omega)))
    rw [hl, (indentText_eq_ok_iff.1 hl).2, hone]
  refine ⟨hu, hadd _ _ (indentText_eq_ok_iff.2 ⟨.inr hf, ?_⟩), hleads _ _ (hled _), ?_⟩
  · rw [hthree]
    rfl
  · rw [hparagraphs _ _ (by decide) (by decide), hled, hled]
    rfl

/-- There are depths that can be made one after the other, but not at once, even for a unit without
characters. -/
theorem indentText_beyond_countBound :
    ¬ ∀ (text unit : String) (a b : Nat), '\n' ∉ unit.toList →
      (indentText unit a text >>= indentText unit b) = indentText unit (a + b : Nat) text := by
  intro h
  have hhalf : Fits "" (countBound / 2) := by decide
  have hmade : ∀ text, indentText "" (countBound / 2 : Nat) text =
      .ok (leadText (copies "" (countBound / 2)) text) :=
    fun text => indentText_eq_ok_iff.2 ⟨.inr hhalf, rfl⟩
  have hsum := h "a" "" (countBound / 2) (countBound / 2) (by simp)
  rw [hmade] at hsum
  have hboth := (indentText_eq_ok_iff.1 (hsum.symm.trans (hmade _))).1
  exact absurd (hboth.resolve_left (by decide)).1 (by decide)

end Typings.Text
