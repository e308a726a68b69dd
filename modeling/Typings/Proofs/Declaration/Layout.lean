import Typings.Proofs.Declaration.Insertion
import Typings.Proofs.Syntax.Named
import Typings.Proofs.Text.Indentation

/-!
# The layout of statements

A statement has a layout that knows of no depth, no unit of indentation and no file: its lines, each
with the number of levels that it stands below the statement. The text of the statement at a depth
is its layout with the indentation of the depth in front of the lines, as far as so much indentation
can be made. So depth and unit show in nothing but what stands in front of lines.
-/

namespace Typings

/-! ## Layouts -/

/-- A line of a statement, `depth` levels below it. -/
structure Line where
  depth : Nat
  text : String

def Line.deeper (line : Line) : Line :=
  ⟨line.depth + 1, line.text⟩

/-- The text of a statement that holds no others. No context has a part in it. -/
def Statement.flatText (s : Statement) : Except Failure String :=
  (s.renderFlat ⟨"", ""⟩).result

/-- The lines of a text; an empty text has none. -/
def flatLayout (text : String) : List Line :=
  if text = "" then [] else (Text.lines text).map (⟨0, ·⟩)

/-- Lines above others, with an empty line in between. -/
def stackLines : List Line → List Line → List Line
  | [], below => below
  | above, [] => above
  | above, below => above ++ ⟨0, ""⟩ :: below

def moduleHeader (name : String) : String :=
  "declare module '" ++ name ++ "' \x7b"

def moduleFooter : String := "\x7d"

def moduleLayout (name : String) (lines : List Line) : List Line :=
  ⟨0, moduleHeader name⟩ :: (lines ++ [⟨0, moduleFooter⟩])

mutual

def Statement.layout : Statement → Except Failure (List Line)
  | .block b => b.layout
  | .declareModule name body _ => do
    let shown ← shownText name
    return moduleLayout shown (← body.layout)
  | s => do return flatLayout (← s.flatText)

def Block.layout : Block → Except Failure (List Line)
  | ⟨body, _⟩ => do return (← bodyLayout body).map Line.deeper

def bodyLayout : List Statement → Except Failure (List Line)
  | [] => .ok []
  | s :: rest => do
    let lines ← s.layout
    return stackLines lines (← bodyLayout rest)

end

/-- The lines put together, with the indentation of the depth in front of those that are not
empty. -/
def layoutText (unit : String) (depth : Nat) (lines : List Line) : String :=
  "\n".intercalate
    (lines.map fun line => Text.leadLine (Text.copies unit (depth + line.depth)) line.text)

mutual

def Statement.moduleNames : Statement → List Json
  | .block b => b.moduleNames
  | .declareModule name body _ => name :: body.moduleNames
  | _ => []

def Block.moduleNames : Block → List Json
  | ⟨body, _⟩ => bodyModuleNames body

def bodyModuleNames : List Statement → List Json
  | [] => []
  | s :: rest => s.moduleNames ++ bodyModuleNames rest

end

/-! ## Texts below each other -/

theorem stack_pair (above below : String) :
    stack [above, below] =
      if above = "" then below else if below = "" then above else above ++ "\n\n" ++ below := by
  by_cases ha : above = "" <;> by_cases hb : below = "" <;> simp [stack, ha, hb]

theorem stack_cons (text : String) (texts : List String) :
    stack (text :: texts) = stack [text, stack texts] := by
  rw [stack_pair]
  by_cases ht : text = ""
  · rw [if_pos ht]
    apply stack_eq_of_filter_eq
    simp [ht]
  · rw [if_neg ht]
    have hf : (text :: texts).filter (· != "") = text :: texts.filter (· != "") := by simp [ht]
    by_cases hs : texts.filter (· != "") = []
    · rw [if_pos (stack_of_filter_eq_nil hs), stack, hf, hs, String.intercalate_singleton]
    · rw [if_neg (stack_ne_empty hs), stack, hf, String.intercalate_cons_of_ne_nil hs, stack]

@[simp] theorem stackLines_nil_right (above : List Line) : stackLines above [] = above := by
  cases above <;> rfl

theorem stackLines_eq_append {above below : List Line} (ha : above ≠ []) (hb : below ≠ []) :
    stackLines above below = above ++ ⟨0, ""⟩ :: below := by
  cases above with
  | nil => exact absurd rfl ha
  | cons => cases below with
    | nil => exact absurd rfl hb
    | cons => rfl

@[simp] theorem layoutText_nil (unit : String) (depth : Nat) : layoutText unit depth [] = "" := rfl

theorem layoutText_deeper (unit : String) (depth : Nat) (lines : List Line) :
    layoutText unit depth (lines.map Line.deeper) = layoutText unit (depth + 1) lines := by
  simp [layoutText, Line.deeper, Function.comp_def, Nat.add_assoc, Nat.add_comm 1]

theorem layoutText_append {unit : String} {depth : Nat} {above below : List Line}
    (ha : above ≠ []) (hb : below ≠ []) :
    layoutText unit depth (above ++ below) =
      layoutText unit depth above ++ "\n" ++ layoutText unit depth below := by
  rw [layoutText, List.map_append,
    String.intercalate_append_of_ne_nil (by simpa using ha) (by simpa using hb)]
  rfl

/-- Lines that are not just one empty line. -/
def Proper (lines : List Line) : Prop :=
  ∀ depth, lines ≠ [⟨depth, ""⟩]

theorem Proper.nil : Proper [] := by
  intro depth h
  cases h

theorem Proper.layoutText_eq_empty_iff {lines : List Line} (h : Proper lines) {unit : String}
    {depth : Nat} : layoutText unit depth lines = "" ↔ lines = [] := by
  rw [layoutText, Text.intercalate_eq_empty_iff]
  constructor
  · rintro (he | he)
    · simpa using he
    · obtain ⟨line, rfl, hl⟩ := List.map_eq_singleton_iff.1 he
      rw [Text.leadLine_eq_empty_iff] at hl
      exact absurd (congrArg (fun text => [Line.mk line.depth text]) hl) (h line.depth)
  · rintro rfl
    exact .inl rfl

theorem Proper.deeper {lines : List Line} (h : Proper lines) : Proper (lines.map Line.deeper) := by
  intro depth he
  obtain ⟨line, rfl, hl⟩ := List.map_eq_singleton_iff.1 he
  have ht : line.text = "" := congrArg Line.text hl
  exact h line.depth (by rw [← ht])

theorem Proper.stackLines {above below : List Line} (ha : Proper above) (hb : Proper below) :
    Proper (stackLines above below) := by
  by_cases hea : above = []
  · subst hea
    exact hb
  by_cases heb : below = []
  · subst heb
    rwa [stackLines_nil_right]
  · intro depth he
    rw [stackLines_eq_append hea heb] at he
    have hl := congrArg List.length he
    have := List.length_pos_iff.2 hea
    simp only [List.length_append, List.length_cons, List.length_nil] at hl
    omega

theorem Proper.flatLayout (text : String) : Proper (flatLayout text) := by
  intro depth he
  by_cases ht : text = ""
  · rw [Typings.flatLayout, if_pos ht] at he
    cases he
  · rw [Typings.flatLayout, if_neg ht] at he
    obtain ⟨line, hl, hn⟩ := List.map_eq_singleton_iff.1 he
    have hj := Text.intercalate_lines text
    cases hn
    rw [hl] at hj
    exact ht hj.symm

theorem layoutText_stackLines {above below : List Line} (ha : Proper above) (hb : Proper below)
    (unit : String) (depth : Nat) :
    layoutText unit depth (stackLines above below) =
      stack [layoutText unit depth above, layoutText unit depth below] := by
  rw [stack_pair]
  by_cases hea : above = []
  · subst hea
    rfl
  have hta : layoutText unit depth above ≠ "" := mt ha.layoutText_eq_empty_iff.1 hea
  rw [if_neg hta]
  by_cases heb : below = []
  · subst heb
    rw [stackLines_nil_right, layoutText_nil, if_pos rfl]
  have htb : layoutText unit depth below ≠ "" := mt hb.layoutText_eq_empty_iff.1 heb
  have hs : layoutText unit depth ([⟨0, ""⟩] ++ below) = "\n" ++ layoutText unit depth below := by
    rw [layoutText_append (by simp) heb]
    simp [layoutText, Text.leadLine]
  have hn : "\n\n" = "\n" ++ "\n" := rfl
  rw [if_neg htb, stackLines_eq_append hea heb, layoutText_append hea (by simp),
    ← List.singleton_append, hs, hn]
  simp only [String.append_assoc]

/-! ## Layouts and texts -/

theorem Specifier.renderImport_result (ctx other : Context) (s : Specifier) :
    (s.renderImport ctx).result = (s.renderImport other).result := by
  cases s with
  | importNamespace => exact ctx.result_record other _ _ _
  | _ => rfl

theorem Specifier.renderExport_result (ctx other : Context) (s : Specifier) :
    (s.renderExport ctx).result = (s.renderExport other).result := by
  cases s with
  | exportDefault | exportNamespace => exact ctx.result_record other _ _ _
  | _ => rfl

theorem Statement.renderFlat_result (ctx : Context) (s : Statement) :
    (s.renderFlat ctx).result = s.flatText := by
  unfold Statement.flatText
  cases s with
  | function | variableDeclaration | declareClass => exact ctx.result_record ⟨"", ""⟩ _ _ _
  | importDeclaration source specifiers kind loc =>
      have h := Specifier.renderImport_result ctx ⟨"", ""⟩
      simp only [Statement.renderFlat, renderImport, Rendering.result_bind,
        Rendering.result_mapM, h]
  | exportNamed declaration specifiers source kind loc =>
      cases declaration with
      | some d => rfl
      | none =>
          have h := Specifier.renderExport_result ctx ⟨"", ""⟩
          simp only [Statement.renderFlat, renderExport, Rendering.result_bind,
            Rendering.result_mapM, h]
  | _ => rfl

/-- The indentation of every line at the depth can be made. -/
def LinesFit (unit : String) (depth : Nat) (lines : List Line) : Prop :=
  ∀ line ∈ lines, Text.Fits unit (depth + line.depth)

theorem linesFit_deeper {unit : String} {depth : Nat} {lines : List Line} :
    LinesFit unit depth (lines.map Line.deeper) ↔ LinesFit unit (depth + 1) lines := by
  simp [LinesFit, Line.deeper, Nat.add_assoc, Nat.add_comm 1]

/-- The empty line between two layouts needs no indentation that their lines do not need. -/
theorem linesFit_stackLines {unit : String} {depth : Nat} {above below : List Line} :
    LinesFit unit depth (stackLines above below) ↔
      LinesFit unit depth above ∧ LinesFit unit depth below := by
  cases above with
  | nil => simp [stackLines, LinesFit]
  | cons line above =>
      cases below with
      | nil => simp [LinesFit]
      | cons next below =>
          simp only [stackLines, LinesFit, List.forall_mem_append, List.forall_mem_cons]
          refine ⟨fun h => ⟨h.1, h.2.2⟩, fun h => ⟨h.1, ?_, h.2⟩⟩
          exact h.1.1.mono (by simp)

/-- The text is that of the layout, and there is one if there is a layout whose indentation can be
made. -/
def LaidOut (unit : String) (depth : Nat) (r : Except Failure String)
    (layout : Except Failure (List Line)) : Prop :=
  ∀ text, r = .ok text ↔
    ∃ lines, layout = .ok lines ∧ LinesFit unit depth lines ∧ text = layoutText unit depth lines

/-! ## What all layouts have in common -/

/-- A property that layouts have if the names of the modules in them have theirs. -/
structure LayoutInvariant (N : String → Prop) (P : List Line → Prop) : Prop where
  nil : P []
  flat : ∀ text, P (flatLayout text)
  stack : ∀ {above below}, P above → P below → P (stackLines above below)
  deeper : ∀ {lines}, P lines → P (lines.map Line.deeper)
  module : ∀ {name : String} {lines}, N name → P lines → P (moduleLayout name lines)

mutual

theorem Statement.layout_invariant {N : String → Prop} {P : List Line → Prop}
    (hP : LayoutInvariant N P) : (s : Statement) → (∀ name ∈ s.moduleNames, Shows N name) →
      {lines : List Line} → s.layout = .ok lines → P lines
  | s, hN, lines, h => by
      cases s with
      | block b =>
          rw [Statement.moduleNames] at hN
          rw [Statement.layout] at h
          exact Block.layout_invariant hP b hN h
      | declareModule name body loc =>
          rw [Statement.moduleNames, List.forall_mem_cons] at hN
          rw [Statement.layout] at h
          obtain ⟨shown, hs, h⟩ := bind_eq_ok_iff.1 h
          obtain ⟨inner, hi, hl⟩ := bind_eq_ok_iff.1 h
          cases hl
          exact hP.module (hN.1 shown (shownText_eq_ok_iff.1 hs))
            (Block.layout_invariant hP body hN.2 hi)
      | _ =>
          obtain ⟨text, -, hl⟩ := bind_eq_ok_iff.1 h
          cases hl
          exact hP.flat text

theorem Block.layout_invariant {N : String → Prop} {P : List Line → Prop}
    (hP : LayoutInvariant N P) : (b : Block) → (∀ name ∈ b.moduleNames, Shows N name) →
      {lines : List Line} → b.layout = .ok lines → P lines
  | ⟨body, _⟩, hN, lines, h => by
      rw [Block.moduleNames] at hN
      obtain ⟨inner, hi, hl⟩ := bind_eq_ok_iff.1 h
      cases hl
      exact hP.deeper (bodyLayout_invariant hP body hN hi)

theorem bodyLayout_invariant {N : String → Prop} {P : List Line → Prop}
    (hP : LayoutInvariant N P) : (body : List Statement) →
      (∀ name ∈ bodyModuleNames body, Shows N name) → {lines : List Line} →
        bodyLayout body = .ok lines → P lines
  | [], _, lines, h => by
      cases h
      exact hP.nil
  | s :: rest, hN, lines, h => by
      rw [bodyModuleNames, List.forall_mem_append] at hN
      obtain ⟨above, ha, h⟩ := bind_eq_ok_iff.1 h
      obtain ⟨below, hb, hl⟩ := bind_eq_ok_iff.1 h
      cases hl
      exact hP.stack (Statement.layout_invariant hP s hN.1 ha)
        (bodyLayout_invariant hP rest hN.2 hb)

end

theorem Proper.module (name : String) (lines : List Line) : Proper (moduleLayout name lines) := by
  intro depth h
  have hl := congrArg List.length h
  simp [moduleLayout] at hl

theorem Proper.invariant : LayoutInvariant (fun _ => True) Proper where
  nil := .nil
  flat := .flatLayout
  stack := .stackLines
  deeper := .deeper
  module _ _ := .module _ _

/-- No line of the layout contains a line feed. -/
def Unbroken (lines : List Line) : Prop :=
  ∀ line ∈ lines, '\n' ∉ line.text.toList

theorem Unbroken.invariant : LayoutInvariant (fun name => '\n' ∉ name.toList) Unbroken where
  nil := by simp [Unbroken]
  flat text := by
    unfold flatLayout Unbroken
    split
    · simp
    · simpa using fun line => Text.newline_notMem_of_mem_lines
  stack {above below} ha hb := by
    unfold stackLines
    split
    · exact hb
    · exact ha
    · simp only [Unbroken, List.forall_mem_append, List.forall_mem_cons]
      exact ⟨ha, by simp, hb⟩
  deeper h := by simpa [Unbroken, Line.deeper] using h
  module {name lines} hn h := by
    simp only [Unbroken, moduleLayout, List.forall_mem_cons, List.forall_mem_append]
    refine ⟨?_, h, by simp [moduleFooter]⟩
    change '\n' ∉ ("declare module '" ++ name ++ "' \x7b").toList
    simp only [String.toList_append, List.mem_append, not_or]
    exact ⟨⟨by decide, hn⟩, by decide⟩

/-! ## Texts from layouts -/

theorem layoutText_flatLayout (unit : String) (depth : Nat) (text : String) :
    layoutText unit depth (flatLayout text) = Text.leadText (Text.copies unit depth) text := by
  by_cases ht : text = ""
  · rw [flatLayout, if_pos ht, ht]
    rfl
  · rw [flatLayout, if_neg ht, layoutText, List.map_map]
    rfl

theorem linesFit_flatLayout {unit : String} {depth : Nat} {text : String} :
    LinesFit unit depth (flatLayout text) ↔ text = "" ∨ Text.Fits unit depth := by
  by_cases ht : text = ""
  · simp [flatLayout, ht, LinesFit]
  · obtain ⟨line, more, hl⟩ := List.exists_cons_of_ne_nil (Text.lines_ne_nil text)
    have hc : ∀ line ∈ flatLayout text, line.depth = 0 := by simp [flatLayout, ht]
    constructor
    · intro h
      exact .inr (h ⟨0, line⟩ (by simp [flatLayout, ht, hl]))
    · rintro (h | h) line hm
      · exact absurd h ht
      · rwa [hc line hm]

theorem Context.indentText_laidOut (ctx : Context) (depth : Nat) (text : String) :
    LaidOut ctx.indent depth (ctx.indentText depth text).result (.ok (flatLayout text)) := by
  intro shown
  have hr : (ctx.indentText depth text).result =
      (Text.indentText ctx.indent depth text).mapError .malformed := rfl
  simp only [hr, mapError_eq_ok_iff, Text.indentText_eq_ok_iff, Except.ok.injEq, exists_eq_left',
    layoutText_flatLayout, linesFit_flatLayout]

theorem Context.lead_eq_ok_iff {ctx : Context} {depth : Nat} {lead : String} :
    (ctx.lead depth).result = .ok lead ↔
      Text.Fits ctx.indent depth ∧ lead = Text.copies ctx.indent depth := by
  have hr : (ctx.lead depth).result =
      (Text.repeated ctx.indent depth).mapError .malformed := rfl
  rw [hr, mapError_eq_ok_iff, Text.repeated_eq_ok_iff]

theorem layoutText_singleton {unit : String} {depth : Nat} {text : String} (h : text ≠ "") :
    layoutText unit depth [⟨0, text⟩] = Text.copies unit depth ++ text :=
  if_neg h

theorem renderModule_eq {unit : String} {depth : Nat} {name : String} {lines : List Line}
    (h : Proper lines) :
    renderModule (Text.copies unit depth) name (layoutText unit depth lines) =
      layoutText unit depth (moduleLayout name lines) := by
  have hn : moduleHeader name ≠ "" := append_ne_empty (append_ne_empty (by decide))
  have hh : Text.copies unit depth ++ "declare module '" ++ name ++ "' \x7b" =
      layoutText unit depth [⟨0, moduleHeader name⟩] := by
    rw [layoutText_singleton hn]
    change _ = _ ++ ("declare module '" ++ name ++ "' \x7b")
    simp only [String.append_assoc]
  have hf : Text.copies unit depth ++ "\x7d" = layoutText unit depth [⟨0, moduleFooter⟩] :=
    (layoutText_singleton (by decide)).symm
  rw [renderModule, hh, hf]
  by_cases hl : lines = []
  · subst hl
    have ha : moduleLayout name [] = [⟨0, moduleHeader name⟩] ++ [⟨0, moduleFooter⟩] := rfl
    rw [ha, layoutText_append (by simp) (by simp), if_pos (layoutText_nil unit depth)]
    rfl
  · have ht : layoutText unit depth lines ≠ "" := mt h.layoutText_eq_empty_iff.1 hl
    have ha : moduleLayout name lines =
        [⟨0, moduleHeader name⟩] ++ (lines ++ [⟨0, moduleFooter⟩]) := rfl
    rw [ha, layoutText_append (by simp) (by simp), layoutText_append hl (by simp), if_neg ht]
    simp [String.append_assoc]

theorem LaidOut.bind {α : Type} {unit : String} {depth : Nat} {f : α → Except Failure String}
    {g : α → Except Failure (List Line)} (h : ∀ a, LaidOut unit depth (f a) (g a))
    (x : Except Failure α) : LaidOut unit depth (x >>= f) (x >>= g) := by
  cases x with
  | ok a => exact h a
  | error e => exact fun text => ⟨fun h => (by cases h), fun ⟨_, h, _⟩ => (by cases h)⟩

mutual

theorem Statement.render_laidOut (ctx : Context) : (s : Statement) → (depth : Nat) →
    LaidOut ctx.indent depth (s.render ctx depth).result s.layout
  | s, depth => by
      cases s with
      | block b =>
          rw [Statement.render, Statement.layout]
          exact Block.render_laidOut ctx b depth
      | declareModule name body loc =>
          have hb := Block.render_laidOut ctx body depth
          intro text
          rw [Statement.render, Statement.layout, Rendering.result_bind]
          constructor
          · intro h
            obtain ⟨lead, hl, h⟩ := bind_eq_ok_iff.1 h
            obtain ⟨hf, rfl⟩ := Context.lead_eq_ok_iff.1 hl
            rw [Rendering.result_bind, Rendering.result_ofExcept] at h
            obtain ⟨shown, hs, h⟩ := bind_eq_ok_iff.1 h
            rw [Rendering.result_bind] at h
            obtain ⟨inner, hi, h⟩ := bind_eq_ok_iff.1 h
            obtain ⟨lines, hlines, hfit, rfl⟩ := (hb inner).1 hi
            cases h
            refine ⟨moduleLayout shown lines, by rw [hs, hlines]; rfl, ?_, ?_⟩
            -- Header and footer use the same lead, so one fact serves both lines.
            · simp only [LinesFit, moduleLayout, List.forall_mem_cons, List.forall_mem_append]
              exact ⟨hf, hfit, hf, by simp⟩
            · exact renderModule_eq (Block.layout_invariant Proper.invariant body (by simp) hlines)
          · rintro ⟨_, h, hfit, rfl⟩
            obtain ⟨shown, hs, h⟩ := bind_eq_ok_iff.1 h
            obtain ⟨lines, hlines, h⟩ := bind_eq_ok_iff.1 h
            cases h
            simp only [LinesFit, moduleLayout, List.forall_mem_cons, List.forall_mem_append] at hfit
            have hl := Context.lead_eq_ok_iff.2 ⟨hfit.1, rfl⟩
            have hi := (hb _).2 ⟨lines, hlines, hfit.2.1, rfl⟩
            refine bind_eq_ok_iff.2 ⟨_, hl, ?_⟩
            rw [Rendering.result_bind, Rendering.result_ofExcept]
            refine bind_eq_ok_iff.2 ⟨_, hs, ?_⟩
            rw [Rendering.result_bind]
            refine bind_eq_ok_iff.2 ⟨_, hi, ?_⟩
            rw [← renderModule_eq
              (Block.layout_invariant Proper.invariant body (by simp) hlines)]
            rfl
      -- All other statements are rendered at depth zero, and their text is indented afterwards.
      | _ =>
          rw [Statement.render_of_isFlat ctx rfl, Rendering.result_bind,
            Statement.renderFlat_result]
          exact LaidOut.bind (ctx.indentText_laidOut depth) _

theorem Block.render_laidOut (ctx : Context) : (b : Block) → (depth : Nat) →
    LaidOut ctx.indent depth (b.render ctx depth).result b.layout
  | ⟨body, _⟩, depth => by
      have hb := renderStatements_laidOut ctx body (depth + 1)
      intro text
      rw [Block.render, Block.layout, Rendering.result_bind]
      refine (hb text).trans ?_
      constructor
      · rintro ⟨lines, hl, hf, rfl⟩
        exact ⟨lines.map Line.deeper, by rw [hl]; rfl, linesFit_deeper.2 hf,
          (layoutText_deeper _ _ _).symm⟩
      · rintro ⟨_, h, hf, rfl⟩
        obtain ⟨lines, hl, h⟩ := bind_eq_ok_iff.1 h
        cases h
        exact ⟨lines, hl, linesFit_deeper.1 hf, layoutText_deeper _ _ _⟩

theorem renderStatements_laidOut (ctx : Context) : (body : List Statement) → (depth : Nat) →
    LaidOut ctx.indent depth
      ((renderStatements ctx body depth).result >>= fun texts => .ok (stack texts))
      (bodyLayout body)
  | [], depth => by
      intro text
      constructor
      · intro h
        cases h
        exact ⟨[], rfl, by simp [LinesFit], rfl⟩
      · rintro ⟨_, h, -, rfl⟩
        cases h
        rfl
  | s :: rest, depth => by
      have hs := Statement.render_laidOut ctx s depth
      have hr := renderStatements_laidOut ctx rest depth
      intro text
      rw [renderStatements, Rendering.result_bind, bodyLayout]
      constructor
      · intro h
        obtain ⟨texts, h, hx⟩ := bind_eq_ok_iff.1 h
        obtain ⟨first, hfirst, h⟩ := bind_eq_ok_iff.1 h
        rw [Rendering.result_bind] at h
        obtain ⟨others, hothers, h⟩ := bind_eq_ok_iff.1 h
        cases h
        cases hx
        obtain ⟨above, ha, hfa, rfl⟩ := (hs first).1 hfirst
        obtain ⟨below, hb, hfb, hst⟩ := (hr (stack others)).1 (bind_eq_ok_iff.2 ⟨_, hothers, rfl⟩)
        refine ⟨stackLines above below, by rw [ha, hb]; rfl, linesFit_stackLines.2 ⟨hfa, hfb⟩, ?_⟩
        rw [stack_cons, hst, layoutText_stackLines
          (Statement.layout_invariant Proper.invariant s (by simp) ha)
          (bodyLayout_invariant Proper.invariant rest (by simp) hb)]
      · rintro ⟨_, h, hf, rfl⟩
        obtain ⟨above, ha, h⟩ := bind_eq_ok_iff.1 h
        obtain ⟨below, hb, h⟩ := bind_eq_ok_iff.1 h
        cases h
        obtain ⟨hfa, hfb⟩ := linesFit_stackLines.1 hf
        have hfirst := (hs _).2 ⟨above, ha, hfa, rfl⟩
        obtain ⟨others, hothers, hst⟩ := bind_eq_ok_iff.1 ((hr _).2 ⟨below, hb, hfb, rfl⟩)
        refine bind_eq_ok_iff.2 ⟨layoutText ctx.indent depth above :: others, ?_, ?_⟩
        · refine bind_eq_ok_iff.2 ⟨_, hfirst, ?_⟩
          rw [Rendering.result_bind]
          exact bind_eq_ok_iff.2 ⟨_, hothers, rfl⟩
        · rw [stack_cons, Except.ok.inj hst, layoutText_stackLines
            (Statement.layout_invariant Proper.invariant s (by simp) ha)
            (bodyLayout_invariant Proper.invariant rest (by simp) hb)]

end

/-! ## Depth and unit -/

theorem LinesFit.mono {unit : String} {low high : Nat} {lines : List Line}
    (h : LinesFit unit high lines) (hl : low ≤ high) : LinesFit unit low lines :=
  fun line hm => (h line hm).mono (by omega)

theorem leadText_layoutText {unit : String} {lines : List Line} (hu : '\n' ∉ unit.toList)
    (hl : Unbroken lines) (depth : Nat) :
    Text.leadText (Text.copies unit depth) (layoutText unit 0 lines) =
      layoutText unit depth lines := by
  by_cases hn : lines = []
  · subst hn
    rfl
  -- The lines of the text are the lines of the layout, as none of them is broken by its lead.
  have hs : ∀ piece ∈ lines.map fun line =>
      Text.leadLine (Text.copies unit (0 + line.depth)) line.text, '\n' ∉ piece.toList := by
    simp only [List.forall_mem_map]
    intro line hm
    exact Text.newline_notMem_leadLine (Text.newline_notMem_copies hu _) (hl line hm)
  rw [Text.leadText, layoutText, Text.lines_intercalate (by simpa using hn) hs, List.map_map,
    layoutText]
  congr 1
  apply List.map_congr_left
  intro line _
  rw [Function.comp_apply, Text.leadLine_leadLine, Text.copies_append, Nat.zero_add]

theorem indentText_layoutText {unit : String} {depth : Nat} {lines : List Line}
    (hu : '\n' ∉ unit.toList) (hl : Unbroken lines) (hp : Proper lines)
    (hf : LinesFit unit depth lines) :
    Text.indentText unit depth (layoutText unit 0 lines) = .ok (layoutText unit depth lines) := by
  refine Text.indentText_eq_ok_iff.2 ⟨?_, (leadText_layoutText hu hl depth).symm⟩
  by_cases hn : lines = []
  · exact .inl (hp.layoutText_eq_empty_iff.2 hn)
  · obtain ⟨line, hm⟩ := List.exists_mem_of_ne_nil lines hn
    exact .inr ((hf line hm).mono (by omega))

/-- Dropped statements have no lines. -/
theorem Statement.layout_of_isDropped {s : Statement} (h : s.isDropped) (ctx : Context)
    (hw : (s.remarks ctx).isWorded) : s.layout = .ok [] := by
  have hr : (s.render ctx (0 : Nat)).result = .ok "" := by
    cases Statement.render_drops ctx s h (0 : Nat) with
    | ok ha hx =>
        subst ha
        rw [hx]
        rfl
    | unworded hf => rw [hf] at hw; cases hw
  obtain ⟨lines, hl, -, ht⟩ := (Statement.render_laidOut ctx s 0 "").1 hr
  have hp := Statement.layout_invariant Proper.invariant s (by simp) hl
  rw [hl, hp.layoutText_eq_empty_iff.1 ht.symm]

/-- At every depth a statement has the text of its layout, one line for each line of it, as far as
the indentation of the lines can be made. That text is the one at depth zero, indented. -/
theorem Statement.render_eq_layoutText {s : Statement}
    (hn : ∀ name ∈ s.moduleNames, Shows ('\n' ∉ ·.toList) name) {unit : String}
    (hu : '\n' ∉ unit.toList) (file : String) (depth : Nat) :
    (∀ text, (s.render ⟨unit, file⟩ depth).result = .ok text ↔
      ∃ lines, s.layout = .ok lines ∧
        (∀ line ∈ lines, Text.Fits unit (depth + line.depth)) ∧
        text = layoutText unit depth lines) ∧
    (∀ lines, s.layout = .ok lines → ∀ line ∈ lines, '\n' ∉ line.text.toList) ∧
    (s.isDropped → (s.remarks ⟨unit, file⟩).isWorded → s.layout = .ok []) ∧
    ∀ text, (s.render ⟨unit, file⟩ depth).result = .ok text →
      ∃ top, (s.render ⟨unit, file⟩ 0).result = .ok top ∧
        Text.indentText unit depth top = .ok text := by
  have hd := Statement.render_laidOut ⟨unit, file⟩ s depth
  refine ⟨hd, fun lines => Statement.layout_invariant Unbroken.invariant s hn,
    fun h => Statement.layout_of_isDropped h _, fun text ht => ?_⟩
  obtain ⟨lines, hl, hf, rfl⟩ := (hd text).1 ht
  refine ⟨layoutText unit 0 lines, ?_, ?_⟩
  · exact (Statement.render_laidOut ⟨unit, file⟩ s 0 _).2
      ⟨lines, hl, LinesFit.mono hf (Nat.zero_le _), rfl⟩
  · exact indentText_layoutText hu (Statement.layout_invariant Unbroken.invariant s hn hl)
      (Statement.layout_invariant Proper.invariant s (by simp) hl) hf

/-- A module in a module, and in this an object type, a function and an export. -/
def nestedModules : Statement :=
  .declareModule (.string "m") ⟨[.declareModule (.string "n") ⟨[
    .declareTypeAlias ⟨.string "T", .object [.property (.string "x") (.keyword .any none) false
      none] [] false none, none, none⟩,
    .function ⟨.string "f", [], none, none, none⟩, .exportAll "a" none], none⟩ none], none⟩ none

def nestedModulesLines : List Line :=
  [⟨0, "declare module 'm' \x7b"⟩, ⟨1, "declare module 'n' \x7b"⟩, ⟨2, "declare type T = \x7b"⟩,
    ⟨2, "  x: any;"⟩, ⟨2, "\x7d;"⟩, ⟨2, ""⟩, ⟨2, "export * from 'a';"⟩, ⟨1, "\x7d"⟩, ⟨0, "\x7d"⟩]

theorem nestedModules_laidOut :
    nestedModules.layout = .ok nestedModulesLines ∧
      (nestedModules.render ⟨"  ", ""⟩ 1).result =
        .ok (layoutText "  " 1 nestedModulesLines) := by
  have hl : nestedModules.layout = .ok nestedModulesLines := rfl
  have hn : ∀ name ∈ nestedModules.moduleNames, Shows ('\n' ∉ ·.toList) name := by
    simp [nestedModules, Statement.moduleNames, Block.moduleNames, bodyModuleNames]
  have hf : Text.Fits "  " 3 := by decide
  refine ⟨hl, ((Statement.render_eq_layoutText hn (by decide) "" 1).1 _).2 ⟨_, hl, ?_, rfl⟩⟩
  intro line hm
  have hd : ∀ line ∈ nestedModulesLines, line.depth ≤ 2 := by simp [nestedModulesLines]
  exact hf.mono (by have := hd line hm; omega)

/-- A depth can be too great even for a unit without characters. So whether a statement has a text
does not depend on the statement alone. -/
theorem render_beyond_countBound :
    ¬ ∃ layout : Statement → Except Failure (List Line),
      ∀ (s : Statement) (unit file : String) (depth : Nat),
        (∀ name ∈ s.moduleNames, Shows ('\n' ∉ ·.toList) name) → '\n' ∉ unit.toList →
          ((∃ text, (s.render ⟨unit, file⟩ depth).result = .ok text) ↔
            ∃ lines, layout s = .ok lines) := by
  rintro ⟨layout, h⟩
  have hs := h (.exportAll "a" none) "" ""
  have hn : ∀ name ∈ (Statement.exportAll "a" none).moduleNames,
      Shows ('\n' ∉ ·.toList) name := by
    simp [Statement.moduleNames]
  have hlayout := (hs 0 hn (by simp)).1 ⟨_, rfl⟩
  obtain ⟨text, ht⟩ := (hs Text.countBound hn (by simp)).2 hlayout
  obtain ⟨lines, hl, hf, -⟩ := (Statement.render_laidOut ⟨"", ""⟩ _ _ _).1 ht
  cases hl
  exact Nat.lt_irrefl _ (hf ⟨0, "export * from 'a';"⟩ (List.mem_singleton.2 rfl)).1

end Typings
