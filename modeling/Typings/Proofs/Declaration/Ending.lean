import Typings.Proofs.Declaration.Layout

/-!
# How documents end

The text of a statement is empty if the statement is dropped. If not, it ends with a semicolon or a
closing brace, at every depth and for every unit of indentation. So a document is empty exactly when
all its statements are dropped, and any other one ends with such a sign and one line feed.
-/

namespace Typings

/-! ## Finished texts -/

def Finished (text : String) : Prop :=
  text.toList.getLast? = some ';' ∨ text.toList.getLast? = some '\x7d'

instance (text : String) : Decidable (Finished text) :=
  inferInstanceAs (Decidable (_ ∨ _))

theorem Finished.append {t : String} (h : Finished t) (s : String) : Finished (s ++ t) := by
  rcases h with h | h
  · exact .inl (by simp [h])
  · exact .inr (by simp [h])

theorem Finished.ne_empty {text : String} (h : Finished text) : text ≠ "" := by
  rintro rfl
  exact absurd h (by decide)

theorem Finished.leadText {text : String} (h : Finished text) (lead : String) :
    Finished (Text.leadText lead text) := by
  unfold Finished
  rwa [Text.getLast?_leadText]

theorem Finished.eq_append {text : String} (h : Finished text) :
    ∃ front, text = front ++ ";" ∨ text = front ++ "\x7d" := by
  rcases h with h | h
  · obtain ⟨front, hf⟩ := List.getLast?_eq_some_iff.1 h
    exact ⟨String.ofList front, .inl (String.toList_inj.1 (by simpa using hf))⟩
  · obtain ⟨front, hf⟩ := List.getLast?_eq_some_iff.1 h
    exact ⟨String.ofList front, .inr (String.toList_inj.1 (by simpa using hf))⟩

/-- What is dropped has no text, everything else a finished one. -/
def Shaped : Bool → String → Prop
  | true, text => text = ""
  | false, text => Finished text

namespace Shaped

variable {dropped other : Bool} {text : String}

theorem eq_empty_iff (h : Shaped dropped text) : text = "" ↔ dropped := by
  cases dropped with
  | true => simpa [Shaped] using h
  | false => simpa using Finished.ne_empty h

theorem finished (h : Shaped dropped text) (hn : text ≠ "") : Finished text := by
  cases dropped with
  | true => exact absurd h hn
  | false => exact h

theorem stack {above below : String} (ha : Shaped dropped above) (hb : Shaped other below) :
    Shaped (dropped && other) (stack [above, below]) := by
  rw [stack_pair]
  cases dropped with
  | true => rwa [if_pos (show above = "" from ha)]
  | false =>
      rw [if_neg ha.ne_empty]
      cases other with
      | true => rwa [if_pos (show below = "" from hb)]
      | false =>
          rw [if_neg hb.ne_empty]
          exact Finished.append hb _

theorem indentText (h : Shaped dropped text) (ctx : Context) (depth : Int) :
    Ensures (ctx.indentText depth text).result (Shaped dropped) := by
  refine Ensures.mapError ?_
  unfold Text.indentText
  split
  case isTrue => exact .ok h
  case isFalse hn =>
    cases dropped with
    | true => exact absurd (.inr h) hn
    | false => exact .mapAfter (Finished.leadText h)

end Shaped

/-! ## Statements without others in them -/

theorem Signature.render_finished (f : Signature) : Ensures f.render Finished := by
  unfold Signature.render
  refine .after fun name => .after fun typeParams => .after fun params => ?_
  exact .after fun returns => .ok (Finished.append (by decide) _)

theorem TypeAlias.render_finished (a : TypeAlias) : Ensures a.render Finished := by
  obtain ⟨name, right, params, loc⟩ := a
  refine .after fun typeParams => ?_
  cases right with
  | object members indexers exact l =>
      refine .after fun name => .after fun properties => .after fun indices => .ok ?_
      exact Finished.append (by decide) _
  | nullable => exact .error _
  | booleanLiteral => exact .error _
  | unknown => exact .error _
  | _ => exact .after fun shown => .after fun text => .ok (Finished.append (by decide) _)

theorem TypeAlias.renderDeclared_finished (a : TypeAlias) : Ensures a.renderDeclared Finished := by
  refine .after fun typeParams => .after fun name => .after fun text => .ok ?_
  exact Finished.append (by decide) _

theorem renderImport_finished (ctx : Context) (source : String) (specifiers : List Specifier) :
    Ensures (renderImport ctx source specifiers).result Finished := by
  rw [renderImport, Rendering.result_bind]
  refine .after fun pieces => ?_
  rw [Rendering.result_bind]
  exact .after fun list => .ok (Finished.append (by decide) _)

theorem renderExport_finished (ctx : Context) (source : Option String)
    (specifiers : List Specifier) :
    Ensures (renderExport ctx source specifiers).result Finished := by
  unfold renderExport
  rw [Rendering.result_bind]
  refine .after fun pieces => ?_
  rw [Rendering.result_bind]
  exact .after fun list => .ok (Finished.append (by decide) _)

theorem renderExportDefault_finished (declaration : Statement) (loc : Option Location) :
    Ensures (renderExportDefault declaration loc) Finished := by
  cases declaration with
  | function f => exact f.render_finished.bind fun text ht => .ok (ht.append _)
  | _ => exact .error _

theorem renderExported_shaped (declaration : Statement) (specifiers : List Specifier)
    (source : Option String) (kind : Json) (loc : Option Location) :
    Ensures (renderExported declaration loc)
      (Shaped (Statement.exportNamed (some declaration) specifiers source kind loc).isDropped) := by
  cases declaration with
  | function f => exact f.render_finished.bind fun text ht => .ok (ht.append _)
  | typeAlias a => exact a.render_finished.bind fun text ht => .ok (ht.append _)
  | variableDeclaration kind loc => exact .ok rfl
  | _ => exact .error _

theorem Statement.renderFlat_shaped (ctx : Context) {s : Statement} (h : s.isFlat) :
    Ensures (s.renderFlat ctx).result (Shaped s.isDropped) := by
  cases s with
  | function f =>
      rw [Statement.isDropped]
      exact ctx.record_ensures _ f.loc rfl
  | variableDeclaration kind loc =>
      rw [Statement.isDropped]
      exact ctx.record_ensures _ loc rfl
  | typeAlias a => exact a.render_finished
  | importDeclaration source specifiers kind loc => exact renderImport_finished ctx _ _
  | exportDefault declaration loc => exact renderExportDefault_finished _ _
  | exportNamed declaration specifiers source kind loc =>
      cases declaration with
      | none => exact renderExport_finished ctx _ _
      | some d => exact renderExported_shaped d _ _ _ _
  | exportAll source loc => exact .ok (Finished.append (by decide) _)
  | block b => cases h
  | declareModule name body loc => cases h
  | declareTypeAlias a => exact a.renderDeclared_finished
  | declareClass name loc => exact ctx.record_ensures _ loc (by decide : Finished classStub)
  | unknown tag loc => exact .error _

/-! ## All statements -/

theorem bodyIsDropped_iff {body : List Statement} :
    bodyIsDropped body ↔ ∀ s ∈ body, s.isDropped := by
  induction body with
  | nil => simp [bodyIsDropped]
  | cons s rest ih => simp [bodyIsDropped, ih]

theorem renderModule_eq_lines (lead name body : String) :
    renderModule lead name body =
      lead ++ "declare module '" ++ name ++ "' \x7b\n" ++
        (if body = "" then "" else body ++ "\n") ++ lead ++ "\x7d" := by
  have hn : "' \x7b\n" = "' \x7b" ++ "\n" := rfl
  unfold renderModule
  split
  · simp [hn, String.append_assoc]
  · simp [hn, String.append_assoc]

theorem renderModule_finished (lead name body : String) :
    Finished (renderModule lead name body) := by
  rw [renderModule_eq_lines]
  exact Finished.append (by decide) _

section

variable (ctx : Context)

mutual

theorem Statement.render_shaped : (s : Statement) → (depth : Int) →
    Ensures (s.render ctx depth).result (Shaped s.isDropped)
  | s, depth => by
      cases s with
      | block b =>
          rw [Statement.render, Statement.isDropped]
          exact Block.render_shaped b depth
      | declareModule name body loc =>
          rw [Statement.render, Rendering.result_bind]
          refine .after fun lead => ?_
          rw [Rendering.result_bind]
          refine .after fun shown => ?_
          rw [Rendering.result_bind]
          exact .after fun text => .ok (renderModule_finished lead shown text)
      | _ =>
          rw [Statement.render_of_isFlat ctx rfl, Rendering.result_bind]
          exact (Statement.renderFlat_shaped ctx rfl).bind fun text ht => ht.indentText ctx depth

theorem Block.render_shaped : (b : Block) → (depth : Int) →
    Ensures (b.render ctx depth).result (Shaped b.isDropped)
  | ⟨body, _⟩, depth => by
      rw [Block.render, Rendering.result_bind, Block.isDropped]
      exact (renderStatements_shaped body (depth + 1)).bind fun texts ht => .ok ht

theorem renderStatements_shaped : (body : List Statement) → (depth : Int) →
    Ensures (renderStatements ctx body depth).result
      fun texts => Shaped (bodyIsDropped body) (stack texts)
  | [], _ => .ok rfl
  | s :: rest, depth => by
      rw [renderStatements, Rendering.result_bind]
      refine (Statement.render_shaped s depth).bind fun text ht => ?_
      rw [Rendering.result_bind]
      refine (renderStatements_shaped rest depth).bind fun texts hts => .ok ?_
      rw [stack_cons, bodyIsDropped]
      exact ht.stack hts

end

theorem Program.render_shaped (p : Program) :
    Ensures (p.render ctx).result fun text =>
      ∃ inner, text = endDocument inner ∧ Shaped (bodyIsDropped p.body) inner := by
  rw [Program.render, Rendering.result_bind]
  exact (renderStatements_shaped ctx p.body 0).bind fun texts ht => .ok ⟨_, rfl, ht⟩

/-- A document is empty exactly when all its statements are dropped, and otherwise ends with a
semicolon or a closing brace and one line feed. The body of a module, at whatever depth the module
stands, is empty under the same condition; then the module has no lines but its first and last. -/
theorem Program.render_ending :
    (∀ (p : Program) (text : String), (p.render ctx).result = .ok text →
      (text = "" ↔ ∀ s ∈ p.body, s.isDropped) ∧
      (text ≠ "" → ∃ front, text = front ++ ";\n" ∨ text = front ++ "\x7d\n")) ∧
    ∀ (name : Json) (body : Block) (loc : Option Location) (depth : Int) (text : String),
      ((Statement.declareModule name body loc).render ctx depth).result = .ok text →
        ∃ lead shown inner, (ctx.lead depth).result = .ok lead ∧ name.display = .ok shown ∧
          (body.render ctx depth).result = .ok inner ∧
          (inner = "" ↔ ∀ s ∈ body.body, s.isDropped) ∧
          text = lead ++ "declare module '" ++ shown ++ "' \x7b\n" ++
            (if inner = "" then "" else inner ++ "\n") ++ lead ++ "\x7d" := by
  constructor
  · intro p text h
    obtain ⟨inner, rfl, hs⟩ := Program.render_shaped ctx p text h
    have hd : inner = "" ↔ ∀ s ∈ p.body, s.isDropped := hs.eq_empty_iff.trans bodyIsDropped_iff
    by_cases he : inner = ""
    · have hx : endDocument inner = "" := if_pos he
      exact ⟨⟨fun _ => hd.1 he, fun _ => hx⟩, fun hn => absurd hx hn⟩
    · have hx : endDocument inner = inner ++ "\n" := if_neg he
      rw [hx]
      refine ⟨⟨fun ha => absurd ha (append_ne_empty he), fun ha => absurd (hd.2 ha) he⟩, ?_⟩
      intro _
      obtain ⟨front, rfl | rfl⟩ := (hs.finished he).eq_append
      · exact ⟨front, .inl (String.append_assoc ..)⟩
      · exact ⟨front, .inr (String.append_assoc ..)⟩
  · intro name body loc depth text h
    rw [Statement.render, Rendering.result_bind] at h
    obtain ⟨lead, hl, h⟩ := bind_eq_ok_iff.1 h
    rw [Rendering.result_bind, Rendering.result_ofExcept] at h
    obtain ⟨shown, hs, h⟩ := bind_eq_ok_iff.1 h
    rw [Rendering.result_bind] at h
    obtain ⟨inner, hi, h⟩ := bind_eq_ok_iff.1 h
    cases h
    refine ⟨lead, shown, inner, hl, shownText_eq_ok_iff.1 hs, hi, ?_,
      renderModule_eq_lines lead shown inner⟩
    have hs := Block.render_shaped ctx body depth inner hi
    obtain ⟨statements, bodyLoc⟩ := body
    exact hs.eq_empty_iff.trans bodyIsDropped_iff

/-- A function that is dropped, and a module in which there is nothing but a variable in a block. -/
def hollowModule : Program where
  body := [.function ⟨.string "f", [], none, none, none⟩, .declareModule (.string "m")
    ⟨[.block ⟨[.variableDeclaration (.string "let") none], none⟩], none⟩ none]
  errors := []
  loc := none

theorem hollowModule_ending :
    ∃ text, (hollowModule.render ⟨"  ", ""⟩).result = .ok text ∧ text ≠ "" ∧
      ∃ front, text = front ++ ";\n" ∨ text = front ++ "\x7d\n" := by
  obtain ⟨text, ht⟩ : ∃ text, (hollowModule.render ⟨"  ", ""⟩).result = .ok text := ⟨_, rfl⟩
  have h := (Program.render_ending ⟨"  ", ""⟩).1 hollowModule text ht
  have hn : text ≠ "" := by
    intro he
    exact absurd (h.1.1 he) (by simp [hollowModule, Statement.isDropped])
  exact ⟨text, ht, hn, h.2 hn⟩

end

end Typings
