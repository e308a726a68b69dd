import Typings.Declaration.Statement
import Typings.Proofs.Diagnostic.Wording

/-!
# The file of a document

The file of a context is named in diagnostics and nowhere else: in the context of another file a
program has the same text or failure, and the same diagnostics with the other name.
-/

namespace Typings

/-- The context of another file. -/
def Context.inFile (ctx : Context) (file : String) : Context :=
  ⟨ctx.indent, file⟩

namespace Rendering

variable {α β : Type} {file : String}

/-- The rendering with the diagnostics as those of another file. -/
def inFile (file : String) (x : Rendering α) : Rendering α :=
  of x.result (x.log.map fun d => ⟨d.gap, file, d.line⟩)

theorem inFile_bind (x : Rendering α) (f : α → Rendering β) :
    (x >>= f).inFile file = x.inFile file >>= fun a => (f a).inFile file := by
  cases h : x.result with
  | error e =>
    have h' : (x.inFile file).result = .error e := h
    rw [bind_of_error h, bind_of_error h']
    rfl
  | ok a =>
    have h' : (x.inFile file).result = .ok a := h
    rw [bind_of_ok h, bind_of_ok h']
    exact ext rfl (by simp [inFile])

theorem inFile_ofExcept (r : Except Failure α) : (ofExcept r).inFile file = ofExcept r :=
  ext rfl rfl

theorem inFile_pure (a : α) : (pure a : Rendering α).inFile file = pure a :=
  ext rfl rfl

theorem mapM_inFile {f g : α → Rendering β} (h : ∀ x, g x = (f x).inFile file) (xs : List α) :
    xs.mapM g = (xs.mapM f).inFile file := by
  induction xs with
  | nil => exact (inFile_pure []).symm
  | cons x xs ih =>
    rw [List.mapM_cons, List.mapM_cons, inFile_bind, h, ih]
    congr 1
    funext b
    rw [inFile_bind]
    simp only [inFile_pure]

end Rendering

open Rendering

variable (ctx : Context) (file : String)

theorem Context.record_inFile {α : Type} (gap : Gap) (loc : Option Location) (a : α) :
    (do (ctx.inFile file).record gap loc; return a) =
      (do ctx.record gap loc; return a : Rendering α).inFile file := by
  cases h : gap.hasLongInteger with
  | true =>
    rw [Context.record_of_long h, Context.record_of_long h]
    rfl
  | false =>
    rw [Context.record_of_short h, Context.record_of_short h]
    rfl

theorem Specifier.renderImport_inFile (s : Specifier) :
    s.renderImport (ctx.inFile file) = (s.renderImport ctx).inFile file := by
  cases s with
  | importNamespace => exact ctx.record_inFile file _ _ _
  | _ => exact ext rfl rfl

theorem Specifier.renderExport_inFile (s : Specifier) :
    s.renderExport (ctx.inFile file) = (s.renderExport ctx).inFile file := by
  cases s with
  | exportDefault | exportNamespace => exact ctx.record_inFile file _ _ _
  | _ => exact ext rfl rfl

theorem renderImport_inFile (source : String) (specifiers : List Specifier) :
    renderImport (ctx.inFile file) source specifiers =
      (renderImport ctx source specifiers).inFile file := by
  unfold renderImport
  rw [inFile_bind, mapM_inFile (Specifier.renderImport_inFile ctx file)]
  simp only [inFile_bind, inFile_ofExcept, inFile_pure]

theorem renderExport_inFile (source : Option String) (specifiers : List Specifier) :
    renderExport (ctx.inFile file) source specifiers =
      (renderExport ctx source specifiers).inFile file := by
  unfold renderExport
  rw [inFile_bind, mapM_inFile (Specifier.renderExport_inFile ctx file)]
  simp only [inFile_bind, inFile_ofExcept, inFile_pure]

theorem Statement.renderFlat_inFile (s : Statement) :
    s.renderFlat (ctx.inFile file) = (s.renderFlat ctx).inFile file := by
  cases s with
  | importDeclaration source specifiers kind loc => exact renderImport_inFile ctx file _ _
  | exportNamed declaration specifiers source kind loc =>
    cases declaration with
    | none => exact renderExport_inFile ctx file _ _
    | some declaration => exact (inFile_ofExcept _).symm
  | function | variableDeclaration | declareClass => exact ctx.record_inFile file _ _ _
  | _ => exact ext rfl rfl

mutual

theorem Statement.render_inFile (s : Statement) (depth : Int) :
    s.render (ctx.inFile file) depth = (s.render ctx depth).inFile file := by
  cases s with
  | block b => exact b.render_inFile depth
  | declareModule name body loc =>
    simp only [Statement.render, inFile_bind, body.render_inFile, inFile_ofExcept, inFile_pure,
      Context.lead]
    rfl
  | _ =>
    simp only [Statement.render, inFile_bind, Statement.renderFlat_inFile, Context.indentText,
      inFile_ofExcept]
    rfl

theorem Block.render_inFile (b : Block) (depth : Int) :
    b.render (ctx.inFile file) depth = (b.render ctx depth).inFile file := by
  cases b with
  | mk body loc =>
    simp only [Block.render, inFile_bind, renderStatements_inFile body, inFile_pure]

theorem renderStatements_inFile (body : List Statement) (depth : Int) :
    renderStatements (ctx.inFile file) body depth =
      (renderStatements ctx body depth).inFile file := by
  cases body with
  | nil => exact (inFile_pure []).symm
  | cons s body =>
    simp only [renderStatements, inFile_bind, s.render_inFile, renderStatements_inFile body,
      inFile_pure]

end

theorem Program.render_inFile (p : Program) :
    p.render (ctx.inFile file) = (p.render ctx).inFile file := by
  rw [Program.render, Program.render, inFile_bind, renderStatements_inFile]
  simp only [inFile_pure]

end Typings
