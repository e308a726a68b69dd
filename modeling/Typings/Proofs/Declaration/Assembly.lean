import Typings.Declaration.Statement
import Typings.Proofs.Declaration.Rendering

/-!
# Documents put together

The document of statements one after the other is made from the documents of its parts: their texts
stand below each other with an empty line between them, their diagnostics follow each other, and the
first failure decides. So a document is made from the documents of its single statements, in their
order.
-/

namespace Typings

/-! ## Texts below each other -/

/-- The document with the texts of two documents; an empty one leaves no trace. -/
def joinDocuments (first second : String) : String :=
  if first = "" then second
  else if second = "" then first
  else first ++ "\n" ++ second

theorem append_ne_empty {s t : String} (h : s ≠ "") : s ++ t ≠ "" := by
  intro he
  exact h (String.append_eq_empty_iff.1 he).1

theorem intercalate_ne_empty {separator : String} {pieces : List String} (hn : pieces ≠ [])
    (h : ∀ piece ∈ pieces, piece ≠ "") : separator.intercalate pieces ≠ "" := by
  cases pieces with
  | nil => exact absurd rfl hn
  | cons piece rest =>
      have hp : piece ≠ "" := h piece (by simp)
      by_cases hr : rest = []
      · subst hr
        rwa [String.intercalate_singleton]
      · rw [String.intercalate_cons_of_ne_nil hr]
        exact append_ne_empty (append_ne_empty hp)

theorem stack_of_filter_eq_nil {texts : List String} (h : texts.filter (· != "") = []) :
    stack texts = "" := by
  rw [stack, h, String.intercalate_nil]

theorem stack_ne_empty {texts : List String} (h : texts.filter (· != "") ≠ []) :
    stack texts ≠ "" := by
  refine intercalate_ne_empty h fun piece hp => ?_
  simpa using (List.mem_filter.1 hp).2

theorem endDocument_stack_append (first second : List String) :
    endDocument (stack (first ++ second)) =
      joinDocuments (endDocument (stack first)) (endDocument (stack second)) := by
  by_cases hf : first.filter (· != "") = []
  · have hs : stack (first ++ second) = stack second := by
      rw [stack, List.filter_append, hf, List.nil_append, ← stack]
    have he : endDocument "" = "" := rfl
    rw [hs, stack_of_filter_eq_nil hf, he, joinDocuments, if_pos rfl]
  by_cases hs : second.filter (· != "") = []
  · have ha : stack (first ++ second) = stack first := by
      rw [stack, List.filter_append, hs, List.append_nil, ← stack]
    have he : endDocument (stack first) ≠ "" := by
      rw [endDocument, if_neg (stack_ne_empty hf)]
      exact append_ne_empty (stack_ne_empty hf)
    rw [ha, stack_of_filter_eq_nil hs, joinDocuments, if_neg he]
    rfl
  · have ha : stack (first ++ second) = stack first ++ "\n\n" ++ stack second := by
      rw [stack, List.filter_append, String.intercalate_append_of_ne_nil hf hs, ← stack, ← stack]
    have hf' := stack_ne_empty hf
    have hs' := stack_ne_empty hs
    have hn : "\n\n" = "\n" ++ "\n" := rfl
    rw [ha, endDocument, endDocument, endDocument, joinDocuments, if_neg hf', if_neg hs',
      if_neg (append_ne_empty hf'), if_neg (append_ne_empty hs'),
      if_neg (append_ne_empty (append_ne_empty hf')), hn]
    simp only [String.append_assoc]

/-! ## Statements after each other -/

theorem renderStatements_append (ctx : Context) (depth : Int) :
    (first second : List Statement) →
      renderStatements ctx (first ++ second) depth = do
        let texts ← renderStatements ctx first depth
        return texts ++ (← renderStatements ctx second depth)
  | [], second => by simp [renderStatements]
  | s :: first, second => by
      simp [renderStatements, renderStatements_append ctx depth first second]

/-- The document of statements. -/
def document (ctx : Context) (body : List Statement) : Rendering String :=
  Program.render ctx ⟨body, [], none⟩

theorem Program.render_eq_document (ctx : Context) (p : Program) :
    p.render ctx = document ctx p.body :=
  rfl

theorem document_append (ctx : Context) (first second : List Statement) :
    document ctx (first ++ second) = do
      let text ← document ctx first
      return joinDocuments text (← document ctx second) := by
  simp [document, Program.render, renderStatements_append, endDocument_stack_append]

theorem document_eq_mapM (ctx : Context) : (body : List Statement) →
    document ctx body = do
      let texts ← body.mapM fun s => document ctx [s]
      return texts.foldr joinDocuments ""
  | [] => rfl
  | s :: rest => by
      have h : document ctx (s :: rest) = _ := document_append ctx [s] rest
      rw [h, document_eq_mapM ctx rest]
      simp

/-- With any log before, the outcome and the log of statements one after the other are those of the
first ones, if these fail; otherwise the others go on with the log that the first ones left, and both
texts are put together. So every statement of a program has a share of its own in the document, at
its place. -/
theorem Program.render_append (ctx : Context) (p : Program) (first second : List Statement) :
    (∀ log, (Program.render ctx { p with body := first ++ second }).run log =
      match (Program.render ctx { p with body := first }).run log with
      | (.error e, log) => (.error e, log)
      | (.ok text, log) =>
        match (Program.render ctx { p with body := second }).run log with
        | (.error e, log) => (.error e, log)
        | (.ok other, log) =>
          (.ok (if text = "" then other else if other = "" then text else text ++ "\n" ++ other),
            log)) ∧
    Program.render ctx p = do
      let texts ← p.body.mapM fun s => Program.render ctx { p with body := [s] }
      return texts.foldr joinDocuments "" := by
  refine ⟨fun log => ?_, document_eq_mapM ctx p.body⟩
  simp only [Program.render_eq_document, document_append, Rendering.run_bind]
  rcases (document ctx first).run log with ⟨_ | text, log⟩
  · rfl
  dsimp only
  rcases (document ctx second).run log with ⟨_ | other, log⟩ <;> rfl

end Typings
