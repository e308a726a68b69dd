import Typings.Proofs.Declaration.Rendering
import Typings.Proofs.Json.Shown
import Typings.Proofs.Outcome

/-!
# Gaps and diagnostics in words

The names in the wording of a gap are any values. Where one of them can not be shown, the gap can
not be worded, and nothing is recorded; a rendering ends there. The line of a diagnostic is first
shown in a report.
-/

namespace Typings

/-! ## Gaps -/

def Gap.names : Gap → List Json
  | .namespaceImport name | .exportSpecifier _ name | .declareClass name => [name]
  | .implementation kind name => [kind, name]

/-- Whether an integer keeps the gap from being worded. -/
def Gap.hasLongInteger (gap : Gap) : Bool :=
  gap.names.any Json.hasLongInteger

theorem Gap.hasLongInteger_of_names {gap : Gap}
    (h : ∀ v ∈ gap.names, v.hasLongInteger = false) : gap.hasLongInteger = false := by
  rw [Gap.hasLongInteger, List.any_eq_false]
  intro v hv
  rw [h v hv]
  exact Bool.false_ne_true

theorem Json.hasLongInteger_of_not_isPresent {v : Json} (h : ¬ v.isPresent) :
    v.hasLongInteger = false := by
  match v with
  | .int n =>
      have hn : n = 0 := by simpa [Json.isPresent] using h
      subst hn
      decide +kernel
  | .list [] | .object [] | .null | .bool _ | .real _ | .string _ => rfl
  | .list (_ :: _) | .object (_ :: _) => cases h rfl

theorem Gap.message_shownUnless (gap : Gap) :
    Json.ShownUnless gap.hasLongInteger gap.message := by
  cases gap with
  | namespaceImport name | exportSpecifier _ name | declareClass name =>
      simp only [Gap.hasLongInteger, Gap.names, List.any_cons, List.any_nil, Bool.or_false]
      exact name.display_shownUnless.map
  | implementation kind name =>
      simp only [Gap.hasLongInteger, Gap.names, List.any_cons, List.any_nil, Bool.or_false]
      refine kind.display_shownUnless.bind fun shown => ?_
      split
      case isTrue =>
        change Json.ShownUnless _ (name.display >>= fun label =>
          .ok ("Unexported " ++ shown ++ (" \"" ++ label ++ "\"") ++ " has no declaration output."))
        exact name.display_shownUnless.map
      case isFalse h =>
        rw [Json.hasLongInteger_of_not_isPresent h]
        exact .ok _

/-! ## Recording -/

section

variable {α : Type} {ctx : Context} {gap : Gap}

theorem Context.record_of_short (h : gap.hasLongInteger = false) (loc : Option Location) (a : α) :
    (do ctx.record gap loc; return a) = .of (.ok a) [⟨gap, ctx.file, Location.lineOf loc⟩] := by
  obtain ⟨text, ht⟩ := gap.message_shownUnless.short h
  rw [Context.record, ht]
  exact Rendering.ext rfl rfl

theorem Context.record_of_long (h : gap.hasLongInteger = true) (loc : Option Location) (a : α) :
    (do ctx.record gap loc; return a) = .of (.error (.malformed .tooManyDigits)) [] := by
  rw [Context.record, gap.message_shownUnless.long h]
  exact Rendering.ext rfl rfl

/-- Where a gap is recorded does not matter for whether it can be worded. -/
theorem Context.result_record (ctx other : Context) (gap : Gap) (loc : Option Location) (a : α) :
    (do ctx.record gap loc; return a : Rendering α).result =
      (do other.record gap loc; return a : Rendering α).result := by
  cases h : gap.hasLongInteger with
  | true => rw [Context.record_of_long h, Context.record_of_long h]
  | false =>
      rw [Context.record_of_short h, Context.record_of_short h]
      rfl

theorem Context.record_ensures {Q : α → Prop} {a : α} (ctx : Context) (gap : Gap)
    (loc : Option Location) (h : Q a) :
    Ensures (do ctx.record gap loc; return a : Rendering α).result Q := by
  cases hg : gap.hasLongInteger with
  | true =>
      rw [Context.record_of_long hg]
      exact .error _
  | false =>
      rw [Context.record_of_short hg]
      exact .ok h

end

/-! ## Diagnostics -/

/-- Whether an integer keeps the diagnostic from being shown. -/
def Diagnostic.hasLongInteger (d : Diagnostic) : Bool :=
  d.line.hasLongInteger || d.gap.hasLongInteger

/-- Whether every gap in a log can be worded. -/
def Log.isWorded (log : Log) : Bool :=
  log.all fun d => !d.gap.hasLongInteger

theorem Log.isWorded_append (log more : Log) :
    Log.isWorded (log ++ more) = (log.isWorded && more.isWorded) :=
  List.all_append

end Typings
