import Typings.Syntax.FlowType

/-!
# The parts of an annotation

The parts are the annotations that stand directly in an annotation. A condition on single nodes
holds everywhere in an annotation if it holds of the annotation, of its parts, of their parts and so
on.
-/

namespace Typings

def Member.value? : Member → Option FlowType
  | .property _ value _ _ => some value
  | .unknown .. => none

def FlowType.parts : FlowType → List FlowType
  | .function params returns rest _ =>
    (params.getD [] ++ rest.toList).map FunctionParam.type ++ returns.toList
  | .generic _ args _ => args.getD []
  | .nullable inner _ => [inner]
  | .object members indexers _ _ =>
    members.filterMap Member.value? ++ indexers.flatMap fun i => [i.key, i.value]
  | .union types _ | .intersection types _ | .tuple types _ => types
  | .keyword .. | .stringLiteral .. | .booleanLiteral .. | .unknown .. => []

inductive FlowType.Everywhere (P : FlowType → Prop) : FlowType → Prop where
  | intro {t : FlowType} : P t → (∀ s ∈ t.parts, s.Everywhere P) → t.Everywhere P

namespace FlowType.Everywhere

variable {P Q : FlowType → Prop} {t : FlowType}

theorem leaf (h : P t) (hp : t.parts = []) : t.Everywhere P :=
  .intro h (by simp [hp])

theorem of_pair {u v : FlowType} (h : P t) (hp : t.parts = [u, v]) (hu : u.Everywhere P)
    (hv : v.Everywhere P) : t.Everywhere P :=
  .intro h (by simp [hp, hu, hv])

theorem imp (hi : ∀ t, P t → Q t) (h : t.Everywhere P) : t.Everywhere Q := by
  induction h with
  | intro hn _ ih => exact .intro (hi _ hn) ih

theorem and (hp : t.Everywhere P) (hq : t.Everywhere Q) : t.Everywhere fun t => P t ∧ Q t := by
  induction hp with
  | intro hn _ ih =>
      cases hq with
      | intro hm hs => exact .intro ⟨hn, hm⟩ fun s h => ih s h (hs s h)

end FlowType.Everywhere

end Typings
