import Typings.Declaration.Signature
import Typings.Proofs.Declaration.Abort
import Typings.Proofs.Syntax.Rebuild

/-!
# Nullable types

A nullable type is written as what it wraps, so at no depth does it show in the text of a type. At
the top of the annotation of a parameter it makes the parameter optional instead; a rest parameter
is never optional.
-/

namespace Typings

/-! ## Types -/

/-- What a nullable type wraps; any other type itself. -/
def FlowType.unwrapped : FlowType → FlowType
  | .nullable inner _ => inner
  | t => t

/-- The annotation without the nullable wrappers in it. -/
def FlowType.stripped (t : FlowType) : FlowType :=
  t.rebuild FlowType.unwrapped id

theorem FlowType.render_unwrapped (t : FlowType) : t.unwrapped.render = t.render := by
  cases t with
  | nullable inner loc => rw [FlowType.unwrapped, FlowType.render]
  | _ => rfl

section

variable {node : FlowType → FlowType}

mutual

theorem FlowType.render_rebuild (hn : ∀ t, (node t).render = t.render) :
    (t : FlowType) → (t.rebuild node id).render = t.render
  | .keyword .. => by rw [FlowType.rebuild, hn]; rfl
  | .function none .. => by rw [FlowType.rebuild, hn]; rfl
  | .function (some params) returns rest _ => by
      rw [FlowType.rebuild, hn, FlowType.render_function, FlowType.render_function,
        renderParams_rebuild hn params, restPieces_rebuild hn rest, resultText_rebuild hn returns]
  | .generic name none _ => by rw [FlowType.rebuild, hn]; rfl
  | .generic name (some args) _ => by
      rw [FlowType.rebuild, hn]
      by_cases h : name = .string "Object"
      · subst h
        rfl
      · rw [FlowType.render_generic h, FlowType.render_generic h, argumentText_rebuild hn args]
  | .nullable inner _ => by
      rw [FlowType.rebuild, hn, FlowType.render, FlowType.render, FlowType.render_rebuild hn inner]
  | .object members indexers _ _ => by
      rw [FlowType.rebuild, hn, FlowType.render, FlowType.render, renderMembers_rebuild hn members,
        renderIndexers_rebuild hn indexers]
  | .union types _ => by
      rw [FlowType.rebuild, hn, FlowType.render, FlowType.render, renderList_rebuild hn types]
  | .intersection types _ => by
      rw [FlowType.rebuild, hn, FlowType.render, FlowType.render, renderList_rebuild hn types]
  | .stringLiteral .. => by rw [FlowType.rebuild, hn]; rfl
  | .booleanLiteral .. => by rw [FlowType.rebuild, hn]; rfl
  | .tuple types _ => by
      rw [FlowType.rebuild, hn, FlowType.render, FlowType.render, renderList_rebuild hn types]
  | .unknown .. => by rw [FlowType.rebuild, hn]; rfl

theorem renderList_rebuild (hn : ∀ t, (node t).render = t.render) :
    (ts : List FlowType) → renderList (rebuildTypes node id ts) = renderList ts
  | [] => rfl
  | t :: ts => by
      rw [rebuildTypes, renderList, renderList, FlowType.render_rebuild hn t,
        renderList_rebuild hn ts]

theorem argumentText_rebuild (hn : ∀ t, (node t).render = t.render) :
    (ts : List FlowType) →
      argumentText (some (rebuildTypes node id ts)) = argumentText (some ts)
  | [] => rfl
  | t :: ts => by
      have h := renderList_rebuild hn (t :: ts)
      rw [rebuildTypes] at h ⊢
      rw [argumentText, argumentText, h]

theorem resultText_rebuild (hn : ∀ t, (node t).render = t.render) :
    (type : Option FlowType) → resultText (rebuildType node id type) = resultText type
  | none => rfl
  | some t => by
      rw [rebuildType, resultText, resultText, FlowType.renderText, FlowType.renderText,
        FlowType.render_rebuild hn t]

theorem FunctionParam.render_rebuild (hn : ∀ t, (node t).render = t.render) :
    (p : FunctionParam) → (p.rebuild node id).render = p.render
  | ⟨_, type, _, _⟩ => by
      rw [FunctionParam.rebuild, FunctionParam.render, FunctionParam.render,
        FlowType.render_rebuild hn type]

theorem renderParams_rebuild (hn : ∀ t, (node t).render = t.render) :
    (ps : List FunctionParam) → renderParams (rebuildParams node id ps) = renderParams ps
  | [] => rfl
  | p :: ps => by
      rw [rebuildParams, renderParams, renderParams, FunctionParam.render_rebuild hn p,
        renderParams_rebuild hn ps]

theorem restPieces_rebuild (hn : ∀ t, (node t).render = t.render) :
    (rest : Option FunctionParam) → restPieces (rebuildRest node id rest) = restPieces rest
  | none => rfl
  | some p => by
      rw [rebuildRest, restPieces, restPieces, FunctionParam.render_rebuild hn p]

theorem renderMembers_rebuild (hn : ∀ t, (node t).render = t.render) :
    (ms : List Member) → renderMembers (rebuildMembers node id ms) = renderMembers ms
  | [] => rfl
  | .property _ value _ _ :: ms => by
      rw [rebuildMembers, renderMembers, renderMembers, FlowType.render_rebuild hn value,
        renderMembers_rebuild hn ms]
  | .unknown .. :: _ => rfl

theorem renderIndexers_rebuild (hn : ∀ t, (node t).render = t.render) :
    (is : List Indexer) → renderIndexers (rebuildIndexers node id is) = renderIndexers is
  | [] => rfl
  | ⟨_, key, value, _⟩ :: is => by
      rw [rebuildIndexers, renderIndexers, renderIndexers, FlowType.render_rebuild hn key,
        FlowType.render_rebuild hn value, renderIndexers_rebuild hn is]

end

end

theorem FlowType.render_stripped (t : FlowType) : t.stripped.render = t.render :=
  FlowType.render_rebuild FlowType.render_unwrapped t

/-! ## Parameters -/

/-- The annotation in nullable wrappers, one at each of the locations. -/
def FlowType.wrapped (locs : List (Option Location)) (t : FlowType) : FlowType :=
  locs.foldr (fun loc inner => .nullable inner loc) t

theorem FlowType.renderText_nullable (inner : FlowType) (loc : Option Location) :
    (FlowType.nullable inner loc).renderText = inner.renderText := by
  rw [FlowType.renderText, FlowType.render, FlowType.renderText]

theorem FlowType.renderText_wrapped (locs : List (Option Location)) (t : FlowType) :
    (t.wrapped locs).renderText = t.renderText := by
  induction locs with
  | nil => rfl
  | cons loc locs ih => exact (FlowType.renderText_nullable (t.wrapped locs) loc).trans ih

/-- A nullable annotation of a name is read as the mark of what may be left out. -/
theorem Identifier.render_nullable (i : Identifier) (t : FlowType) (loc : Option Location)
    (locs : List (Option Location)) :
    Identifier.render { i with type := some (.nullable (t.wrapped locs) loc) } =
      Identifier.render { i with type := some t, optional := true } := by
  have ht : (FlowType.nullable (t.wrapped locs) loc).renderText = t.renderText :=
    FlowType.renderText_wrapped (loc :: locs) t
  simp [Identifier.render, FlowType.isNullable, ht]

theorem Identifier.renderRest_wrapped (i : Identifier) (b : Bool)
    (locs : List (Option Location)) :
    Identifier.renderRest { i with type := i.type.map (FlowType.wrapped locs), optional := b } =
      i.renderRest := by
  obtain ⟨name, type, optional, loc⟩ := i
  cases type with
  | none => rfl
  | some t => simp [Identifier.renderRest, FlowType.renderText_wrapped]

/-! ## The mark after a name -/

/-- The name that a parameter other than a rest parameter gives to its argument. -/
def Pattern.bound? : Pattern → Option Identifier
  | .identifier i | .assignment (.identifier i) _ _ => some i
  | _ => none

theorem Pattern.render_of_bound? {p : Pattern} {i : Identifier} (h : p.bound? = some i) :
    p.render = i.render := by
  unfold Pattern.bound? at h
  split at h
  · cases h
    rfl
  · cases h
    rfl
  · cases h

theorem ne_append_mark (name rest : String) : name ≠ name ++ "?" ++ rest := by
  intro h
  have hl := congrArg String.toList h
  simp at hl

theorem append_colon_ne_append_mark (name text rest : String) :
    name ++ ": " ++ text ≠ name ++ "?" ++ rest := by
  intro h
  have hl := congrArg String.toList h
  simp at hl

theorem Identifier.marked_iff {i : Identifier} {text : String}
    (h : i.render = .ok (.string text)) :
    (∃ shown rest, i.name.display = .ok shown ∧ text = shown ++ "?" ++ rest) ↔
      i.optional = true ∨ ∃ t, i.type = some t ∧ t.isNullable = true := by
  obtain ⟨name, type, optional, loc⟩ := i
  cases type with
  | none =>
      cases optional with
      | true =>
          obtain ⟨shown, hs, ht⟩ := bind_eq_ok_iff.1 h
          cases ht
          refine ⟨fun _ => .inl rfl, fun _ => ⟨shown, "", shownText_eq_ok_iff.1 hs, by simp⟩⟩
      | false =>
          cases h
          constructor
          · rintro ⟨shown, rest, ⟨⟩, hr⟩
            exact absurd hr (ne_append_mark text rest)
          · rintro (h | ⟨t, h, -⟩) <;> cases h
  | some t =>
      obtain ⟨shown, hs, h⟩ := bind_eq_ok_iff.1 h
      obtain ⟨type, -, h⟩ := bind_eq_ok_iff.1 h
      have hname : name.display = .ok shown := shownText_eq_ok_iff.1 hs
      cases hm : optional || t.isNullable with
      | true =>
          rw [hm] at h
          cases h
          refine ⟨fun _ => by simpa using hm, fun _ => ⟨shown, ": " ++ type, hname, ?_⟩⟩
          exact String.append_assoc
      | false =>
          rw [hm] at h
          cases h
          constructor
          · rintro ⟨other, rest, ho, hr⟩
            cases hname.symm.trans ho
            rw [optionalMark, if_neg (by simp), String.append_empty] at hr
            exact absurd hr (append_colon_ne_append_mark _ _ _)
          · simp_all

/-- Nullable wrappers leave no trace in the text of a type or in the failure to write it. Around the
annotation of a parameter, with or without a default value, any number of them has the effect of the
one mark of what may be left out; around that of a rest parameter they have none, and neither has
that mark. The mark stands after the name of a parameter just if the parameter has the mark in the
source or a nullable annotation. -/
theorem nullability_moves_to_name :
    (∀ t : FlowType, t.stripped.render = t.render) ∧
    (∀ (i : Identifier) (t : FlowType) (loc : Option Location) (locs : List (Option Location)),
      let nullable : Identifier := { i with type := some (.nullable (t.wrapped locs) loc) }
      let optional : Identifier := { i with type := some t, optional := true }
      (Pattern.identifier nullable).render = (Pattern.identifier optional).render ∧
      ∀ right right' place place', (Pattern.assignment (.identifier nullable) right place).render =
        (Pattern.assignment (.identifier optional) right' place').render) ∧
    (∀ (i : Identifier) (b : Bool) (locs : List (Option Location)) (loc loc' : Option Location),
      (Pattern.rest (.identifier
        { i with type := i.type.map (FlowType.wrapped locs), optional := b }) loc).render =
        (Pattern.rest (.identifier i) loc').render) ∧
    ∀ (p : Pattern) (i : Identifier) (text : String), p.bound? = some i →
      p.render = .ok (.string text) →
        ((∃ shown rest, i.name.display = .ok shown ∧ text = shown ++ "?" ++ rest) ↔
          i.optional = true ∨ ∃ t, i.type = some t ∧ t.isNullable = true) := by
  refine ⟨FlowType.render_stripped, fun i t loc locs => ?_, fun i b locs loc loc' => ?_, ?_⟩
  · have h := Identifier.render_nullable i t loc locs
    exact ⟨h, fun _ _ _ _ => h⟩
  · rw [Pattern.render, Pattern.render, Identifier.renderRest_wrapped]
  · intro p i text hp ht
    rw [Pattern.render_of_bound? hp] at ht
    exact Identifier.marked_iff ht

/-- A parameter of a type that is nullable twice, with a default value. -/
def doublyNullable : Pattern :=
  .assignment (.identifier ⟨.string "a", some (.nullable (.nullable (.tuple
    [.nullable (.keyword .string none) none] none) none) none), false, none⟩)
    (.unknown (.string "ArrayExpression") none) none

theorem doublyNullable_marked :
    doublyNullable.render = .ok (.string "a?: [string]") ∧
      ∃ rest, "a?: [string]" = "a" ++ "?" ++ rest := by
  have h : doublyNullable.render = .ok (.string "a?: [string]") := rfl
  obtain ⟨_, rest, ⟨⟩, ht⟩ :=
    (nullability_moves_to_name.2.2.2 doublyNullable _ _ rfl h).2 (.inr ⟨_, rfl, rfl⟩)
  exact ⟨h, rest, ht⟩

end Typings
