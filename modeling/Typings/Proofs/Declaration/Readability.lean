import Typings.Proofs.Declaration.Reading

/-!
# Legible types

Two types with one text are one type up to locations, as long as their names are not reserved words
and the members of their unions and intersections need no parentheses.
-/

namespace Typings

/-! ## Single words -/

def reservedWords : List String :=
  Keyword.all.map Keyword.text ++ [anyFunction, "Object"]

/-- The type that a single word stands for. -/
def wordType (w : String) : FlowType :=
  match Keyword.all.find? fun k => k.text == w with
  | some k => .keyword k none
  | none =>
    if w = anyFunction then .function none none none none
    else namedType w

theorem wordType_text {k : Keyword} (h : k ≠ .mixed) : wordType k.text = .keyword k none := by
  cases k with
  | mixed => exact absurd rfl h
  | _ => rfl

theorem wordType_of_notMem {w : String} (h : w ∉ reservedWords) : wordType w = namedType w := by
  simp only [reservedWords, List.mem_append, List.mem_map, not_or, not_exists, not_and] at h
  have hk : Keyword.all.find? (fun k => k.text == w) = none := by
    rw [List.find?_eq_none]
    intro k hk
    simpa using h.1 k hk
  have hf : w ≠ anyFunction := fun he => h.2 (by simp [he])
  rw [wordType, hk]
  exact if_neg hf

/-! ## Legible types -/

/-- Whether the type needs no parentheses as a member of a union or an intersection. -/
def FlowType.standsAlone : FlowType → Bool
  | .keyword .. | .function none .. | .generic .. | .tuple .. | .object .. => true
  | _ => false

theorem FlowType.isOpen_of_standsAlone {t : FlowType} (h : t.standsAlone = true) :
    t.isOpen = false := by
  cases t with
  | function params returns rest loc =>
      cases params with
      | none => rfl
      | some params => cases h
  | union | intersection | nullable => cases h
  | _ => rfl

theorem FlowType.isUnion_of_standsAlone {t : FlowType} (h : t.standsAlone = true) :
    t.isUnion = false := by
  cases t with
  | union => cases h
  | _ => rfl

/-- A type, apart from its parts, whose names and members show where they end: names are written
with the characters of names and are not reserved words, nothing is left out that has a word in its
place, and the members of unions and intersections stand alone. -/
inductive FlowType.Legible : FlowType → Prop where
  | keyword {k loc} : k ≠ .mixed → Legible (.keyword k loc)
  | anyFunction {loc} : Legible (.function none none none loc)
  | function {params result rest loc} :
      (∀ p ∈ params ++ rest.toList, p.name.IsName isIdentifierChar) →
      Legible (.function (some params) (some result) rest loc)
  | generic {name args loc} : name.IsName isNameChar → name.asText ∉ reservedWords →
      args ≠ some [] → Legible (.generic name args loc)
  | tuple {types loc} : Legible (.tuple types loc)
  | object {members indexers loc} : (∀ m ∈ members, m.Named) →
      (∀ i ∈ indexers, i.name.IsName isIdentifierChar) →
      Legible (.object members indexers false loc)
  | union {types loc} : 2 ≤ types.length → (∀ t ∈ types, t.standsAlone) →
      Legible (.union types loc)
  | intersection {types loc} : 2 ≤ types.length → (∀ t ∈ types, t.standsAlone) →
      Legible (.intersection types loc)

theorem FlowType.Legible.spelled {t : FlowType} (h : t.Legible) : t.Spelled := by
  cases h with
  | keyword _ | tuple => trivial
  | anyFunction => simp [FlowType.Spelled]
  | function hn => exact hn
  | generic hn _ _ => exact hn
  | object hm hi => exact ⟨hm, hi⟩
  | union hl _ | intersection hl _ => exact ne_nil_of_two_le hl

theorem FlowType.Legible.regular {t : FlowType} (h : t.Legible) : t.Regular wordType := by
  cases h with
  | keyword hk => exact wordType_text hk
  | anyFunction => exact ⟨rfl, rfl, rfl⟩
  | function _ => simp [FlowType.Regular]
  | generic hn hr ha =>
      refine ⟨?_, ha, fun _ => ?_⟩
      · rintro rfl
        exact hr (by decide)
      · rw [wordType_of_notMem hr, namedType, hn.eq_string]
  | tuple => trivial
  | object _ _ => exact rfl
  | union hl ha =>
      exact ⟨hl, fun t ht => isOpen_of_standsAlone (ha t (List.dropLast_subset _ ht))⟩
  | intersection hl ha =>
      exact ⟨hl, fun t ht => isOpen_of_standsAlone (ha t (List.dropLast_subset _ ht)),
        fun t ht => isUnion_of_standsAlone (ha t ht)⟩

/-! ## Nothing to flatten -/

theorem FlowType.members_unlocated_of_standsAlone {t : FlowType} (h : t.standsAlone = true) :
    t.unlocated.summands = [t.unlocated] ∧ t.unlocated.factors = [t.unlocated] := by
  cases t with
  | function params returns rest loc => cases params <;> exact ⟨rfl, rfl⟩
  | generic name args loc => cases args <;> exact ⟨rfl, rfl⟩
  | union | intersection => cases h
  | _ => exact ⟨rfl, rfl⟩

theorem flatMap_eq_self {ts : List FlowType} {f : FlowType → List FlowType}
    (h : ∀ t ∈ ts, f t = [t]) : ts.flatMap f = ts := by
  rw [List.flatMap_congr h, List.flatMap_singleton']

theorem FlowType.Legible.merged_unlocated {t : FlowType} (h : t.Legible) :
    t.unlocated.merged = t.unlocated := by
  cases h with
  | @union types _ _ ha =>
      have hs : ∀ s ∈ types.map FlowType.unlocated, s.summands = [s] :=
        List.forall_mem_map.2 fun t ht => (members_unlocated_of_standsAlone (ha t ht)).1
      rw [FlowType.unlocated, FlowType.rebuild, rebuildTypes_eq_map]
      exact congrArg (FlowType.union · none) (flatMap_eq_self hs)
  | @intersection types _ _ ha =>
      have hf : ∀ s ∈ types.map FlowType.unlocated, s.factors = [s] :=
        List.forall_mem_map.2 fun t ht => (members_unlocated_of_standsAlone (ha t ht)).2
      rw [FlowType.unlocated, FlowType.rebuild, rebuildTypes_eq_map]
      exact congrArg (FlowType.intersection · none) (flatMap_eq_self hf)
  | @generic _ args _ _ _ _ => cases args <;> rfl
  | _ => rfl

theorem FlowType.Everywhere.flattened_eq_unlocated {t : FlowType}
    (h : t.Everywhere FlowType.Legible) : t.flattened = t.unlocated := by
  induction h with
  | intro hn _ ih => exact (FlowType.rebuild_of_parts ih).trans hn.merged_unlocated

/-- A type that is legible everywhere has a text, and the other such types with that text differ
from it in nothing but locations. -/
theorem FlowType.unlocated_eq_of_render_eq {t u : FlowType} (ht : t.Everywhere FlowType.Legible)
    (hu : u.Everywhere FlowType.Legible) :
    (∃ text, t.render = .ok (.string text)) ∧
      (t.render = u.render → t.unlocated = u.unlocated) := by
  refine ⟨⟨_, (ht.imp fun _ h => h.spelled).render_eq⟩, fun h => ?_⟩
  have hr : ∀ v : FlowType, v.Legible → v.Spelled ∧ v.Regular wordType :=
    fun v h => ⟨h.spelled, h.regular⟩
  rw [← ht.flattened_eq_unlocated, ← hu.flattened_eq_unlocated]
  exact flattened_eq_of_render_eq (ht.imp hr) (hu.imp hr) h

/-- A function type from lists to objects, with one location all over. -/
def legibleType (loc : Option Location) : FlowType :=
  let pair := .tuple [.keyword .string loc, .keyword .nullLiteral loc] loc
  let list := .generic (.string "A.List") (some [pair]) loc
  let choice := .union [.generic (.string "B") none loc, .function none none none loc] loc
  let action := .function (some []) (some (.keyword .void loc)) none loc
  let result := .object [.property (.string "all") choice false loc]
    [⟨.string "at", .keyword .number loc, action, loc⟩] false loc
  .function (some [⟨.string "of", list, true, loc⟩]) (some result) none loc

theorem legibleType_legible (loc : Option Location) :
    (legibleType loc).Everywhere FlowType.Legible := by
  have hkeyword (k : Keyword) (h : k ≠ .mixed) :
      (FlowType.keyword k loc).Everywhere FlowType.Legible := .leaf (.keyword h) rfl
  have hname : (FlowType.generic (.string "B") none loc).Everywhere FlowType.Legible :=
    .leaf (.generic ⟨_, rfl, by decide⟩ (by decide) (by simp)) rfl
  have hlist : (FlowType.generic (.string "A.List") (some [.tuple
      [.keyword .string loc, .keyword .nullLiteral loc] loc]) loc).Everywhere FlowType.Legible := by
    refine .intro (.generic ⟨_, rfl, by decide⟩ (by decide) (by simp)) ?_
    exact List.forall_mem_singleton.2
      (.of_pair .tuple rfl (hkeyword .string (by simp)) (hkeyword .nullLiteral (by simp)))
  have hchoice : (FlowType.union [.generic (.string "B") none loc,
      .function none none none loc] loc).Everywhere FlowType.Legible :=
    .of_pair (.union (by simp) (by simp [FlowType.standsAlone])) rfl hname (.leaf .anyFunction rfl)
  have haction : (FlowType.function (some []) (some (.keyword .void loc)) none loc).Everywhere
      FlowType.Legible :=
    .intro (.function (by simp)) (List.forall_mem_singleton.2 (hkeyword .void (by simp)))
  refine .of_pair (.function (List.forall_mem_singleton.2 ⟨_, rfl, by decide⟩)) rfl hlist ?_
  refine .intro (.object ?_ ?_) ?_
  · exact List.forall_mem_singleton.2 ⟨_, rfl, by decide⟩
  · exact List.forall_mem_singleton.2 ⟨_, rfl, by decide⟩
  · simp [FlowType.parts, Member.value?, hchoice, hkeyword, haction]

theorem legibleType_unlocated :
    let loc : Option Location := some ⟨⟨.int 1, .int 0⟩, ⟨.int 4, .int 1⟩, .null⟩
    (legibleType loc).render = .ok (.string ("(of?: A.List<[string, null]>) => " ++
      "\x7b\n  all: B | Function;\n  [at: number]: () => void;\n\x7d")) ∧
    (legibleType loc).unlocated = (legibleType none).unlocated :=
  ⟨rfl, (FlowType.unlocated_eq_of_render_eq (legibleType_legible _) (legibleType_legible _)).2 rfl⟩

end Typings
