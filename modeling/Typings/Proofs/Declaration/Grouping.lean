import Typings.Proofs.Declaration.Nullability
import Typings.Proofs.Declaration.Reading

/-!
# Grouping of members

There are no parentheses in the text of a type. So only the phrase of a type can be told from its
text, and the grouping of members where it is the one that the text is read with.
-/

namespace Typings

/-! ## Composite types -/

/-- A name without arguments, a union or an intersection of two or more types, or a function type
with a result whose parameters have names; apart from its parts. -/
inductive FlowType.Composite : FlowType → Prop where
  | name {name loc} : name.IsName isIdentifierChar → Composite (.generic name none loc)
  | union {types loc} : 2 ≤ types.length → Composite (.union types loc)
  | intersection {types loc} : 2 ≤ types.length → Composite (.intersection types loc)
  | function {params result rest loc} :
      (∀ p ∈ params ++ rest.toList, p.name.IsName isIdentifierChar) →
      Composite (.function (some params) (some result) rest loc)

/-- Whether the members of a type, apart from their own, are those that its text is read with. -/
def FlowType.Grouped : FlowType → Prop
  | .union types _ => ∀ t ∈ types.dropLast, t.isOpen = false
  | .intersection types _ =>
    (∀ t ∈ types.dropLast, t.isOpen = false) ∧ ∀ t ∈ types, t.isUnion = false
  | _ => True

/-- Whether the name of a type, if it has one, is written as it is. -/
def FlowType.Unreplaced : FlowType → Prop
  | .generic name _ _ => name ≠ .string "Object"
  | _ => True

theorem Json.IsName.of_isIdentifierChar {v : Json} (h : v.IsName isIdentifierChar) :
    v.IsName isNameChar := by
  obtain ⟨s, rfl, hne, hs⟩ := h
  exact ⟨s, rfl, hne, fun c hc => by simp [isNameChar, hs c hc]⟩

theorem FlowType.Composite.spelled {t : FlowType} (h : t.Composite) : t.Spelled := by
  cases h with
  | name hn => exact hn.of_isIdentifierChar
  | union hl => exact ne_nil_of_two_le hl
  | intersection hl => exact ne_nil_of_two_le hl
  | function hn => exact hn

theorem FlowType.Composite.regular {t : FlowType} (h : t.Composite) (hg : t.Grouped)
    (hu : t.Unreplaced) : t.Regular namedType := by
  cases h with
  | name hn => exact ⟨hu, by simp, fun _ => by rw [namedType, hn.eq_string]⟩
  | union hl => exact ⟨hl, hg⟩
  | intersection hl => exact ⟨hl, hg⟩
  | function hn => simp [FlowType.Regular]

/-! ## The name for any object -/

/-- The name for any object as it is written, and any other type itself. -/
def FlowType.objectRenamed : FlowType → FlowType
  | .generic (.string "Object") _ loc => .generic (.string "object") none loc
  | t => t

def FlowType.renamed (t : FlowType) : FlowType :=
  t.rebuild FlowType.objectRenamed id

theorem FlowType.render_renamed (t : FlowType) : t.renamed.render = t.render := by
  refine FlowType.render_rebuild (fun t => ?_) t
  unfold FlowType.objectRenamed
  split <;> rfl

theorem FlowType.isUnion_renamed (t : FlowType) : t.renamed.isUnion = t.isUnion := by
  have hn (t : FlowType) : t.objectRenamed.isUnion = t.isUnion := by
    unfold FlowType.objectRenamed
    split <;> rfl
  rw [FlowType.renamed, FlowType.rebuild.eq_def]
  split <;> rw [hn] <;> rfl

theorem FlowType.isOpen_objectRenamed (t : FlowType) : t.objectRenamed.isOpen = t.isOpen := by
  unfold FlowType.objectRenamed
  split <;> rfl

mutual

theorem FlowType.isOpen_renamed : (t : FlowType) → t.renamed.isOpen = t.isOpen
  | .keyword .. | .function none .. | .function (some _) .. | .object .. | .stringLiteral ..
  | .booleanLiteral .. | .tuple .. | .unknown .. => rfl
  | .generic _ none _ | .generic _ (some _) _ => FlowType.isOpen_objectRenamed _
  | .nullable inner _ => inner.isOpen_renamed
  | .union types _ | .intersection types _ => anyOpen_renamed types

theorem anyOpen_renamed :
    (ts : List FlowType) → anyOpen (rebuildTypes FlowType.objectRenamed id ts) = anyOpen ts
  | [] => rfl
  | t :: ts => by
      have ht : (t.rebuild FlowType.objectRenamed id).isOpen = t.isOpen := t.isOpen_renamed
      rw [rebuildTypes, anyOpen, anyOpen, ht, anyOpen_renamed ts]

end

theorem forall_mem_dropLast_renamed {ts : List FlowType}
    (h : ∀ t ∈ ts.dropLast, t.isOpen = false) :
    ∀ t ∈ (ts.map FlowType.renamed).dropLast, t.isOpen = false := by
  rw [← List.map_dropLast, List.forall_mem_map]
  exact fun t ht => t.isOpen_renamed.trans (h t ht)

theorem FlowType.renamed_name {name : Json} (h : name.IsName isIdentifierChar)
    (loc : Option Location) :
    ∃ other, (FlowType.generic name none loc).renamed = .generic other none loc ∧
      other.IsName isIdentifierChar ∧ other ≠ .string "Object" := by
  by_cases ho : name = .string "Object"
  · subst ho
    exact ⟨.string "object", rfl, ⟨_, rfl, by decide⟩, by simp⟩
  · refine ⟨name, ?_, h, ho⟩
    rw [FlowType.renamed, FlowType.rebuild, FlowType.objectRenamed]
    · rfl
    · rintro args loc ⟨⟩
      exact ho rfl

theorem FlowType.renamed_union (types : List FlowType) (loc : Option Location) :
    (FlowType.union types loc).renamed = .union (types.map FlowType.renamed) loc := by
  rw [FlowType.renamed, FlowType.rebuild, rebuildTypes_eq_map]
  rfl

theorem FlowType.renamed_intersection (types : List FlowType) (loc : Option Location) :
    (FlowType.intersection types loc).renamed = .intersection (types.map FlowType.renamed) loc := by
  rw [FlowType.renamed, FlowType.rebuild, rebuildTypes_eq_map]
  rfl

def FunctionParam.renamed (p : FunctionParam) : FunctionParam :=
  p.rebuild FlowType.objectRenamed id

@[simp] theorem FunctionParam.name_renamed (p : FunctionParam) : p.renamed.name = p.name := by
  cases p
  rfl

@[simp] theorem FunctionParam.type_renamed (p : FunctionParam) :
    p.renamed.type = p.type.renamed := by
  cases p
  rfl

theorem FlowType.renamed_function (params : List FunctionParam) (result : FlowType)
    (rest : Option FunctionParam) (loc : Option Location) :
    (FlowType.function (some params) (some result) rest loc).renamed =
      .function (some (params.map FunctionParam.renamed)) (some result.renamed)
        (rest.map FunctionParam.renamed) loc := by
  rw [FlowType.renamed, FlowType.rebuild, rebuildParams_eq_map, rebuildRest_eq_map]
  rfl

theorem FlowType.Composite.renamed {t : FlowType} (h : t.Composite) (hg : t.Grouped) :
    t.renamed.Composite ∧ t.renamed.Grouped ∧ t.renamed.Unreplaced := by
  cases h with
  | @name _ loc hn =>
      obtain ⟨other, hr, ho, hne⟩ := FlowType.renamed_name hn loc
      rw [hr]
      exact ⟨.name ho, trivial, hne⟩
  | union hl =>
      rw [FlowType.renamed_union]
      exact ⟨.union (by simpa using hl), forall_mem_dropLast_renamed hg, trivial⟩
  | intersection hl =>
      rw [FlowType.renamed_intersection]
      refine ⟨.intersection (by simpa using hl), ⟨forall_mem_dropLast_renamed hg.1, ?_⟩, trivial⟩
      exact List.forall_mem_map.2 fun t ht => t.isUnion_renamed.trans (hg.2 t ht)
  | function hn =>
      rw [FlowType.renamed_function]
      refine ⟨.function ?_, trivial, trivial⟩
      rw [Option.toList_map, ← List.map_append, List.forall_mem_map]
      simpa only [FunctionParam.name_renamed] using hn

theorem FlowType.Composite.parts_renamed {t : FlowType} (h : t.Composite) :
    t.renamed.parts = t.parts.map FlowType.renamed := by
  cases h with
  | @name _ loc hn =>
      obtain ⟨other, hr, -, -⟩ := FlowType.renamed_name hn loc
      rw [hr]
      rfl
  | union hl =>
      rw [FlowType.renamed_union]
      rfl
  | intersection hl =>
      rw [FlowType.renamed_intersection]
      rfl
  | function hn =>
      rw [FlowType.renamed_function]
      simp [FlowType.parts, Option.toList_map, Function.comp_def]

theorem FlowType.Everywhere.renamed {t : FlowType}
    (h : t.Everywhere fun t => t.Composite ∧ t.Grouped) :
    t.renamed.Everywhere fun t => t.Composite ∧ t.Grouped ∧ t.Unreplaced := by
  induction h with
  | intro hn _ ih =>
      refine .intro (hn.1.renamed hn.2) ?_
      rw [hn.1.parts_renamed]
      exact List.forall_mem_map.2 ih

/-! ## Composite types with one text -/

def producerType (result : FlowType) : FlowType :=
  .function (some []) (some result) none none

/-- Composite types have texts. Two of them have the same just if their phrases are the same, that
is, the same names, signs and parameters in the same order; and if both are grouped as their text is
read, they are then the same up to flattening and to the spelling of the name for any object. -/
theorem FlowType.composite_render_eq_iff {t u : FlowType} (ht : t.Everywhere FlowType.Composite)
    (hu : u.Everywhere FlowType.Composite) :
    (∃ text, t.render = .ok (.string text)) ∧ (t.render = u.render ↔ t.phrase = u.phrase) ∧
    (t.Everywhere FlowType.Grouped → u.Everywhere FlowType.Grouped → t.render = u.render →
      t.renamed.flattened = u.renamed.flattened) := by
  have hs := ht.imp fun _ h => h.spelled
  refine ⟨⟨_, hs.render_eq⟩, hs.render_eq_iff (hu.imp fun _ h => h.spelled), fun gt gu h => ?_⟩
  have hr : ∀ v : FlowType, v.Composite ∧ v.Grouped ∧ v.Unreplaced →
      v.Spelled ∧ v.Regular namedType := fun v h => ⟨h.1.spelled, h.1.regular h.2.1 h.2.2⟩
  rw [← t.render_renamed, ← u.render_renamed] at h
  exact flattened_eq_of_render_eq ((ht.and gt).renamed.imp hr) ((hu.and gu).renamed.imp hr) h

theorem nestedUnion_flattened :
    let f := producerType (namedType "A")
    let nested := FlowType.union [namedType "A", .union [namedType "B", f] none] none
    let flat := FlowType.union [namedType "A", namedType "B", f] none
    nested.render = .ok (.string "A | B | () => A") ∧
      nested.renamed.flattened = flat.renamed.flattened := by
  intro f nested flat
  have ha : (namedType "A").Everywhere fun t => t.Composite ∧ t.Grouped :=
    .leaf ⟨.name ⟨_, rfl, by decide⟩, trivial⟩ rfl
  have hb : (namedType "B").Everywhere fun t => t.Composite ∧ t.Grouped :=
    .leaf ⟨.name ⟨_, rfl, by decide⟩, trivial⟩ rfl
  have hf : f.Everywhere fun t => t.Composite ∧ t.Grouped :=
    .intro ⟨.function (by simp), trivial⟩ (List.forall_mem_singleton.2 ha)
  have hflat : flat.Everywhere fun t => t.Composite ∧ t.Grouped :=
    .intro ⟨.union (by simp), by simp [FlowType.Grouped, FlowType.isOpen, flat, namedType]⟩
      (by simp [FlowType.parts, flat, ha, hb, hf])
  have hinner : (FlowType.union [namedType "B", f] none).Everywhere
      fun t => t.Composite ∧ t.Grouped :=
    .of_pair ⟨.union (by simp), by simp [FlowType.Grouped, FlowType.isOpen, namedType]⟩ rfl hb hf
  have hnested : nested.Everywhere fun t => t.Composite ∧ t.Grouped :=
    .of_pair ⟨.union (by simp), by simp [FlowType.Grouped, FlowType.isOpen, nested, namedType]⟩ rfl
      ha hinner
  exact ⟨rfl, (FlowType.composite_render_eq_iff (hnested.imp fun _ h => h.1)
    (hflat.imp fun _ h => h.1)).2.2 (hnested.imp fun _ h => h.2) (hflat.imp fun _ h => h.2) rfl⟩

/-- Two composite types have one text but differ in more than flattening takes away. -/
def Confused (t u : FlowType) : Prop :=
  t.Everywhere FlowType.Composite ∧ u.Everywhere FlowType.Composite ∧ t.render = u.render ∧
    t.flattened ≠ u.flattened

/-- Neither a union in an intersection, nor a function before another member, nor the name for any
object can be told from the text. -/
theorem grouping_not_in_text :
    Confused (.intersection [.union [namedType "A", namedType "B"] none, namedType "C"] none)
      (.union [namedType "A", .intersection [namedType "B", namedType "C"] none] none) ∧
    Confused (.union [producerType (namedType "A"), namedType "B"] none)
      (producerType (.union [namedType "A", namedType "B"] none)) ∧
    Confused (namedType "Object") (namedType "object") := by
  have hname {name : String} (h : IsIdentifier name) :
      (namedType name).Everywhere FlowType.Composite := .leaf (.name ⟨_, rfl, h⟩) rfl
  have ha := hname (show IsIdentifier "A" by decide)
  have hb := hname (show IsIdentifier "B" by decide)
  have hc := hname (show IsIdentifier "C" by decide)
  have hunion {t u : FlowType} (ht : t.Everywhere FlowType.Composite)
      (hu : u.Everywhere FlowType.Composite) :
      (FlowType.union [t, u] none).Everywhere FlowType.Composite :=
    .of_pair (.union (by simp)) rfl ht hu
  have hintersection {t u : FlowType} (ht : t.Everywhere FlowType.Composite)
      (hu : u.Everywhere FlowType.Composite) :
      (FlowType.intersection [t, u] none).Everywhere FlowType.Composite :=
    .of_pair (.intersection (by simp)) rfl ht hu
  have hproducer {t : FlowType} (ht : t.Everywhere FlowType.Composite) :
      (producerType t).Everywhere FlowType.Composite :=
    .intro (.function (by simp)) (List.forall_mem_singleton.2 ht)
  refine ⟨⟨?_, ?_, rfl, ?_⟩, ⟨?_, ?_, rfl, ?_⟩, hname (by decide), hname (by decide), rfl, ?_⟩
  · exact hintersection (hunion ha hb) hc
  · exact hunion ha (hintersection hb hc)
  · rintro ⟨⟩
  · exact hunion (hproducer ha) hb
  · exact hproducer (hunion ha hb)
  · rintro ⟨⟩
  · exact fun h => absurd (Json.string.inj (FlowType.generic.inj h).1) (by decide)

end Typings
