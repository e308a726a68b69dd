import Typings.Proofs.Estree.Schema
import Typings.Proofs.Outcome

/-!
# Reading a tree that fits the schema

Every reader gives a result on what fits its part of the schema, and the result is typed. Only the
value of a literal can be in the way, if it is too long to be shown. The proofs follow the rules of
the schema.
-/

namespace Typings

variable {α β : Type} {L : Json → Prop}

namespace Json

variable {data : Json} {key : String} {f : Json → Except Malformed α} {Q : α → Prop}

theorem eachElement_reads {v : Json} (hl : ∃ vs, v = .list vs)
    (h : ∀ w ∈ v.items, Reads L (f w) Q) : Reads L (eachElement f v) (fun as => ∀ a ∈ as, Q a) := by
  obtain ⟨vs, rfl⟩ := hl
  exact Reads.mapM h

theorem eachItem_reads (hl : data.ListAt key) (h : ∀ v ∈ data.itemsAt key, Reads L (f v) Q) :
    Reads L (data.eachItem key f) (fun as => ∀ a ∈ as, Q a) := by
  unfold eachItem
  split
  · rename_i v hv
    refine eachElement_reads (hl v (nonNull?_of_present? hv)) fun w hw => h w ?_
    rw [itemsAt, at?_of_present? hv]
    exact hw
  · exact .ok (by simp)

theorem ifPresent_reads (h : ∀ v, data.nonNull? key = some v → Reads L (f v) Q) :
    Reads L (data.ifPresent key f) (fun o => ∀ a, o = some a → Q a) := by
  unfold ifPresent
  cases hv : data.present? key with
  | none => exact .ok (by simp)
  | some v =>
    exact (h v (nonNull?_of_present? hv)).option

theorem ifNonNull_reads (h : ∀ v, data.nonNull? key = some v → Reads L (f v) Q) :
    Reads L (data.ifNonNull key f) (fun o => ∀ a, o = some a → Q a) := by
  unfold ifNonNull
  cases hv : data.nonNull? key with
  | none => exact .ok (by simp)
  | some v =>
    exact (h v hv).option

theorem TextAt.getD (h : data.TextAt key) (s : String) :
    ((data.at? key).getD (.string s)).IsText := by
  cases hv : data.at? key with
  | none => exact ⟨s, rfl⟩
  | some v => exact h v hv

end Json

/-! ## Nodes -/

variable {data : Json}

theorem Position.Conforms.yields (h : Position.Conforms data) :
    Yields (Position.ofEstree data) (Position.Typed) := by
  obtain ⟨line, hl⟩ := h.line
  obtain ⟨column, hcol⟩ := h.column
  rw [Position.ofEstree_eq hl hcol]
  exact .ok ⟨⟨line, rfl⟩, ⟨column, rfl⟩⟩

theorem Location.Conforms.yields (h : Location.Conforms data) :
    Yields (Location.ofEstree? data) Located := by
  obtain ⟨start, hs, hstart⟩ := h.start
  have hstop : Position.Conforms (((data.at? "end").getD .null).orElse start) := by
    unfold Json.orElse
    split
    · rename_i hp
      exact h.stop _ (Json.nonNull?_of_ne_null (Json.ne_null_of_isPresent hp))
    · exact hstart
  rw [Location.ofEstree?_record hs]
  refine hstart.yields.bind fun first hfirst => ?_
  refine hstop.yields.bind fun last hlast => ?_
  exact .ok (by rintro l ⟨⟩; exact ⟨hfirst, hlast⟩)

theorem IsNode.location (h : IsNode data) : Yields (Location.ofNode data) Located := by
  rw [Location.ofNode_eq h.isObject]
  cases hv : data.at? "loc" with
  | none => exact .ok (by rintro l ⟨⟩)
  | some v =>
    by_cases hn : v = .null
    · subst hn
      exact .ok (by rintro l ⟨⟩)
    · exact (h.loc v (Json.nonNull?_of_at? hv hn)).yields

theorem Json.HasTag.textAt {tag : String} (h : data.HasTag tag) : data.TextAt "type" := by
  intro v hv
  rw [h] at hv
  cases hv
  exact ⟨tag, rfl⟩

theorem Json.HasOtherTag.textAt {tags : List String} (h : data.HasOtherTag tags) :
    data.TextAt "type" := by
  intro v hv
  obtain ⟨tag, rfl, _⟩ := h.2 v hv
  exact ⟨tag, rfl⟩

theorem Json.HasOtherTag.keptTag {tags : List String} (h : data.HasOtherTag tags) :
    (keptTag data).IsText :=
  h.textAt.getD _

/-! ## Names -/

theorem Json.NameAt.required {v : Json} {key : String} (h : v.NameAt key) :
    ∃ part, v.required key = .ok part ∧ part.val.IsText := by
  obtain ⟨s, hs⟩ := h
  obtain ⟨part, hp, hv⟩ := Json.required_eq hs
  exact ⟨part, hp, s, hv⟩

theorem TypeName.Conforms.yields {data : Json} :
    TypeName.Conforms data → Yields (dottedName data) Json.IsText
  | .plain ht hn => by
      obtain ⟨s, hs⟩ := hn
      rw [dottedName_plain ht hs]
      exact .ok ⟨s, rfl⟩
  | .qualified ht hq ho hi hn => by
      obtain ⟨o, ho', outer, rfl⟩ := ho.yields
      obtain ⟨name, hn⟩ := hn
      rw [dottedName_qualified ht, Json.need_eq hq, Json.need_eq hi, ho',
        idName_eq (Json.isObject_of_at? hn), Json.need_eq hn]
      exact .ok ⟨_, rfl⟩

theorem ValueAt.reads (h : ValueAt L data) :
    Reads L ((data.at? "value").getD (.string "")).display fun _ => True := by
  cases hv : data.at? "value" with
  | none => exact .ok trivial
  | some v =>
    by_cases hn : v = .null
    · subst hn
      exact .ok trivial
    · exact Reads.display (h v (Json.nonNull?_of_at? hv hn))

theorem PropertyKey.Conforms.reads {key : Json} (h : PropertyKey.Conforms L key) :
    Reads L (propertyKey key) Json.IsText := by
  rcases h with ⟨ht, hn⟩ | ⟨ht, ho, hr, hv⟩
  · obtain ⟨s, hs⟩ := hn
    rw [propertyKey_identifier ht hs]
    exact .ok ⟨s, rfl⟩
  · rw [propertyKey_other ho ht]
    exact hv.reads.bind fun shown _ => .ok (hr.getD shown)

theorem nameOfId_reads (ho : data.IsObject)
    (h : ∀ v, data.nonNull? "id" = some v → v.NameAt "name") :
    Reads L (nameOfId data) OptionalName := by
  cases hv : data.present? "id" with
  | none =>
    rw [nameOfId_absent ho hv]
    exact .ok (.inl rfl)
  | some v =>
    obtain ⟨s, hs⟩ := h v (Json.nonNull?_of_present? hv)
    rw [nameOfId_eq hv hs]
    exact .ok (.inr ⟨s, rfl⟩)

theorem OptionalName.orElse_null {v : Json} (h : v = .null ∨ v.IsText) :
    OptionalName (v.orElse .null) := by
  unfold Json.orElse
  split
  · exact h
  · exact .inl rfl

theorem paramName_reads (ho : data.IsObject)
    (h : ∀ v, data.nonNull? "name" = some v → ParamName.Conforms v) :
    Reads L (paramName data) OptionalName := by
  rw [paramName, Json.get_eq ho]
  simp only [bind, Except.bind]
  cases hv : data.at? "name" with
  | none => exact .ok (.inl rfl)
  | some v =>
    by_cases hn : v = .null
    · subst hn
      exact .ok (.inl rfl)
    · rcases h v (Json.nonNull?_of_at? hv hn) with ⟨s, rfl⟩ | ⟨⟨fields, rfl⟩, hw⟩
      · exact .ok (.orElse_null (.inr ⟨s, rfl⟩))
      · simp only [Option.getD_some, Json.get_eq ⟨fields, rfl⟩]
        refine .ok (.orElse_null ?_)
        cases hi : (Json.object fields).at? "name" with
        | none => exact .inl rfl
        | some w =>
          by_cases hwn : w = .null
          · exact .inl hwn
          · exact .inr (hw w (Json.nonNull?_of_at? hi hwn))

/-! ## Annotations -/

theorem FlowType.Conforms.node {v : Json} (h : FlowType.Conforms L v) : IsNode v := by
  cases h <;> assumption

theorem FlowType.Conforms.tag {v : Json} (h : FlowType.Conforms L v) : v.TextAt "type" := by
  cases h with
  | other _ ht => exact ht.textAt
  | _ => exact Json.HasTag.textAt (by assumption)

theorem FlowType.unlabelled_of_isLabelled {v element : Json} (h : IsLabelled v)
    (he : v.at? "elementType" = some element) : unlabelled v = .ok element := by
  obtain ⟨_, tag, ht, hp⟩ := h
  have ho := ht.isObject
  obtain ⟨part, hpt, rfl⟩ := Json.required_eq he
  have htag : v.at? "type" = some (.string tag) := ht
  have hpre := List.isPrefixOf_iff_prefix.2 hp
  rw [unlabelled, Json.holds_eq ho, he, Json.getD_eq ho, htag, hpt]
  simp only [bind, Except.bind, Option.isSome_some, ↓reduceIte, Option.getD_some, hpre]
  rfl

theorem FlowType.unlabelled_of_not_isLabelled {v : Json} (ho : v.IsObject) (ht : v.TextAt "type")
    (h : ¬ IsLabelled v) : unlabelled v = .ok v := by
  rw [unlabelled, Json.holds_eq ho, Json.getD_eq ho]
  cases he : v.at? "elementType" with
  | none => rfl
  | some element =>
    obtain ⟨tag, hs⟩ := ht.getD ""
    rw [hs]
    simp only [bind, Except.bind, Option.isSome_some, ↓reduceIte]
    split
    · rename_i hpre
      have hp := List.isPrefixOf_iff_prefix.1 hpre
      cases hv : v.at? "type" with
      | none =>
        -- An element without a tag counts as one with an empty tag, which labels nothing.
        rw [hv] at hs
        cases hs
        exact absurd hp (by decide)
      | some w =>
        rw [hv] at hs
        exact absurd ⟨⟨element, he⟩, tag, hv.trans (congrArg some hs), hp⟩ h
    · rfl

theorem Member.ofUnknown_reads {v : Json} {tags : List String} (h : IsNode v)
    (ht : v.HasOtherTag tags) : Reads L (Member.ofUnknown v) (Member.Typed) := by
  obtain ⟨loc, hl, hloc⟩ := h.location
  rw [Member.ofUnknown_eq h.isObject hl]
  exact .ok (.unknown ht.keptTag hloc)

/-- A list field, or the empty list in its place. -/
theorem Json.ListAt.orElse_nil {key : String} (h : data.ListAt key) :
    ∃ vs, ((data.at? key).getD .null).orElse (.list []) = .list vs ∧
      ∀ v ∈ vs, v ∈ data.itemsAt key := by
  unfold Json.orElse itemsAt
  split
  · rename_i hp
    obtain ⟨vs, hvs⟩ := h _ (nonNull?_of_ne_null (ne_null_of_isPresent hp))
    rw [hvs]
    exact ⟨vs, rfl, fun v hv => hv⟩
  · exact ⟨[], rfl, by simp⟩

theorem readTuple_reads {Q : FlowType → Prop} (ht : data.ListAt "types")
    (he : data.ListAt "elementTypes") (h : ∀ v ∈ tupleItems data, Reads L (readElement v) Q) :
    Reads L (readTuple data) (fun ts => ∀ t ∈ ts, Q t) := by
  unfold readTuple
  unfold tupleItems at h
  cases hv : data.nonNull? "types" with
  | none =>
    rw [hv] at h
    exact Json.eachItem_reads he h
  | some v =>
    rw [hv] at h
    exact Json.eachElement_reads (ht v hv) h

mutual

theorem FlowType.Conforms.reads {data : Json} (h : FlowType.Conforms L data) :
    Reads L (FlowType.ofEstree data) (FlowType.Typed) := by
  match h with
  | .keyword hn ht =>
      obtain ⟨loc, hl, hloc⟩ := hn.location
      rw [FlowType.ofEstree_keyword ht hl]
      exact .ok (.keyword hloc)
  | .function hn ht hp hps hr hrest =>
      obtain ⟨loc, hl, hloc⟩ := hn.location
      rw [FlowType.ofEstree_function ht hl]
      refine (Json.ifNonNull_reads (Q := fun ps => ∀ p ∈ ps, p.Typed) fun v hv => ?_).bind
        fun params hparams => ?_
      · refine Json.eachElement_reads (hp v hv) fun w hw => ?_
        exact FunctionParam.Conforms.reads (hps w (by rwa [Json.itemsAt, Json.at?_of_nonNull? hv]))
      refine (Json.ifPresent_reads fun v hv => FlowType.Conforms.reads (hr v hv)).bind
        fun returns hreturns => ?_
      refine (Json.ifPresent_reads fun v hv => FunctionParam.Conforms.reads (hrest v hv)).bind
        fun rest hrest => ?_
      exact .ok (.function hparams hreturns hrest hloc)
  | .generic hn ht hi hname ho hargs =>
      obtain ⟨loc, hl, hloc⟩ := hn.location
      rw [FlowType.ofEstree_generic ht hl hi]
      refine hname.yields.reads.bind fun name hname => ?_
      refine (Json.ifPresent_reads (Q := fun ts => ∀ t ∈ ts, t.Typed) fun v hv => ?_).bind
        fun args htyped => ?_
      · rw [Json.itemsOf_eq (ho v hv).1]
        exact Json.eachItem_reads (ho v hv).2 fun w hw =>
          FlowType.Conforms.reads (hargs v hv w hw)
      exact .ok (.generic hname htyped hloc)
  | .nullable hn ht hi hc =>
      obtain ⟨loc, hl, hloc⟩ := hn.location
      rw [FlowType.ofEstree_nullable ht hl hi]
      exact (FlowType.Conforms.reads hc).bind fun t htyped => .ok (.nullable htyped hloc)
  | .object hn ht hcl hc hsl hs hml hm hil hi =>
      obtain ⟨loc, hl, hloc⟩ := hn.location
      obtain ⟨calls, hcalls, hc'⟩ := hcl.orElse_nil
      obtain ⟨slots, hslots, hs'⟩ := hsl.orElse_nil
      rw [FlowType.ofEstree_object ht hl]
      simp only [hcalls, hslots, Json.add]
      refine (Json.eachItem_reads hml fun v hv => Member.Conforms.reads (hm v hv)).bind
        fun members hmembers => ?_
      refine (Reads.mapM (Q := Member.Typed) fun v hv => ?_).bind fun unknowns hunknowns => ?_
      · rcases List.mem_append.mp hv with hv | hv
        · obtain ⟨hcn, hct⟩ := hc v (hc' v hv)
          exact Member.ofUnknown_reads hcn hct
        · obtain ⟨hsn, hst⟩ := hs v (hs' v hv)
          exact Member.ofUnknown_reads hsn hst
      refine (Json.eachItem_reads hil fun v hv => Indexer.Conforms.reads (hi v hv)).bind
        fun indexers hindexers => ?_
      refine .ok (.object (fun m hm => ?_) hindexers hloc)
      rcases List.mem_append.mp hm with hm | hm
      · exact hmembers m hm
      · exact hunknowns m hm
  | .union hn ht hts hc =>
      obtain ⟨loc, hl, hloc⟩ := hn.location
      rw [FlowType.ofEstree_union ht hl]
      exact (Json.eachItem_reads hts fun v hv => FlowType.Conforms.reads (hc v hv)).bind
        fun types htypes => .ok (.union htypes hloc)
  | .intersection hn ht hts hc =>
      obtain ⟨loc, hl, hloc⟩ := hn.location
      rw [FlowType.ofEstree_intersection ht hl]
      exact (Json.eachItem_reads hts fun v hv => FlowType.Conforms.reads (hc v hv)).bind
        fun types htypes => .ok (.intersection htypes hloc)
  | .stringLiteral hn ht hr =>
      obtain ⟨loc, hl, hloc⟩ := hn.location
      rw [FlowType.ofEstree_stringLiteral ht hl]
      exact .ok (.stringLiteral (hr.getD _) hloc)
  | .booleanLiteral hn ht hr =>
      obtain ⟨loc, hl, hloc⟩ := hn.location
      rw [FlowType.ofEstree_booleanLiteral ht hl]
      exact .ok (.booleanLiteral (hr.getD _) hloc)
  | .tuple hn ht htl hel hc =>
      obtain ⟨loc, hl, hloc⟩ := hn.location
      rw [FlowType.ofEstree_tuple ht hl]
      have hy : ∀ w ∈ tupleItems data, Reads L (readElement w) (FlowType.Typed) :=
        fun w hw => TupleElement.Conforms.reads (hc w hw)
      exact (readTuple_reads htl hel hy).bind fun types htypes => .ok (.tuple htypes hloc)
  | .other hn ht =>
      obtain ⟨loc, hl, hloc⟩ := hn.location
      rw [FlowType.ofEstree_other ht hl]
      exact .ok (.unknown ht.keptTag hloc)

theorem TupleElement.Conforms.reads {v : Json} (h : TupleElement.Conforms L v) :
    Reads L (readElement v) (FlowType.Typed) := by
  match h with
  | .labelled hlab he hc =>
      rw [readElement, FlowType.unlabelled_of_isLabelled hlab he]
      exact FlowType.Conforms.reads hc
  | .plain hlab hc =>
      rw [readElement, FlowType.unlabelled_of_not_isLabelled hc.node.isObject hc.tag hlab]
      exact FlowType.Conforms.reads hc

theorem FunctionParam.Conforms.reads {data : Json} (h : FunctionParam.Conforms L data) :
    Reads L (FunctionParam.ofEstree data) (FunctionParam.Typed) := by
  match h with
  | .mk hn hname hi hc =>
      rw [FunctionParam.ofEstree_eq hi]
      refine (paramName_reads hn.isObject hname).bind fun name hname => ?_
      refine (FlowType.Conforms.reads hc).bind fun type htype => ?_
      exact hn.location.reads.bind fun loc hloc => .ok (.mk hname htype hloc)

theorem Member.Conforms.reads {data : Json} (h : Member.Conforms L data) :
    Reads L (Member.ofEstree data) (Member.Typed) := by
  match h with
  | .property hn ht hk hkey hi hc =>
      rw [Member.ofEstree_property ht hk hi]
      refine hkey.reads.bind fun name hname => ?_
      refine (FlowType.Conforms.reads hc).bind fun value hvalue => ?_
      exact hn.location.reads.bind fun loc hloc => .ok (.property hname hvalue hloc)
  | .other hn ht =>
      rw [Member.ofEstree_other ht]
      exact Member.ofUnknown_reads hn ht

theorem Indexer.Conforms.reads {data : Json} (h : Indexer.Conforms L data) :
    Reads L (Indexer.ofEstree data) (Indexer.Typed) := by
  match h with
  | .mk hn hid hk hkey hv hvalue =>
      rw [Indexer.ofEstree_eq hk hv]
      refine (nameOfId_reads hn.isObject hid).bind fun name hname => ?_
      refine (FlowType.Conforms.reads hkey).bind fun key hkey => ?_
      refine (FlowType.Conforms.reads hvalue).bind fun value hvalue => ?_
      exact hn.location.reads.bind fun loc hloc => .ok (.mk hname hkey hvalue hloc)

end

theorem AnnotationAt.reads {key : String} (ho : data.IsObject) (h : AnnotationAt L data key) :
    Reads L (FlowType.ofField? data key) (fun o => ∀ t, o = some t → t.Typed) := by
  cases hv : data.present? key with
  | none =>
    rw [FlowType.ofField?_absent ho hv]
    exact .ok (by simp)
  | some v =>
    obtain ⟨hvo, hw, hp⟩ := h v (Json.nonNull?_of_present? hv)
    by_cases ht : v.HasTag "TypeAnnotation"
    · rw [FlowType.ofField?_wrapped hv ht]
      exact Json.ifPresent_reads fun inner hi => (hw ht inner hi).reads
    · have hn : v.HasOtherTag ["TypeAnnotation"] := by
        refine ⟨hvo, fun w hwt => ?_⟩
        obtain ⟨tag, rfl⟩ := (hp ht).tag w hwt
        refine ⟨tag, rfl, fun hm => ht ?_⟩
        rw [List.mem_singleton.mp hm] at hwt
        exact hwt
      rw [FlowType.ofField?_plain hv hn]
      exact (hp ht).reads.bind fun t htyped => .ok (by simpa using htyped)

theorem TypeParameter.Conforms.reads (h : TypeParameter.Conforms L data) :
    Reads L (TypeParameter.ofEstree data) (TypeParameter.Typed) := by
  obtain ⟨s, hs⟩ := h.name
  rw [TypeParameter.ofEstree_eq hs]
  refine (h.bound.reads h.node.isObject).bind fun bound hbound => ?_
  exact h.node.location.reads.bind fun loc hloc => .ok ⟨⟨s, rfl⟩, hbound, hloc⟩

theorem TypeParametersAt.reads (ho : data.IsObject) (h : TypeParametersAt L data) :
    Reads L (TypeParameter.listOf? data) (TypedParameters) := by
  rw [TypeParameter.listOf?_eq ho]
  refine Json.ifPresent_reads fun v hv => ?_
  obtain ⟨hvo, hl, hp⟩ := h v hv
  rw [Json.itemsOf_eq hvo]
  exact Json.eachItem_reads hl fun w hw => (hp w hw).reads

/-! ## Patterns and specifiers -/

theorem Identifier.Conforms.reads (h : Identifier.Conforms L data) :
    Reads L (Identifier.ofEstree data) (Identifier.Typed) := by
  obtain ⟨s, hs⟩ := h.name
  rw [Identifier.ofEstree_eq hs]
  refine (h.type.reads h.node.isObject).bind fun type htype => ?_
  exact h.node.location.reads.bind fun loc hloc => .ok ⟨⟨s, rfl⟩, htype, hloc⟩

theorem Expression.Conforms.reads (h : Expression.Conforms L data) :
    Reads L (Expression.ofEstree data) (Expression.Typed) := by
  cases h with
  | literal hn ht hr =>
    obtain ⟨loc, hl, hloc⟩ := hn.location
    rw [Expression.ofEstree_literal ht hl]
    exact .ok (.literal (hr.getD _) hloc)
  | identifier ht hi =>
    rw [Expression.ofEstree_identifier ht]
    exact hi.reads.bind fun i htyped => .ok (.identifier htyped)
  | other hn ht =>
    obtain ⟨loc, hl, hloc⟩ := hn.location
    rw [Expression.ofEstree_other ht hl]
    exact .ok (.unknown ht.keptTag hloc)

/-- A default value that is absent is read as a node without fields. -/
theorem Expression.conforms_empty : Expression.Conforms L (.object []) := by
  refine .other ⟨⟨[], rfl⟩, ?_⟩ ⟨⟨[], rfl⟩, ?_⟩
  · intro v hv; cases hv
  · intro v hv; cases hv

theorem Pattern.Conforms.reads {data : Json} (h : Pattern.Conforms L data) :
    Reads L (Pattern.ofEstree data) (Pattern.Typed) := by
  match h with
  | .identifier ht hi =>
      obtain ⟨loc, hl, _⟩ := hi.node.location
      rw [Pattern.ofEstree_identifier ht hl]
      exact hi.reads.bind fun i htyped => .ok (.identifier htyped)
  | .rest hn ht ha hc =>
      obtain ⟨loc, hl, hloc⟩ := hn.location
      rw [Pattern.ofEstree_rest ht hl ha]
      exact (Pattern.Conforms.reads hc).bind fun argument hargument => .ok (.rest hargument hloc)
  | .assignment hn ht ha hc hr =>
      obtain ⟨loc, hl, hloc⟩ := hn.location
      have hright : Expression.Conforms L
          (((data.at? "right").getD .null).orElse (.object [])) := by
        unfold Json.orElse
        split
        · rename_i hp
          exact hr _ (Json.nonNull?_of_ne_null (Json.ne_null_of_isPresent hp))
        · exact Expression.conforms_empty
      rw [Pattern.ofEstree_assignment ht hl ha]
      refine (Pattern.Conforms.reads hc).bind fun left hleft => ?_
      exact hright.reads.bind fun right hright => .ok (.assignment hleft hright hloc)
  | .other hn ht =>
      obtain ⟨loc, hl, hloc⟩ := hn.location
      rw [Pattern.ofEstree_other ht hl]
      exact .ok (.unknown ht.keptTag hloc)

theorem nameIn_reads {v : Json} (h : v ≠ .null → SpecifierName.Conforms L v) :
    Reads L (nameIn v) Json.IsText := by
  cases hp : v.isPresent with
  | false =>
    rw [nameIn_absent hp]
    exact .ok ⟨_, rfl⟩
  | true =>
    obtain ⟨ho, hv, hn⟩ := h (Json.ne_null_of_isPresent hp)
    by_cases ht : v.HasTag "Literal"
    · rw [nameIn_literal ht]
      exact (hv ht).reads.bind fun shown _ => .ok ⟨shown, rfl⟩
    · rw [nameIn_other ho ht]
      exact .ok ((hn ht).getD _)

theorem NamesAt.nameAt {keys : List String} (h : NamesAt L data keys) {key : String}
    (hk : key ∈ keys) : Reads L (nameAt data key) Json.IsText :=
  nameIn_reads fun hn => h key hk _ (Json.nonNull?_of_ne_null hn)

theorem NamesAt.nameUnder {keys : List String} (ho : data.IsObject) (h : NamesAt L data keys)
    {key other : String} (hk : key ∈ keys) (hother : other ∈ keys) :
    Reads L (nameUnder data key other) Json.IsText := by
  rw [nameUnder_eq ho]
  refine nameIn_reads ?_
  unfold Json.orElse
  split
  · exact fun hn => h key hk _ (Json.nonNull?_of_ne_null hn)
  · exact fun hn => h other hother _ (Json.nonNull?_of_ne_null hn)

theorem Json.IsText.orElse {v w : Json} (hv : v.IsText) (hw : w.IsText) : (v.orElse w).IsText := by
  unfold Json.orElse
  split
  · exact hv
  · exact hw

theorem Specifier.Conforms.reads (h : Specifier.Conforms L data) :
    Reads L (Specifier.ofEstree data) (Specifier.Typed) := by
  cases h with
  | importNamed hn ht hnames =>
    obtain ⟨loc, hl, hloc⟩ := hn.location
    rw [Specifier.ofEstree_importNamed ht hl]
    refine (hnames.nameUnder hn.isObject (by simp) (by simp)).bind fun imported himported => ?_
    refine (hnames.nameUnder hn.isObject (by simp) (by simp)).bind fun localName hlocal => ?_
    exact .ok (.importNamed himported (hlocal.orElse himported) hloc)
  | importDefault hn ht hnames =>
    obtain ⟨loc, hl, hloc⟩ := hn.location
    rw [Specifier.ofEstree_importDefault ht hl]
    exact (hnames.nameUnder hn.isObject (by simp) (by simp)).bind
      fun localName hlocal => .ok (.importDefault hlocal hloc)
  | importNamespace hn ht hnames =>
    obtain ⟨loc, hl, hloc⟩ := hn.location
    rw [Specifier.ofEstree_importNamespace ht hl]
    exact (hnames.nameUnder hn.isObject (by simp) (by simp)).bind
      fun localName hlocal => .ok (.importNamespace hlocal hloc)
  | exportNamed hn ht hnames =>
    obtain ⟨loc, hl, hloc⟩ := hn.location
    rw [Specifier.ofEstree_exportNamed ht hl]
    refine (hnames.nameAt (by simp)).bind fun localName hlocal => ?_
    refine (hnames.nameAt (by simp)).bind fun exported hexported => ?_
    exact .ok (.exportNamed hlocal (hexported.orElse hlocal) hloc)
  | exportDefault hn ht hnames =>
    obtain ⟨loc, hl, hloc⟩ := hn.location
    rw [Specifier.ofEstree_exportDefault ht hl]
    exact (hnames.nameAt (by simp)).bind fun exported hexported =>
      .ok (.exportDefault hexported hloc)
  | exportNamespace hn ht hnames =>
    obtain ⟨loc, hl, hloc⟩ := hn.location
    rw [Specifier.ofEstree_exportNamespace ht hl]
    exact (hnames.nameAt (by simp)).bind fun exported hexported =>
      .ok (.exportNamespace hexported hloc)
  | other hn ht =>
    obtain ⟨loc, hl, hloc⟩ := hn.location
    rw [Specifier.ofEstree_other ht hl]
    exact .ok (.unknown ht.keptTag hloc)

theorem SpecifiersAt.reads (ho : data.IsObject) (h : SpecifiersAt L data) :
    Reads L (Specifier.listOf data) (fun specs => ∀ s ∈ specs, s.Typed) := by
  rw [Specifier.listOf_eq ho]
  exact Json.eachItem_reads h.1 fun v hv => (h.2 v hv).reads

/-! ## Statements and programs -/

theorem Source.Conforms.reads {v : Json} (h : Source.Conforms L v) :
    Reads L (literalText v) (fun _ => True) := by
  obtain ⟨ho, hl, hr⟩ := h
  rw [literalText_eq ho]
  by_cases hn : (v.at? "value").getD .null = .null
  · have hv : v.nonNull? "value" = none := by
      unfold Json.nonNull?
      split
      · rfl
      · rename_i hne
        cases hv : v.at? "value" with
        | none => rfl
        | some w => rw [hv] at hn hne; cases hn; exact absurd rfl hne
    obtain ⟨raw, hraw⟩ := (hr hv).getD ""
    rw [hn, hraw]
    exact .ok trivial
  · have hd := Reads.display (hl _ (Json.nonNull?_of_ne_null hn))
    split
    · contradiction
    · exact hd

theorem ModuleName.Conforms.reads {id : Json} (h : ModuleName.Conforms L id) :
    Reads L (nameOfModule id) Json.IsText := by
  rcases h with ⟨ht, hn⟩ | ⟨ht, hs⟩
  · obtain ⟨part, hp, hpt⟩ := hn.required
    rw [nameOfModule, ht.get_eq, hp]
    exact .ok hpt
  · rw [nameOfModule_other hs.1 ht]
    exact hs.reads.bind fun text _ => .ok ⟨text, rfl⟩

theorem DeclaredNameAt.reads (h : DeclaredNameAt data) :
    Reads L (declaredName data) Json.IsText := by
  obtain ⟨id, hi, s, hs⟩ := h
  rw [declaredName_eq hi hs]
  exact .ok ⟨s, rfl⟩

theorem Signature.Conforms.reads (h : Signature.Conforms L data) :
    Reads L (Signature.ofEstree data) (Signature.Typed) := by
  have ho := h.node.isObject
  rw [Signature.ofEstree_eq ho]
  refine (nameOfId_reads ho h.name).bind fun name hname => ?_
  refine (Json.eachItem_reads h.isList fun v hv => (h.params v hv).reads).bind
    fun params hparams => ?_
  refine (h.returns.reads ho).bind fun returns hreturns => ?_
  refine (h.typeParams.reads ho).bind fun typeParams htypeParams => ?_
  exact h.node.location.reads.bind fun loc hloc => .ok ⟨hname, hparams, hreturns, htypeParams, hloc⟩

theorem TypeAlias.Conforms.reads (h : TypeAlias.Conforms L data) :
    Reads L (TypeAlias.ofEstree data) (TypeAlias.Typed) := by
  obtain ⟨v, hv, hc⟩ := h.right
  rw [TypeAlias.ofEstree_eq hv]
  refine h.name.reads.bind fun name hname => ?_
  refine hc.reads.bind fun right hright => ?_
  refine (h.typeParams.reads h.node.isObject).bind fun typeParams htypeParams => ?_
  exact h.node.location.reads.bind fun loc hloc => .ok ⟨hname, hright, htypeParams, hloc⟩

theorem Block.Conforms.node (h : Block.Conforms L data) : IsNode data := by
  cases h
  assumption

mutual

theorem Statement.Conforms.reads {data : Json} (h : Statement.Conforms L data) :
    Reads L (Statement.ofEstree data) (Statement.Typed) := by
  match h with
  | .function ht hf =>
      obtain ⟨loc, hl, _⟩ := hf.node.location
      rw [Statement.ofEstree_function ht hl]
      exact hf.reads.bind fun f htyped => .ok (.function htyped)
  | .variableDeclaration hn ht hk =>
      obtain ⟨loc, hl, hloc⟩ := hn.location
      rw [Statement.ofEstree_variableDeclaration ht hl]
      exact .ok (.variableDeclaration (hk.getD "var") hloc)
  | .typeAlias ht ha =>
      obtain ⟨loc, hl, _⟩ := ha.node.location
      rw [Statement.ofEstree_typeAlias ht hl]
      exact ha.reads.bind fun a htyped => .ok (.typeAlias htyped)
  | .importDeclaration hn ht hs hsource hspecs =>
      obtain ⟨loc, hl, hloc⟩ := hn.location
      rw [Statement.ofEstree_importDeclaration ht hl hs]
      refine hsource.reads.bind fun source _ => ?_
      refine (hspecs.reads hn.isObject).bind fun specifiers htyped => ?_
      rw [moduleKind_eq hn.isObject]
      exact .ok (.importDeclaration htyped hloc)
  | .exportDefault hn ht hd hc =>
      obtain ⟨loc, hl, hloc⟩ := hn.location
      rw [Statement.ofEstree_exportDefault ht hl hd]
      exact (Statement.Conforms.reads hc).bind fun s htyped => .ok (.exportDefault htyped hloc)
  | .exportNamed hn ht hd hspecs hs =>
      obtain ⟨loc, hl, hloc⟩ := hn.location
      rw [Statement.ofEstree_exportNamed ht hl]
      refine (Json.ifPresent_reads fun v hv => Statement.Conforms.reads (hd v hv)).bind
        fun declaration hdeclaration => ?_
      refine (hspecs.reads hn.isObject).bind fun specifiers htyped => ?_
      refine (Json.ifPresent_reads fun v hv => (hs v hv).reads).bind fun source _ => ?_
      rw [moduleKind_eq hn.isObject]
      exact .ok (.exportNamed hdeclaration htyped hloc)
  | .exportAll hn ht hs hsource =>
      obtain ⟨loc, hl, hloc⟩ := hn.location
      rw [Statement.ofEstree_exportAll ht hl hs]
      exact hsource.reads.bind fun source _ => .ok (.exportAll hloc)
  | .block ht hb =>
      obtain ⟨loc, hl, _⟩ := hb.node.location
      rw [Statement.ofEstree_block ht hl]
      exact (Block.Conforms.reads hb).bind fun b htyped => .ok (.block htyped)
  | .declareModule hn ht hi hname hb =>
      obtain ⟨loc, hl, hloc⟩ := hn.location
      rw [Statement.ofEstree_declareModule ht hl hi]
      refine hname.reads.bind fun name hname => ?_
      refine (Json.ifPresent_reads fun v hv => Block.Conforms.reads (hb v hv)).bind
        fun body hbody => ?_
      refine .ok (.declareModule hname ?_ hloc)
      cases body with
      | none => exact .mk (by simp) (by rintro l ⟨⟩)
      | some b => exact hbody b rfl
  | .declareTypeAlias ht ha =>
      obtain ⟨loc, hl, _⟩ := ha.node.location
      rw [Statement.ofEstree_declareTypeAlias ht hl]
      exact ha.reads.bind fun a htyped => .ok (.declareTypeAlias htyped)
  | .declareClass hn ht hname =>
      obtain ⟨loc, hl, hloc⟩ := hn.location
      rw [Statement.ofEstree_declareClass ht hl]
      exact hname.reads.bind fun name htyped => .ok (.declareClass htyped hloc)
  | .other hn ht =>
      obtain ⟨loc, hl, hloc⟩ := hn.location
      rw [Statement.ofEstree_other ht hl]
      exact .ok (.unknown ht.keptTag hloc)

theorem Block.Conforms.reads {data : Json} (h : Block.Conforms L data) :
    Reads L (Block.ofEstree data) (Block.Typed) := by
  match h with
  | .mk hn hl hb =>
      rw [Block.ofEstree_eq hn.isObject]
      refine (Json.eachItem_reads hl fun v hv => Statement.Conforms.reads (hb v hv)).bind
        fun body hbody => ?_
      exact hn.location.reads.bind fun loc hloc => .ok (.mk hbody hloc)

end

theorem ParseError.Conforms.reads (h : ParseError.Conforms data) :
    Reads L (ParseError.ofEstree data) (ParseError.Typed) := by
  rw [ParseError.ofEstree, Json.getD_eq h.node.isObject]
  exact h.node.location.reads.bind fun loc hloc => .ok ⟨h.message.getD _, hloc⟩

theorem Program.Conforms.reads (h : Program.Conforms L data) :
    Reads L (Program.ofParts data) (Program.Typed) := by
  rw [Program.ofParts_eq h.node.isObject]
  refine (Json.eachItem_reads h.bodyList fun v hv => (h.body v hv).reads).bind
    fun body hbody => ?_
  refine (Json.eachItem_reads h.errorList fun v hv => (h.errors v hv).reads).bind
    fun errors herrors => ?_
  exact h.node.location.reads.bind fun loc hloc => .ok ⟨hbody, herrors, hloc⟩

end Typings
