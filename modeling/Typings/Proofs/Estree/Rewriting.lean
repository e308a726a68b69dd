import Typings.Parser
import Typings.Proofs.Estree.Places
import Mathlib.Data.List.Nodup
import Mathlib.Logic.Relation

/-!
# Trees from parsers of different versions

Parsers of different versions write down one and the same source in different trees. The
differences are rewritings, each at a place of the tree; no rewriting changes what is read.
-/

namespace Typings

/-! ## Rewritings -/

/-- Whether a value is an object with a tag, of whatever kind. -/
def Json.IsNode (v : Json) : Prop :=
  ∃ tag, v.at? "type" = some tag

/-- Whether two values have the same fields, apart from some keys. -/
def SameBut (keys : List String) (a b : Json) : Prop :=
  ∀ key, key ∉ keys → a.at? key = b.at? key

/-- The place at which the value of a field is read as a whole. -/
def Way.whole? : Way → Option Place
  | .node p | .child p => some p
  | _ => none

/-- The place at which the items of a field are read. -/
def Way.items? : Way → Option Place
  | .items p | .given p => some p
  | .strays => some .stray
  | _ => none

/-- The tags of specifiers, each with a key and the other key under which older trees have the same
name. -/
def movedNames : List (String × String × String) :=
  [("ImportSpecifier", "imported", "id"), ("ImportSpecifier", "local", "name"),
    ("ImportDefaultSpecifier", "local", "id"), ("ImportNamespaceSpecifier", "local", "id")]

/-- One rewriting of a value that is read at a place. -/
inductive Rewrite : Place → Json → Json → Prop
  /-- An annotation gets a wrapper. -/
  | wrap {x w : Json} : x.IsNode → ¬ x.HasTag "TypeAnnotation" → w.HasTag "TypeAnnotation" →
      w.at? "typeAnnotation" = some x → Rewrite .annotated x w
  /-- A tuple element gets a label. -/
  | label {x w : Json} : x.IsNode → x.at? "elementType" = none →
      w.HasTag "TupleTypeLabeledElement" → w.at? "elementType" = some x → Rewrite .element x w
  /-- The elements of a tuple move to the other key. -/
  | tuple {p : Place} {a b : Json} {items : List Json} :
      p ∈ [Place.type, .annotated, .element] → a.HasTag "TupleTypeAnnotation" →
      SameBut ["types", "elementTypes"] a b →
      a.at? "types" = some (.list items) → (a.at? "elementTypes").getD .null = .null →
      (b.at? "types").getD .null = .null → b.at? "elementTypes" = some (.list items) →
      Rewrite p a b
  /-- A name in a specifier moves to the other key. -/
  | rename {a b : Json} {tag key other : String} :
      (tag, key, other) ∈ movedNames → a.HasTag tag → SameBut [key, other] a b →
      a.at? other = none → b.at? key = none → b.at? other = a.at? key → Rewrite .specifier a b
  /-- A null is dropped. -/
  | null {p : Place} {a b : Json} {key : String} {way : Way} :
      a.IsNode → (key, way) ∈ p.slots (a.at? "type") → way.isOptional = true →
      SameBut [key] a b → a.at? key = some .null → b.at? key = none → Rewrite p a b
  /-- A field that is not read changes, comes or goes. -/
  | unread {p : Place} {a b : Json} {key : String} :
      a.IsNode → key ≠ "type" → (∀ way, (key, way) ∉ p.slots (a.at? "type")) →
      SameBut [key] a b → Rewrite p a b
  /-- The value of a field is rewritten. -/
  | inside {p q : Place} {a b x y : Json} {key : String} {way : Way} :
      (key, way) ∈ p.slots (a.at? "type") → way.whole? = some q → SameBut [key] a b →
      a.at? key = some x → b.at? key = some y → Rewrite q x y → Rewrite p a b
  /-- One item of a field is rewritten. -/
  | item {p q : Place} {a b x y : Json} {key : String} {way : Way} {l r : List Json} :
      (key, way) ∈ p.slots (a.at? "type") → way.items? = some q → SameBut [key] a b →
      a.at? key = some (.list (l ++ x :: r)) → b.at? key = some (.list (l ++ y :: r)) →
      Rewrite q x y → Rewrite p a b

/-! ## Keys -/

theorem slotsFor_nodup {name : String} {known : Slots} {others : Option Json → Slots}
    (hk : ("type" :: known.map Prod.fst).Nodup)
    (ho : ∀ tag, ("type" :: (others tag).map Prod.fst).Nodup) (tag : Option Json) :
    ("type" :: (slotsFor name known others tag).map Prod.fst).Nodup := by
  unfold slotsFor
  split
  · split
    · exact hk
    · exact ho _
  · exact ho _

theorem elementType_typeSlots_nodup (tag : Option Json) :
    ("type" :: "elementType" :: (typeSlots tag).map Prod.fst).Nodup := by
  unfold typeSlots
  split <;> decide

theorem typeSlots_nodup (tag : Option Json) : ("type" :: (typeSlots tag).map Prod.fst).Nodup :=
  (elementType_typeSlots_nodup tag).sublist ((List.sublist_cons_self _ _).cons_cons _)

theorem elementSlots_nodup (tag : Option Json) :
    ("type" :: (elementSlots tag).map Prod.fst).Nodup := by
  unfold elementSlots
  split
  · split
    · exact elementType_typeSlots_nodup _
    · exact typeSlots_nodup _
  · exact elementType_typeSlots_nodup _

/-- No field is read in two ways, and none in place of the tag. -/
theorem Place.keys_nodup (p : Place) (tag : Option Json) :
    ("type" :: (p.slots tag).map Prod.fst).Nodup := by
  cases p with
  | statement =>
    simp only [Place.slots, statementSlots]
    split <;> decide
  | pattern =>
    simp only [Place.slots, patternSlots]
    split <;> decide
  | expression =>
    simp only [Place.slots, expressionSlots]
    split <;> decide
  | specifier =>
    simp only [Place.slots, specifierSlots]
    split <;> decide
  | type => exact typeSlots_nodup tag
  | element => exact elementSlots_nodup tag
  | annotated => exact slotsFor_nodup (by decide) typeSlots_nodup tag
  | member | typeName | keyName | specifierName | moduleName =>
    simp only [Place.slots, memberSlots, typeNameSlots, keyNameSlots, specifierNameSlots,
      moduleNameSlots]
    apply slotsFor_nodup
    · decide
    · intro _
      decide
  | _ =>
    simp only [Place.slots]
    decide

variable {a b x y : Json} {key : String} {way : Way} {p q : Place}

theorem Place.ne_type {tag : Option Json} (h : (key, way) ∈ p.slots tag) : key ≠ "type" := by
  rintro rfl
  exact (List.nodup_cons.1 (p.keys_nodup tag)).1 (List.mem_map_of_mem h)

theorem Place.way_unique {tag : Option Json} {way' : Way} (h : (key, way) ∈ p.slots tag)
    (h' : (key, way') ∈ p.slots tag) : way' = way := by
  have hn := (List.nodup_cons.1 (p.keys_nodup tag)).2
  have he := List.inj_on_of_nodup_map hn h' h rfl
  exact congrArg Prod.snd he

theorem SameBut.tag_eq (h : SameBut [key] a b) (hk : key ≠ "type") :
    a.at? "type" = b.at? "type" :=
  h "type" fun hm => hk (List.mem_singleton.1 hm).symm

/-! ## Fields that agree -/

theorem Json.present?_of_at? (ha : a.at? key = some x) (hx : x.isPresent = true) :
    a.present? key = some x := by
  rw [present?, ha, Option.filter_some, if_pos hx]

theorem Json.eachItem_list {α : Type} {items : List Json} (f : Json → Except Malformed α)
    (h : a.at? key = some (.list items)) : a.eachItem key f = items.mapM f := by
  rw [eachItem, present?, h]
  cases items <;> rfl

theorem Way.agree_of_at? (way : Way) (h : a.at? key = b.at? key) : way.Agree key a b := by
  cases way with
  | value => exact h
  | option => rw [Agree, h]
  | node p => rw [Agree, h]
  | child p => rw [Agree, Json.ifPresent, Json.ifPresent, Json.present?, Json.present?, h]
  | items p => rw [Agree, Json.eachItem, Json.eachItem, Json.present?, Json.present?, h]
  | given p => rw [Agree, Json.ifNonNull, Json.ifNonNull, Json.nonNull?, Json.nonNull?, h]
  | strays => exact .inl (by rw [h])

theorem Way.agree_of_null (ho : way.isOptional = true) (ha : a.at? key = some .null)
    (hb : b.at? key = none) : way.Agree key a b := by
  cases way with
  | value => cases ho
  | node p => cases ho
  | option => rw [Agree, ha, hb]; rfl
  | child p => rw [Agree, Json.ifPresent, Json.ifPresent, Json.present?, Json.present?, ha, hb]; rfl
  | items p => rw [Agree, Json.eachItem, Json.eachItem, Json.present?, Json.present?, ha, hb]; rfl
  | given p => rw [Agree, Json.ifNonNull, Json.ifNonNull, Json.nonNull?, Json.nonNull?, ha, hb]
  | strays => exact .inl (by rw [ha, hb]; rfl)

theorem Way.agree_of_whole (hw : way.whole? = some q) (ha : a.at? key = some x)
    (hb : b.at? key = some y) (hx : x.isPresent = true) (hy : y.isPresent = true)
    (h : q.read x = q.read y) : way.Agree key a b := by
  cases way with
  | node p =>
    cases hw
    rw [Agree, ha, hb, Option.map_some, Option.map_some, h]
  | child p =>
    cases hw
    rw [Agree, Json.ifPresent, Json.ifPresent, Json.present?_of_at? ha hx,
      Json.present?_of_at? hb hy]
    exact congrArg (some <$> ·) h
  | _ => cases hw

theorem Way.agree_of_items {l r : List Json} (hw : way.items? = some q)
    (ha : a.at? key = some (.list (l ++ x :: r))) (hb : b.at? key = some (.list (l ++ y :: r)))
    (h : q.read x = q.read y) : way.Agree key a b := by
  have hm : (l ++ x :: r).mapM q.read = (l ++ y :: r).mapM q.read := by
    rw [List.mapM_append, List.mapM_append, List.mapM_cons, List.mapM_cons, h]
  cases way with
  | items p =>
    cases hw
    rw [Agree, Json.eachItem_list _ ha, Json.eachItem_list _ hb, hm]
  | given p =>
    cases hw
    rw [Agree, Json.ifNonNull, Json.ifNonNull, Json.nonNull?, Json.nonNull?, ha, hb]
    exact congrArg (some <$> ·) hm
  | strays =>
    cases hw
    refine .inr ⟨l ++ x :: r, l ++ y :: r, ?_, ?_, hm⟩
    · rw [ha]
      cases l <;> rfl
    · rw [hb]
      cases l <;> rfl
  | _ => cases hw

/-- Objects that differ in one field agree if the field is read alike. -/
theorem SameBut.agree (h : SameBut [key] a b) (ha : a.IsObject) (hb : b.IsObject)
    (hk : key ≠ "type")
    (hw : ∀ way, (key, way) ∈ p.slots (a.at? "type") → way.Agree key a b) : Agree p.slots a b := by
  refine ⟨ha, hb, h.tag_eq hk, fun slot hm => ?_⟩
  by_cases he : slot.1 = key
  · subst he
    exact hw slot.2 hm
  · exact slot.2.agree_of_at? (h slot.1 fun hs => he (List.mem_singleton.1 hs))

theorem SameBut.read_eq (h : SameBut [key] a b) (ha : a.IsObject) (hb : b.IsObject)
    (hm : (key, way) ∈ p.slots (a.at? "type")) (hw : way.Agree key a b) : p.read a = p.read b := by
  refine Place.read_congr (h.agree ha hb (Place.ne_type hm) fun way' hm' => ?_)
  rw [Place.way_unique hm hm']
  exact hw

/-! ## Moved fields -/

theorem readTuple_moved {items : List Json} (ha : a.at? "types" = some (.list items))
    (hb : (b.at? "types").getD .null = .null) (he : b.at? "elementTypes" = some (.list items)) :
    readTuple a = readTuple b := by
  have hn : b.nonNull? "types" = none := by
    rw [Json.nonNull?]
    cases hv : b.at? "types" with
    | none => rfl
    | some v =>
      rw [hv] at hb
      cases hb
      rfl
  rw [readTuple, readTuple, Json.nonNull?_of_at? ha (by simp), hn]
  exact (Json.eachItem_list readElement he).symm

theorem FlowType.ofEstree_moved {items : List Json} (ht : a.HasTag "TupleTypeAnnotation")
    (h : SameBut ["types", "elementTypes"] a b) (ha : a.at? "types" = some (.list items))
    (hb : (b.at? "types").getD .null = .null) (he : b.at? "elementTypes" = some (.list items)) :
    FlowType.ofEstree a = FlowType.ofEstree b := by
  have ht' : b.HasTag "TupleTypeAnnotation" := (h "type" (by decide)).symm.trans ht
  have hloc : Location.ofNode a = Location.ofNode b := by
    rw [Location.ofNode_eq ht.isObject, Location.ofNode_eq ht'.isObject, h "loc" (by decide)]
  refine located_congr ofEstree_mislocated ht.isObject ht'.isObject hloc fun loc hl hl' => ?_
  rw [ofEstree_tuple ht hl, ofEstree_tuple ht' hl', readTuple_moved ha hb he]

theorem nameUnder_moved {key other : String} (ha : a.IsObject) (hb : b.IsObject)
    (ho : a.at? other = none) (hk : b.at? key = none) (hm : b.at? other = a.at? key) :
    nameUnder a key other = nameUnder b key other := by
  rw [nameUnder_eq ha, nameUnder_eq hb, ho, hk, hm]
  generalize (a.at? key).getD .null = v
  change nameIn (v.orElse .null) = nameIn v
  cases hv : v.isPresent with
  | false =>
    rw [Json.orElse, hv, nameIn_absent hv]
    rfl
  | true =>
    rw [Json.orElse, hv]
    rfl

theorem nameUnder_congr {key other : String} (ha : a.IsObject) (hb : b.IsObject)
    (hk : a.at? key = b.at? key) (ho : a.at? other = b.at? other) :
    nameUnder a key other = nameUnder b key other := by
  rw [nameUnder_eq ha, nameUnder_eq hb, hk, ho]

theorem movedNames_keys :
    ∀ moved ∈ movedNames, ∀ key ∈ ["type", "loc"], key ∉ [moved.2.1, moved.2.2] := by
  decide

theorem Specifier.ofEstree_moved {tag key other : String} (hm : (tag, key, other) ∈ movedNames)
    (ht : a.HasTag tag) (h : SameBut [key, other] a b) (ho : a.at? other = none)
    (hk : b.at? key = none) (hmoved : b.at? other = a.at? key) :
    Specifier.ofEstree a = Specifier.ofEstree b := by
  have ht' : b.HasTag tag := (h "type" (movedNames_keys _ hm _ (by simp))).symm.trans ht
  have hloc : Location.ofNode a = Location.ofNode b := by
    rw [Location.ofNode_eq ht.isObject, Location.ofNode_eq ht'.isObject,
      h "loc" (movedNames_keys _ hm _ (by simp))]
  have hname := nameUnder_moved ht.isObject ht'.isObject ho hk hmoved
  refine located_congr ofEstree_mislocated ht.isObject ht'.isObject hloc fun loc hl hl' => ?_
  simp only [movedNames, List.mem_cons, Prod.mk.injEq, List.not_mem_nil, or_false] at hm
  rcases hm with ⟨rfl, rfl, rfl⟩ | ⟨rfl, rfl, rfl⟩ | ⟨rfl, rfl, rfl⟩ | ⟨rfl, rfl, rfl⟩
  · rw [ofEstree_importNamed ht hl, ofEstree_importNamed ht' hl', hname,
      nameUnder_congr ht.isObject ht'.isObject (h "local" (by decide)) (h "name" (by decide))]
  · rw [ofEstree_importNamed ht hl, ofEstree_importNamed ht' hl', hname,
      nameUnder_congr ht.isObject ht'.isObject (h "imported" (by decide)) (h "id" (by decide))]
  · rw [ofEstree_importDefault ht hl, ofEstree_importDefault ht' hl', hname]
  · rw [ofEstree_importNamespace ht hl, ofEstree_importNamespace ht' hl', hname]

/-- What is read of a tuple is read of it at every place where types stand. -/
theorem read_moved (hp : p ∈ [Place.type, .annotated, .element])
    (ht : a.HasTag "TupleTypeAnnotation") (ht' : b.HasTag "TupleTypeAnnotation")
    (he : a.at? "elementType" = b.at? "elementType")
    (h : FlowType.ofEstree a = FlowType.ofEstree b) : p.read a = p.read b := by
  simp only [List.mem_cons, List.not_mem_nil, or_false] at hp
  have hn : ∀ {v : Json}, v.HasTag "TupleTypeAnnotation" → ¬ v.HasTag "TypeAnnotation" := by
    intro v hv hw
    rw [Json.HasTag, hv] at hw
    simp at hw
  rcases hp with rfl | rfl | rfl
  · exact h
  · change readAnnotated a = readAnnotated b
    rw [readAnnotated_plain ht.isObject (hn ht), readAnnotated_plain ht'.isObject (hn ht'), h]
  · change readElement a = readElement b
    cases ha : a.at? "elementType" with
    | none => rw [readElement_plain ht.isObject ha, readElement_plain ht'.isObject (he ▸ ha), h]
    | some element =>
      rw [readElement_labelled ht rfl ha, readElement_labelled ht' rfl (he ▸ ha)]

/-! ## Readings of rewritten trees -/

theorem SameBut.isNode (h : SameBut [key] a b) (hk : key ≠ "type") (ha : a.IsNode) : b.IsNode := by
  obtain ⟨tag, ht⟩ := ha
  exact ⟨tag, (h.tag_eq hk).symm.trans ht⟩

/-- Nothing is rewritten but objects with fields, to such objects. -/
theorem Rewrite.fields (h : Rewrite p a b) :
    (∃ key v, a.at? key = some v) ∧ ∃ key v, b.at? key = some v := by
  cases h with
  | wrap hx _ hw _ => exact ⟨⟨_, hx⟩, ⟨_, _, hw⟩⟩
  | label hx _ hw _ => exact ⟨⟨_, hx⟩, ⟨_, _, hw⟩⟩
  | tuple _ ht _ _ _ _ he => exact ⟨⟨_, _, ht⟩, ⟨_, _, he⟩⟩
  | rename hm ht hs _ _ _ =>
    exact ⟨⟨_, _, ht⟩, ⟨_, _, (hs "type" (movedNames_keys _ hm _ (by simp))).symm.trans ht⟩⟩
  | null ha hm _ hs _ _ => exact ⟨⟨_, ha⟩, ⟨_, hs.isNode (Place.ne_type hm) ha⟩⟩
  | unread ha hk _ hs => exact ⟨⟨_, ha⟩, ⟨_, hs.isNode hk ha⟩⟩
  | inside _ _ _ ha hb _ => exact ⟨⟨_, _, ha⟩, ⟨_, _, hb⟩⟩
  | item _ _ _ ha hb _ => exact ⟨⟨_, _, ha⟩, ⟨_, _, hb⟩⟩

theorem Rewrite.isPresent (h : Rewrite p a b) : a.isPresent = true ∧ b.isPresent = true := by
  obtain ⟨⟨_, _, ha⟩, ⟨_, _, hb⟩⟩ := h.fields
  exact ⟨Json.isPresent_of_at? ha, Json.isPresent_of_at? hb⟩

theorem Rewrite.isObject (h : Rewrite p a b) : a.IsObject ∧ b.IsObject := by
  obtain ⟨⟨_, _, ha⟩, ⟨_, _, hb⟩⟩ := h.fields
  exact ⟨Json.isObject_of_at? ha, Json.isObject_of_at? hb⟩

theorem Rewrite.read_eq (h : Rewrite p a b) : p.read a = p.read b := by
  induction h with
  | wrap hx hn hw hv =>
    obtain ⟨tag, ht⟩ := hx
    change readAnnotated _ = readAnnotated _
    rw [readAnnotated_plain (Json.isObject_of_at? ht) hn, readAnnotated_wrapped hw,
      Json.ifPresent, Json.present?_of_at? hv (Json.isPresent_of_at? ht)]
    rfl
  | label hx hn hw hv =>
    obtain ⟨tag, ht⟩ := hx
    change readElement _ = readElement _
    rw [readElement_plain (Json.isObject_of_at? ht) hn, readElement_labelled hw rfl hv]
  | tuple hp ht hs ha _ hb he =>
    exact read_moved hp ht ((hs "type" (by decide)).symm.trans ht) (hs "elementType" (by decide))
      (FlowType.ofEstree_moved ht hs ha hb he)
  | rename hm ht hs ho hk hmoved => exact Specifier.ofEstree_moved hm ht hs ho hk hmoved
  | null ha hm ho hs hv hn =>
    obtain ⟨tag, ht⟩ := hs.isNode (Place.ne_type hm) ha
    exact hs.read_eq (Json.isObject_of_at? hv) (Json.isObject_of_at? ht) hm
      (Way.agree_of_null ho hv hn)
  | unread ha hk hn hs =>
    obtain ⟨tag, ht⟩ := ha
    obtain ⟨tag', ht'⟩ := hs.isNode hk ⟨tag, ht⟩
    exact Place.read_congr (hs.agree (Json.isObject_of_at? ht) (Json.isObject_of_at? ht') hk
      fun way hm => absurd hm (hn way))
  | inside hm hw hs ha hb hr ih =>
    exact hs.read_eq (Json.isObject_of_at? ha) (Json.isObject_of_at? hb) hm
      (Way.agree_of_whole hw ha hb hr.isPresent.1 hr.isPresent.2 ih)
  | item hm hw hs ha hb _ ih =>
    exact hs.read_eq (Json.isObject_of_at? ha) (Json.isObject_of_at? hb) hm
      (Way.agree_of_items hw ha hb ih)

theorem Rewrite.tag_eq (h : Rewrite .program a b) : a.at? "type" = b.at? "type" := by
  cases h with
  | tuple _ _ hs _ _ _ _ => exact hs "type" (by decide)
  | null _ hm _ hs _ _ => exact hs.tag_eq (Place.ne_type hm)
  | unread _ hk _ hs => exact hs.tag_eq hk
  | inside hm _ hs _ _ _ => exact hs.tag_eq (Place.ne_type hm)
  | item hm _ hs _ _ _ => exact hs.tag_eq (Place.ne_type hm)

/-! ## Rewritings of listed fields -/

theorem Json.at?_field (l r : List (String × Json)) (v : Json) (hl : key ∉ l.map Prod.fst) :
    (Json.object (l ++ (key, v) :: r)).at? key = some v := by
  have hn : l.lookup key = none := by
    rw [List.lookup_eq_none_iff]
    intro f hf
    rw [bne_iff_ne]
    rintro rfl
    exact hl (List.mem_map_of_mem hf)
  rw [Json.at?_object, List.lookup_append, hn, Option.none_or, List.lookup_cons_self]

theorem SameBut.field (l r : List (String × Json)) (v w : Json) :
    SameBut [key] (.object (l ++ (key, v) :: r)) (.object (l ++ (key, w) :: r)) := by
  intro other ho
  have hne : (other == key) = false := by simpa using ho
  simp only [Json.at?_object, List.lookup_append, List.lookup_cons, hne]

theorem SameBut.dropped (l r : List (String × Json)) (v : Json) :
    SameBut [key] (.object (l ++ (key, v) :: r)) (.object (l ++ r)) := by
  intro other ho
  have hne : (other == key) = false := by simpa using ho
  simp only [Json.at?_object, List.lookup_append, List.lookup_cons, hne]

theorem Rewrite.field (key : String) (way : Way) (l r : List (String × Json))
    (hm : (key, way) ∈ p.slots ((Json.object (l ++ (key, x) :: r)).at? "type"))
    (hw : way.whole? = some q) (hl : key ∉ l.map Prod.fst) (h : Rewrite q x y) :
    Rewrite p (.object (l ++ (key, x) :: r)) (.object (l ++ (key, y) :: r)) :=
  .inside hm hw (.field l r x y) (Json.at?_field l r x hl) (Json.at?_field l r y hl) h

theorem Rewrite.fieldItem (key : String) (way : Way) (l r : List (String × Json))
    (before after : List Json)
    (hm : (key, way) ∈
      p.slots ((Json.object (l ++ (key, .list (before ++ x :: after)) :: r)).at? "type"))
    (hw : way.items? = some q) (hl : key ∉ l.map Prod.fst) (h : Rewrite q x y) :
    Rewrite p (.object (l ++ (key, .list (before ++ x :: after)) :: r))
      (.object (l ++ (key, .list (before ++ y :: after)) :: r)) :=
  .item hm hw (.field l r _ _) (Json.at?_field l r _ hl) (Json.at?_field l r _ hl) h

/-! ## Programs -/

theorem notProgram?_congr (ha : a.IsObject) (hb : b.IsObject) (h : a.at? "type" = b.at? "type") :
    notProgram? a = notProgram? b := by
  obtain ⟨fields, rfl⟩ := ha
  obtain ⟨fields', rfl⟩ := hb
  rw [Json.at?_object, Json.at?_object] at h
  simp only [notProgram?, h]

/-- A tree that is rewritten any number of times, in either direction, is read as the same program
or fails in the same way. -/
theorem Program.ofEstree_rewritten {tree tree' : Json}
    (h : Relation.EqvGen (Rewrite .program) tree tree') :
    Program.ofEstree tree = Program.ofEstree tree' := by
  induction h with
  | rel t t' h =>
    have hp : Program.ofParts t = Program.ofParts t' := h.read_eq
    have hn := notProgram?_congr h.isObject.1 h.isObject.2 h.tag_eq
    rw [Program.ofEstree, Program.ofEstree, hn, hp]
  | refl t => rfl
  | symm t t' _ ih => exact ih.symm
  | trans t t' t'' _ _ ih ih' => exact ih.trans ih'

def numberNode : Json :=
  .object [("type", .string "NumberTypeAnnotation")]

def wrappedNode : Json :=
  .object [("type", .string "TypeAnnotation"), ("typeAnnotation", numberNode)]

def labelledNode : Json :=
  .object [("type", .string "TupleTypeLabeledElement"), ("elementType", numberNode)]

def tupleNode (fields : List (String × Json)) : Json :=
  .object (("type", .string "TupleTypeAnnotation") :: fields)

def paramNode (type : Json) : Json :=
  .object [("type", .string "Identifier"), ("name", .string "x"), ("typeAnnotation", type)]

def functionNode (param returns : Json) : Json :=
  .object [("type", .string "FunctionDeclaration"), ("params", .list [param]),
    ("returnType", returns)]

def programNode (statement : Json) (others : List (String × Json)) : Json :=
  .object (("type", .string "Program") :: ("body", .list [statement]) :: others)

/-- A function from a tuple, in a tree without wrappers and labels. -/
def plainTree : Json :=
  programNode (functionNode (paramNode (tupleNode [("types", .list [numberNode])])) numberNode)
    [("errors", .null)]

/-- The same function, in a tree with them. -/
def wrappedTree : Json :=
  programNode (functionNode
    (paramNode (tupleNode [("types", .null), ("elementTypes", .list [labelledNode])]))
    wrappedNode) []

theorem Rewrite.inBody (h : Rewrite .statement x y) (others : List (String × Json)) :
    Rewrite .program (programNode x others) (programNode y others) :=
  .fieldItem "body" (.items .statement) [("type", .string "Program")] others [] []
    List.mem_cons_self rfl (by simp) h

theorem Rewrite.inParam (h : Rewrite .annotated x y) (returns : Json) :
    Rewrite .statement (functionNode (paramNode x) returns)
      (functionNode (paramNode y) returns) := by
  have hp : Rewrite .pattern (paramNode x) (paramNode y) :=
    .field "typeAnnotation" (.child .annotated)
      [("type", .string "Identifier"), ("name", .string "x")] []
      (by simp [Place.slots, patternSlots, identifierSlots]) rfl (by simp) h
  exact .fieldItem "params" (.items .pattern) [("type", .string "FunctionDeclaration")]
    [("returnType", returns)] [] [] (by simp [Place.slots, statementSlots]) rfl (by simp) hp

theorem Rewrite.inReturn (h : Rewrite .annotated x y) (param : Json) :
    Rewrite .statement (functionNode param x) (functionNode param y) :=
  .field "returnType" (.child .annotated)
    [("type", .string "FunctionDeclaration"), ("params", .list [param])] []
    (by simp [Place.slots, statementSlots]) rfl (by simp) h

theorem plainTree_rewritten : Relation.EqvGen (Rewrite .program) plainTree wrappedTree := by
  have hnull : Rewrite .program plainTree (programNode (functionNode
      (paramNode (tupleNode [("types", .list [numberNode])])) numberNode) []) :=
    .null ⟨_, rfl⟩ (List.mem_cons_of_mem _ List.mem_cons_self) rfl
      (.dropped [("type", .string "Program"), ("body", .list [_])] [] .null) rfl rfl
  have hwrap : Rewrite .annotated numberNode wrappedNode :=
    .wrap ⟨_, rfl⟩ (by simp [Json.HasTag, numberNode]) rfl rfl
  have hmove : Rewrite .annotated (tupleNode [("types", .list [numberNode])])
      (tupleNode [("types", .null), ("elementTypes", .list [numberNode])]) := by
    refine .tuple (by simp) rfl ?_ rfl rfl rfl rfl
    intro key hk
    simp only [List.mem_cons, List.not_mem_nil, or_false, not_or, ← beq_eq_false_iff_ne] at hk
    simp [tupleNode, List.lookup_cons, hk.1, hk.2]
  have hlabel : Rewrite .annotated
      (tupleNode [("types", .null), ("elementTypes", .list [numberNode])])
      (tupleNode [("types", .null), ("elementTypes", .list [labelledNode])]) :=
    .fieldItem "elementTypes" (.items .element)
      [("type", .string "TupleTypeAnnotation"), ("types", .null)] [] [] []
      (by simp [Place.slots, annotationSlots, slotsFor, typeSlots]) rfl (by simp)
      (.label ⟨_, rfl⟩ rfl rfl rfl)
  exact .trans _ _ _ (.rel _ _ hnull) (.trans _ _ _ (.rel _ _ ((hwrap.inReturn _).inBody _))
    (.trans _ _ _ (.rel _ _ ((hmove.inParam _).inBody _))
      (.rel _ _ ((hlabel.inParam _).inBody _))))

theorem plainTree_read : Relation.EqvGen (Rewrite .program) plainTree wrappedTree ∧
    Program.ofEstree plainTree = Program.ofEstree wrappedTree :=
  ⟨plainTree_rewritten, Program.ofEstree_rewritten plainTree_rewritten⟩

end Typings
