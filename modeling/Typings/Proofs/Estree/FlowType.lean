import Typings.Proofs.Estree.Node
import Typings.Estree.FlowType

/-!
# What is read from the node of an annotation

One equation for each tag that the reader of annotations knows, and one for all others. They speak
of plain values only; whatever is proved about reading starts from them. Where a field must be there
a second equation is about the objects that have it.
-/

namespace Typings

/-! ## Tags -/

/-- The tags of the annotations that are not keywords. -/
def compositeTags : List String :=
  ["FunctionTypeAnnotation", "GenericTypeAnnotation", "NullableTypeAnnotation",
    "ObjectTypeAnnotation", "UnionTypeAnnotation", "IntersectionTypeAnnotation",
    "StringLiteralTypeAnnotation", "BooleanLiteralTypeAnnotation", "TupleTypeAnnotation"]

def typeTags : List String :=
  Keyword.all.map Keyword.tag ++ compositeTags

theorem Keyword.ofTag?_tag (k : Keyword) : Keyword.ofTag? k.tag = some k := by
  cases k <;> decide

theorem Keyword.ofTag?_eq_none {tag : String} (h : tag ∉ Keyword.all.map Keyword.tag) :
    Keyword.ofTag? tag = none := by
  refine List.find?_eq_none.2 fun k hk he => h ?_
  rw [← eq_of_beq he]
  exact List.mem_map_of_mem hk

/-! ## Names -/

variable {data : Json} {loc : Option Location}

/-- The name in an identifier. -/
def idName (data : Json) : Except Malformed Json := do
  let name ← data.required "name"
  return name.val

theorem idName_eq (h : data.IsObject) : idName data = data.need "name" pure :=
  Json.required_bind h "name" pure

theorem dottedName_qualified (ht : data.HasTag "QualifiedTypeIdentifier") :
    dottedName data = do
      let outer ← (← data.need "qualification" dottedName).display
      let name ← (← data.need "id" idName).display
      return .string (outer ++ "." ++ name) := by
  rw [dottedName, ht.get_eq]
  refine (Json.required_bind_bind ht.isObject "qualification" dottedName _).trans ?_
  refine bind_congr (x := data.need "qualification" dottedName) fun outer => ?_
  refine bind_congr (x := outer.display) fun outer => ?_
  have hn := Json.required_bind_bind ht.isObject "id" idName fun name => do
    return Json.string (outer ++ "." ++ (← name.display))
  simpa only [idName, bind_assoc, pure_bind] using hn

theorem dottedName_plain_need (h : data.IsObject) (ht : ¬ data.HasTag "QualifiedTypeIdentifier") :
    dottedName data = data.need "name" pure := by
  obtain ⟨v, hv, hne⟩ := Json.get_type_ne h ht
  rw [dottedName, hv]
  simp only [bind, Except.bind]
  exact Json.required_bind h "name" pure

theorem dottedName_plain {name : Json} (ht : ¬ data.HasTag "QualifiedTypeIdentifier")
    (hn : data.at? "name" = some name) : dottedName data = .ok name := by
  rw [dottedName_plain_need (Json.isObject_of_at? hn) ht, Json.need_eq hn]
  rfl

theorem propertyKey_identifier_need (ht : data.HasTag "Identifier") :
    propertyKey data = data.need "name" pure := by
  rw [propertyKey, ht.get_eq]
  exact Json.required_bind ht.isObject "name" pure

theorem propertyKey_identifier {name : Json} (ht : data.HasTag "Identifier")
    (hn : data.at? "name" = some name) : propertyKey data = .ok name := by
  rw [propertyKey_identifier_need ht, Json.need_eq hn]
  rfl

theorem propertyKey_other (h : data.IsObject) (ht : ¬ data.HasTag "Identifier") :
    propertyKey data = do
      let shown ← ((data.at? "value").getD (.string "")).display
      return (data.at? "raw").getD (.string shown) := by
  obtain ⟨v, hv, hne⟩ := Json.get_type_ne h ht
  rw [propertyKey, hv]
  simp only [bind, Except.bind, Json.getD_eq h]
  rfl

theorem nameOfId_eq_ifPresent (h : data.IsObject) :
    nameOfId data = do return (← data.ifPresent "id" idName).getD .null := by
  obtain ⟨found, hf, hv⟩ := Json.child?_eq h "id"
  rw [nameOfId, hf, Json.ifPresent, ← hv]
  cases found with
  | none => rfl
  | some p =>
    change idName p.val = (some <$> idName p.val) >>= _
    cases idName p.val <;> rfl

theorem nameOfId_absent (h : data.IsObject) (hi : data.present? "id" = none) :
    nameOfId data = .ok .null := by
  rw [nameOfId_eq_ifPresent h, Json.ifPresent, hi]
  rfl

theorem nameOfId_eq {id name : Json} (hi : data.present? "id" = some id)
    (hn : id.at? "name" = some name) : nameOfId data = .ok name := by
  have hid : idName id = .ok name := by
    rw [idName_eq (Json.isObject_of_at? hn), Json.need_eq hn]
    rfl
  rw [nameOfId_eq_ifPresent (Json.isObject_of_at? (Json.at?_of_present? hi)), Json.ifPresent, hi]
  change ((some <$> idName id) >>= _) = _
  rw [hid]
  rfl

/-- The name of a parameter, given by what stands for it. -/
def paramNameIn (v : Json) : Except Malformed Json :=
  match v with
  | .object fields => do
    let name ← (Json.object fields).get "name"
    return name.orElse .null
  | v => return v.orElse .null

theorem paramNameIn_absent {v : Json} (h : v.isPresent = false) : paramNameIn v = .ok .null := by
  cases v with
  | object fields =>
    cases fields with
    | nil => rfl
    | cons f rest => cases h
  | _ => simp [paramNameIn, Json.orElse, h]; rfl

theorem paramName_eq (h : data.IsObject) :
    paramName data = do return (← data.ifPresent "name" paramNameIn).getD .null := by
  rw [← Json.getD_eq_ifPresent data "name" fun v => paramNameIn_absent, paramName,
    Json.get_eq h]
  rfl

/-! ## Annotations -/

theorem FlowType.ofEstree_mislocated {m : Malformed} (h : data.IsObject)
    (hl : Location.ofNode data = .error m) : FlowType.ofEstree data = .error m := by
  rw [FlowType.ofEstree, Json.get_eq h, hl]
  rfl

/-- The tag says it all: the node is a keyword, or it is kept with its tag. -/
theorem FlowType.ofEstree_simple (h : data.IsObject) (hl : Location.ofNode data = .ok loc)
    (ht : ∀ tag ∈ compositeTags, ¬ data.HasTag tag) :
    FlowType.ofEstree data = do
      match ← Keyword.ofEstree? ((data.at? "type").getD .null) with
      | some k => return .keyword k loc
      | none => return .unknown (keptTag data) loc := by
  have hv := Json.type_ne_of_not_hasTag h ht
  rw [FlowType.ofEstree, Json.get_eq h, hl]
  generalize (data.at? "type").getD .null = v at hv
  simp only [bind, Except.bind, unknownTag_eq h]
  cases Keyword.ofEstree? v with
  | error m => rfl
  | ok k =>
    cases k with
    | some k => rfl
    | none =>
      dsimp only
      split
      any_goals
        exact absurd rfl (hv _ (by decide))
      rfl

theorem FlowType.ofEstree_keyword {k : Keyword} (ht : data.HasTag k.tag)
    (hl : Location.ofNode data = .ok loc) : FlowType.ofEstree data = .ok (.keyword k loc) := by
  rw [FlowType.ofEstree, ht.get_eq, hl]
  simp only [bind, Except.bind, Keyword.ofEstree?, Keyword.ofTag?_tag]
  rfl

theorem FlowType.ofEstree_function (ht : data.HasTag "FunctionTypeAnnotation")
    (hl : Location.ofNode data = .ok loc) : FlowType.ofEstree data = do
      let params ← data.ifNonNull "params" (Json.eachElement FunctionParam.ofEstree)
      let returns ← data.ifPresent "returnType" FlowType.ofEstree
      let rest ← data.ifPresent "rest" FunctionParam.ofEstree
      return .function params returns rest loc := by
  rw [FlowType.ofEstree, ht.get_eq, hl]
  simp only [Json.partElements_mapM]
  refine (Json.given?_bind ht.isObject "params" _ _).trans ?_
  simp only [Json.child?_bind ht.isObject]

theorem FlowType.ofEstree_generic_need (ht : data.HasTag "GenericTypeAnnotation")
    (hl : Location.ofNode data = .ok loc) : FlowType.ofEstree data = do
      let name ← data.need "id" dottedName
      let args ← data.ifPresent "typeParameters" (Json.itemsOf "params" FlowType.ofEstree)
      return .generic name args loc := by
  rw [FlowType.ofEstree, ht.get_eq, hl]
  refine (Json.required_bind_bind ht.isObject "id" dottedName _).trans ?_
  refine bind_congr (x := data.need "id" dottedName) fun name => ?_
  exact Json.child?_bind ht.isObject _ (Json.itemsOf "params" FlowType.ofEstree) _

theorem FlowType.ofEstree_generic {id : Json} (ht : data.HasTag "GenericTypeAnnotation")
    (hl : Location.ofNode data = .ok loc) (hi : data.at? "id" = some id) :
    FlowType.ofEstree data = do
      let name ← dottedName id
      let args ← data.ifPresent "typeParameters" (Json.itemsOf "params" FlowType.ofEstree)
      return .generic name args loc := by
  rw [FlowType.ofEstree_generic_need ht hl, Json.need_eq hi]

theorem FlowType.ofEstree_nullable_need (ht : data.HasTag "NullableTypeAnnotation")
    (hl : Location.ofNode data = .ok loc) : FlowType.ofEstree data = do
      return .nullable (← data.need "typeAnnotation" FlowType.ofEstree) loc := by
  rw [FlowType.ofEstree, ht.get_eq, hl]
  exact Json.required_bind_bind ht.isObject "typeAnnotation" FlowType.ofEstree _

theorem FlowType.ofEstree_nullable {inner : Json} (ht : data.HasTag "NullableTypeAnnotation")
    (hl : Location.ofNode data = .ok loc) (hi : data.at? "typeAnnotation" = some inner) :
    FlowType.ofEstree data = do return .nullable (← FlowType.ofEstree inner) loc := by
  rw [FlowType.ofEstree_nullable_need ht hl, Json.need_eq hi]

theorem FlowType.ofEstree_object (ht : data.HasTag "ObjectTypeAnnotation")
    (hl : Location.ofNode data = .ok loc) : FlowType.ofEstree data = do
      let calls := (data.at? "callProperties").getD .null
      let slots := (data.at? "internalSlots").getD .null
      let others ← (calls.orElse (.list [])).add (slots.orElse (.list []))
      let members ← data.eachItem "properties" Member.ofEstree
      let unknowns ← Json.eachElement Member.ofUnknown others
      let indexers ← data.eachItem "indexers" Indexer.ofEstree
      return .object (members ++ unknowns) indexers (data.flag "exact") loc := by
  rw [FlowType.ofEstree, ht.get_eq, hl]
  simp only [Json.get_eq ht.isObject, Json.children_bind ht.isObject, Json.eachElement, bind_assoc]
  rfl

theorem FlowType.ofEstree_union (ht : data.HasTag "UnionTypeAnnotation")
    (hl : Location.ofNode data = .ok loc) : FlowType.ofEstree data
      = do return .union (← data.eachItem "types" FlowType.ofEstree) loc := by
  rw [FlowType.ofEstree, ht.get_eq, hl]
  exact Json.children_bind ht.isObject _ _ _

theorem FlowType.ofEstree_intersection (ht : data.HasTag "IntersectionTypeAnnotation")
    (hl : Location.ofNode data = .ok loc) : FlowType.ofEstree data
      = do return .intersection (← data.eachItem "types" FlowType.ofEstree) loc := by
  rw [FlowType.ofEstree, ht.get_eq, hl]
  exact Json.children_bind ht.isObject _ _ _

theorem FlowType.ofEstree_stringLiteral (ht : data.HasTag "StringLiteralTypeAnnotation")
    (hl : Location.ofNode data = .ok loc) :
    FlowType.ofEstree data = .ok (.stringLiteral ((data.at? "value").getD (.string ""))
      ((data.at? "raw").getD (.string "")) loc) := by
  rw [FlowType.ofEstree, ht.get_eq, hl]
  simp only [Json.getD_eq ht.isObject]
  rfl

theorem FlowType.ofEstree_booleanLiteral (ht : data.HasTag "BooleanLiteralTypeAnnotation")
    (hl : Location.ofNode data = .ok loc) :
    FlowType.ofEstree data = .ok (.booleanLiteral (data.flag "value")
      ((data.at? "raw").getD (.string "")) loc) := by
  rw [FlowType.ofEstree, ht.get_eq, hl]
  simp only [Json.getD_eq ht.isObject, Json.get_eq ht.isObject]
  rfl

/-- A tuple element without the wrapper that labels it, if it has one. -/
def unlabelled (v : Json) : Except Malformed Json := do
  if ← v.holds "elementType" then
    match ← v.getD "type" (.string "") with
    | .string tag =>
      if "TupleType".toList.isPrefixOf tag.toList then
        let element ← v.required "elementType"
        return element.val
      else return v
    | _ => .error .noMember
  else return v

theorem tupleElement_val {whole : Json} (p : Json.Part whole) :
    (tupleElement p).map (·.val) = unlabelled p.val := by
  unfold tupleElement unlabelled
  cases p.val.holds "elementType" with
  | error e => rfl
  | ok b =>
    cases b with
    | false => rfl
    | true =>
      cases p.val.getD "type" (.string "") with
      | error e => rfl
      | ok v =>
        cases v with
        | string tag =>
          by_cases h : "TupleType".toList.isPrefixOf tag.toList
          · simp only [bind, Except.bind, h, ↓reduceIte]
            cases p.val.required "elementType" <;> rfl
          · simp only [bind, Except.bind, h]
            rfl
        | _ => rfl

def readElement (v : Json) : Except Malformed FlowType := do
  FlowType.ofEstree (← unlabelled v)

/-- Reads the elements of a tuple, which older trees have under another key. -/
def readTuple (data : Json) : Except Malformed (List FlowType) :=
  match data.nonNull? "types" with
  | some v => Json.eachElement readElement v
  | none => data.eachItem "elementTypes" readElement

theorem FlowType.ofEstree_tuple (ht : data.HasTag "TupleTypeAnnotation")
    (hl : Location.ofNode data = .ok loc) :
    FlowType.ofEstree data = do return .tuple (← readTuple data) loc := by
  have he : ∀ p : Json.Part data, (do
      let element ← tupleElement p
      FlowType.ofEstree element.val) = readElement p.val := by
    intro p
    rw [readElement, ← tupleElement_val]
    cases tupleElement p <;> rfl
  rw [FlowType.ofEstree, ht.get_eq, hl]
  obtain ⟨found, hf, hv⟩ := Json.given?_eq ht.isObject "types"
  simp only [he, hf, readTuple, ← hv]
  cases found with
  | none => exact Json.children_bind ht.isObject _ _ _
  | some p =>
    simp only [Option.map_some, ← Json.partElements_mapM, bind_assoc]
    rfl

theorem readTuple_eq (data : Json) :
    readTuple data = data.ifNonNull "types" (Json.eachElement readElement) >>=
      fun types => types.elim (data.eachItem "elementTypes" readElement) pure := by
  rw [readTuple, Json.ifNonNull]
  cases data.nonNull? "types" with
  | none => rfl
  | some v =>
    change Json.eachElement readElement v = (some <$> Json.eachElement readElement v) >>= _
    cases Json.eachElement readElement v <;> rfl

/-- Whether a tag is that of a tuple element with a label. -/
def isLabel (tag : String) : Bool :=
  "TupleType".toList.isPrefixOf tag.toList

theorem readElement_plain (h : data.IsObject) (he : data.at? "elementType" = none) :
    readElement data = FlowType.ofEstree data := by
  rw [readElement, unlabelled, Json.holds_eq h, he]
  rfl

theorem readElement_labelled {tag : String} {element : Json} (ht : data.HasTag tag)
    (hp : isLabel tag = true) (he : data.at? "elementType" = some element) :
    readElement data = FlowType.ofEstree element := by
  obtain ⟨part, hq, rfl⟩ := Json.required_eq he
  rw [isLabel] at hp
  rw [readElement, unlabelled, Json.holds_eq ht.isObject, he, Json.getD_eq ht.isObject, ht]
  simp only [bind, Except.bind, Option.isSome_some, Option.getD_some, hp, if_true, hq]
  rfl

theorem readElement_tagged {tag : String} (ht : data.HasTag tag) (hp : isLabel tag = false) :
    readElement data = FlowType.ofEstree data := by
  rw [isLabel] at hp
  rw [readElement, unlabelled, Json.holds_eq ht.isObject, Json.getD_eq ht.isObject, ht]
  cases (data.at? "elementType").isSome with
  | false => rfl
  | true =>
    simp only [bind, Except.bind, Option.getD_some, hp]
    rfl

theorem readElement_untagged {element : Json} (h : data.IsObject) (ht : ∀ tag, ¬ data.HasTag tag)
    (he : data.at? "elementType" = some element) :
    readElement data =
      (data.at? "type").elim (FlowType.ofEstree data) fun _ => .error .noMember := by
  rw [readElement, unlabelled, Json.holds_eq h, he, Json.getD_eq h]
  cases hv : data.at? "type" with
  | none =>
    have hp : "TupleType".toList.isPrefixOf "".toList = false := rfl
    simp only [bind, Except.bind, Option.isSome_some, Option.getD_none, hp]
    rfl
  | some v =>
    cases v with
    | string tag => exact absurd hv (ht tag)
    | _ => rfl

theorem FlowType.ofEstree_other (ht : data.HasOtherTag typeTags)
    (hl : Location.ofNode data = .ok loc) :
    FlowType.ofEstree data = .ok (.unknown (keptTag data) loc) := by
  have hk : Keyword.ofEstree? ((data.at? "type").getD .null) = .ok none := by
    cases hv : data.at? "type" with
    | none => rfl
    | some v =>
      obtain ⟨tag, rfl, hn⟩ := ht.2 v hv
      have hm : tag ∉ Keyword.all.map Keyword.tag := fun hm => hn (List.mem_append_left _ hm)
      exact congrArg Except.ok (Keyword.ofTag?_eq_none hm)
  rw [FlowType.ofEstree_simple ht.1 hl fun tag hm => ht.not_hasTag tag (List.mem_append_right _ hm),
    hk]
  rfl

/-! ## Parts of annotations -/

theorem FunctionParam.ofEstree_eq_need (h : data.IsObject) : FunctionParam.ofEstree data = do
    let name ← paramName data
    let type ← data.need "typeAnnotation" FlowType.ofEstree
    let loc ← Location.ofNode data
    return ⟨name, type, data.flag "optional", loc⟩ := by
  rw [FunctionParam.ofEstree]
  simp only [Json.get_eq h]
  refine bind_congr (x := paramName data) fun name => ?_
  exact Json.required_bind_bind h "typeAnnotation" FlowType.ofEstree _

theorem FunctionParam.ofEstree_eq {inner : Json} (hi : data.at? "typeAnnotation" = some inner) :
    FunctionParam.ofEstree data = do
      let name ← paramName data
      let type ← FlowType.ofEstree inner
      let loc ← Location.ofNode data
      return ⟨name, type, data.flag "optional", loc⟩ := by
  rw [FunctionParam.ofEstree_eq_need (Json.isObject_of_at? hi), Json.need_eq hi]

theorem Member.ofEstree_property_need (ht : data.HasTag "ObjectTypeProperty") :
    Member.ofEstree data = do
      let name ← data.need "key" propertyKey
      let value ← data.need "value" FlowType.ofEstree
      let loc ← Location.ofNode data
      return .property name value (data.flag "optional") loc := by
  rw [Member.ofEstree, ht.get_eq]
  simp only [Json.get_eq ht.isObject]
  refine (Json.required_bind_bind ht.isObject "key" propertyKey _).trans ?_
  refine bind_congr (x := data.need "key" propertyKey) fun name => ?_
  exact Json.required_bind_bind ht.isObject "value" FlowType.ofEstree _

theorem Member.ofEstree_property {key inner : Json} (ht : data.HasTag "ObjectTypeProperty")
    (hk : data.at? "key" = some key) (hi : data.at? "value" = some inner) :
    Member.ofEstree data = do
      let name ← propertyKey key
      let value ← FlowType.ofEstree inner
      let loc ← Location.ofNode data
      return .property name value (data.flag "optional") loc := by
  rw [Member.ofEstree_property_need ht, Json.need_eq hk, Json.need_eq hi]

theorem Member.ofUnknown_bind (h : data.IsObject) :
    Member.ofUnknown data = do return .unknown (keptTag data) (← Location.ofNode data) := by
  rw [Member.ofUnknown, unknownTag_eq h]
  rfl

theorem Member.ofUnknown_eq (h : data.IsObject) (hl : Location.ofNode data = .ok loc) :
    Member.ofUnknown data = .ok (.unknown (keptTag data) loc) := by
  rw [Member.ofUnknown_bind h, hl]
  rfl

theorem Member.ofEstree_stray (h : data.IsObject) (ht : ¬ data.HasTag "ObjectTypeProperty") :
    Member.ofEstree data = Member.ofUnknown data := by
  obtain ⟨v, hv, hne⟩ := Json.get_type_ne h ht
  rw [Member.ofEstree, hv]
  simp only [bind, Except.bind]

theorem Member.ofEstree_other (ht : data.HasOtherTag ["ObjectTypeProperty"]) :
    Member.ofEstree data = Member.ofUnknown data :=
  Member.ofEstree_stray ht.1 (ht.not_hasTag _ (List.mem_singleton_self _))

theorem Indexer.ofEstree_eq_need (h : data.IsObject) : Indexer.ofEstree data = do
    let name ← nameOfId data
    let keyType ← data.need "key" FlowType.ofEstree
    let valueType ← data.need "value" FlowType.ofEstree
    let loc ← Location.ofNode data
    return ⟨name, keyType, valueType, loc⟩ := by
  rw [Indexer.ofEstree]
  refine bind_congr (x := nameOfId data) fun name => ?_
  refine (Json.required_bind_bind h "key" FlowType.ofEstree _).trans ?_
  refine bind_congr (x := data.need "key" FlowType.ofEstree) fun keyType => ?_
  exact Json.required_bind_bind h "value" FlowType.ofEstree _

theorem Indexer.ofEstree_eq {key value : Json} (hk : data.at? "key" = some key)
    (hv : data.at? "value" = some value) : Indexer.ofEstree data = do
      let name ← nameOfId data
      let keyType ← FlowType.ofEstree key
      let valueType ← FlowType.ofEstree value
      let loc ← Location.ofNode data
      return ⟨name, keyType, valueType, loc⟩ := by
  rw [Indexer.ofEstree_eq_need (Json.isObject_of_at? hk), Json.need_eq hk, Json.need_eq hv]

/-! ## Annotations in fields -/

/-- An annotation with or without its wrapper. -/
def readAnnotated (v : Json) : Except Malformed (Option FlowType) := do
  match ← v.get "type" with
  | .string "TypeAnnotation" => (← v.child? "typeAnnotation").mapM fun q => FlowType.ofEstree q.val
  | _ => return some (← FlowType.ofEstree v)

theorem readAnnotated_wrapped {v : Json} (ht : v.HasTag "TypeAnnotation") :
    readAnnotated v = v.ifPresent "typeAnnotation" FlowType.ofEstree := by
  have hb := Json.child?_bind ht.isObject "typeAnnotation" FlowType.ofEstree pure
  simp only [bind_pure] at hb
  rw [readAnnotated, ht.get_eq]
  exact hb

theorem readAnnotated_plain {v : Json} (h : v.IsObject) (ht : ¬ v.HasTag "TypeAnnotation") :
    readAnnotated v = do return some (← FlowType.ofEstree v) := by
  obtain ⟨w, hw, hne⟩ := Json.get_type_ne h ht
  rw [readAnnotated, hw]
  simp only [bind, Except.bind]

theorem FlowType.ofField?_eq (h : data.IsObject) (key : String) :
    FlowType.ofField? data key = do return (← data.ifPresent key readAnnotated).join := by
  obtain ⟨found, hf, hv⟩ := Json.child?_eq h key
  rw [FlowType.ofField?, hf, Json.ifPresent, ← hv]
  cases found with
  | none => rfl
  | some p =>
    change readAnnotated p.val = (some <$> readAnnotated p.val) >>= _
    cases readAnnotated p.val <;> rfl

theorem FlowType.ofField?_absent {key : String} (h : data.IsObject)
    (hv : data.present? key = none) : FlowType.ofField? data key = .ok none := by
  rw [FlowType.ofField?_eq h, Json.ifPresent, hv]
  rfl

theorem FlowType.ofField?_present {key : String} {v : Json} (hv : data.present? key = some v) :
    FlowType.ofField? data key = readAnnotated v := by
  rw [FlowType.ofField?_eq (Json.isObject_of_at? (Json.at?_of_present? hv)), Json.ifPresent, hv]
  change ((some <$> readAnnotated v) >>= _) = _
  cases readAnnotated v <;> rfl

theorem FlowType.ofField?_wrapped {key : String} {v : Json} (hv : data.present? key = some v)
    (ht : v.HasTag "TypeAnnotation") :
    FlowType.ofField? data key = v.ifPresent "typeAnnotation" FlowType.ofEstree :=
  (FlowType.ofField?_present hv).trans (readAnnotated_wrapped ht)

theorem FlowType.ofField?_plain {key : String} {v : Json} (hv : data.present? key = some v)
    (ht : v.HasOtherTag ["TypeAnnotation"]) :
    FlowType.ofField? data key = do return some (← FlowType.ofEstree v) :=
  (FlowType.ofField?_present hv).trans
    (readAnnotated_plain ht.1 (ht.not_hasTag _ (List.mem_singleton_self _)))

theorem TypeParameter.ofEstree_eq_need (h : data.IsObject) : TypeParameter.ofEstree data = do
    let name ← data.need "name" pure
    let bound ← FlowType.ofField? data "bound"
    let loc ← Location.ofNode data
    return ⟨name, bound, loc⟩ := by
  rw [TypeParameter.ofEstree]
  refine Eq.trans ?_ (Json.required_val_bind h "name" _)
  rfl

theorem TypeParameter.ofEstree_eq {name : Json} (hn : data.at? "name" = some name) :
    TypeParameter.ofEstree data = do
      let bound ← FlowType.ofField? data "bound"
      let loc ← Location.ofNode data
      return ⟨name, bound, loc⟩ := by
  rw [TypeParameter.ofEstree_eq_need (Json.isObject_of_at? hn), Json.need_eq hn]
  rfl

theorem TypeParameter.listOf?_eq (h : data.IsObject) : TypeParameter.listOf? data
    = data.ifPresent "typeParameters" (Json.itemsOf "params" TypeParameter.ofEstree) := by
  have hb := Json.child?_bind h "typeParameters"
    (Json.itemsOf "params" TypeParameter.ofEstree) pure
  simp only [bind_pure] at hb
  exact hb

end Typings
