import Typings.Proofs.Estree.Statement

/-!
# What is read at a place

A place says as what a value is read. Of an object a reader takes the tag and the fields that the
place and the tag call for, each in its own way; two objects that agree in these are read alike.
-/

namespace Typings

/-! ## Places -/

/-- The places of a tree at which values are read. -/
inductive Place where
  | program
  | statement
  | block
  | pattern
  | expression
  | specifier
  | parseError
  | type
  | annotated
  | element
  | param
  | member
  /-- A member that is only kept with its tag. -/
  | stray
  | indexer
  | typeParams
  | typeParam
  | typeArgs
  | id
  | typeName
  | keyName
  | paramName
  | specifierName
  | source
  | moduleName
  deriving DecidableEq

/-- What a value is read as. -/
abbrev Place.Result : Place → Type
  | .program => Program
  | .statement => Statement
  | .block => Block
  | .pattern => Pattern
  | .expression => Expression
  | .specifier => Specifier
  | .parseError => ParseError
  | .type | .element => FlowType
  | .annotated => Option FlowType
  | .param => FunctionParam
  | .member | .stray => Member
  | .indexer => Indexer
  | .typeParams => List TypeParameter
  | .typeParam => TypeParameter
  | .typeArgs => List FlowType
  | .id | .typeName | .keyName | .paramName | .specifierName | .moduleName => Json
  | .source => String

/-- Reads a value at a place. -/
def Place.read : (p : Place) → Json → Except Malformed p.Result
  | .program => Program.ofParts
  | .statement => Statement.ofEstree
  | .block => Block.ofEstree
  | .pattern => Pattern.ofEstree
  | .expression => Expression.ofEstree
  | .specifier => Specifier.ofEstree
  | .parseError => ParseError.ofEstree
  | .type => FlowType.ofEstree
  | .annotated => readAnnotated
  | .element => readElement
  | .param => FunctionParam.ofEstree
  | .member => Member.ofEstree
  | .stray => Member.ofUnknown
  | .indexer => Indexer.ofEstree
  | .typeParams => Json.itemsOf "params" TypeParameter.ofEstree
  | .typeParam => TypeParameter.ofEstree
  | .typeArgs => Json.itemsOf "params" FlowType.ofEstree
  | .id => idName
  | .typeName => dottedName
  | .keyName => propertyKey
  | .paramName => paramNameIn
  | .specifierName => nameIn
  | .source => literalText
  | .moduleName => nameOfModule

/-! ## Slots -/

/-- The ways in which a field is read. -/
inductive Way where
  /-- As it is, if it is there. -/
  | value
  /-- As it is, and as null if it is missing. -/
  | option
  /-- At a place; it must be there. -/
  | node (p : Place)
  /-- At a place, if it is present. -/
  | child (p : Place)
  /-- Item by item, if it is present. -/
  | items (p : Place)
  /-- Item by item, unless it is missing or null. -/
  | given (p : Place)
  /-- As one of the lists of stray members. -/
  | strays

/-- Whether a missing field is read like null. -/
def Way.isOptional : Way → Bool
  | .value | .node _ => false
  | .option | .child _ | .items _ | .given _ | .strays => true

/-- The fields that are read, by their keys. -/
abbrev Slots := List (String × Way)

/-- The fields for one tag, and those for all others. -/
def slotsFor (name : String) (known : Slots) (others : Option Json → Slots) (tag : Option Json) :
    Slots :=
  match tag with
  | some (.string t) => if t = name then known else others tag
  | _ => others tag

def nameSlots : Slots := [("name", .value)]

def literalSlots : Slots := [("value", .option), ("raw", .value)]

def identifierSlots : Slots :=
  [("name", .value), ("typeAnnotation", .child .annotated), ("optional", .option),
    ("loc", .option)]

def typeSlots : Option Json → Slots
  | some (.string "FunctionTypeAnnotation") =>
    [("params", .given .param), ("returnType", .child .type), ("rest", .child .param),
      ("loc", .option)]
  | some (.string "GenericTypeAnnotation") =>
    [("id", .node .typeName), ("typeParameters", .child .typeArgs), ("loc", .option)]
  | some (.string "NullableTypeAnnotation") => [("typeAnnotation", .node .type), ("loc", .option)]
  | some (.string "ObjectTypeAnnotation") =>
    [("callProperties", .strays), ("internalSlots", .strays), ("properties", .items .member),
      ("indexers", .items .indexer), ("exact", .option), ("loc", .option)]
  | some (.string "UnionTypeAnnotation") => [("types", .items .type), ("loc", .option)]
  | some (.string "IntersectionTypeAnnotation") => [("types", .items .type), ("loc", .option)]
  | some (.string "StringLiteralTypeAnnotation") =>
    [("value", .value), ("raw", .value), ("loc", .option)]
  | some (.string "BooleanLiteralTypeAnnotation") =>
    [("value", .option), ("raw", .value), ("loc", .option)]
  | some (.string "TupleTypeAnnotation") =>
    [("types", .given .element), ("elementTypes", .items .element), ("loc", .option)]
  | _ => [("loc", .option)]

def statementSlots : Option Json → Slots
  | some (.string "FunctionDeclaration") =>
    [("id", .child .id), ("params", .items .pattern), ("returnType", .child .annotated),
      ("typeParameters", .child .typeParams), ("loc", .option)]
  | some (.string "VariableDeclaration") => [("kind", .value), ("loc", .option)]
  | some (.string "TypeAlias") =>
    [("id", .node .id), ("right", .node .type), ("typeParameters", .child .typeParams),
      ("loc", .option)]
  | some (.string "ImportDeclaration") =>
    [("source", .node .source), ("specifiers", .items .specifier), ("importKind", .option),
      ("loc", .option)]
  | some (.string "ExportDefaultDeclaration") =>
    [("declaration", .node .statement), ("loc", .option)]
  | some (.string "ExportNamedDeclaration") =>
    [("declaration", .child .statement), ("specifiers", .items .specifier),
      ("source", .child .source), ("exportKind", .option), ("loc", .option)]
  | some (.string "ExportAllDeclaration") => [("source", .node .source), ("loc", .option)]
  | some (.string "BlockStatement") => [("body", .items .statement), ("loc", .option)]
  | some (.string "DeclareModule") =>
    [("id", .node .moduleName), ("body", .child .block), ("loc", .option)]
  | some (.string "DeclareTypeAlias") =>
    [("id", .node .id), ("right", .node .type), ("typeParameters", .child .typeParams),
      ("loc", .option)]
  | some (.string "DeclareClass") => [("id", .node .id), ("loc", .option)]
  | _ => [("loc", .option)]

def patternSlots : Option Json → Slots
  | some (.string "Identifier") => identifierSlots
  | some (.string "RestElement") => [("argument", .node .pattern), ("loc", .option)]
  | some (.string "AssignmentPattern") =>
    [("left", .node .pattern), ("right", .child .expression), ("loc", .option)]
  | _ => [("loc", .option)]

def specifierSlots : Option Json → Slots
  | some (.string "ImportSpecifier") =>
    [("imported", .child .specifierName), ("id", .child .specifierName),
      ("local", .child .specifierName), ("name", .child .specifierName), ("loc", .option)]
  | some (.string "ImportDefaultSpecifier") | some (.string "ImportNamespaceSpecifier") =>
    [("local", .child .specifierName), ("id", .child .specifierName), ("loc", .option)]
  | some (.string "ExportSpecifier") =>
    [("local", .child .specifierName), ("exported", .child .specifierName), ("loc", .option)]
  | some (.string "ExportDefaultSpecifier") | some (.string "ExportNamespaceSpecifier") =>
    [("exported", .child .specifierName), ("loc", .option)]
  | _ => [("loc", .option)]

def expressionSlots : Option Json → Slots
  | some (.string "Literal") => [("value", .option), ("raw", .value), ("loc", .option)]
  | some (.string "Identifier") => identifierSlots
  | _ => [("loc", .option)]

def annotationSlots : Option Json → Slots :=
  slotsFor "TypeAnnotation" [("typeAnnotation", .child .type)] typeSlots

/-- A tag that is no text decides nothing, but no element with such a tag may have a label. -/
def elementSlots : Option Json → Slots
  | some (.string tag) =>
    if isLabel tag then ("elementType", .node .type) :: typeSlots (some (.string tag))
    else typeSlots (some (.string tag))
  | tag => ("elementType", .value) :: typeSlots tag

def memberSlots : Option Json → Slots :=
  slotsFor "ObjectTypeProperty"
    [("key", .node .keyName), ("value", .node .type), ("optional", .option), ("loc", .option)]
    fun _ => [("loc", .option)]

def typeNameSlots : Option Json → Slots :=
  slotsFor "QualifiedTypeIdentifier" [("qualification", .node .typeName), ("id", .node .id)]
    fun _ => nameSlots

def keyNameSlots : Option Json → Slots :=
  slotsFor "Identifier" nameSlots fun _ => [("value", .value), ("raw", .value)]

def specifierNameSlots : Option Json → Slots :=
  slotsFor "Literal" [("value", .value)] fun _ => nameSlots

def moduleNameSlots : Option Json → Slots :=
  slotsFor "Identifier" nameSlots fun _ => literalSlots

/-- The fields that are read at a place from an object with the given tag. -/
def Place.slots (p : Place) (tag : Option Json) : Slots :=
  match p with
  | .program => [("body", .items .statement), ("errors", .items .parseError), ("loc", .option)]
  | .statement => statementSlots tag
  | .block => [("body", .items .statement), ("loc", .option)]
  | .pattern => patternSlots tag
  | .expression => expressionSlots tag
  | .specifier => specifierSlots tag
  | .parseError => [("message", .value), ("loc", .option)]
  | .type => typeSlots tag
  | .annotated => annotationSlots tag
  | .element => elementSlots tag
  | .param =>
    [("name", .child .paramName), ("typeAnnotation", .node .type), ("optional", .option),
      ("loc", .option)]
  | .member => memberSlots tag
  | .stray => [("loc", .option)]
  | .indexer =>
    [("id", .child .id), ("key", .node .type), ("value", .node .type), ("loc", .option)]
  | .typeParams => [("params", .items .typeParam)]
  | .typeParam => [("name", .value), ("bound", .child .annotated), ("loc", .option)]
  | .typeArgs => [("params", .items .type)]
  | .id => nameSlots
  | .typeName => typeNameSlots tag
  | .keyName => keyNameSlots tag
  | .paramName => [("name", .option)]
  | .specifierName => specifierNameSlots tag
  | .source => literalSlots
  | .moduleName => moduleNameSlots tag

/-! ## Agreement -/

/-- Whether two values give the same stray members, also together with others. -/
def StraysAlike (v w : Json) : Prop :=
  v = w ∨ ∃ items items', v = .list items ∧ w = .list items' ∧
    items.mapM Member.ofUnknown = items'.mapM Member.ofUnknown

/-- Two objects agree in a field as far as it is read. -/
def Way.Agree (key : String) (a b : Json) : Way → Prop
  | .value => a.at? key = b.at? key
  | .option => (a.at? key).getD .null = (b.at? key).getD .null
  | .node p => (a.at? key).map p.read = (b.at? key).map p.read
  | .child p => a.ifPresent key p.read = b.ifPresent key p.read
  | .items p => a.eachItem key p.read = b.eachItem key p.read
  | .given p =>
    a.ifNonNull key (Json.eachElement p.read) = b.ifNonNull key (Json.eachElement p.read)
  | .strays => StraysAlike (((a.at? key).getD .null).orElse (.list []))
      (((b.at? key).getD .null).orElse (.list []))

/-- Two objects have the same tag and agree in the fields that it calls for. -/
structure Agree (slots : Option Json → Slots) (a b : Json) : Prop where
  left : a.IsObject
  right : b.IsObject
  tag : a.at? "type" = b.at? "type"
  slot : ∀ slot ∈ slots (a.at? "type"), slot.2.Agree slot.1 a b

variable {a b : Json} {slots : Option Json → Slots}

theorem Agree.hasTag (h : Agree slots a b) {tag : String} (ht : a.HasTag tag) : b.HasTag tag :=
  h.tag.symm.trans ht

theorem Agree.not_hasTag (h : Agree slots a b) {tag : String} (ht : ¬ a.HasTag tag) :
    ¬ b.HasTag tag :=
  fun hb => ht (h.tag.trans hb)

theorem slotsFor_eq {name : String} (known : Slots) (others : Option Json → Slots)
    (ht : a.HasTag name) : slotsFor name known others (a.at? "type") = known := by
  rw [ht, slotsFor, if_pos rfl]

theorem slotsFor_eq_others {name : String} (known : Slots) (others : Option Json → Slots)
    (ht : ¬ a.HasTag name) : slotsFor name known others (a.at? "type") = others (a.at? "type") := by
  unfold slotsFor
  split
  · rename_i t hv
    apply if_neg
    rintro rfl
    exact ht hv
  · rfl

theorem Agree.of_hasTag {name : String} {known : Slots} {others : Option Json → Slots}
    (h : Agree (slotsFor name known others) a b) (ht : a.HasTag name) :
    Agree (fun _ => known) a b :=
  ⟨h.left, h.right, h.tag, slotsFor_eq known others ht ▸ h.slot⟩

theorem Agree.of_not_hasTag {name : String} {known : Slots} {others : Option Json → Slots}
    (h : Agree (slotsFor name known others) a b) (ht : ¬ a.HasTag name) : Agree others a b :=
  ⟨h.left, h.right, h.tag, slotsFor_eq_others known others ht ▸ h.slot⟩

theorem Agree.keptTag_eq (h : Agree slots a b) : keptTag a = keptTag b := by
  rw [keptTag, keptTag, h.tag]

theorem Agree.ofNode_eq (h : Agree slots a b) (hm : ∀ tag, ("loc", .option) ∈ slots tag) :
    Location.ofNode a = Location.ofNode b := by
  have hl := h.slot _ (hm _)
  simp only [Way.Agree] at hl
  rw [Location.ofNode_eq h.left, Location.ofNode_eq h.right, hl]

/-- A reader that looks at the location first treats two objects alike if it does so where the
location can be read. -/
theorem located_congr {α : Type} {f : Json → Except Malformed α}
    (hf : ∀ {data : Json} {m : Malformed}, data.IsObject → Location.ofNode data = .error m →
      f data = .error m)
    (ha : a.IsObject) (hb : b.IsObject) (hloc : Location.ofNode a = Location.ofNode b)
    (h : ∀ loc, Location.ofNode a = .ok loc → Location.ofNode b = .ok loc → f a = f b) :
    f a = f b := by
  cases hl : Location.ofNode a with
  | error m => rw [hf ha hl, hf hb (hloc ▸ hl)]
  | ok loc => exact h loc hl (hloc ▸ hl)

theorem Json.hasTag_or_not (tags : List String) (data : Json) :
    (∃ tag ∈ tags, data.HasTag tag) ∨ ∀ tag ∈ tags, ¬ data.HasTag tag := by
  by_cases h : ∃ tag ∈ tags, data.HasTag tag
  · exact .inl h
  · exact .inr fun tag hm ht => h ⟨tag, hm, ht⟩

theorem need_congr {α : Type} {key : String} {f : Json → Except Malformed α}
    (h : (a.at? key).map f = (b.at? key).map f) : a.need key f = b.need key f := by
  rw [Json.need, Json.need, h]

theorem need_congr_at? {α : Type} {key : String} {f : Json → Except Malformed α}
    (h : a.at? key = b.at? key) : a.need key f = b.need key f := by
  rw [Json.need, Json.need, h]

theorem flag_congr {key : String} (h : (a.at? key).getD .null = (b.at? key).getD .null) :
    a.flag key = b.flag key := by
  rw [Json.flag, Json.flag, h]

/-! ## Stray members -/

theorem StraysAlike.eachElement {v w : Json} (h : StraysAlike v w) :
    Json.eachElement Member.ofUnknown v = Json.eachElement Member.ofUnknown w := by
  rcases h with rfl | ⟨items, items', rfl, rfl, h⟩
  · rfl
  · exact h

theorem Json.add_list (v : Json) (items : List Json) : (∃ others, v = .list others) ∨
    v.add (.list items) = .error .mismatch ∧ (Json.list items).add v = .error .mismatch := by
  cases v with
  | list others => exact .inl ⟨others, rfl⟩
  | _ => exact .inr ⟨rfl, rfl⟩

theorem StraysAlike.add {v v' w w' : Json} (hv : StraysAlike v v') (hw : StraysAlike w w') :
    (∃ m, v.add w = .error m ∧ v'.add w' = .error m) ∨
      ∃ x x', v.add w = .ok x ∧ v'.add w' = .ok x' ∧ StraysAlike x x' := by
  rcases hv with rfl | ⟨l, l', rfl, rfl, hl⟩
  · rcases hw with rfl | ⟨r, r', rfl, rfl, hr⟩
    · cases h : v.add w with
      | error m => exact .inl ⟨m, rfl, rfl⟩
      | ok x => exact .inr ⟨x, x, rfl, rfl, .inl rfl⟩
    · rcases Json.add_list v r with ⟨l, rfl⟩ | ⟨h, -⟩
      · refine .inr ⟨_, _, rfl, rfl, .inr ⟨_, _, rfl, rfl, ?_⟩⟩
        rw [List.mapM_append, List.mapM_append, hr]
      · rcases Json.add_list v r' with ⟨l, rfl⟩ | ⟨h', -⟩
        · cases h
        · exact .inl ⟨_, h, h'⟩
  · rcases hw with rfl | ⟨r, r', rfl, rfl, hr⟩
    · rcases Json.add_list w l with ⟨r, rfl⟩ | ⟨-, h⟩
      · refine .inr ⟨_, _, rfl, rfl, .inr ⟨_, _, rfl, rfl, ?_⟩⟩
        rw [List.mapM_append, List.mapM_append, hl]
      · rcases Json.add_list w l' with ⟨r, rfl⟩ | ⟨-, h'⟩
        · cases h
        · exact .inl ⟨_, h, h'⟩
    · refine .inr ⟨_, _, rfl, rfl, .inr ⟨_, _, rfl, rfl, ?_⟩⟩
      rw [List.mapM_append, List.mapM_append, hl, hr]

/-! ## Names -/

theorem idName_congr (h : Agree (fun _ => nameSlots) a b) : idName a = idName b := by
  rw [idName_eq h.left, idName_eq h.right]
  exact need_congr_at? (h.slot _ (List.mem_singleton_self _))

theorem literalText_congr (h : Agree (fun _ => literalSlots) a b) :
    literalText a = literalText b := by
  have hs := h.slot
  simp only [literalSlots, List.forall_mem_cons, Way.Agree] at hs
  rw [literalText_eq h.left, literalText_eq h.right, hs.1, hs.2.1]

theorem dottedName_congr (h : Agree typeNameSlots a b) : dottedName a = dottedName b := by
  by_cases ht : a.HasTag "QualifiedTypeIdentifier"
  · have hs := (h.of_hasTag ht).slot
    simp only [List.forall_mem_cons, Way.Agree, Place.read] at hs
    rw [dottedName_qualified ht, dottedName_qualified (h.hasTag ht), need_congr hs.1,
      need_congr hs.2.1]
  · rw [dottedName_plain_need h.left ht, dottedName_plain_need h.right (h.not_hasTag ht)]
    exact need_congr_at? ((h.of_not_hasTag ht).slot _ (List.mem_singleton_self _))

theorem propertyKey_congr (h : Agree keyNameSlots a b) : propertyKey a = propertyKey b := by
  by_cases ht : a.HasTag "Identifier"
  · rw [propertyKey_identifier_need ht, propertyKey_identifier_need (h.hasTag ht)]
    exact need_congr_at? ((h.of_hasTag ht).slot _ (List.mem_singleton_self _))
  · have hs := (h.of_not_hasTag ht).slot
    simp only [List.forall_mem_cons, Way.Agree] at hs
    rw [propertyKey_other h.left ht, propertyKey_other h.right (h.not_hasTag ht), hs.1, hs.2.1]

theorem paramNameIn_congr (h : Agree (fun _ => [("name", .option)]) a b) :
    paramNameIn a = paramNameIn b := by
  have hn : (a.at? "name").getD .null = (b.at? "name").getD .null :=
    h.slot _ (List.mem_singleton_self _)
  obtain ⟨fields, rfl⟩ := h.left
  obtain ⟨fields', rfl⟩ := h.right
  rw [paramNameIn, paramNameIn, Json.get_eq h.left, Json.get_eq h.right, hn]

theorem nameIn_congr (h : Agree specifierNameSlots a b) : nameIn a = nameIn b := by
  by_cases ht : a.HasTag "Literal"
  · have hv : a.at? "value" = b.at? "value" :=
      (h.of_hasTag ht).slot _ (List.mem_singleton_self _)
    rw [nameIn_literal ht, nameIn_literal (h.hasTag ht), hv]
  · have hn : a.at? "name" = b.at? "name" :=
      (h.of_not_hasTag ht).slot _ (List.mem_singleton_self _)
    rw [nameIn_other h.left ht, nameIn_other h.right (h.not_hasTag ht), hn]

theorem nameOfModule_congr (h : Agree moduleNameSlots a b) : nameOfModule a = nameOfModule b := by
  by_cases ht : a.HasTag "Identifier"
  · rw [nameOfModule_identifier ht, nameOfModule_identifier (h.hasTag ht)]
    exact need_congr_at? ((h.of_hasTag ht).slot _ (List.mem_singleton_self _))
  · rw [nameOfModule_other h.left ht, nameOfModule_other h.right (h.not_hasTag ht),
      literalText_congr (h.of_not_hasTag ht)]

/-! ## Annotations -/

theorem loc_mem_typeSlots (tag : Option Json) : ("loc", .option) ∈ typeSlots tag := by
  unfold typeSlots
  split <;> simp

theorem FlowType.ofEstree_congr (h : Agree typeSlots a b) :
    FlowType.ofEstree a = FlowType.ofEstree b := by
  have hs := h.slot
  have hloc := h.ofNode_eq loc_mem_typeSlots
  refine located_congr ofEstree_mislocated h.left h.right hloc fun loc hl hl' => ?_
  obtain ⟨tag, hm, ht⟩ | hn := Json.hasTag_or_not compositeTags a
  · have ht' := h.hasTag ht
    rw [ht] at hs
    simp only [compositeTags, List.mem_cons, List.not_mem_nil, or_false] at hm
    rcases hm with rfl | rfl | rfl | rfl | rfl | rfl | rfl | rfl | rfl <;>
      simp only [typeSlots, List.forall_mem_cons, Way.Agree, Place.read] at hs
    · obtain ⟨hparams, hreturns, hrest, -⟩ := hs
      rw [ofEstree_function ht hl, ofEstree_function ht' hl', hparams, hreturns, hrest]
    · obtain ⟨hid, hargs, -⟩ := hs
      rw [ofEstree_generic_need ht hl, ofEstree_generic_need ht' hl', need_congr hid, hargs]
    · rw [ofEstree_nullable_need ht hl, ofEstree_nullable_need ht' hl', need_congr hs.1]
    · obtain ⟨hcalls, hslots, hmembers, hindexers, hexact, -⟩ := hs
      rw [ofEstree_object ht hl, ofEstree_object ht' hl', hmembers, hindexers,
        flag_congr hexact]
      rcases hcalls.add hslots with ⟨m, ho, ho'⟩ | ⟨x, x', ho, ho', hx⟩
      · simp only [ho, ho']
      · simp only [ho, ho']
        change (_ >>= fun _ => Json.eachElement Member.ofUnknown x >>= _) = _
        rw [hx.eachElement]
        rfl
    · rw [ofEstree_union ht hl, ofEstree_union ht' hl', hs.1]
    · rw [ofEstree_intersection ht hl, ofEstree_intersection ht' hl', hs.1]
    · rw [ofEstree_stringLiteral ht hl, ofEstree_stringLiteral ht' hl', hs.1, hs.2.1]
    · rw [ofEstree_booleanLiteral ht hl, ofEstree_booleanLiteral ht' hl', flag_congr hs.1,
        hs.2.1]
    · rw [ofEstree_tuple ht hl, ofEstree_tuple ht' hl', readTuple_eq, readTuple_eq, hs.1, hs.2.1]
  · rw [ofEstree_simple h.left hl hn, ofEstree_simple h.right hl' fun tag hm =>
      h.not_hasTag (hn tag hm), h.tag, h.keptTag_eq]

theorem readAnnotated_congr (h : Agree annotationSlots a b) :
    readAnnotated a = readAnnotated b := by
  by_cases ht : a.HasTag "TypeAnnotation"
  · rw [readAnnotated_wrapped ht, readAnnotated_wrapped (h.hasTag ht)]
    exact (h.of_hasTag ht).slot _ (List.mem_singleton_self _)
  · rw [readAnnotated_plain h.left ht, readAnnotated_plain h.right (h.not_hasTag ht),
      FlowType.ofEstree_congr (h.of_not_hasTag ht)]

theorem readElement_congr (h : Agree elementSlots a b) : readElement a = readElement b := by
  have hs := h.slot
  by_cases htag : ∃ tag, a.HasTag tag
  · obtain ⟨tag, ht⟩ := htag
    have ht' := h.hasTag ht
    rw [ht, elementSlots] at hs
    cases hp : isLabel tag with
    | true =>
      rw [hp, if_pos rfl, List.forall_mem_cons] at hs
      obtain ⟨he, hs⟩ := hs
      rw [Way.Agree] at he
      cases ha : a.at? "elementType" with
      | none =>
        have hb : b.at? "elementType" = none := by simpa [ha] using he.symm
        rw [readElement_plain h.left ha, readElement_plain h.right hb,
          FlowType.ofEstree_congr ⟨h.left, h.right, h.tag, ht ▸ hs⟩]
      | some x =>
        obtain ⟨y, hb, hxy⟩ : ∃ y, b.at? "elementType" = some y ∧ Place.type.read y =
            Place.type.read x := by simpa [ha] using he.symm
        rw [readElement_labelled ht hp ha, readElement_labelled ht' hp hb]
        exact hxy.symm
    | false =>
      rw [hp, if_neg Bool.false_ne_true] at hs
      rw [readElement_tagged ht hp, readElement_tagged ht' hp,
        FlowType.ofEstree_congr ⟨h.left, h.right, h.tag, ht ▸ hs⟩]
  · have hk : elementSlots (a.at? "type") =
        ("elementType", .value) :: typeSlots (a.at? "type") := by
      unfold elementSlots
      split
      · exact absurd ⟨_, ‹_›⟩ htag
      · rfl
    rw [hk, List.forall_mem_cons] at hs
    obtain ⟨he, hs⟩ := hs
    rw [Way.Agree] at he
    have hab := FlowType.ofEstree_congr ⟨h.left, h.right, h.tag, hs⟩
    cases ha : a.at? "elementType" with
    | none => rw [readElement_plain h.left ha, readElement_plain h.right (he ▸ ha), hab]
    | some x =>
      have hn : ∀ tag, ¬ a.HasTag tag := fun tag ht => htag ⟨tag, ht⟩
      rw [readElement_untagged h.left hn ha,
        readElement_untagged h.right (fun tag => h.not_hasTag (hn tag)) (he ▸ ha), hab, h.tag]

theorem FunctionParam.ofEstree_congr (h : Agree Place.param.slots a b) :
    FunctionParam.ofEstree a = FunctionParam.ofEstree b := by
  have hs := h.slot
  simp only [Place.slots, List.forall_mem_cons, Way.Agree, Place.read] at hs
  obtain ⟨hname, htype, hoptional, -⟩ := hs
  rw [ofEstree_eq_need h.left, ofEstree_eq_need h.right, paramName_eq h.left,
    paramName_eq h.right, hname, need_congr htype, flag_congr hoptional,
    h.ofNode_eq fun _ => by simp [Place.slots]]

theorem Member.ofUnknown_congr (h : Agree slots a b) (hm : ∀ tag, ("loc", .option) ∈ slots tag) :
    Member.ofUnknown a = Member.ofUnknown b := by
  rw [ofUnknown_bind h.left, ofUnknown_bind h.right, h.keptTag_eq, h.ofNode_eq hm]

theorem Member.ofEstree_congr (h : Agree memberSlots a b) :
    Member.ofEstree a = Member.ofEstree b := by
  by_cases ht : a.HasTag "ObjectTypeProperty"
  · have hk := h.of_hasTag ht
    have hs := hk.slot
    simp only [List.forall_mem_cons, Way.Agree, Place.read] at hs
    obtain ⟨hkey, hvalue, hoptional, -⟩ := hs
    rw [ofEstree_property_need ht, ofEstree_property_need (h.hasTag ht), need_congr hkey,
      need_congr hvalue, flag_congr hoptional, hk.ofNode_eq fun _ => by simp]
  · rw [ofEstree_stray h.left ht, ofEstree_stray h.right (h.not_hasTag ht),
      ofUnknown_congr (h.of_not_hasTag ht) fun _ => List.mem_singleton_self _]

theorem Indexer.ofEstree_congr (h : Agree Place.indexer.slots a b) :
    Indexer.ofEstree a = Indexer.ofEstree b := by
  have hs := h.slot
  simp only [Place.slots, List.forall_mem_cons, Way.Agree, Place.read] at hs
  obtain ⟨hid, hkey, hvalue, -⟩ := hs
  rw [ofEstree_eq_need h.left, ofEstree_eq_need h.right, nameOfId_eq_ifPresent h.left,
    nameOfId_eq_ifPresent h.right, hid, need_congr hkey, need_congr hvalue,
    h.ofNode_eq fun _ => by simp [Place.slots]]

theorem TypeParameter.ofEstree_congr (h : Agree Place.typeParam.slots a b) :
    TypeParameter.ofEstree a = TypeParameter.ofEstree b := by
  have hs := h.slot
  simp only [Place.slots, List.forall_mem_cons, Way.Agree, Place.read] at hs
  obtain ⟨hname, hbound, -⟩ := hs
  rw [ofEstree_eq_need h.left, ofEstree_eq_need h.right, need_congr_at? hname,
    FlowType.ofField?_eq h.left, FlowType.ofField?_eq h.right, hbound,
    h.ofNode_eq fun _ => by simp [Place.slots]]

/-! ## Patterns and specifiers -/

theorem Identifier.ofEstree_congr (h : Agree (fun _ => identifierSlots) a b) :
    Identifier.ofEstree a = Identifier.ofEstree b := by
  have hs := h.slot
  simp only [identifierSlots, List.forall_mem_cons, Way.Agree, Place.read] at hs
  obtain ⟨hname, htype, hoptional, -⟩ := hs
  rw [ofEstree_eq_need h.left, ofEstree_eq_need h.right, need_congr_at? hname,
    FlowType.ofField?_eq h.left, FlowType.ofField?_eq h.right, htype, flag_congr hoptional,
    h.ofNode_eq fun _ => by simp [identifierSlots]]

theorem loc_mem_expressionSlots (tag : Option Json) : ("loc", .option) ∈ expressionSlots tag := by
  unfold expressionSlots
  split <;> simp [identifierSlots]

theorem Expression.ofEstree_congr (h : Agree expressionSlots a b) :
    Expression.ofEstree a = Expression.ofEstree b := by
  have hs := h.slot
  have hloc := h.ofNode_eq loc_mem_expressionSlots
  obtain ⟨tag, hm, ht⟩ | hn := Json.hasTag_or_not expressionTags a
  · have ht' := h.hasTag ht
    rw [ht] at hs
    simp only [expressionTags, List.mem_cons, List.not_mem_nil, or_false] at hm
    rcases hm with rfl | rfl
    · simp only [expressionSlots, List.forall_mem_cons, Way.Agree] at hs
      rw [ofEstree_literal_bind ht, ofEstree_literal_bind ht', hs.1, hs.2.1, hloc]
    · rw [ofEstree_identifier ht, ofEstree_identifier ht',
        Identifier.ofEstree_congr ⟨h.left, h.right, h.tag, hs⟩]
  · rw [ofEstree_kept h.left hn, ofEstree_kept h.right fun tag hm => h.not_hasTag (hn tag hm),
      h.keptTag_eq, hloc]

theorem loc_mem_patternSlots (tag : Option Json) : ("loc", .option) ∈ patternSlots tag := by
  unfold patternSlots
  split <;> simp [identifierSlots]

theorem Pattern.ofEstree_congr (h : Agree patternSlots a b) :
    Pattern.ofEstree a = Pattern.ofEstree b := by
  have hs := h.slot
  have hloc := h.ofNode_eq loc_mem_patternSlots
  refine located_congr ofEstree_mislocated h.left h.right hloc fun loc hl hl' => ?_
  obtain ⟨tag, hm, ht⟩ | hn := Json.hasTag_or_not patternTags a
  · have ht' := h.hasTag ht
    rw [ht] at hs
    simp only [patternTags, List.mem_cons, List.not_mem_nil, or_false] at hm
    rcases hm with rfl | rfl | rfl
    · rw [ofEstree_identifier ht hl, ofEstree_identifier ht' hl',
        Identifier.ofEstree_congr ⟨h.left, h.right, h.tag, hs⟩]
    · simp only [patternSlots, List.forall_mem_cons, Way.Agree, Place.read] at hs
      rw [ofEstree_rest_need ht hl, ofEstree_rest_need ht' hl', need_congr hs.1]
    · simp only [patternSlots, List.forall_mem_cons, Way.Agree, Place.read] at hs
      rw [ofEstree_assignment_need ht hl, ofEstree_assignment_need ht' hl', need_congr hs.1,
        Json.orElse_eq_ifPresent a "right" Expression.ofEstree,
        Json.orElse_eq_ifPresent b "right" Expression.ofEstree, hs.2.1]
  · rw [ofEstree_kept h.left hl hn, ofEstree_kept h.right hl' fun tag hm =>
      h.not_hasTag (hn tag hm), h.keptTag_eq]

theorem loc_mem_specifierSlots (tag : Option Json) : ("loc", .option) ∈ specifierSlots tag := by
  unfold specifierSlots
  split <;> simp

theorem nameAt_congr {key : String} (h : a.ifPresent key nameIn = b.ifPresent key nameIn) :
    nameAt a key = nameAt b key := by
  rw [nameAt_eq, nameAt_eq, h]

theorem Agree.nameUnder_eq (h : Agree slots a b) {key other : String}
    (hk : a.ifPresent key nameIn = b.ifPresent key nameIn)
    (ho : a.ifPresent other nameIn = b.ifPresent other nameIn) :
    nameUnder a key other = nameUnder b key other := by
  rw [nameUnder_eq_ifPresent h.left, nameUnder_eq_ifPresent h.right, hk, nameAt_congr ho]

theorem Specifier.ofEstree_congr (h : Agree specifierSlots a b) :
    Specifier.ofEstree a = Specifier.ofEstree b := by
  have hs := h.slot
  have hloc := h.ofNode_eq loc_mem_specifierSlots
  refine located_congr ofEstree_mislocated h.left h.right hloc fun loc hl hl' => ?_
  obtain ⟨tag, hm, ht⟩ | hn := Json.hasTag_or_not specifierTags a
  · have ht' := h.hasTag ht
    rw [ht] at hs
    simp only [specifierTags, List.mem_cons, List.not_mem_nil, or_false] at hm
    rcases hm with rfl | rfl | rfl | rfl | rfl | rfl <;>
      simp only [specifierSlots, List.forall_mem_cons, Way.Agree, Place.read] at hs
    · obtain ⟨himported, hid, hlocal, hname, -⟩ := hs
      rw [ofEstree_importNamed ht hl, ofEstree_importNamed ht' hl',
        h.nameUnder_eq himported hid, h.nameUnder_eq hlocal hname]
    · rw [ofEstree_importDefault ht hl, ofEstree_importDefault ht' hl',
        h.nameUnder_eq hs.1 hs.2.1]
    · rw [ofEstree_importNamespace ht hl, ofEstree_importNamespace ht' hl',
        h.nameUnder_eq hs.1 hs.2.1]
    · rw [ofEstree_exportNamed ht hl, ofEstree_exportNamed ht' hl', nameAt_congr hs.1,
        nameAt_congr hs.2.1]
    · rw [ofEstree_exportDefault ht hl, ofEstree_exportDefault ht' hl', nameAt_congr hs.1]
    · rw [ofEstree_exportNamespace ht hl, ofEstree_exportNamespace ht' hl', nameAt_congr hs.1]
  · rw [ofEstree_kept h.left hl hn, ofEstree_kept h.right hl' fun tag hm =>
      h.not_hasTag (hn tag hm), h.keptTag_eq]

/-! ## Statements -/

theorem loc_mem_statementSlots (tag : Option Json) : ("loc", .option) ∈ statementSlots tag := by
  unfold statementSlots
  split <;> simp

theorem Block.ofEstree_congr (h : Agree Place.block.slots a b) :
    Block.ofEstree a = Block.ofEstree b := by
  have hs := h.slot
  simp only [Place.slots, List.forall_mem_cons, Way.Agree, Place.read] at hs
  rw [ofEstree_eq h.left, ofEstree_eq h.right, hs.1, h.ofNode_eq fun _ => by simp [Place.slots]]

theorem TypeAlias.ofEstree_congr (h : Agree slots a b)
    (hloc : Location.ofNode a = Location.ofNode b)
    (hid : (a.at? "id").map idName = (b.at? "id").map idName)
    (hright : (a.at? "right").map FlowType.ofEstree = (b.at? "right").map FlowType.ofEstree)
    (hparams : a.ifPresent "typeParameters" (Json.itemsOf "params" TypeParameter.ofEstree) =
      b.ifPresent "typeParameters" (Json.itemsOf "params" TypeParameter.ofEstree)) :
    TypeAlias.ofEstree a = TypeAlias.ofEstree b := by
  rw [ofEstree_eq_need h.left, ofEstree_eq_need h.right, declaredName_eq_need h.left,
    declaredName_eq_need h.right, need_congr hid, need_congr hright,
    TypeParameter.listOf?_eq h.left, TypeParameter.listOf?_eq h.right, hparams, hloc]

theorem Statement.ofEstree_congr (h : Agree statementSlots a b) :
    Statement.ofEstree a = Statement.ofEstree b := by
  have hs := h.slot
  have hloc := h.ofNode_eq loc_mem_statementSlots
  have hspec := Specifier.listOf_eq h.left
  have hspec' := Specifier.listOf_eq h.right
  refine located_congr ofEstree_mislocated h.left h.right hloc fun loc hl hl' => ?_
  obtain ⟨tag, hm, ht⟩ | hn := Json.hasTag_or_not statementTags a
  · have ht' := h.hasTag ht
    rw [ht] at hs
    simp only [statementTags, List.mem_cons, List.not_mem_nil, or_false] at hm
    rcases hm with rfl | rfl | rfl | rfl | rfl | rfl | rfl | rfl | rfl | rfl | rfl <;>
      simp only [statementSlots, List.forall_mem_cons, Way.Agree, Place.read] at hs
    · obtain ⟨hid, hparams, hreturns, htypeParams, -⟩ := hs
      rw [ofEstree_function ht hl, ofEstree_function ht' hl', Signature.ofEstree_eq h.left,
        Signature.ofEstree_eq h.right, nameOfId_eq_ifPresent h.left,
        nameOfId_eq_ifPresent h.right, hid, hparams, FlowType.ofField?_eq h.left,
        FlowType.ofField?_eq h.right, hreturns, TypeParameter.listOf?_eq h.left,
        TypeParameter.listOf?_eq h.right, htypeParams, hloc]
    · rw [ofEstree_variableDeclaration ht hl, ofEstree_variableDeclaration ht' hl', hs.1]
    · obtain ⟨hid, hright, hparams, -⟩ := hs
      rw [ofEstree_typeAlias ht hl, ofEstree_typeAlias ht' hl',
        TypeAlias.ofEstree_congr h hloc hid hright hparams]
    · obtain ⟨hsource, hspecifiers, hkind, -⟩ := hs
      rw [ofEstree_importDeclaration_need ht hl, ofEstree_importDeclaration_need ht' hl',
        need_congr hsource, hspec, hspec', hspecifiers, moduleKind_eq h.left,
        moduleKind_eq h.right, hkind]
    · rw [ofEstree_exportDefault_need ht hl, ofEstree_exportDefault_need ht' hl', need_congr hs.1]
    · obtain ⟨hdeclaration, hspecifiers, hsource, hkind, -⟩ := hs
      rw [ofEstree_exportNamed ht hl, ofEstree_exportNamed ht' hl', hdeclaration, hspec, hspec',
        hspecifiers, hsource, moduleKind_eq h.left, moduleKind_eq h.right, hkind]
    · rw [ofEstree_exportAll_need ht hl, ofEstree_exportAll_need ht' hl', need_congr hs.1]
    · rw [ofEstree_block ht hl, ofEstree_block ht' hl', Block.ofEstree_eq h.left,
        Block.ofEstree_eq h.right, hs.1, hloc]
    · rw [ofEstree_declareModule_need ht hl, ofEstree_declareModule_need ht' hl', need_congr hs.1,
        hs.2.1]
    · obtain ⟨hid, hright, hparams, -⟩ := hs
      rw [ofEstree_declareTypeAlias ht hl, ofEstree_declareTypeAlias ht' hl',
        TypeAlias.ofEstree_congr h hloc hid hright hparams]
    · rw [ofEstree_declareClass ht hl, ofEstree_declareClass ht' hl',
        declaredName_eq_need h.left, declaredName_eq_need h.right, need_congr hs.1]
  · rw [ofEstree_kept h.left hl hn, ofEstree_kept h.right hl' fun tag hm =>
      h.not_hasTag (hn tag hm), h.keptTag_eq]

theorem ParseError.ofEstree_congr (h : Agree Place.parseError.slots a b) :
    ParseError.ofEstree a = ParseError.ofEstree b := by
  have hs := h.slot
  simp only [Place.slots, List.forall_mem_cons, Way.Agree] at hs
  rw [ofEstree_eq h.left, ofEstree_eq h.right, hs.1, h.ofNode_eq fun _ => by simp [Place.slots]]

theorem Program.ofParts_congr (h : Agree Place.program.slots a b) :
    Program.ofParts a = Program.ofParts b := by
  have hs := h.slot
  simp only [Place.slots, List.forall_mem_cons, Way.Agree, Place.read] at hs
  rw [ofParts_eq h.left, ofParts_eq h.right, hs.1, hs.2.1,
    h.ofNode_eq fun _ => by simp [Place.slots]]

theorem itemsOf_congr {α : Type} {key : String} {f : Json → Except Malformed α}
    (h : Agree slots a b) (hi : a.eachItem key f = b.eachItem key f) :
    Json.itemsOf key f a = Json.itemsOf key f b := by
  rw [Json.itemsOf_eq h.left, Json.itemsOf_eq h.right, hi]

/-- Objects that agree in what a place calls for are read alike there. -/
theorem Place.read_congr {p : Place} (h : Agree p.slots a b) : p.read a = p.read b := by
  cases p with
  | program => exact Program.ofParts_congr h
  | statement => exact Statement.ofEstree_congr h
  | block => exact Block.ofEstree_congr h
  | pattern => exact Pattern.ofEstree_congr h
  | expression => exact Expression.ofEstree_congr h
  | specifier => exact Specifier.ofEstree_congr h
  | parseError => exact ParseError.ofEstree_congr h
  | type => exact FlowType.ofEstree_congr h
  | annotated => exact readAnnotated_congr h
  | element => exact readElement_congr h
  | param => exact FunctionParam.ofEstree_congr h
  | member => exact Member.ofEstree_congr h
  | stray => exact Member.ofUnknown_congr h fun _ => List.mem_singleton_self _
  | indexer => exact Indexer.ofEstree_congr h
  | typeParams => exact itemsOf_congr h (h.slot _ (List.mem_singleton_self _))
  | typeParam => exact TypeParameter.ofEstree_congr h
  | typeArgs => exact itemsOf_congr h (h.slot _ (List.mem_singleton_self _))
  | id => exact idName_congr h
  | typeName => exact dottedName_congr h
  | keyName => exact propertyKey_congr h
  | paramName => exact paramNameIn_congr h
  | specifierName => exact nameIn_congr h
  | source => exact literalText_congr h
  | moduleName => exact nameOfModule_congr h

end Typings
