import Typings.Parser
import Typings.Proofs.Estree.Encoding

/-!
# Reading back what was written

Reading the tree of well-formed syntax gives that syntax again, in every field and at every depth.
-/

namespace Typings

variable {α : Type} {data : Json} {key : String} {loc : Option Location}

/-! ## Nodes -/

theorem Position.ofEstree_encode (p : Position) : Position.ofEstree p.encode = .ok p :=
  Position.ofEstree_eq rfl rfl

theorem Location.ofEstree?_encode (loc : Option Location) :
    Location.ofEstree? (Location.encode loc) = .ok loc := by
  cases loc with
  | none => rfl
  | some loc =>
      rw [Location.encode, Location.ofEstree?_record rfl]
      change (do
        let first ← Position.ofEstree loc.start.encode
        let last ← Position.ofEstree loc.stop.encode
        return some (Location.mk first last loc.source)) = _
      rw [Position.ofEstree_encode, Position.ofEstree_encode]
      rfl

theorem isObject_node {tag : String} {fields : List (String × Json)} :
    (node tag loc fields).IsObject :=
  ⟨_, rfl⟩

theorem ofNode_encode (h : data.IsObject) (hl : data.at? "loc" = some (Location.encode loc)) :
    Location.ofNode data = .ok loc := by
  rw [Location.ofNode_eq h, hl]
  exact Location.ofEstree?_encode loc

theorem ofNode_node {tag : String} {fields : List (String × Json)} :
    Location.ofNode (node tag loc fields) = .ok loc :=
  ofNode_encode isObject_node rfl

theorem ofNode_bareNode {tag : Json} : Location.ofNode (bareNode tag loc) = .ok loc :=
  ofNode_encode ⟨_, rfl⟩ rfl

theorem hasTag_node {tag : String} {fields : List (String × Json)} :
    (node tag loc fields).HasTag tag :=
  rfl

theorem hasOtherTag_bareNode {tags : List String} {tag : Json} (h : IsOtherTag tags tag) :
    (bareNode tag loc).HasOtherTag tags := by
  obtain ⟨s, rfl, hs⟩ := h
  have ht : (bareNode (.string s) loc).HasTag s := rfl
  exact ht.hasOtherTag hs

/-! ## Lists and optional fields -/

variable {f : Json → Except Malformed α} {g : α → Json}

theorem mapM_map_eq {xs : List α} (h : ∀ x ∈ xs, f (g x) = .ok x) :
    (xs.map g).mapM f = .ok xs := by
  induction xs with
  | nil => rfl
  | cons x xs ih =>
      rw [List.map_cons, List.mapM_cons, h x (by simp), ih fun y hy => h y (by simp [hy])]
      rfl

theorem Json.eachItem_map {xs : List α} {vs : List Json} (ha : data.at? key = some (.list vs))
    (hv : vs = xs.map g) (h : ∀ x ∈ xs, f (g x) = .ok x) : data.eachItem key f = .ok xs := by
  rw [eachItem, present?, ha, hv]
  cases xs with
  | nil => rfl
  | cons x xs => exact mapM_map_eq h

theorem Json.ifPresent_null (ha : data.at? key = some .null) : data.ifPresent key f = .ok none := by
  rw [ifPresent, present?, ha]
  rfl

theorem Json.ifPresent_some {v : Json} {a : α} (ha : data.at? key = some v) (hp : v.isPresent)
    (h : f v = .ok a) : data.ifPresent key f = .ok (some a) := by
  rw [ifPresent, present?, ha, Option.filter_some, if_pos hp]
  change some <$> f v = _
  rw [h]
  rfl

/-! ## Names -/

theorem dottedName_plainName (name : Json) : dottedName (plainName loc name) = .ok name := by
  refine dottedName_plain (fun h => ?_) rfl
  have ht := Json.string.inj (Option.some.inj h)
  exact absurd ht (by decide)

theorem propertyKey_plainName (name : Json) : propertyKey (plainName loc name) = .ok name :=
  propertyKey_identifier rfl rfl

theorem optionalName_of_ne_null {name : Json} (h : name ≠ .null) :
    optionalName loc name = plainName loc name := by
  unfold optionalName
  split
  · exact absurd rfl h
  · rfl

theorem nameOfId_optionalName {name : Json} (hi : data.at? "id" = some (optionalName loc name)) :
    nameOfId data = .ok name := by
  by_cases hn : name = .null
  · subst hn
    exact nameOfId_absent (Json.isObject_of_at? hi) (by rw [Json.present?, hi]; rfl)
  · rw [optionalName_of_ne_null hn] at hi
    have hp : data.present? "id" = some (plainName loc name) := by rw [Json.present?, hi]; rfl
    exact nameOfId_eq hp rfl

theorem paramName_optionalName {name : Json} (hn : name = .null ∨ name.isPresent)
    (hi : data.at? "name" = some (optionalName loc name)) : paramName data = .ok name := by
  rw [paramName, Json.get_eq (Json.isObject_of_at? hi), hi]
  rcases hn with rfl | hp
  · rfl
  · rw [optionalName_of_ne_null (Json.ne_null_of_isPresent hp)]
    change Except.ok (name.orElse .null) = _
    rw [Json.orElse, if_pos hp]

/-! ## Annotations -/

theorem encodeTypes_eq_map (ts : List FlowType) : encodeTypes ts = ts.map FlowType.encode := by
  induction ts with
  | nil => rfl
  | cons t ts ih => rw [encodeTypes, ih, List.map_cons]

theorem encodeParams_eq_map (ps : List FunctionParam) :
    encodeParams ps = ps.map FunctionParam.encode := by
  induction ps with
  | nil => rfl
  | cons p ps ih => rw [encodeParams, ih, List.map_cons]

theorem encodeMembers_eq_map (ms : List Member) : encodeMembers ms = ms.map Member.encode := by
  induction ms with
  | nil => rfl
  | cons m ms ih => rw [encodeMembers, ih, List.map_cons]

theorem encodeIndexers_eq_map (is : List Indexer) :
    encodeIndexers is = is.map Indexer.encode := by
  induction is with
  | nil => rfl
  | cons i is ih => rw [encodeIndexers, ih, List.map_cons]

theorem FlowType.isPresent_encode (t : FlowType) : t.encode.isPresent := by
  cases t <;> rfl

theorem FunctionParam.isPresent_encode (p : FunctionParam) : p.encode.isPresent := by
  cases p; rfl

theorem FlowType.isObject_encode (t : FlowType) : t.encode.IsObject := by
  cases t <;> exact ⟨_, rfl⟩

theorem FlowType.unlabelled_encode (t : FlowType) : unlabelled t.encode = .ok t.encode := by
  have he : t.encode.at? "elementType" = none := by cases t <;> rfl
  rw [unlabelled, Json.holds_eq t.isObject_encode, he]
  rfl

theorem ifPresent_encodeType? {type : Option FlowType} (ha : data.at? key = some (encodeType? type))
    (h : ∀ t, type = some t → FlowType.ofEstree t.encode = .ok t) :
    data.ifPresent key FlowType.ofEstree = .ok type := by
  cases type with
  | none => exact Json.ifPresent_null ha
  | some t => exact Json.ifPresent_some ha t.isPresent_encode (h t rfl)

theorem ifPresent_encodeParam? {param : Option FunctionParam}
    (ha : data.at? key = some (encodeParam? param))
    (h : ∀ p, param = some p → FunctionParam.ofEstree p.encode = .ok p) :
    data.ifPresent key FunctionParam.ofEstree = .ok param := by
  cases param with
  | none => exact Json.ifPresent_null ha
  | some p => exact Json.ifPresent_some ha p.isPresent_encode (h p rfl)

theorem ifNonNull_encodeParams? {params : Option (List FunctionParam)}
    (ha : data.at? key = some (encodeParams? params))
    (h : ∀ ps, params = some ps → ∀ p ∈ ps, FunctionParam.ofEstree p.encode = .ok p) :
    data.ifNonNull key (Json.eachElement FunctionParam.ofEstree) = .ok params := by
  rw [Json.ifNonNull, Json.nonNull?, ha]
  cases params with
  | none => rfl
  | some ps =>
      change some <$> (encodeParams ps).mapM FunctionParam.ofEstree = _
      rw [encodeParams_eq_map, mapM_map_eq (h ps rfl)]
      rfl

theorem ifPresent_encodeArguments {args : Option (List FlowType)}
    (ha : data.at? key = some (encodeArguments loc args))
    (h : ∀ ts, args = some ts → ∀ t ∈ ts, FlowType.ofEstree t.encode = .ok t) :
    data.ifPresent key (Json.itemsOf "params" FlowType.ofEstree) = .ok args := by
  cases args with
  | none => exact Json.ifPresent_null ha
  | some ts =>
      refine Json.ifPresent_some ha rfl ?_
      rw [encodeArguments, Json.itemsOf_eq isObject_node]
      exact Json.eachItem_map rfl (encodeTypes_eq_map _) (h ts rfl)

theorem readTuple_encode {ts : List FlowType}
    (ha : data.at? "types" = some (.list (encodeTypes ts)))
    (h : ∀ t ∈ ts, FlowType.ofEstree t.encode = .ok t) : readTuple data = .ok ts := by
  rw [readTuple, Json.nonNull?, ha]
  change (encodeTypes ts).mapM readElement = _
  rw [encodeTypes_eq_map]
  refine mapM_map_eq fun t ht => ?_
  rw [readElement, t.unlabelled_encode]
  exact h t ht

-- The recursion is on the derivation of well-formedness, whose premises speak of the members of lists
-- just as the lemmas above do. Calls on premises stand in front: a rewritten premise would no longer
-- count as smaller.
mutual

theorem FlowType.WellFormed.ofEstree_encode {t : FlowType} (h : t.WellFormed) :
    FlowType.ofEstree t.encode = .ok t := by
  match h with
  | .keyword => exact FlowType.ofEstree_keyword hasTag_node ofNode_node
  | .function hp hr hs =>
      have hps := fun ps he p hm => FunctionParam.WellFormed.ofEstree_encode (hp ps he p hm)
      have hrs := fun t he => FlowType.WellFormed.ofEstree_encode (hr t he)
      have hss := fun p he => FunctionParam.WellFormed.ofEstree_encode (hs p he)
      rw [FlowType.encode, FlowType.ofEstree_function hasTag_node ofNode_node,
        ifNonNull_encodeParams? rfl hps, ifPresent_encodeType? rfl hrs,
        ifPresent_encodeParam? rfl hss]
      rfl
  | .generic ha =>
      have hts := fun ts he t hm => FlowType.WellFormed.ofEstree_encode (ha ts he t hm)
      rw [FlowType.encode, FlowType.ofEstree_generic hasTag_node ofNode_node rfl,
        dottedName_plainName, ifPresent_encodeArguments rfl hts]
      rfl
  | .nullable hi =>
      rw [FlowType.encode, FlowType.ofEstree_nullable hasTag_node ofNode_node rfl,
        FlowType.WellFormed.ofEstree_encode hi]
      rfl
  | .object hm hi =>
      have hms := fun m he => Member.WellFormed.ofEstree_encode (hm m he)
      have his := fun i he => Indexer.WellFormed.ofEstree_encode (hi i he)
      rw [FlowType.encode, FlowType.ofEstree_object hasTag_node ofNode_node,
        Json.eachItem_map rfl (encodeMembers_eq_map _) hms,
        Json.eachItem_map rfl (encodeIndexers_eq_map _) his]
      change Except.ok (FlowType.object (_ ++ []) _ _ _) = _
      rw [List.append_nil]
      rfl
  | .union ht =>
      have hts := fun t hm => FlowType.WellFormed.ofEstree_encode (ht t hm)
      rw [FlowType.encode, FlowType.ofEstree_union hasTag_node ofNode_node,
        Json.eachItem_map rfl (encodeTypes_eq_map _) hts]
      rfl
  | .intersection ht =>
      have hts := fun t hm => FlowType.WellFormed.ofEstree_encode (ht t hm)
      rw [FlowType.encode, FlowType.ofEstree_intersection hasTag_node ofNode_node,
        Json.eachItem_map rfl (encodeTypes_eq_map _) hts]
      rfl
  | .stringLiteral => exact FlowType.ofEstree_stringLiteral hasTag_node ofNode_node
  | .booleanLiteral => exact FlowType.ofEstree_booleanLiteral hasTag_node ofNode_node
  | .tuple ht =>
      have hts := fun t hm => FlowType.WellFormed.ofEstree_encode (ht t hm)
      rw [FlowType.encode, FlowType.ofEstree_tuple hasTag_node ofNode_node,
        readTuple_encode rfl hts]
      rfl
  | .unknown ht => exact FlowType.ofEstree_other (hasOtherTag_bareNode ht) ofNode_bareNode

theorem FunctionParam.WellFormed.ofEstree_encode {p : FunctionParam} (h : p.WellFormed) :
    FunctionParam.ofEstree p.encode = .ok p := by
  match h with
  | .mk hn ht =>
      rw [FunctionParam.encode, FunctionParam.ofEstree_eq rfl, paramName_optionalName hn rfl,
        FlowType.WellFormed.ofEstree_encode ht, ofNode_node]
      rfl

theorem Member.WellFormed.ofEstree_encode {m : Member} (h : m.WellFormed) :
    Member.ofEstree m.encode = .ok m := by
  match h with
  | .property hv =>
      rw [Member.encode, Member.ofEstree_property hasTag_node rfl rfl, propertyKey_plainName,
        FlowType.WellFormed.ofEstree_encode hv, ofNode_node]
      rfl
  | .unknown ht =>
      rw [Member.encode, Member.ofEstree_other (hasOtherTag_bareNode ht)]
      exact Member.ofUnknown_eq ⟨_, rfl⟩ ofNode_bareNode

theorem Indexer.WellFormed.ofEstree_encode {i : Indexer} (h : i.WellFormed) :
    Indexer.ofEstree i.encode = .ok i := by
  match h with
  | .mk hk hv =>
      rw [Indexer.encode, Indexer.ofEstree_eq rfl rfl, nameOfId_optionalName rfl,
        FlowType.WellFormed.ofEstree_encode hk, FlowType.WellFormed.ofEstree_encode hv, ofNode_node]
      rfl

end

theorem ofField?_encodeWrapped {type : Option FlowType}
    (ha : data.at? key = some (encodeWrapped loc type)) (h : WellFormedType type) :
    FlowType.ofField? data key = .ok type := by
  cases type with
  | none =>
      have hp : data.present? key = none := by rw [Json.present?, ha]; rfl
      exact FlowType.ofField?_absent (Json.isObject_of_at? ha) hp
  | some t =>
      have hp : data.present? key = some (wrapped loc t.encode) := by rw [Json.present?, ha]; rfl
      rw [FlowType.ofField?_wrapped hp hasTag_node]
      exact Json.ifPresent_some rfl t.isPresent_encode (h t rfl).ofEstree_encode

theorem TypeParameter.ofEstree_encode {p : TypeParameter} (h : WellFormedType p.bound) :
    TypeParameter.ofEstree p.encode = .ok p := by
  rw [TypeParameter.encode, TypeParameter.ofEstree_eq rfl, ofField?_encodeWrapped rfl h,
    ofNode_node]
  rfl

theorem listOf?_encodeTypeParams {params : Option (List TypeParameter)}
    (ha : data.at? "typeParameters" = some (encodeTypeParams loc params))
    (h : WellFormedBounds params) : TypeParameter.listOf? data = .ok params := by
  rw [TypeParameter.listOf?_eq (Json.isObject_of_at? ha)]
  cases params with
  | none => exact Json.ifPresent_null ha
  | some ps =>
      refine Json.ifPresent_some ha rfl ?_
      have ho : (encodeTypeParams loc (some ps)).IsObject := isObject_node
      rw [Json.itemsOf_eq ho]
      exact Json.eachItem_map rfl rfl fun p hp => TypeParameter.ofEstree_encode (h ps rfl p hp)

/-! ## Patterns and specifiers -/

theorem Identifier.hasTag_encode (i : Identifier) : i.encode.HasTag "Identifier" :=
  rfl

theorem Identifier.ofEstree_encode {i : Identifier} (h : WellFormedType i.type) :
    Identifier.ofEstree i.encode = .ok i := by
  rw [Identifier.encode, Identifier.ofEstree_eq rfl, ofField?_encodeWrapped rfl h, ofNode_node]
  rfl

theorem Expression.isPresent_encode (e : Expression) : e.encode.isPresent := by
  cases e <;> rfl

theorem Expression.WellFormed.ofEstree_encode {e : Expression} (h : e.WellFormed) :
    Expression.ofEstree e.encode = .ok e := by
  cases h with
  | literal => exact Expression.ofEstree_literal hasTag_node ofNode_node
  | identifier hi =>
      rw [Expression.encode, Expression.ofEstree_identifier (Identifier.hasTag_encode _),
        Identifier.ofEstree_encode hi]
      rfl
  | unknown ht => exact Expression.ofEstree_other (hasOtherTag_bareNode ht) ofNode_bareNode

theorem Pattern.WellFormed.ofEstree_encode {p : Pattern} (h : p.WellFormed) :
    Pattern.ofEstree p.encode = .ok p := by
  induction h with
  | @identifier i hi =>
      have hl : Location.ofNode i.encode = .ok i.loc := ofNode_node
      rw [Pattern.encode, Pattern.ofEstree_identifier i.hasTag_encode hl,
        Identifier.ofEstree_encode hi]
      rfl
  | rest _ ih =>
      rw [Pattern.encode, Pattern.ofEstree_rest hasTag_node ofNode_node rfl, ih]
      rfl
  | @assignment _ right _ _ hr ih =>
      rw [Pattern.encode, Pattern.ofEstree_assignment hasTag_node ofNode_node rfl, ih]
      change (Expression.ofEstree (right.encode.orElse (.object [])) >>= _) = _
      rw [Json.orElse, if_pos right.isPresent_encode, hr.ofEstree_encode]
      rfl
  | unknown ht => exact Pattern.ofEstree_other (hasOtherTag_bareNode ht) ofNode_bareNode

theorem nameUnder_plainName {name : Json} {other : String}
    (ha : data.at? key = some (plainName loc name)) : nameUnder data key other = .ok name := by
  rw [nameUnder_eq (Json.isObject_of_at? ha), ha]
  rfl

theorem nameAt_plainName {name : Json} (ha : data.at? key = some (plainName loc name)) :
    nameAt data key = .ok name := by
  rw [nameAt, ha]
  rfl

theorem Specifier.WellFormed.ofEstree_encode {s : Specifier} (h : s.WellFormed) :
    Specifier.ofEstree s.encode = .ok s := by
  cases h with
  | importNamed hp =>
      rw [Specifier.encode, Specifier.ofEstree_importNamed hasTag_node ofNode_node,
        nameUnder_plainName rfl, nameUnder_plainName rfl]
      simp only [bind, Except.bind, Json.orElse, if_pos hp]
      rfl
  | importDefault =>
      rw [Specifier.encode, Specifier.ofEstree_importDefault hasTag_node ofNode_node,
        nameUnder_plainName rfl]
      rfl
  | importNamespace =>
      rw [Specifier.encode, Specifier.ofEstree_importNamespace hasTag_node ofNode_node,
        nameUnder_plainName rfl]
      rfl
  | exportNamed hp =>
      rw [Specifier.encode, Specifier.ofEstree_exportNamed hasTag_node ofNode_node,
        nameAt_plainName rfl, nameAt_plainName rfl]
      simp only [bind, Except.bind, Json.orElse, if_pos hp]
      rfl
  | exportDefault =>
      rw [Specifier.encode, Specifier.ofEstree_exportDefault hasTag_node ofNode_node,
        nameAt_plainName rfl]
      rfl
  | exportNamespace =>
      rw [Specifier.encode, Specifier.ofEstree_exportNamespace hasTag_node ofNode_node,
        nameAt_plainName rfl]
      rfl
  | unknown ht => exact Specifier.ofEstree_other (hasOtherTag_bareNode ht) ofNode_bareNode

theorem listOf_encode {specifiers : List Specifier}
    (ha : data.at? "specifiers" = some (.list (specifiers.map Specifier.encode)))
    (h : ∀ s ∈ specifiers, s.WellFormed) : Specifier.listOf data = .ok specifiers := by
  rw [Specifier.listOf_eq (Json.isObject_of_at? ha)]
  exact Json.eachItem_map ha rfl fun s hs => (h s hs).ofEstree_encode

/-! ## Statements and programs -/

theorem literalText_textLiteral (text : String) : literalText (textLiteral loc text) = .ok text :=
  rfl

theorem moduleKind_encode {kind : Json} (ha : data.at? key = some kind) (hp : kind.isPresent) :
    moduleKind data key = .ok kind := by
  rw [moduleKind_eq (Json.isObject_of_at? ha), ha, Option.getD_some, Json.orElse, if_pos hp]

theorem Signature.WellFormed.ofEstree_encode {f : Signature} (h : f.WellFormed) :
    Signature.ofEstree f.encode = .ok f := by
  have hps := fun p hp => (h.params p hp).ofEstree_encode
  rw [Signature.encode, Signature.ofEstree_eq isObject_node, nameOfId_optionalName rfl,
    Json.eachItem_map rfl rfl hps, ofField?_encodeWrapped rfl h.returns,
    listOf?_encodeTypeParams rfl h.bounds, ofNode_node]
  rfl

theorem TypeAlias.WellFormed.ofEstree_encode {a : TypeAlias} (h : a.WellFormed) (tag : String) :
    TypeAlias.ofEstree (a.encode tag) = .ok a := by
  rw [TypeAlias.encode, TypeAlias.ofEstree_eq rfl, declaredName_eq rfl rfl,
    h.right.ofEstree_encode, listOf?_encodeTypeParams rfl h.bounds, ofNode_node]
  rfl

theorem encodeStatements_eq_map (body : List Statement) :
    encodeStatements body = body.map Statement.encode := by
  induction body with
  | nil => rfl
  | cons s rest ih => rw [encodeStatements, ih, List.map_cons]

theorem Block.isPresent_encode (b : Block) : b.encode.isPresent := by
  cases b; rfl

theorem Block.hasTag_encode (b : Block) : b.encode.HasTag "BlockStatement" := by
  cases b; rfl

theorem Block.ofNode_encode (b : Block) : Location.ofNode b.encode = .ok b.loc := by
  cases b; exact ofNode_node

theorem Statement.isPresent_encode (s : Statement) : s.encode.isPresent := by
  cases s with
  | block b => exact b.isPresent_encode
  | _ => rfl

theorem ifPresent_encodeStatement? {declaration : Option Statement}
    (ha : data.at? key = some (encodeStatement? declaration))
    (h : ∀ s, declaration = some s → Statement.ofEstree s.encode = .ok s) :
    data.ifPresent key Statement.ofEstree = .ok declaration := by
  cases declaration with
  | none => exact Json.ifPresent_null ha
  | some s => exact Json.ifPresent_some ha s.isPresent_encode (h s rfl)

theorem ifPresent_textLiteral {source : Option String}
    (ha : data.at? key = some ((source.map (textLiteral loc)).getD .null)) :
    data.ifPresent key literalText = .ok source := by
  cases source with
  | none => exact Json.ifPresent_null ha
  | some s => exact Json.ifPresent_some ha rfl (literalText_textLiteral s)

mutual

theorem Statement.WellFormed.ofEstree_encode {s : Statement} (h : s.WellFormed) :
    Statement.ofEstree s.encode = .ok s := by
  match h with
  | @Statement.WellFormed.function f hf =>
      have ht : f.encode.HasTag "FunctionDeclaration" := hasTag_node
      have hl : Location.ofNode f.encode = .ok f.loc := ofNode_node
      rw [Statement.encode, Statement.ofEstree_function ht hl, hf.ofEstree_encode]
      rfl
  | .variableDeclaration => exact Statement.ofEstree_variableDeclaration hasTag_node ofNode_node
  | @Statement.WellFormed.typeAlias a ha =>
      have ht : (a.encode "TypeAlias").HasTag "TypeAlias" := hasTag_node
      have hl : Location.ofNode (a.encode "TypeAlias") = .ok a.loc := ofNode_node
      rw [Statement.encode, Statement.ofEstree_typeAlias ht hl, ha.ofEstree_encode]
      rfl
  | .importDeclaration hs hk =>
      rw [Statement.encode, Statement.ofEstree_importDeclaration hasTag_node ofNode_node rfl,
        literalText_textLiteral, listOf_encode rfl hs, moduleKind_encode rfl hk]
      rfl
  | .exportDefault hd =>
      rw [Statement.encode, Statement.ofEstree_exportDefault hasTag_node ofNode_node rfl,
        Statement.WellFormed.ofEstree_encode hd]
      rfl
  | .exportNamed hd hs hk =>
      have hds := fun s he => Statement.WellFormed.ofEstree_encode (hd s he)
      rw [Statement.encode, Statement.ofEstree_exportNamed hasTag_node ofNode_node,
        ifPresent_encodeStatement? rfl hds, listOf_encode rfl hs, ifPresent_textLiteral rfl,
        moduleKind_encode rfl hk]
      rfl
  | .exportAll =>
      rw [Statement.encode, Statement.ofEstree_exportAll hasTag_node ofNode_node rfl,
        literalText_textLiteral]
      rfl
  | @Statement.WellFormed.block b hb =>
      rw [Statement.encode, Statement.ofEstree_block b.hasTag_encode b.ofNode_encode,
        Block.WellFormed.ofEstree_encode hb]
      rfl
  | @Statement.WellFormed.declareModule name body loc hn hb =>
      have hbody : (Statement.declareModule name body loc).encode.ifPresent "body" Block.ofEstree =
          .ok (some body) :=
        Json.ifPresent_some rfl body.isPresent_encode (Block.WellFormed.ofEstree_encode hb)
      obtain ⟨text, rfl⟩ := hn
      rw [Statement.encode] at hbody ⊢
      rw [Statement.ofEstree_declareModule hasTag_node ofNode_node rfl, hbody]
      rfl
  | @Statement.WellFormed.declareTypeAlias a ha =>
      have ht : (a.encode "DeclareTypeAlias").HasTag "DeclareTypeAlias" := hasTag_node
      have hl : Location.ofNode (a.encode "DeclareTypeAlias") = .ok a.loc := ofNode_node
      rw [Statement.encode, Statement.ofEstree_declareTypeAlias ht hl, ha.ofEstree_encode]
      rfl
  | .declareClass =>
      rw [Statement.encode, Statement.ofEstree_declareClass hasTag_node ofNode_node,
        declaredName_eq rfl rfl]
      rfl
  | .unknown ht => exact Statement.ofEstree_other (hasOtherTag_bareNode ht) ofNode_bareNode

theorem Block.WellFormed.ofEstree_encode {b : Block} (h : b.WellFormed) :
    Block.ofEstree b.encode = .ok b := by
  match h with
  | .mk hs =>
      have hb := fun s hm => Statement.WellFormed.ofEstree_encode (hs s hm)
      rw [Block.encode, Block.ofEstree_eq isObject_node,
        Json.eachItem_map rfl (encodeStatements_eq_map _) hb, ofNode_node]
      rfl

end

theorem ParseError.ofEstree_encode (e : ParseError) : ParseError.ofEstree e.encode = .ok e := by
  have ho : e.encode.IsObject := ⟨_, rfl⟩
  have hl : Location.ofNode e.encode = .ok e.loc := ofNode_encode ho rfl
  rw [ParseError.ofEstree, Json.getD_eq ho, hl]
  rfl

/-- Reading the tree of a well-formed program gives back the program. -/
theorem Program.ofEstree_encode_eq_ok {p : Program} (h : p.WellFormed) :
    Program.ofEstree p.encode = .ok p := by
  have hb := fun s hs => (h s hs).ofEstree_encode
  have hp : Program.ofParts p.encode = .ok p := by
    rw [Program.encode, Program.ofParts_eq isObject_node,
      Json.eachItem_map rfl (encodeStatements_eq_map _) hb,
      Json.eachItem_map rfl rfl fun e _ => e.ofEstree_encode, ofNode_node]
    rfl
  have ht : p.encode.HasTag "Program" := hasTag_node
  rw [Program.ofEstree, notProgram?_eq_none ht, hp]
  rfl

/-- A module with an import and a function with a rest parameter, besides an alias of an object type
in which an unknown member stands before a property, and an error of the parser. -/
def sampleProgram : Program :=
  let loc : Option Location := some ⟨⟨.int 1, .int 0⟩, ⟨.int 2, .int 4⟩, .null⟩
  let members : List Member := [.unknown (.string "ObjectTypeSpreadProperty") none,
    .property (.string "p") (.tuple [.keyword .string none] loc) true none]
  { body := [
      .declareModule (.string "m") ⟨[
        .importDeclaration "react" [.importNamed (.string "A") (.string "B") loc,
          .unknown (.string "Other") none] (.string "type") loc,
        .exportNamed (some (.function ⟨.null,
          [.rest (.identifier ⟨.string "xs", some (.nullable (.keyword .any none) loc), true, none⟩)
            loc], none, some [], loc⟩)) [] none (.string "value") none], loc⟩ loc,
      .typeAlias ⟨.string "T", .object members [] true loc, none, loc⟩]
    errors := [⟨.string "Unexpected token", loc⟩]
    loc := loc }

theorem sampleProgram_ofEstree_encode :
    sampleProgram.WellFormed ∧ Program.ofEstree sampleProgram.encode = .ok sampleProgram := by
  have himport : (Statement.importDeclaration "react" [.importNamed (.string "A") (.string "B")
      sampleProgram.loc, .unknown (.string "Other") none] (.string "type")
      sampleProgram.loc).WellFormed := by
    refine .importDeclaration (List.forall_mem_cons.2 ⟨.importNamed rfl, ?_⟩) rfl
    exact List.forall_mem_singleton.2 (.unknown ⟨_, rfl, by decide⟩)
  have hexport : ∀ f : Signature, f.WellFormed → ∀ loc,
      (Statement.exportNamed (some (.function f)) [] none (.string "value") loc).WellFormed := by
    intro f hf loc
    refine .exportNamed ?_ (by simp) rfl
    rintro s ⟨⟩
    exact .function hf
  have h : sampleProgram.WellFormed := by
    refine List.forall_mem_cons.2 ⟨.declareModule ⟨_, rfl⟩ (.mk ?_), ?_⟩
    · refine List.forall_mem_cons.2 ⟨himport, List.forall_mem_singleton.2 (hexport _ ?_ _)⟩
      refine ⟨List.forall_mem_singleton.2 (.rest (.identifier ?_)), by rintro t ⟨⟩, ?_⟩
      · rintro t ⟨⟩
        exact .nullable .keyword
      · rintro ps ⟨⟩
        simp
    · refine List.forall_mem_singleton.2 (.typeAlias ⟨.object ?_ (by simp), by rintro ps ⟨⟩⟩)
      refine List.forall_mem_cons.2 ⟨.unknown ⟨_, rfl, by decide⟩, List.forall_mem_singleton.2 ?_⟩
      exact .property (.tuple (List.forall_mem_singleton.2 .keyword))
  exact ⟨h, Program.ofEstree_encode_eq_ok h⟩

end Typings
