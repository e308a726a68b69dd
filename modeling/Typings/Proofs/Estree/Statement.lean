import Typings.Proofs.Estree.FlowType
import Typings.Estree.Statement

/-!
# What is read from the nodes of patterns, specifiers and statements

Again one equation for each tag that a reader knows, and one for all others.
-/

namespace Typings

/-! ## Tags -/

def patternTags : List String :=
  ["Identifier", "RestElement", "AssignmentPattern"]

/-- The tags of default values. -/
def expressionTags : List String :=
  ["Literal", "Identifier"]

def specifierTags : List String :=
  ["ImportSpecifier", "ImportDefaultSpecifier", "ImportNamespaceSpecifier", "ExportSpecifier",
    "ExportDefaultSpecifier", "ExportNamespaceSpecifier"]

def statementTags : List String :=
  ["FunctionDeclaration", "VariableDeclaration", "TypeAlias", "ImportDeclaration",
    "ExportDefaultDeclaration", "ExportNamedDeclaration", "ExportAllDeclaration", "BlockStatement",
    "DeclareModule", "DeclareTypeAlias", "DeclareClass"]

/-! ## Patterns -/

variable {data : Json} {loc : Option Location}

theorem Identifier.ofEstree_eq_need (h : data.IsObject) : Identifier.ofEstree data = do
    let name ← data.need "name" pure
    let type ← FlowType.ofField? data "typeAnnotation"
    let loc ← Location.ofNode data
    return ⟨name, type, data.flag "optional", loc⟩ := by
  rw [Identifier.ofEstree]
  simp only [Json.get_eq h]
  refine Eq.trans ?_ (Json.required_val_bind h "name" _)
  rfl

theorem Identifier.ofEstree_eq {name : Json} (hn : data.at? "name" = some name) :
    Identifier.ofEstree data = do
      let type ← FlowType.ofField? data "typeAnnotation"
      let loc ← Location.ofNode data
      return ⟨name, type, data.flag "optional", loc⟩ := by
  rw [Identifier.ofEstree_eq_need (Json.isObject_of_at? hn), Json.need_eq hn]
  rfl

theorem Expression.ofEstree_literal_bind (ht : data.HasTag "Literal") :
    Expression.ofEstree data = do
      let loc ← Location.ofNode data
      return .literal ((data.at? "value").getD .null) ((data.at? "raw").getD (.string "")) loc := by
  rw [Expression.ofEstree, ht.get_eq, Json.get_eq ht.isObject, Json.getD_eq ht.isObject]
  rfl

theorem Expression.ofEstree_literal (ht : data.HasTag "Literal")
    (hl : Location.ofNode data = .ok loc) :
    Expression.ofEstree data = .ok (.literal ((data.at? "value").getD .null)
      ((data.at? "raw").getD (.string "")) loc) := by
  rw [Expression.ofEstree_literal_bind ht, hl]
  rfl

theorem Expression.ofEstree_identifier (ht : data.HasTag "Identifier") :
    Expression.ofEstree data = do return .identifier (← Identifier.ofEstree data) := by
  rw [Expression.ofEstree, ht.get_eq]
  rfl

theorem Expression.ofEstree_kept (h : data.IsObject)
    (ht : ∀ tag ∈ expressionTags, ¬ data.HasTag tag) : Expression.ofEstree data = do
      return .unknown (keptTag data) (← Location.ofNode data) := by
  have hv := Json.type_ne_of_not_hasTag h ht
  rw [Expression.ofEstree, Json.get_eq h, unknownTag_eq h]
  generalize (data.at? "type").getD .null = v at hv
  simp only [bind, Except.bind]
  split
  any_goals exact absurd rfl (hv _ (by decide))
  rfl

theorem Expression.ofEstree_other (ht : data.HasOtherTag expressionTags)
    (hl : Location.ofNode data = .ok loc) :
    Expression.ofEstree data = .ok (.unknown (keptTag data) loc) := by
  rw [Expression.ofEstree_kept ht.1 ht.not_hasTag, hl]
  rfl

theorem Pattern.ofEstree_mislocated {m : Malformed} (h : data.IsObject)
    (hl : Location.ofNode data = .error m) : Pattern.ofEstree data = .error m := by
  rw [Pattern.ofEstree, Json.get_eq h, hl]
  rfl

theorem Pattern.ofEstree_identifier (ht : data.HasTag "Identifier")
    (hl : Location.ofNode data = .ok loc) :
    Pattern.ofEstree data = do return .identifier (← Identifier.ofEstree data) := by
  rw [Pattern.ofEstree, ht.get_eq, hl]
  rfl

theorem Pattern.ofEstree_rest_need (ht : data.HasTag "RestElement")
    (hl : Location.ofNode data = .ok loc) : Pattern.ofEstree data = do
      return .rest (← data.need "argument" Pattern.ofEstree) loc := by
  rw [Pattern.ofEstree, ht.get_eq, hl]
  exact Json.required_bind_bind ht.isObject "argument" Pattern.ofEstree _

theorem Pattern.ofEstree_rest {argument : Json} (ht : data.HasTag "RestElement")
    (hl : Location.ofNode data = .ok loc) (ha : data.at? "argument" = some argument) :
    Pattern.ofEstree data = do return .rest (← Pattern.ofEstree argument) loc := by
  rw [Pattern.ofEstree_rest_need ht hl, Json.need_eq ha]

theorem Pattern.ofEstree_assignment_need (ht : data.HasTag "AssignmentPattern")
    (hl : Location.ofNode data = .ok loc) : Pattern.ofEstree data = do
      let left ← data.need "left" Pattern.ofEstree
      let right ← Expression.ofEstree (((data.at? "right").getD .null).orElse (.object []))
      return .assignment left right loc := by
  rw [Pattern.ofEstree, ht.get_eq, hl]
  simp only [Json.get_eq ht.isObject]
  exact Json.required_bind_bind ht.isObject "left" Pattern.ofEstree _

theorem Pattern.ofEstree_assignment {target : Json} (ht : data.HasTag "AssignmentPattern")
    (hl : Location.ofNode data = .ok loc) (ha : data.at? "left" = some target) :
    Pattern.ofEstree data = do
      let left ← Pattern.ofEstree target
      let right ← Expression.ofEstree (((data.at? "right").getD .null).orElse (.object []))
      return .assignment left right loc := by
  rw [Pattern.ofEstree_assignment_need ht hl, Json.need_eq ha]

theorem Pattern.ofEstree_kept (h : data.IsObject) (hl : Location.ofNode data = .ok loc)
    (ht : ∀ tag ∈ patternTags, ¬ data.HasTag tag) :
    Pattern.ofEstree data = .ok (.unknown (keptTag data) loc) := by
  have hv := Json.type_ne_of_not_hasTag h ht
  rw [Pattern.ofEstree, Json.get_eq h, hl, unknownTag_eq h]
  generalize (data.at? "type").getD .null = v at hv
  simp only [bind, Except.bind]
  split
  any_goals exact absurd rfl (hv _ (by decide))
  rfl

theorem Pattern.ofEstree_other (ht : data.HasOtherTag patternTags)
    (hl : Location.ofNode data = .ok loc) :
    Pattern.ofEstree data = .ok (.unknown (keptTag data) loc) :=
  Pattern.ofEstree_kept ht.1 hl ht.not_hasTag

/-! ## Specifiers -/

theorem nameIn_absent {v : Json} (h : v.isPresent = false) : nameIn v = .ok (.string "") := by
  rw [nameIn, h]
  rfl

theorem nameIn_literal (ht : data.HasTag "Literal") :
    nameIn data = do return .string (← ((data.at? "value").getD (.string "")).display) := by
  rw [nameIn, Json.isPresent_of_at? ht, if_pos rfl, ht.get_eq, Json.getD_eq ht.isObject]
  rfl

theorem nameIn_other (h : data.IsObject) (ht : ¬ data.HasTag "Literal") :
    nameIn data = .ok ((data.at? "name").getD (.string "")) := by
  cases hn : data.at? "name" with
  | none =>
    cases hp : data.isPresent with
    | false => exact nameIn_absent hp
    | true =>
      obtain ⟨v, hv, hne⟩ := Json.get_type_ne h ht
      rw [nameIn, hp, if_pos rfl, hv]
      simp only [bind, Except.bind, Json.getD_eq h, hn]
  | some name =>
    obtain ⟨v, hv, hne⟩ := Json.get_type_ne h ht
    rw [nameIn, Json.isPresent_of_at? hn, if_pos rfl, hv]
    simp only [bind, Except.bind, Json.getD_eq h, hn]

/-- The name that a specifier gives under a key. -/
def nameAt (data : Json) (key : String) : Except Malformed Json :=
  nameIn ((data.at? key).getD .null)

theorem nameUnder_eq (h : data.IsObject) (key other : String) : nameUnder data key other
    = nameIn (((data.at? key).getD .null).orElse ((data.at? other).getD .null)) := by
  rw [nameUnder, Json.get_eq h, Json.get_eq h]
  rfl

theorem nameAt_eq (data : Json) (key : String) :
    nameAt data key = do return (← data.ifPresent key nameIn).getD (.string "") :=
  Json.getD_eq_ifPresent data key fun _ => nameIn_absent

theorem nameUnder_eq_ifPresent (h : data.IsObject) (key other : String) :
    nameUnder data key other =
      data.ifPresent key nameIn >>= fun found => found.elim (nameAt data other) pure := by
  rw [nameUnder_eq h]
  exact Json.orElse_eq_ifPresent data key nameIn _

theorem Specifier.ofEstree_mislocated {m : Malformed} (h : data.IsObject)
    (hl : Location.ofNode data = .error m) : Specifier.ofEstree data = .error m := by
  rw [Specifier.ofEstree, Json.get_eq h, hl]
  rfl

theorem Specifier.ofEstree_importNamed (ht : data.HasTag "ImportSpecifier")
    (hl : Location.ofNode data = .ok loc) : Specifier.ofEstree data = do
      let imported ← nameUnder data "imported" "id"
      let localName ← nameUnder data "local" "name"
      return .importNamed imported (localName.orElse imported) loc := by
  rw [Specifier.ofEstree, ht.get_eq, hl]
  rfl

theorem Specifier.ofEstree_importDefault (ht : data.HasTag "ImportDefaultSpecifier")
    (hl : Location.ofNode data = .ok loc) : Specifier.ofEstree data
      = do return .importDefault (← nameUnder data "local" "id") loc := by
  rw [Specifier.ofEstree, ht.get_eq, hl]
  rfl

theorem Specifier.ofEstree_importNamespace (ht : data.HasTag "ImportNamespaceSpecifier")
    (hl : Location.ofNode data = .ok loc) : Specifier.ofEstree data
      = do return .importNamespace (← nameUnder data "local" "id") loc := by
  rw [Specifier.ofEstree, ht.get_eq, hl]
  rfl

theorem Specifier.ofEstree_exportNamed (ht : data.HasTag "ExportSpecifier")
    (hl : Location.ofNode data = .ok loc) : Specifier.ofEstree data = do
      let localName ← nameAt data "local"
      let exported ← nameAt data "exported"
      return .exportNamed localName (exported.orElse localName) loc := by
  rw [Specifier.ofEstree, ht.get_eq, hl]
  simp only [Json.get_eq ht.isObject]
  rfl

theorem Specifier.ofEstree_exportDefault (ht : data.HasTag "ExportDefaultSpecifier")
    (hl : Location.ofNode data = .ok loc) : Specifier.ofEstree data
      = do return .exportDefault (← nameAt data "exported") loc := by
  rw [Specifier.ofEstree, ht.get_eq, hl]
  simp only [Json.get_eq ht.isObject]
  rfl

theorem Specifier.ofEstree_exportNamespace (ht : data.HasTag "ExportNamespaceSpecifier")
    (hl : Location.ofNode data = .ok loc) : Specifier.ofEstree data
      = do return .exportNamespace (← nameAt data "exported") loc := by
  rw [Specifier.ofEstree, ht.get_eq, hl]
  simp only [Json.get_eq ht.isObject]
  rfl

theorem Specifier.ofEstree_kept (h : data.IsObject) (hl : Location.ofNode data = .ok loc)
    (ht : ∀ tag ∈ specifierTags, ¬ data.HasTag tag) :
    Specifier.ofEstree data = .ok (.unknown (keptTag data) loc) := by
  have hv := Json.type_ne_of_not_hasTag h ht
  rw [Specifier.ofEstree, Json.get_eq h, hl, unknownTag_eq h]
  generalize (data.at? "type").getD .null = v at hv
  simp only [bind, Except.bind]
  split
  any_goals exact absurd rfl (hv _ (by decide))
  rfl

theorem Specifier.ofEstree_other (ht : data.HasOtherTag specifierTags)
    (hl : Location.ofNode data = .ok loc) :
    Specifier.ofEstree data = .ok (.unknown (keptTag data) loc) :=
  Specifier.ofEstree_kept ht.1 hl ht.not_hasTag

/-! ## Statements -/

theorem literalText_eq (h : data.IsObject) :
    literalText data =
      match (data.at? "value").getD .null with
      | .null =>
        match (data.at? "raw").getD (.string "") with
        | .string raw => .ok (Text.strip (fun c => c == '\'' || c == '"') raw)
        | _ => .error .noMember
      | value => value.display := by
  rw [literalText, Json.get_eq h]
  simp only [bind, Except.bind, Json.getD_eq h]
  rfl

theorem nameOfModule_identifier (ht : data.HasTag "Identifier") :
    nameOfModule data = data.need "name" pure := by
  rw [nameOfModule, ht.get_eq]
  exact Json.required_bind ht.isObject "name" pure

theorem nameOfModule_other (h : data.IsObject) (ht : ¬ data.HasTag "Identifier") :
    nameOfModule data = do return .string (← literalText data) := by
  obtain ⟨v, hv, hne⟩ := Json.get_type_ne h ht
  rw [nameOfModule, hv]
  simp only [bind, Except.bind]

theorem declaredName_eq_need (h : data.IsObject) : declaredName data = data.need "id" idName :=
  Json.required_bind h "id" idName

theorem declaredName_eq {id name : Json} (hi : data.at? "id" = some id)
    (hn : id.at? "name" = some name) : declaredName data = .ok name := by
  rw [declaredName_eq_need (Json.isObject_of_at? hi), Json.need_eq hi,
    idName_eq (Json.isObject_of_at? hn), Json.need_eq hn]
  rfl

theorem Signature.ofEstree_eq (h : data.IsObject) : Signature.ofEstree data = do
    let name ← nameOfId data
    let params ← data.eachItem "params" Pattern.ofEstree
    let returns ← FlowType.ofField? data "returnType"
    let typeParams ← TypeParameter.listOf? data
    let loc ← Location.ofNode data
    return ⟨name, params, returns, typeParams, loc⟩ := by
  rw [Signature.ofEstree]
  simp only [Json.children_bind h]

theorem TypeAlias.ofEstree_eq_need (h : data.IsObject) : TypeAlias.ofEstree data = do
    let name ← declaredName data
    let right ← data.need "right" FlowType.ofEstree
    let typeParams ← TypeParameter.listOf? data
    let loc ← Location.ofNode data
    return ⟨name, right, typeParams, loc⟩ := by
  rw [TypeAlias.ofEstree]
  refine bind_congr (x := declaredName data) fun name => ?_
  exact Json.required_bind_bind h "right" FlowType.ofEstree _

theorem TypeAlias.ofEstree_eq {inner : Json} (hi : data.at? "right" = some inner) :
    TypeAlias.ofEstree data = do
      let name ← declaredName data
      let right ← FlowType.ofEstree inner
      let typeParams ← TypeParameter.listOf? data
      let loc ← Location.ofNode data
      return ⟨name, right, typeParams, loc⟩ := by
  rw [TypeAlias.ofEstree_eq_need (Json.isObject_of_at? hi), Json.need_eq hi]

theorem Specifier.listOf_eq (h : data.IsObject) :
    Specifier.listOf data = data.eachItem "specifiers" Specifier.ofEstree :=
  Json.children_mapM h _ _

theorem moduleKind_eq (h : data.IsObject) (key : String) :
    moduleKind data key = .ok (((data.at? key).getD .null).orElse (.string "value")) := by
  rw [moduleKind, Json.get_eq h]
  rfl

theorem Statement.ofEstree_mislocated {m : Malformed} (h : data.IsObject)
    (hl : Location.ofNode data = .error m) : Statement.ofEstree data = .error m := by
  rw [Statement.ofEstree, Json.get_eq h, hl]
  rfl

theorem Statement.ofEstree_function (ht : data.HasTag "FunctionDeclaration")
    (hl : Location.ofNode data = .ok loc) :
    Statement.ofEstree data = do return .function (← Signature.ofEstree data) := by
  rw [Statement.ofEstree, ht.get_eq, hl]
  rfl

theorem Statement.ofEstree_variableDeclaration (ht : data.HasTag "VariableDeclaration")
    (hl : Location.ofNode data = .ok loc) : Statement.ofEstree data
      = .ok (.variableDeclaration ((data.at? "kind").getD (.string "var")) loc) := by
  rw [Statement.ofEstree, ht.get_eq, hl, Json.getD_eq ht.isObject]
  rfl

theorem Statement.ofEstree_typeAlias (ht : data.HasTag "TypeAlias")
    (hl : Location.ofNode data = .ok loc) :
    Statement.ofEstree data = do return .typeAlias (← TypeAlias.ofEstree data) := by
  rw [Statement.ofEstree, ht.get_eq, hl]
  rfl

theorem Statement.ofEstree_importDeclaration_need (ht : data.HasTag "ImportDeclaration")
    (hl : Location.ofNode data = .ok loc) : Statement.ofEstree data = do
      let name ← data.need "source" literalText
      let specifiers ← Specifier.listOf data
      let kind ← moduleKind data "importKind"
      return .importDeclaration name specifiers kind loc := by
  rw [Statement.ofEstree, ht.get_eq, hl]
  exact Json.required_bind_bind ht.isObject "source" literalText _

theorem Statement.ofEstree_importDeclaration {source : Json} (ht : data.HasTag "ImportDeclaration")
    (hl : Location.ofNode data = .ok loc) (hs : data.at? "source" = some source) :
    Statement.ofEstree data = do
      let name ← literalText source
      let specifiers ← Specifier.listOf data
      let kind ← moduleKind data "importKind"
      return .importDeclaration name specifiers kind loc := by
  rw [Statement.ofEstree_importDeclaration_need ht hl, Json.need_eq hs]

theorem Statement.ofEstree_exportDefault_need (ht : data.HasTag "ExportDefaultDeclaration")
    (hl : Location.ofNode data = .ok loc) : Statement.ofEstree data = do
      return .exportDefault (← data.need "declaration" Statement.ofEstree) loc := by
  rw [Statement.ofEstree, ht.get_eq, hl]
  exact Json.required_bind_bind ht.isObject "declaration" Statement.ofEstree _

theorem Statement.ofEstree_exportDefault {declaration : Json}
    (ht : data.HasTag "ExportDefaultDeclaration") (hl : Location.ofNode data = .ok loc)
    (hd : data.at? "declaration" = some declaration) :
    Statement.ofEstree data = do return .exportDefault (← Statement.ofEstree declaration) loc := by
  rw [Statement.ofEstree_exportDefault_need ht hl, Json.need_eq hd]

theorem Statement.ofEstree_exportNamed (ht : data.HasTag "ExportNamedDeclaration")
    (hl : Location.ofNode data = .ok loc) : Statement.ofEstree data = do
      let declaration ← data.ifPresent "declaration" Statement.ofEstree
      let specifiers ← Specifier.listOf data
      let source ← data.ifPresent "source" literalText
      let kind ← moduleKind data "exportKind"
      return .exportNamed declaration specifiers source kind loc := by
  rw [Statement.ofEstree, ht.get_eq, hl]
  simp only [Json.child?_bind ht.isObject]
  rfl

theorem Statement.ofEstree_exportAll_need (ht : data.HasTag "ExportAllDeclaration")
    (hl : Location.ofNode data = .ok loc) : Statement.ofEstree data = do
      return .exportAll (← data.need "source" literalText) loc := by
  rw [Statement.ofEstree, ht.get_eq, hl]
  exact Json.required_bind_bind ht.isObject "source" literalText _

theorem Statement.ofEstree_exportAll {source : Json} (ht : data.HasTag "ExportAllDeclaration")
    (hl : Location.ofNode data = .ok loc) (hs : data.at? "source" = some source) :
    Statement.ofEstree data = do return .exportAll (← literalText source) loc := by
  rw [Statement.ofEstree_exportAll_need ht hl, Json.need_eq hs]

theorem Block.ofEstree_eq (h : data.IsObject) : Block.ofEstree data = do
    let body ← data.eachItem "body" Statement.ofEstree
    let loc ← Location.ofNode data
    return ⟨body, loc⟩ := by
  rw [Block.ofEstree]
  exact Json.children_bind h _ _ _

theorem Statement.ofEstree_block (ht : data.HasTag "BlockStatement")
    (hl : Location.ofNode data = .ok loc) :
    Statement.ofEstree data = do return .block (← Block.ofEstree data) := by
  rw [Statement.ofEstree, ht.get_eq, hl, Block.ofEstree_eq ht.isObject, hl]
  refine (Json.children_bind ht.isObject "body" Statement.ofEstree _).trans ?_
  simp only [bind_assoc]
  rfl

theorem Statement.ofEstree_declareModule_need (ht : data.HasTag "DeclareModule")
    (hl : Location.ofNode data = .ok loc) : Statement.ofEstree data = do
      let name ← data.need "id" nameOfModule
      let body ← data.ifPresent "body" Block.ofEstree
      return .declareModule name (body.getD ⟨[], none⟩) loc := by
  rw [Statement.ofEstree, ht.get_eq, hl]
  simp only [Json.child?_bind ht.isObject]
  exact Json.required_bind_bind ht.isObject "id" nameOfModule _

theorem Statement.ofEstree_declareModule {id : Json} (ht : data.HasTag "DeclareModule")
    (hl : Location.ofNode data = .ok loc) (hi : data.at? "id" = some id) :
    Statement.ofEstree data = do
      let name ← nameOfModule id
      let body ← data.ifPresent "body" Block.ofEstree
      return .declareModule name (body.getD ⟨[], none⟩) loc := by
  rw [Statement.ofEstree_declareModule_need ht hl, Json.need_eq hi]

theorem Statement.ofEstree_declareTypeAlias (ht : data.HasTag "DeclareTypeAlias")
    (hl : Location.ofNode data = .ok loc) :
    Statement.ofEstree data = do return .declareTypeAlias (← TypeAlias.ofEstree data) := by
  rw [Statement.ofEstree, ht.get_eq, hl]
  rfl

theorem Statement.ofEstree_declareClass (ht : data.HasTag "DeclareClass")
    (hl : Location.ofNode data = .ok loc) :
    Statement.ofEstree data = do return .declareClass (← declaredName data) loc := by
  rw [Statement.ofEstree, ht.get_eq, hl]
  rfl

theorem Statement.ofEstree_kept (h : data.IsObject) (hl : Location.ofNode data = .ok loc)
    (ht : ∀ tag ∈ statementTags, ¬ data.HasTag tag) :
    Statement.ofEstree data = .ok (.unknown (keptTag data) loc) := by
  have hv := Json.type_ne_of_not_hasTag h ht
  rw [Statement.ofEstree, Json.get_eq h, hl, unknownTag_eq h]
  generalize (data.at? "type").getD .null = v at hv
  simp only [bind, Except.bind]
  split
  any_goals exact absurd rfl (hv _ (by decide))
  rfl

theorem Statement.ofEstree_other (ht : data.HasOtherTag statementTags)
    (hl : Location.ofNode data = .ok loc) :
    Statement.ofEstree data = .ok (.unknown (keptTag data) loc) :=
  Statement.ofEstree_kept ht.1 hl ht.not_hasTag

/-! ## Programs -/

theorem ParseError.ofEstree_eq (h : data.IsObject) : ParseError.ofEstree data = do
    return ⟨(data.at? "message").getD (.string ""), ← Location.ofNode data⟩ := by
  rw [ParseError.ofEstree, Json.getD_eq h]
  rfl

theorem Program.ofParts_eq (h : data.IsObject) : Program.ofParts data = do
    let body ← data.eachItem "body" Statement.ofEstree
    let errors ← data.eachItem "errors" ParseError.ofEstree
    let loc ← Location.ofNode data
    return ⟨body, errors, loc⟩ := by
  rw [Program.ofParts]
  simp only [Json.children_bind h]

theorem notProgram?_eq_none (ht : data.HasTag "Program") : notProgram? data = none := by
  obtain ⟨fields, rfl⟩ := ht.isObject
  rw [Json.HasTag, Json.at?_object] at ht
  simp only [notProgram?, ht, Option.getD_some]

end Typings
