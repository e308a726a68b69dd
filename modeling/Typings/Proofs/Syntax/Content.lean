import Typings.Syntax.Statement

/-!
# The content of syntax

Content is what a declaration can depend on. Everything else is replaced by a fixed value: all
locations and the errors in the source; the kinds of imports, exports and variables; whether an
object type is exact; the value of a literal type, whose raw text stays; default values; whether a
rest parameter, or a parameter of a function type without a name, is optional; the arguments of the
type `Object`; the result and the rest parameter of a function type without parameters; the
specifiers and the source of an export with a declaration; all of a function that is a statement;
the name of a declared class; and the name in a specifier that is written as an empty entry.

Two programs have the same content when they differ in nothing but this, at whatever depth.
-/

namespace Typings

/-! ## Annotations -/

mutual

def FlowType.content : FlowType → FlowType
  | .keyword k _ => .keyword k none
  | .function none _ _ _ => .function none none none none
  | .function (some params) returns rest _ =>
    .function (some (paramsContent params)) (typeContent returns) (restContent rest) none
  | .generic (.string "Object") _ _ => .generic (.string "Object") none none
  | .generic name none _ => .generic name none none
  | .generic name (some args) _ => .generic name (some (typesContent args)) none
  | .nullable inner _ => .nullable inner.content none
  | .object members indexers _ _ =>
    .object (membersContent members) (indexersContent indexers) false none
  | .union types _ => .union (typesContent types) none
  | .intersection types _ => .intersection (typesContent types) none
  | .stringLiteral _ raw _ => .stringLiteral .null raw none
  | .booleanLiteral _ raw _ => .booleanLiteral false raw none
  | .tuple types _ => .tuple (typesContent types) none
  | .unknown tag _ => .unknown tag none

def typesContent : List FlowType → List FlowType
  | [] => []
  | t :: ts => t.content :: typesContent ts

def typeContent : Option FlowType → Option FlowType
  | none => none
  | some t => some t.content

def FunctionParam.content : FunctionParam → FunctionParam
  | ⟨name, type, optional, _⟩ => ⟨name, type.content, name.isPresent && optional, none⟩

def paramsContent : List FunctionParam → List FunctionParam
  | [] => []
  | p :: ps => p.content :: paramsContent ps

def restContent : Option FunctionParam → Option FunctionParam
  | none => none
  | some p => some p.content

def membersContent : List Member → List Member
  | [] => []
  | .property key value optional _ :: ms =>
    .property key value.content optional none :: membersContent ms
  | .unknown tag _ :: ms => .unknown tag none :: membersContent ms

def indexersContent : List Indexer → List Indexer
  | [] => []
  | ⟨name, key, value, _⟩ :: is => ⟨name, key.content, value.content, none⟩ :: indexersContent is

end

def TypeParameter.content (param : TypeParameter) : TypeParameter :=
  ⟨param.name, typeContent param.bound, none⟩

/-! ## Patterns and specifiers -/

def Identifier.content (i : Identifier) : Identifier :=
  ⟨i.name, typeContent i.type, i.optional, none⟩

/-- The default value that stands for all of them. -/
def Expression.placeholder : Expression :=
  .literal .null .null none

def Pattern.content : Pattern → Pattern
  | .identifier i => .identifier i.content
  | .rest (.identifier i) _ => .rest (.identifier { i.content with optional := false }) none
  | .rest argument _ => .rest argument.content none
  | .assignment left _ _ => .assignment left.content .placeholder none
  | .unknown tag _ => .unknown tag none

def Specifier.content : Specifier → Specifier
  | .importNamed imported localName _ => .importNamed imported localName none
  | .importDefault localName _ => .importDefault localName none
  | .importNamespace _ _ => .importNamespace .null none
  | .exportNamed localName exported _ => .exportNamed localName exported none
  | .exportDefault _ _ => .exportDefault .null none
  | .exportNamespace _ _ => .exportNamespace .null none
  | .unknown tag _ => .unknown tag none

/-! ## Statements and programs -/

def Signature.content (f : Signature) : Signature :=
  ⟨f.name, f.params.map Pattern.content, typeContent f.returns,
    f.typeParams.map (List.map TypeParameter.content), none⟩

/-- The function that stands for all those that are statements. -/
def Signature.placeholder : Signature :=
  ⟨.null, [], none, none, none⟩

def TypeAlias.content (a : TypeAlias) : TypeAlias :=
  ⟨a.name, a.right.content, a.typeParams.map (List.map TypeParameter.content), none⟩

mutual

def Statement.content : Statement → Statement
  | .function _ => .function .placeholder
  | .variableDeclaration _ _ => .variableDeclaration .null none
  | .typeAlias a => .typeAlias a.content
  | .importDeclaration source specifiers _ _ =>
    .importDeclaration source (specifiers.map Specifier.content) .null none
  -- A function keeps its content where it is exported.
  | .exportDefault (.function f) _ => .exportDefault (.function f.content) none
  | .exportDefault declaration _ => .exportDefault declaration.content none
  | .exportNamed none specifiers source _ _ =>
    .exportNamed none (specifiers.map Specifier.content) source .null none
  | .exportNamed (some (.function f)) _ _ _ _ =>
    .exportNamed (some (.function f.content)) [] none .null none
  | .exportNamed (some declaration) _ _ _ _ =>
    .exportNamed (some declaration.content) [] none .null none
  | .exportAll source _ => .exportAll source none
  | .block b => .block b.content
  | .declareModule name body _ => .declareModule name body.content none
  | .declareTypeAlias a => .declareTypeAlias a.content
  | .declareClass _ _ => .declareClass .null none
  | .unknown tag _ => .unknown tag none

def Block.content : Block → Block
  | ⟨body, _⟩ => ⟨bodyContent body, none⟩

def bodyContent : List Statement → List Statement
  | [] => []
  | s :: rest => s.content :: bodyContent rest

end

def Program.content (p : Program) : Program :=
  ⟨bodyContent p.body, [], none⟩

/-! ## Kinds -/

theorem FlowType.content_generic {name : Json} {args : Option (List FlowType)}
    {loc : Option Location} (h : name ≠ .string "Object") :
    (FlowType.generic name args loc).content = .generic name (args.map typesContent) none := by
  rw [FlowType.content.eq_def]
  split <;> simp_all

@[simp] theorem FlowType.kind_content (t : FlowType) : t.content.kind = t.kind := by
  rw [FlowType.content.eq_def]
  split <;> rfl

@[simp] theorem FlowType.isNullable_content (t : FlowType) :
    t.content.isNullable = t.isNullable := by
  rw [FlowType.content.eq_def]
  split <;> rfl

@[simp] theorem Pattern.kind_content (p : Pattern) : p.content.kind = p.kind := by
  rw [Pattern.content.eq_def]
  split <;> rfl

@[simp] theorem Statement.kind_content (s : Statement) : s.content.kind = s.kind := by
  rw [Statement.content.eq_def]
  split <;> rfl

end Typings
