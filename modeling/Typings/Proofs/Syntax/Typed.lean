import Typings.Syntax.Statement
import Typings.Proofs.Estree.Node

/-!
# Syntax that came from a proper tree

Syntax keeps names, raw texts and positions as values of any kind. It is typed when names and raw
texts are texts and positions are whole numbers. What is kept but never written may be anything.
-/

namespace Typings

structure Position.Typed (p : Position) : Prop where
  line : ∃ n, p.line = .int n
  column : ∃ n, p.column = .int n

structure Location.Typed (loc : Location) : Prop where
  start : loc.start.Typed
  stop : loc.stop.Typed

/-- The location of a node, if it has one, is proper. -/
def Located (loc : Option Location) : Prop :=
  ∀ l, loc = some l → l.Typed

theorem located_none : Located none := by
  rintro l ⟨⟩

/-- A name that may be missing. -/
def OptionalName (name : Json) : Prop :=
  name = .null ∨ name.IsText

/-! ## Annotations -/

mutual

inductive FlowType.Typed : FlowType → Prop where
  | keyword {k loc} : Located loc → FlowType.Typed (.keyword k loc)
  | function {params returns rest loc} :
      (∀ ps, params = some ps → ∀ p ∈ ps, FunctionParam.Typed p) →
      (∀ t, returns = some t → FlowType.Typed t) → (∀ p, rest = some p → FunctionParam.Typed p) →
      Located loc → FlowType.Typed (.function params returns rest loc)
  | generic {name args loc} : name.IsText → (∀ ts, args = some ts → ∀ t ∈ ts, FlowType.Typed t) →
      Located loc → FlowType.Typed (.generic name args loc)
  | nullable {inner loc} : FlowType.Typed inner → Located loc →
      FlowType.Typed (.nullable inner loc)
  | object {members indexers exact loc} : (∀ m ∈ members, Member.Typed m) →
      (∀ i ∈ indexers, Indexer.Typed i) → Located loc →
      FlowType.Typed (.object members indexers exact loc)
  | union {types loc} : (∀ t ∈ types, FlowType.Typed t) → Located loc →
      FlowType.Typed (.union types loc)
  | intersection {types loc} : (∀ t ∈ types, FlowType.Typed t) → Located loc →
      FlowType.Typed (.intersection types loc)
  | stringLiteral {value raw loc} : raw.IsText → Located loc →
      FlowType.Typed (.stringLiteral value raw loc)
  | booleanLiteral {value raw loc} : raw.IsText → Located loc →
      FlowType.Typed (.booleanLiteral value raw loc)
  | tuple {types loc} : (∀ t ∈ types, FlowType.Typed t) → Located loc →
      FlowType.Typed (.tuple types loc)
  | unknown {tag loc} : tag.IsText → Located loc → FlowType.Typed (.unknown tag loc)

inductive FunctionParam.Typed : FunctionParam → Prop where
  | mk {name type optional loc} : OptionalName name → FlowType.Typed type → Located loc →
      FunctionParam.Typed ⟨name, type, optional, loc⟩

inductive Member.Typed : Member → Prop where
  | property {key value optional loc} : key.IsText → FlowType.Typed value → Located loc →
      Member.Typed (.property key value optional loc)
  | unknown {tag loc} : tag.IsText → Located loc → Member.Typed (.unknown tag loc)

inductive Indexer.Typed : Indexer → Prop where
  | mk {name key value loc} : OptionalName name → FlowType.Typed key → FlowType.Typed value →
      Located loc → Indexer.Typed ⟨name, key, value, loc⟩

end

structure TypeParameter.Typed (param : TypeParameter) : Prop where
  name : param.name.IsText
  bound : ∀ t, param.bound = some t → t.Typed
  loc : Located param.loc

/-- The type parameters of a declaration, if it has a list of them, are typed. -/
def TypedParameters (params : Option (List TypeParameter)) : Prop :=
  ∀ ps, params = some ps → ∀ p ∈ ps, p.Typed

/-! ## Patterns and specifiers -/

structure Identifier.Typed (i : Identifier) : Prop where
  name : i.name.IsText
  type : ∀ t, i.type = some t → t.Typed
  loc : Located i.loc

inductive Expression.Typed : Expression → Prop where
  | literal {value raw loc} : raw.IsText → Located loc →
      Expression.Typed (.literal value raw loc)
  | identifier {i} : i.Typed → Expression.Typed (.identifier i)
  | unknown {tag loc} : tag.IsText → Located loc → Expression.Typed (.unknown tag loc)

inductive Pattern.Typed : Pattern → Prop where
  | identifier {i} : i.Typed → Pattern.Typed (.identifier i)
  | rest {argument loc} : Pattern.Typed argument → Located loc →
      Pattern.Typed (.rest argument loc)
  | assignment {left right loc} : Pattern.Typed left → Expression.Typed right → Located loc →
      Pattern.Typed (.assignment left right loc)
  | unknown {tag loc} : tag.IsText → Located loc → Pattern.Typed (.unknown tag loc)

inductive Specifier.Typed : Specifier → Prop where
  | importNamed {imported localName loc} : imported.IsText → localName.IsText → Located loc →
      Specifier.Typed (.importNamed imported localName loc)
  | importDefault {localName loc} : localName.IsText → Located loc →
      Specifier.Typed (.importDefault localName loc)
  | importNamespace {localName loc} : localName.IsText → Located loc →
      Specifier.Typed (.importNamespace localName loc)
  | exportNamed {localName exported loc} : localName.IsText → exported.IsText → Located loc →
      Specifier.Typed (.exportNamed localName exported loc)
  | exportDefault {exported loc} : exported.IsText → Located loc →
      Specifier.Typed (.exportDefault exported loc)
  | exportNamespace {exported loc} : exported.IsText → Located loc →
      Specifier.Typed (.exportNamespace exported loc)
  | unknown {tag loc} : tag.IsText → Located loc → Specifier.Typed (.unknown tag loc)

/-! ## Statements and programs -/

structure Signature.Typed (f : Signature) : Prop where
  name : OptionalName f.name
  params : ∀ p ∈ f.params, p.Typed
  returns : ∀ t, f.returns = some t → t.Typed
  typeParams : TypedParameters f.typeParams
  loc : Located f.loc

structure TypeAlias.Typed (a : TypeAlias) : Prop where
  name : a.name.IsText
  right : a.right.Typed
  typeParams : TypedParameters a.typeParams
  loc : Located a.loc

mutual

inductive Statement.Typed : Statement → Prop where
  | function {f} : f.Typed → Statement.Typed (.function f)
  | variableDeclaration {kind loc} : kind.IsText → Located loc →
      Statement.Typed (.variableDeclaration kind loc)
  | typeAlias {a} : a.Typed → Statement.Typed (.typeAlias a)
  | importDeclaration {source specifiers kind loc} : (∀ s ∈ specifiers, s.Typed) →
      Located loc → Statement.Typed (.importDeclaration source specifiers kind loc)
  | exportDefault {declaration loc} : Statement.Typed declaration → Located loc →
      Statement.Typed (.exportDefault declaration loc)
  | exportNamed {declaration specifiers source kind loc} :
      (∀ s, declaration = some s → Statement.Typed s) → (∀ s ∈ specifiers, s.Typed) →
      Located loc → Statement.Typed (.exportNamed declaration specifiers source kind loc)
  | exportAll {source loc} : Located loc → Statement.Typed (.exportAll source loc)
  | block {b} : Block.Typed b → Statement.Typed (.block b)
  | declareModule {name body loc} : name.IsText → Block.Typed body → Located loc →
      Statement.Typed (.declareModule name body loc)
  | declareTypeAlias {a} : a.Typed → Statement.Typed (.declareTypeAlias a)
  | declareClass {name loc} : name.IsText → Located loc →
      Statement.Typed (.declareClass name loc)
  | unknown {tag loc} : tag.IsText → Located loc → Statement.Typed (.unknown tag loc)

inductive Block.Typed : Block → Prop where
  | mk {body loc} : (∀ s ∈ body, Statement.Typed s) → Located loc → Block.Typed ⟨body, loc⟩

end

structure ParseError.Typed (e : ParseError) : Prop where
  message : e.message.IsText
  loc : Located e.loc

structure Program.Typed (p : Program) : Prop where
  body : ∀ s ∈ p.body, s.Typed
  errors : ∀ e ∈ p.errors, e.Typed
  loc : Located p.loc

end Typings
