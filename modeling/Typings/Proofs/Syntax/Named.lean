import Typings.Syntax.Statement
import Typings.Proofs.Syntax.Parts

/-!
# Syntax whose names have a property

The names in syntax are the texts that it takes over as they are: the names of types, parameters,
functions, specifiers and modules, the keys of properties, the raw texts of literal types, and the
sources of imports and exports. A name that is no text counts as it is shown, and one that cannot
be shown has every property. Default values are not looked at, and neither are the tags of what is
unknown.
-/

namespace Typings

variable (N : String → Prop)

/-- The property holds of the name as it is shown. -/
def Shows (name : Json) : Prop :=
  ∀ shown, name.display = .ok shown → N shown

@[simp] theorem shows_true (name : Json) : Shows (fun _ => True) name :=
  fun _ _ => trivial

@[simp] theorem shows_string {N : String → Prop} {text : String} :
    Shows N (.string text) ↔ N text := by
  constructor
  · intro h
    exact h text rfl
  · rintro h _ ⟨⟩
    exact h

theorem Shows.imp {N M : String → Prop} {name : Json} (h : Shows N name)
    (hi : ∀ {shown}, N shown → M shown) : Shows M name :=
  fun shown hs => hi (h shown hs)

/-- The property holds of the name, unless there is none. -/
def NamedIfAny (name : Json) : Prop :=
  name ≠ .null → Shows N name

/-! ## Annotations -/

def Member.Keyed : Member → Prop
  | .property key .. => Shows N key
  | .unknown .. => True

/-- The property holds of the names in the annotation that are not in its parts. -/
def FlowType.NamedHere : FlowType → Prop
  | .function params _ rest _ => ∀ p ∈ params.getD [] ++ rest.toList, NamedIfAny N p.name
  | .generic name _ _ => Shows N name
  | .object members indexers _ _ =>
    (∀ m ∈ members, m.Keyed N) ∧ ∀ i ∈ indexers, NamedIfAny N i.name
  | .stringLiteral _ raw _ | .booleanLiteral _ raw _ => Shows N raw
  | .keyword .. | .nullable .. | .union .. | .intersection .. | .tuple .. | .unknown .. => True

abbrev FlowType.Named (t : FlowType) : Prop :=
  t.Everywhere (FlowType.NamedHere N)

structure TypeParameter.Named (p : TypeParameter) : Prop where
  name : Shows N p.name
  bound : ∀ t, p.bound = some t → t.Named N

def NamedParameters (params : Option (List TypeParameter)) : Prop :=
  ∀ ps, params = some ps → ∀ p ∈ ps, p.Named N

/-! ## Patterns and specifiers -/

structure Identifier.Named (i : Identifier) : Prop where
  name : Shows N i.name
  type : ∀ t, i.type = some t → t.Named N

inductive Pattern.Named : Pattern → Prop where
  | identifier {i} : i.Named N → Pattern.Named (.identifier i)
  | rest {argument loc} : Pattern.Named argument → Pattern.Named (.rest argument loc)
  | assignment {left right loc} : Pattern.Named left → Pattern.Named (.assignment left right loc)
  | unknown {tag loc} : Pattern.Named (.unknown tag loc)

def Specifier.Named : Specifier → Prop
  | .importNamed name other _ | .exportNamed name other _ => Shows N name ∧ Shows N other
  | .importDefault name _ | .importNamespace name _ | .exportDefault name _
  | .exportNamespace name _ => Shows N name
  | .unknown .. => True

/-! ## Statements and programs -/

structure Signature.Named (f : Signature) : Prop where
  name : NamedIfAny N f.name
  params : ∀ p ∈ f.params, p.Named N
  returns : ∀ t, f.returns = some t → t.Named N
  typeParams : NamedParameters N f.typeParams

structure TypeAlias.Named (a : TypeAlias) : Prop where
  name : Shows N a.name
  right : a.right.Named N
  typeParams : NamedParameters N a.typeParams

mutual

inductive Statement.Named : Statement → Prop where
  | function {f} : f.Named N → Statement.Named (.function f)
  | variableDeclaration {kind loc} : Statement.Named (.variableDeclaration kind loc)
  | typeAlias {a} : a.Named N → Statement.Named (.typeAlias a)
  | importDeclaration {source specifiers kind loc} : N source →
      (∀ s ∈ specifiers, s.Named N) →
      Statement.Named (.importDeclaration source specifiers kind loc)
  | exportDefault {declaration loc} : Statement.Named declaration →
      Statement.Named (.exportDefault declaration loc)
  | exportNamed {declaration specifiers source kind loc} :
      (∀ s, declaration = some s → Statement.Named s) → (∀ s ∈ specifiers, s.Named N) →
      (∀ name, source = some name → N name) →
      Statement.Named (.exportNamed declaration specifiers source kind loc)
  | exportAll {source loc} : N source → Statement.Named (.exportAll source loc)
  | block {b} : Block.Named b → Statement.Named (.block b)
  | declareModule {name body loc} : Shows N name → Block.Named body →
      Statement.Named (.declareModule name body loc)
  | declareTypeAlias {a} : a.Named N → Statement.Named (.declareTypeAlias a)
  | declareClass {name loc} : Shows N name → Statement.Named (.declareClass name loc)
  | unknown {tag loc} : Statement.Named (.unknown tag loc)

inductive Block.Named : Block → Prop where
  | mk {body loc} : (∀ s ∈ body, Statement.Named s) → Block.Named ⟨body, loc⟩

end

def Program.Named (p : Program) : Prop :=
  ∀ s ∈ p.body, s.Named N

end Typings
