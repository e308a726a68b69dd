import Typings.Declaration.Statement

/-!
# What has a rendering

`Supported` says by rules which syntax can be written as a declaration. `offences` lists what stands
in the way, in the order of the document: each entry is a node without a rendering, with the role it
was to play and the location that a report of it names. Syntax is supported exactly when the list is
empty.

Not everything is looked at. The arguments of a type that is replaced as a whole, the default values
of parameters and the contents of what is dropped may be anything.
-/

namespace Typings

/-! ## Supported syntax -/

mutual

inductive FlowType.Supported : FlowType → Prop where
  | keyword {k loc} : FlowType.Supported (.keyword k loc)
  | anyFunction {returns rest loc} : FlowType.Supported (.function none returns rest loc)
  | function {params returns rest loc} : (∀ p ∈ params, FlowType.Supported p.type) →
      (∀ p, rest = some p → FlowType.Supported p.type) →
      (∀ t, returns = some t → FlowType.Supported t) →
      FlowType.Supported (.function (some params) returns rest loc)
  | anyObject {args loc} : FlowType.Supported (.generic (.string "Object") args loc)
  | generic {name args loc} : (∀ ts, args = some ts → ∀ t ∈ ts, FlowType.Supported t) →
      FlowType.Supported (.generic name args loc)
  | nullable {inner loc} : FlowType.Supported inner → FlowType.Supported (.nullable inner loc)
  | object {members indexers exact loc} : (∀ m ∈ members, Member.Supported m) →
      (∀ i ∈ indexers, FlowType.Supported i.key) → (∀ i ∈ indexers, FlowType.Supported i.value) →
      FlowType.Supported (.object members indexers exact loc)
  | union {types loc} : (∀ t ∈ types, FlowType.Supported t) → FlowType.Supported (.union types loc)
  | intersection {types loc} : (∀ t ∈ types, FlowType.Supported t) →
      FlowType.Supported (.intersection types loc)
  | stringLiteral {value raw loc} : FlowType.Supported (.stringLiteral value raw loc)
  | booleanLiteral {value raw loc} : FlowType.Supported (.booleanLiteral value raw loc)
  | tuple {types loc} : (∀ t ∈ types, FlowType.Supported t) → FlowType.Supported (.tuple types loc)

inductive Member.Supported : Member → Prop where
  | property {key value optional loc} : FlowType.Supported value →
      Member.Supported (.property key value optional loc)

end

/-- The annotation is supported, if there is one. -/
def SupportedType (type : Option FlowType) : Prop :=
  ∀ t, type = some t → t.Supported

/-- The bounds of type parameters are supported. -/
def SupportedBounds (params : Option (List TypeParameter)) : Prop :=
  ∀ ps, params = some ps → ∀ p ∈ ps, SupportedType p.bound

inductive Pattern.Supported : Pattern → Prop where
  | identifier {i} : SupportedType i.type → Pattern.Supported (.identifier i)
  | rest {i loc} : SupportedType i.type → Pattern.Supported (.rest (.identifier i) loc)
  | assignment {i right loc} : SupportedType i.type →
      Pattern.Supported (.assignment (.identifier i) right loc)

/-- Whether a specifier belongs in an import. -/
def Specifier.isImport : Specifier → Bool
  | .importNamed .. | .importDefault .. | .importNamespace .. => true
  | _ => false

/-- Whether a specifier belongs in an export. -/
def Specifier.isExport : Specifier → Bool
  | .exportNamed .. | .exportDefault .. | .exportNamespace .. => true
  | _ => false

structure Signature.Supported (f : Signature) : Prop where
  bounds : SupportedBounds f.typeParams
  params : ∀ p ∈ f.params, p.Supported
  returns : SupportedType f.returns

/-- An alias must not stand for a nullable type or a boolean literal. -/
structure TypeAlias.Supported (a : TypeAlias) : Prop where
  bounds : SupportedBounds a.typeParams
  right : a.right.Supported
  notNullable : ∀ inner loc, a.right ≠ .nullable inner loc
  notBoolean : ∀ value raw loc, a.right ≠ .booleanLiteral value raw loc

mutual

inductive Statement.Supported : Statement → Prop where
  | function {f} : Statement.Supported (.function f)
  | variableDeclaration {kind loc} : Statement.Supported (.variableDeclaration kind loc)
  | typeAlias {a} : a.Supported → Statement.Supported (.typeAlias a)
  | importDeclaration {source specifiers kind loc} : (∀ s ∈ specifiers, s.isImport) →
      Statement.Supported (.importDeclaration source specifiers kind loc)
  | exportDefault {f loc} : f.Supported → Statement.Supported (.exportDefault (.function f) loc)
  | exportSpecifiers {specifiers source kind loc} : (∀ s ∈ specifiers, s.isExport) →
      Statement.Supported (.exportNamed none specifiers source kind loc)
  | exportFunction {f specifiers source kind loc} : f.Supported →
      Statement.Supported (.exportNamed (some (.function f)) specifiers source kind loc)
  | exportAlias {a specifiers source kind loc} : a.Supported →
      Statement.Supported (.exportNamed (some (.typeAlias a)) specifiers source kind loc)
  | exportVariable {k l specifiers source kind loc} :
      Statement.Supported
        (.exportNamed (some (.variableDeclaration k l)) specifiers source kind loc)
  | exportAll {source loc} : Statement.Supported (.exportAll source loc)
  | block {b} : Block.Supported b → Statement.Supported (.block b)
  | declareModule {name body loc} : Block.Supported body →
      Statement.Supported (.declareModule name body loc)
  | declareTypeAlias {a : TypeAlias} : SupportedBounds a.typeParams → a.right.Supported →
      Statement.Supported (.declareTypeAlias a)
  | declareClass {name loc} : Statement.Supported (.declareClass name loc)

inductive Block.Supported : Block → Prop where
  | mk {body loc} : (∀ s ∈ body, Statement.Supported s) → Block.Supported ⟨body, loc⟩

end

/-- A program is supported if every statement of it is. -/
def Program.Supported (p : Program) : Prop :=
  ∀ s ∈ p.body, s.Supported

/-! ## Offences -/

mutual

def FlowType.offences : FlowType → List Unhandled
  | .keyword .. | .function none _ _ _ | .stringLiteral .. | .booleanLiteral .. => []
  | .function (some params) returns rest _ =>
    paramOffences params ++ restOffences rest ++ typeOffences returns
  | .generic (.string "Object") _ _ | .generic _ none _ => []
  | .generic _ (some args) _ => listOffences args
  | .nullable inner _ => inner.offences
  | .object members indexers _ _ => memberOffences members ++ indexerOffences indexers
  | .union types _ | .intersection types _ | .tuple types _ => listOffences types
  | .unknown tag loc => [⟨.type, tag, loc⟩]

def listOffences : List FlowType → List Unhandled
  | [] => []
  | t :: ts => t.offences ++ listOffences ts

def typeOffences : Option FlowType → List Unhandled
  | none => []
  | some t => t.offences

def FunctionParam.offences : FunctionParam → List Unhandled
  | ⟨_, type, _, _⟩ => type.offences

def paramOffences : List FunctionParam → List Unhandled
  | [] => []
  | p :: ps => p.offences ++ paramOffences ps

def restOffences : Option FunctionParam → List Unhandled
  | none => []
  | some p => p.offences

def memberOffences : List Member → List Unhandled
  | [] => []
  | .property _ value _ _ :: ms => value.offences ++ memberOffences ms
  | .unknown tag loc :: ms => ⟨.member, tag, loc⟩ :: memberOffences ms

def indexerOffences : List Indexer → List Unhandled
  | [] => []
  | ⟨_, key, value, _⟩ :: is => key.offences ++ value.offences ++ indexerOffences is

end

/-- What stands in the way of the bounds of type parameters. -/
def boundOffences (params : Option (List TypeParameter)) : List Unhandled :=
  (params.getD []).flatMap fun p => typeOffences p.bound

def Pattern.offences : Pattern → List Unhandled
  | .identifier i | .rest (.identifier i) _ | .assignment (.identifier i) _ _ =>
    typeOffences i.type
  | .rest argument loc => [⟨.restArgument, argument.kind, loc⟩]
  | .assignment left _ loc => [⟨.defaultTarget, left.kind, loc⟩]
  | .unknown tag loc => [⟨.parameter, tag, loc⟩]

def Signature.offences (f : Signature) : List Unhandled :=
  boundOffences f.typeParams ++ f.params.flatMap Pattern.offences ++ typeOffences f.returns

def TypeAlias.offences (a : TypeAlias) : List Unhandled :=
  boundOffences a.typeParams ++
    match a.right with
    | .nullable .. | .booleanLiteral .. | .unknown .. => [⟨.aliasRight, a.right.kind, a.loc⟩]
    | right => right.offences

/-- A specifier that does not belong where it stands. -/
def Specifier.offences (role : Role) (belongs : Specifier → Bool) (s : Specifier) :
    List Unhandled :=
  if belongs s then [] else [⟨role, s.kind, s.loc⟩]

mutual

def Statement.offences : Statement → List Unhandled
  | .function _ | .variableDeclaration .. | .exportAll .. | .declareClass .. => []
  | .typeAlias a => a.offences
  | .importDeclaration _ specifiers _ _ =>
    specifiers.flatMap (Specifier.offences .importSpecifier Specifier.isImport)
  | .exportDefault (.function f) _ => f.offences
  | .exportDefault declaration loc => [⟨.declaration, declaration.kind, loc⟩]
  | .exportNamed none specifiers _ _ _ =>
    specifiers.flatMap (Specifier.offences .exportSpecifier Specifier.isExport)
  | .exportNamed (some (.function f)) _ _ _ _ => f.offences
  | .exportNamed (some (.typeAlias a)) _ _ _ _ => a.offences
  | .exportNamed (some (.variableDeclaration ..)) _ _ _ _ => []
  | .exportNamed (some declaration) _ _ _ loc => [⟨.statement, declaration.kind, loc⟩]
  | .block b => b.offences
  | .declareModule _ body _ => body.offences
  | .declareTypeAlias a => boundOffences a.typeParams ++ a.right.offences
  | .unknown tag loc => [⟨.statement, tag, loc⟩]

def Block.offences : Block → List Unhandled
  | ⟨body, _⟩ => statementOffences body

def statementOffences : List Statement → List Unhandled
  | [] => []
  | s :: rest => s.offences ++ statementOffences rest

end

/-- What stands in the way of a program, in the order of the document. -/
def Program.offences (p : Program) : List Unhandled :=
  statementOffences p.body

/-! ## Supported is without offences -/

theorem FlowType.offences_generic {name : Json} {args : Option (List FlowType)}
    {loc : Option Location} (h : name ≠ .string "Object") :
    (FlowType.generic name args loc).offences = listOffences (args.getD []) := by
  cases args with
  | none => simp [FlowType.offences, listOffences]
  | some ts =>
    rw [FlowType.offences.eq_def]
    split <;> simp_all

mutual

theorem FlowType.supported_iff : (t : FlowType) → (t.Supported ↔ t.offences = [])
  | .keyword .. => ⟨fun _ => by simp only [FlowType.offences], fun _ => .keyword⟩
  | .function none .. => ⟨fun _ => by simp only [FlowType.offences], fun _ => .anyFunction⟩
  | .function (some params) returns rest _ => by
      simp only [FlowType.offences, List.append_eq_nil_iff, ← paramOffences_eq_nil,
        ← restOffences_eq_nil, ← typeOffences_eq_nil]
      constructor
      · intro h
        cases h with
        | function hp hr ht => exact ⟨⟨hp, hr⟩, ht⟩
      · intro h
        exact .function h.1.1 h.1.2 h.2
  | .generic name none _ => by
      refine ⟨fun _ => ?_, fun _ => .generic (by simp)⟩
      by_cases hn : name = .string "Object"
      · simp only [hn, FlowType.offences]
      · rw [FlowType.offences_generic hn]; rfl
  | .generic name (some ts) _ => by
      by_cases hn : name = .string "Object"
      · subst hn
        exact ⟨fun _ => by simp only [FlowType.offences], fun _ => .anyObject⟩
      · rw [FlowType.offences_generic hn, Option.getD_some, ← listOffences_eq_nil ts]
        constructor
        · intro h
          cases h with
          | anyObject => exact absurd rfl hn
          | generic ha => exact ha ts rfl
        · intro h
          exact .generic (by simpa using h)
  | .nullable inner _ => by
      simp only [FlowType.offences, ← FlowType.supported_iff inner]
      exact ⟨fun | .nullable h => h, .nullable⟩
  | .object members indexers _ _ => by
      simp only [FlowType.offences, List.append_eq_nil_iff, ← memberOffences_eq_nil,
        ← indexerOffences_eq_nil]
      constructor
      · intro h
        cases h with
        | object hm hk hv => exact ⟨hm, fun i hi => ⟨hk i hi, hv i hi⟩⟩
      · intro h
        exact .object h.1 (fun i hi => (h.2 i hi).1) (fun i hi => (h.2 i hi).2)
  | .union types _ => by
      simp only [FlowType.offences, ← listOffences_eq_nil]
      exact ⟨fun | .union h => h, .union⟩
  | .intersection types _ => by
      simp only [FlowType.offences, ← listOffences_eq_nil]
      exact ⟨fun | .intersection h => h, .intersection⟩
  | .stringLiteral .. => ⟨fun _ => by simp only [FlowType.offences], fun _ => .stringLiteral⟩
  | .booleanLiteral .. => ⟨fun _ => by simp only [FlowType.offences], fun _ => .booleanLiteral⟩
  | .tuple types _ => by
      simp only [FlowType.offences, ← listOffences_eq_nil]
      exact ⟨fun | .tuple h => h, .tuple⟩
  | .unknown .. => ⟨fun h => (by cases h), fun h => by simp [FlowType.offences] at h⟩

theorem listOffences_eq_nil :
    (ts : List FlowType) → ((∀ t ∈ ts, t.Supported) ↔ listOffences ts = [])
  | [] => by simp [listOffences]
  | t :: ts => by
      simp only [listOffences, List.append_eq_nil_iff, List.forall_mem_cons,
        FlowType.supported_iff t, listOffences_eq_nil ts]

theorem typeOffences_eq_nil :
    (type : Option FlowType) → ((∀ t, type = some t → t.Supported) ↔ typeOffences type = [])
  | none => by simp [typeOffences]
  | some t => by simp [typeOffences, FlowType.supported_iff t]

theorem paramOffences_eq_nil :
    (ps : List FunctionParam) → ((∀ p ∈ ps, p.type.Supported) ↔ paramOffences ps = [])
  | [] => by simp [paramOffences]
  | ⟨_, type, _, _⟩ :: ps => by
      simp only [paramOffences, FunctionParam.offences, List.append_eq_nil_iff,
        List.forall_mem_cons, FlowType.supported_iff type, paramOffences_eq_nil ps]

theorem restOffences_eq_nil : (rest : Option FunctionParam) →
    ((∀ p, rest = some p → p.type.Supported) ↔ restOffences rest = [])
  | none => by simp [restOffences]
  | some ⟨_, type, _, _⟩ => by
      simp [restOffences, FunctionParam.offences, FlowType.supported_iff type]

theorem memberOffences_eq_nil :
    (ms : List Member) → ((∀ m ∈ ms, m.Supported) ↔ memberOffences ms = [])
  | [] => by simp [memberOffences]
  | .property key value optional loc :: ms => by
      have hm : (Member.property key value optional loc).Supported ↔ value.Supported :=
        ⟨fun | .property h => h, .property⟩
      simp only [memberOffences, List.append_eq_nil_iff, List.forall_mem_cons, hm,
        FlowType.supported_iff value, memberOffences_eq_nil ms]
  | .unknown .. :: ms => by
      simp only [memberOffences, List.forall_mem_cons, reduceCtorEq, iff_false]
      rintro ⟨⟨⟩, -⟩

theorem indexerOffences_eq_nil : (is : List Indexer) →
    ((∀ i ∈ is, i.key.Supported ∧ i.value.Supported) ↔ indexerOffences is = [])
  | [] => by simp [indexerOffences]
  | ⟨_, key, value, _⟩ :: is => by
      simp only [indexerOffences, List.append_eq_nil_iff, List.forall_mem_cons,
        FlowType.supported_iff key, FlowType.supported_iff value, indexerOffences_eq_nil is]

end

theorem boundOffences_eq_nil (params : Option (List TypeParameter)) :
    SupportedBounds params ↔ boundOffences params = [] := by
  simp only [boundOffences, List.flatMap_eq_nil_iff, ← typeOffences_eq_nil]
  cases params with
  | none => simp [SupportedBounds]
  | some ps => simp [SupportedBounds, SupportedType]

theorem Pattern.supported_iff (p : Pattern) : p.Supported ↔ p.offences = [] := by
  unfold Pattern.offences
  split
  · rw [← typeOffences_eq_nil]
    exact ⟨fun | .identifier h => h, .identifier⟩
  · rw [← typeOffences_eq_nil]
    exact ⟨fun | .rest h => h, .rest⟩
  · rw [← typeOffences_eq_nil]
    exact ⟨fun | .assignment h => h, .assignment⟩
  · rename_i hn
    refine ⟨fun h => ?_, by simp⟩
    cases h
    exact absurd rfl (hn _)
  · rename_i hn
    refine ⟨fun h => ?_, by simp⟩
    cases h
    exact absurd rfl (hn _)
  · exact ⟨fun h => (by cases h), by simp⟩

theorem Signature.supported_iff (f : Signature) : f.Supported ↔ f.offences = [] := by
  simp only [Signature.offences, List.append_eq_nil_iff, List.flatMap_eq_nil_iff,
    ← Pattern.supported_iff, ← typeOffences_eq_nil, ← boundOffences_eq_nil]
  exact ⟨fun h => ⟨⟨h.bounds, h.params⟩, h.returns⟩, fun h => ⟨h.1.1, h.1.2, h.2⟩⟩

theorem TypeAlias.supported_iff (a : TypeAlias) : a.Supported ↔ a.offences = [] := by
  simp only [TypeAlias.offences, List.append_eq_nil_iff, ← boundOffences_eq_nil]
  constructor
  · intro h
    refine ⟨h.bounds, ?_⟩
    split
    · rename_i he; exact absurd he (h.notNullable _ _)
    · rename_i he; exact absurd he (h.notBoolean _ _ _)
    · rename_i he
      have hr := h.right
      rw [he] at hr
      cases hr
    · exact (FlowType.supported_iff _).1 h.right
  · rintro ⟨hb, h⟩
    split at h
    · cases h
    · cases h
    · cases h
    · rename_i hn hbool _
      exact ⟨hb, (FlowType.supported_iff _).2 h, hn, hbool⟩

theorem Specifier.offences_eq_nil (role : Role) (belongs : Specifier → Bool)
    (specs : List Specifier) :
    (∀ s ∈ specs, belongs s) ↔ specs.flatMap (Specifier.offences role belongs) = [] := by
  simp only [List.flatMap_eq_nil_iff, Specifier.offences]
  simp

mutual

theorem Statement.supported_iff : (s : Statement) → (s.Supported ↔ s.offences = [])
  | .function _ => ⟨fun _ => by simp only [Statement.offences], fun _ => .function⟩
  | .variableDeclaration .. =>
      ⟨fun _ => by simp only [Statement.offences], fun _ => .variableDeclaration⟩
  | .exportAll .. => ⟨fun _ => by simp only [Statement.offences], fun _ => .exportAll⟩
  | .declareClass .. => ⟨fun _ => by simp only [Statement.offences], fun _ => .declareClass⟩
  | .typeAlias a => by
      simp only [Statement.offences, ← TypeAlias.supported_iff]
      exact ⟨fun | .typeAlias h => h, .typeAlias⟩
  | .importDeclaration .. => by
      simp only [Statement.offences, ← Specifier.offences_eq_nil]
      exact ⟨fun | .importDeclaration h => h, .importDeclaration⟩
  | .exportDefault declaration _ => by
      cases declaration with
      | function f =>
          simp only [Statement.offences, ← Signature.supported_iff]
          exact ⟨fun | .exportDefault h => h, .exportDefault⟩
      | _ => exact ⟨fun h => (by cases h), fun h => by simp [Statement.offences] at h⟩
  | .exportNamed none .. => by
      simp only [Statement.offences, ← Specifier.offences_eq_nil]
      exact ⟨fun | .exportSpecifiers h => h, .exportSpecifiers⟩
  | .exportNamed (some declaration) .. => by
      cases declaration with
      | function f =>
          simp only [Statement.offences, ← Signature.supported_iff]
          exact ⟨fun | .exportFunction h => h, .exportFunction⟩
      | typeAlias a =>
          simp only [Statement.offences, ← TypeAlias.supported_iff]
          exact ⟨fun | .exportAlias h => h, .exportAlias⟩
      | variableDeclaration =>
          exact ⟨fun _ => by simp only [Statement.offences], fun _ => .exportVariable⟩
      | _ => exact ⟨fun h => (by cases h), fun h => by simp [Statement.offences] at h⟩
  | .block b => by
      simp only [Statement.offences, ← Block.supported_iff b]
      exact ⟨fun | .block h => h, .block⟩
  | .declareModule _ body _ => by
      simp only [Statement.offences, ← Block.supported_iff body]
      exact ⟨fun | .declareModule h => h, .declareModule⟩
  | .declareTypeAlias a => by
      simp only [Statement.offences, List.append_eq_nil_iff, ← boundOffences_eq_nil,
        ← FlowType.supported_iff]
      exact ⟨fun | .declareTypeAlias hb hr => ⟨hb, hr⟩, fun h => .declareTypeAlias h.1 h.2⟩
  | .unknown .. => ⟨fun h => (by cases h), fun h => by simp [Statement.offences] at h⟩

theorem Block.supported_iff : (b : Block) → (b.Supported ↔ b.offences = [])
  | ⟨body, _⟩ => by
      simp only [Block.offences, ← statementOffences_eq_nil body]
      exact ⟨fun | .mk h => h, .mk⟩

theorem statementOffences_eq_nil :
    (body : List Statement) → ((∀ s ∈ body, s.Supported) ↔ statementOffences body = [])
  | [] => by simp [statementOffences]
  | s :: rest => by
      simp only [statementOffences, List.append_eq_nil_iff, List.forall_mem_cons,
        Statement.supported_iff s, statementOffences_eq_nil rest]

end

theorem Program.supported_iff (p : Program) : p.Supported ↔ p.offences = [] :=
  statementOffences_eq_nil p.body

end Typings
