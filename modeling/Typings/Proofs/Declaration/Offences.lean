import Typings.Proofs.Declaration.Support
import Typings.Proofs.Syntax.Content

/-!
# Offences of content

The content of syntax is of the same shape as the syntax, and the same stands in the way of its
rendering, but for the locations.
-/

namespace Typings

/-! ## Shapes -/

def Pattern.isIdentifier : Pattern → Bool
  | .identifier _ => true
  | _ => false

def FlowType.isObject : FlowType → Bool
  | .object .. => true
  | _ => false

@[simp] theorem Pattern.isIdentifier_content (p : Pattern) :
    p.content.isIdentifier = p.isIdentifier := by
  rw [Pattern.content.eq_def]
  split <;> rfl

@[simp] theorem FlowType.isObject_content (t : FlowType) : t.content.isObject = t.isObject := by
  rw [FlowType.content.eq_def]
  split <;> rfl

@[simp] theorem FlowType.hasTypeAlias_content (t : FlowType) :
    t.content.hasTypeAlias = t.hasTypeAlias := by
  rw [FlowType.content.eq_def]
  split <;> rfl

theorem Pattern.content_rest {argument : Pattern} {loc : Option Location}
    (h : argument.isIdentifier = false) :
    (Pattern.rest argument loc).content = .rest argument.content none := by
  cases argument with
  | identifier i => cases h
  | _ => rfl

def Statement.isFunction : Statement → Bool
  | .function _ => true
  | _ => false

/-- Whether a statement can be exported under its own name. -/
def Statement.isExportable : Statement → Bool
  | .function _ | .typeAlias _ | .variableDeclaration .. => true
  | _ => false

@[simp] theorem Statement.isFunction_content (s : Statement) :
    s.content.isFunction = s.isFunction := by
  rw [Statement.content.eq_def]
  split <;> rfl

@[simp] theorem Statement.isExportable_content (s : Statement) :
    s.content.isExportable = s.isExportable := by
  rw [Statement.content.eq_def]
  split <;> rfl

theorem Statement.content_exportDefault {declaration : Statement} {loc : Option Location}
    (h : declaration.isFunction = false) :
    (Statement.exportDefault declaration loc).content =
      .exportDefault declaration.content none := by
  rw [Statement.content]
  rintro f rfl
  cases h

theorem Statement.content_exportNamed {declaration : Statement} {specifiers : List Specifier}
    {source : Option String} {kind : Json} {loc : Option Location}
    (h : declaration.isExportable = false) :
    (Statement.exportNamed (some declaration) specifiers source kind loc).content =
      .exportNamed (some declaration.content) [] none .null none := by
  rw [Statement.content]
  rintro f rfl
  cases h

/-! ## Offences -/

/-- What an offence is about, wherever it stands. -/
def Unhandled.subject (u : Unhandled) : Role × Json :=
  (u.role, u.kind)

mutual

theorem FlowType.offences_content :
    (t : FlowType) → t.content.offences.map Unhandled.subject = t.offences.map Unhandled.subject
  | .keyword .. | .function none .. | .stringLiteral .. | .booleanLiteral .. | .unknown .. => by
      simp [FlowType.content, FlowType.offences, Unhandled.subject]
  | .function (some params) returns rest _ => by
      simp only [FlowType.content, FlowType.offences, List.map_append, paramOffences_content params,
        restOffences_content rest, typeOffences_content returns]
  | .generic name args _ => by
      by_cases hn : name = .string "Object"
      · simp only [hn, FlowType.content, FlowType.offences]
      · rw [FlowType.content_generic hn, FlowType.offences_generic hn,
          FlowType.offences_generic hn]
        exact argumentOffences_content args
  | .nullable inner _ => FlowType.offences_content inner
  | .object members indexers _ _ => by
      simp only [FlowType.content, FlowType.offences, List.map_append,
        memberOffences_content members, indexerOffences_content indexers]
  | .union types _ | .intersection types _ | .tuple types _ => listOffences_content types

theorem listOffences_content : (ts : List FlowType) →
    (listOffences (typesContent ts)).map Unhandled.subject =
      (listOffences ts).map Unhandled.subject
  | [] => rfl
  | t :: ts => by
      simp only [typesContent, listOffences, List.map_append, FlowType.offences_content t,
        listOffences_content ts]

theorem argumentOffences_content : (args : Option (List FlowType)) →
    (listOffences ((args.map typesContent).getD [])).map Unhandled.subject =
      (listOffences (args.getD [])).map Unhandled.subject
  | none => rfl
  | some ts => listOffences_content ts

theorem typeOffences_content : (type : Option FlowType) →
    (typeOffences (typeContent type)).map Unhandled.subject =
      (typeOffences type).map Unhandled.subject
  | none => rfl
  | some t => FlowType.offences_content t

theorem paramOffences_content : (ps : List FunctionParam) →
    (paramOffences (paramsContent ps)).map Unhandled.subject =
      (paramOffences ps).map Unhandled.subject
  | [] => rfl
  | ⟨_, type, _, _⟩ :: ps => by
      simp only [paramsContent, FunctionParam.content, paramOffences, FunctionParam.offences,
        List.map_append, FlowType.offences_content type, paramOffences_content ps]

theorem restOffences_content : (rest : Option FunctionParam) →
    (restOffences (restContent rest)).map Unhandled.subject =
      (restOffences rest).map Unhandled.subject
  | none => rfl
  | some ⟨_, type, _, _⟩ => FlowType.offences_content type

theorem memberOffences_content : (ms : List Member) →
    (memberOffences (membersContent ms)).map Unhandled.subject =
      (memberOffences ms).map Unhandled.subject
  | [] => rfl
  | .property _ value _ _ :: ms => by
      simp only [membersContent, memberOffences, List.map_append,
        FlowType.offences_content value, memberOffences_content ms]
  | .unknown .. :: ms => by
      simp only [membersContent, memberOffences, List.map_cons, memberOffences_content ms,
        Unhandled.subject]

theorem indexerOffences_content : (is : List Indexer) →
    (indexerOffences (indexersContent is)).map Unhandled.subject =
      (indexerOffences is).map Unhandled.subject
  | [] => rfl
  | ⟨_, key, value, _⟩ :: is => by
      simp only [indexersContent, indexerOffences, List.map_append, FlowType.offences_content key,
        FlowType.offences_content value, indexerOffences_content is]

end

theorem flatMap_offences_content {γ : Type} {offences : γ → List Unhandled} {content : γ → γ}
    (h : ∀ x, (offences (content x)).map Unhandled.subject =
      (offences x).map Unhandled.subject) (xs : List γ) :
    ((xs.map content).flatMap offences).map Unhandled.subject =
      (xs.flatMap offences).map Unhandled.subject := by
  induction xs with
  | nil => rfl
  | cons x xs ih => simp only [List.map_cons, List.flatMap_cons, List.map_append, h x, ih]

theorem boundOffences_content (params : Option (List TypeParameter)) :
    (boundOffences (params.map (List.map TypeParameter.content))).map Unhandled.subject =
      (boundOffences params).map Unhandled.subject := by
  cases params with
  | none => rfl
  | some ps => exact flatMap_offences_content (fun p => typeOffences_content p.bound) ps

theorem Pattern.offences_rest {argument : Pattern} {loc : Option Location}
    (h : argument.isIdentifier = false) :
    (Pattern.rest argument loc).offences = [⟨.restArgument, argument.kind, loc⟩] := by
  cases argument with
  | identifier i => cases h
  | _ => rfl

theorem Pattern.offences_assignment {left : Pattern} {right : Expression} {loc : Option Location}
    (h : left.isIdentifier = false) :
    (Pattern.assignment left right loc).offences = [⟨.defaultTarget, left.kind, loc⟩] := by
  cases left with
  | identifier i => cases h
  | _ => rfl

theorem Pattern.offences_content (p : Pattern) :
    p.content.offences.map Unhandled.subject = p.offences.map Unhandled.subject := by
  cases p with
  | identifier i => exact typeOffences_content i.type
  | unknown tag loc => rfl
  | rest argument loc =>
      cases h : argument.isIdentifier with
      | true =>
          cases argument with
          | identifier i => exact typeOffences_content i.type
          | _ => cases h
      | false =>
          rw [Pattern.content_rest h, Pattern.offences_rest h, Pattern.offences_rest (by simp [h]),
            Pattern.kind_content]
          rfl
  | assignment left right loc =>
      cases h : left.isIdentifier with
      | true =>
          cases left with
          | identifier i => exact typeOffences_content i.type
          | _ => cases h
      | false =>
          rw [Pattern.content, Pattern.offences_assignment h,
            Pattern.offences_assignment (by simp [h]), Pattern.kind_content]
          rfl

theorem Signature.offences_content (f : Signature) :
    f.content.offences.map Unhandled.subject = f.offences.map Unhandled.subject := by
  simp only [Signature.offences, Signature.content, List.map_append, boundOffences_content,
    flatMap_offences_content Pattern.offences_content, typeOffences_content]

theorem TypeAlias.offences_eq (a : TypeAlias) :
    a.offences = boundOffences a.typeParams ++
      if a.right.isObject || a.right.hasTypeAlias then a.right.offences
      else [⟨.aliasRight, a.right.kind, a.loc⟩] := by
  obtain ⟨name, right, typeParams, loc⟩ := a
  cases right <;> rfl

theorem TypeAlias.offences_content (a : TypeAlias) :
    a.content.offences.map Unhandled.subject = a.offences.map Unhandled.subject := by
  rw [TypeAlias.offences_eq, TypeAlias.offences_eq]
  simp only [TypeAlias.content, List.map_append, boundOffences_content, FlowType.isObject_content,
    FlowType.hasTypeAlias_content, FlowType.kind_content]
  split
  · rw [FlowType.offences_content]
  · rfl

theorem Specifier.offences_content {role : Role} {belongs : Specifier → Bool}
    (h : ∀ s : Specifier, belongs s.content = belongs s) (s : Specifier) :
    (s.content.offences role belongs).map Unhandled.subject =
      (s.offences role belongs).map Unhandled.subject := by
  simp only [Specifier.offences, h]
  split
  · rfl
  · cases s <;> rfl

theorem Specifier.isImport_content (s : Specifier) : s.content.isImport = s.isImport := by
  cases s <;> rfl

theorem Specifier.isExport_content (s : Specifier) : s.content.isExport = s.isExport := by
  cases s <;> rfl

theorem Statement.offences_exportDefault {declaration : Statement} {loc : Option Location}
    (h : declaration.isFunction = false) :
    (Statement.exportDefault declaration loc).offences =
      [⟨.declaration, declaration.kind, loc⟩] := by
  cases declaration with
  | function f => cases h
  | _ => simp only [Statement.offences]

theorem Statement.offences_exportNamed {declaration : Statement} {specifiers : List Specifier}
    {source : Option String} {kind : Json} {loc : Option Location}
    (h : declaration.isExportable = false) :
    (Statement.exportNamed (some declaration) specifiers source kind loc).offences =
      [⟨.statement, declaration.kind, loc⟩] := by
  cases declaration with
  | function f => cases h
  | typeAlias a => cases h
  | variableDeclaration => cases h
  | _ => simp only [Statement.offences]

theorem Statement.offences_content_exportDefault (declaration : Statement) (loc : Option Location) :
    (Statement.exportDefault declaration loc).content.offences.map Unhandled.subject =
      (Statement.exportDefault declaration loc).offences.map Unhandled.subject := by
  cases h : declaration.isFunction with
  | true =>
      cases declaration with
      | function f =>
          simp only [Statement.content, Statement.offences, Signature.offences_content]
      | _ => cases h
  | false =>
      rw [Statement.content_exportDefault h, Statement.offences_exportDefault h,
        Statement.offences_exportDefault (by simpa using h), Statement.kind_content]
      rfl

theorem Statement.offences_content_exportNamed (declaration : Statement)
    (specifiers : List Specifier) (source : Option String) (kind : Json) (loc : Option Location) :
    (Statement.exportNamed (some declaration) specifiers source kind loc).content.offences.map
        Unhandled.subject =
      (Statement.exportNamed (some declaration) specifiers source kind loc).offences.map
        Unhandled.subject := by
  cases h : declaration.isExportable with
  | true =>
      cases declaration with
      | function f =>
          simp only [Statement.content, Statement.offences, Signature.offences_content]
      | typeAlias a =>
          simp only [Statement.content, Statement.offences, TypeAlias.offences_content]
      | variableDeclaration => simp only [Statement.content, Statement.offences]
      | _ => cases h
  | false =>
      rw [Statement.content_exportNamed h, Statement.offences_exportNamed h,
        Statement.offences_exportNamed (by simpa using h), Statement.kind_content]
      rfl

mutual

theorem Statement.offences_content :
    (s : Statement) → s.content.offences.map Unhandled.subject = s.offences.map Unhandled.subject
  | .function _ | .variableDeclaration .. | .exportAll .. | .declareClass .. | .unknown .. => by
      simp [Statement.content, Statement.offences, Unhandled.subject]
  | .typeAlias a => by
      simp only [Statement.content, Statement.offences, TypeAlias.offences_content]
  | .importDeclaration _ specifiers _ _ => by
      simp only [Statement.content, Statement.offences]
      exact flatMap_offences_content (Specifier.offences_content Specifier.isImport_content)
        specifiers
  | .exportDefault declaration loc => Statement.offences_content_exportDefault declaration loc
  | .exportNamed none specifiers _ _ _ => by
      simp only [Statement.content, Statement.offences]
      exact flatMap_offences_content (Specifier.offences_content Specifier.isExport_content)
        specifiers
  | .exportNamed (some declaration) specifiers source kind loc =>
      Statement.offences_content_exportNamed declaration specifiers source kind loc
  | .block b => by
      simp only [Statement.content, Statement.offences, Block.offences_content b]
  | .declareModule _ body _ => by
      simp only [Statement.content, Statement.offences, Block.offences_content body]
  | .declareTypeAlias a => by
      simp only [Statement.content, Statement.offences, TypeAlias.content, List.map_append,
        boundOffences_content, FlowType.offences_content]

theorem Block.offences_content :
    (b : Block) → b.content.offences.map Unhandled.subject = b.offences.map Unhandled.subject
  | ⟨body, _⟩ => by
      simp only [Block.content, Block.offences, statementOffences_content body]

theorem statementOffences_content : (body : List Statement) →
    (statementOffences (bodyContent body)).map Unhandled.subject =
      (statementOffences body).map Unhandled.subject
  | [] => rfl
  | s :: rest => by
      simp only [bodyContent, statementOffences, List.map_append, Statement.offences_content s,
        statementOffences_content rest]

end

/-- Programs with the same content have the same offences, but for their locations. -/
theorem Program.offences_of_content_eq {p q : Program} (h : p.content = q.content) :
    p.offences.map Unhandled.subject = q.offences.map Unhandled.subject := by
  have hp : p.content.offences.map Unhandled.subject = p.offences.map Unhandled.subject :=
    statementOffences_content p.body
  have hq : q.content.offences.map Unhandled.subject = q.offences.map Unhandled.subject :=
    statementOffences_content q.body
  rw [← hp, ← hq, h]

end Typings
