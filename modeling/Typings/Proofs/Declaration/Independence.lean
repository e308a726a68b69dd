import Typings.Proofs.Declaration.Offences
import Typings.Proofs.Declaration.Program

/-!
# What a declaration depends on

Rendering the content of a typed program is like rendering the program: it ends in the same text,
or neither has one. The content has the same offences but for their locations. So typed programs with
the same content have the same document, or their rendering ends at nodes of the same kind in the
same role.
-/

namespace Typings

variable {α β : Type}

/-! ## Failures that are not about a range -/

theorem Json.display_ne_outOfRange (v : Json) : v.display ≠ .error .outOfRange := by
  intro h
  cases (Json.display_eq_error_iff.1 h).2

theorem Json.add_one_ne_outOfRange (v : Json) : v.add (.int 1) ≠ .error .outOfRange := by
  cases v with
  | real x =>
      have h1 : Json.realOfInt 1 = .ok (Float.ofInt 1) := if_pos (by decide +kernel)
      simp [Json.add, Json.number?, Json.addNumbers, h1, Except.map]
  | _ => simp [Json.add, Json.number?, Json.addNumbers]

theorem Except.bind_ne_error {ε : Type} {r : Except ε α} {f : α → Except ε β} {e : ε}
    (h : r ≠ .error e) (hf : ∀ a, f a ≠ .error e) : (r >>= f) ≠ .error e := by
  cases r with
  | ok a => exact hf a
  | error e' =>
      intro he
      cases he
      exact h rfl

theorem Location.position_ne_outOfRange (l : Location) : l.position ≠ .error .outOfRange := by
  apply Except.bind_ne_error (Json.display_ne_outOfRange _)
  intro line
  apply Except.bind_ne_error (Json.add_one_ne_outOfRange _)
  intro column
  apply Except.bind_ne_error (Json.display_ne_outOfRange column)
  intro shown h
  cases h

theorem Unhandled.text_ne_outOfRange (u : Unhandled) : u.text ≠ .error .outOfRange := by
  have hd : u.detail ≠ .error .outOfRange := by
    apply Except.bind_ne_error (Json.display_ne_outOfRange u.kind)
    intro shown h
    cases h
  apply Except.bind_ne_error hd
  intro detail
  cases u.loc with
  | none =>
      intro h
      cases h
  | some l =>
      apply Except.bind_ne_error l.position_ne_outOfRange
      intro position h
      cases h

theorem Failure.ofUnhandled_ne_outOfRange (role : Role) (kind : Json) (loc : Option Location) :
    Failure.ofUnhandled role kind loc ≠ .malformed .outOfRange := by
  intro h
  unfold Failure.ofUnhandled at h
  dsimp only at h
  split at h
  · cases h
  · rename_i m hm
    cases h
    exact Unhandled.text_ne_outOfRange _ hm

/-! ## Outcomes that are alike -/

/-- Both outcomes are the same result, or both are that a number is out of range, or both are other
failures. -/
inductive Alike : Except Failure α → Except Failure α → Prop where
  | ok (a : α) : Alike (.ok a) (.ok a)
  | outOfRange : Alike (.error (.malformed .outOfRange)) (.error (.malformed .outOfRange))
  | failed {e e' : Failure} : e ≠ .malformed .outOfRange → e' ≠ .malformed .outOfRange →
      Alike (.error e) (.error e')

namespace Alike

theorem refl (r : Except Failure α) : Alike r r := by
  match r with
  | .ok a => exact ok a
  | .error e =>
      by_cases he : e = .malformed .outOfRange
      · rw [he]
        exact outOfRange
      · exact failed he he

theorem unhandled (role : Role) (kind : Json) (loc loc' : Option Location) :
    Alike (.error (.ofUnhandled role kind loc) : Except Failure α)
      (.error (.ofUnhandled role kind loc')) :=
  failed (Failure.ofUnhandled_ne_outOfRange role kind loc)
    (Failure.ofUnhandled_ne_outOfRange role kind loc')

theorem symm {r s : Except Failure α} (h : Alike r s) : Alike s r := by
  cases h with
  | ok a => exact ok a
  | outOfRange => exact outOfRange
  | failed h h' => exact failed h' h

theorem trans {r s t : Except Failure α} (h : Alike r s) (h' : Alike s t) : Alike r t := by
  cases h with
  | ok a => exact h'
  | outOfRange => exact h'
  | failed he he' =>
      cases h' with
      | outOfRange => exact absurd rfl he'
      | failed _ he'' => exact failed he he''

theorem bind {r s : Except Failure α} {f g : α → Except Failure β} (h : Alike r s)
    (hf : ∀ a, Alike (f a) (g a)) : Alike (r >>= f) (s >>= g) := by
  cases h with
  | ok a => exact hf a
  | outOfRange => exact outOfRange
  | failed he he' => exact failed he he'

/-- The same is done before. -/
theorem after {r : Except Failure α} {f g : α → Except Failure β}
    (hf : ∀ a, Alike (f a) (g a)) : Alike (r >>= f) (r >>= g) :=
  (refl r).bind hf

/-- The same is done afterwards. -/
theorem step {r s : Except Failure α} {f : α → Except Failure β} (h : Alike r s) :
    Alike (r >>= f) (s >>= f) :=
  h.bind fun a => refl (f a)

theorem mapM {f : β → Except Failure α} {g : β → β} {vs : List β}
    (h : ∀ v ∈ vs, Alike (f v) (f (g v))) : Alike (vs.mapM f) ((vs.map g).mapM f) := by
  induction vs with
  | nil => exact ok []
  | cons v vs ih =>
      rw [List.forall_mem_cons] at h
      rw [List.map_cons, List.mapM_cons, List.mapM_cons]
      apply h.1.bind
      intro a
      exact (ih h.2).step

/-- Gaps that can be worded are recorded. -/
theorem record (ctx : Context) {gap gap' : Gap} (h : ∀ v ∈ gap.names, v.IsText)
    (h' : gap'.hasLongInteger = false) (loc loc' : Option Location) (a : α) :
    Alike (do ctx.record gap loc; return a : Rendering α).result
      (do ctx.record gap' loc'; return a : Rendering α).result := by
  rw [Context.record_of_short (Gap.hasLongInteger_of_texts h), Context.record_of_short h']
  exact ok a

end Alike

/-! ## Shapes without a rendering -/

theorem Statement.isFlat_content (s : Statement) : s.content.isFlat = s.isFlat := by
  rw [Statement.content.eq_def]
  split <;> rfl

theorem Pattern.render_rest {argument : Pattern} {loc : Option Location}
    (h : argument.isIdentifier = false) :
    (Pattern.rest argument loc).render =
      .error (.ofUnhandled .restArgument argument.kind loc) := by
  cases argument with
  | identifier i => cases h
  | _ => rfl

theorem Pattern.render_assignment {left : Pattern} {right : Expression} {loc : Option Location}
    (h : left.isIdentifier = false) :
    (Pattern.assignment left right loc).render =
      .error (.ofUnhandled .defaultTarget left.kind loc) := by
  cases left with
  | identifier i => cases h
  | _ => rfl

theorem TypeAlias.render_of_not_object {name : Json} {right : FlowType}
    {typeParams : Option (List TypeParameter)} {loc : Option Location}
    (h : right.isObject = false) :
    TypeAlias.render ⟨name, right, typeParams, loc⟩ =
      renderTypeParams typeParams >>= fun list =>
        if right.hasTypeAlias then do
          let shown ← shownText name
          return "type " ++ shown ++ list ++ " = " ++ (← right.renderText) ++ ";"
        else .error (.ofUnhandled .aliasRight right.kind loc) := by
  cases right with
  | object => cases h
  | _ => rfl

theorem renderExportDefault_other {declaration : Statement} {loc : Option Location}
    (h : declaration.isFunction = false) :
    renderExportDefault declaration loc =
      .error (.ofUnhandled .declaration declaration.kind loc) := by
  cases declaration with
  | function f => cases h
  | _ => rfl

theorem renderExported_other {declaration : Statement} {loc : Option Location}
    (h : declaration.isExportable = false) :
    renderExported declaration loc = .error (.ofUnhandled .statement declaration.kind loc) := by
  cases declaration with
  | function f => cases h
  | typeAlias a => cases h
  | variableDeclaration => cases h
  | _ => rfl

/-! ## Annotations -/

mutual

theorem FlowType.render_content : (t : FlowType) → Alike t.render t.content.render
  | .keyword .. => .ok _
  | .function none .. => .ok _
  | .function (some params) returns rest _ => by
      rw [FlowType.content, FlowType.render_function, FlowType.render_function]
      apply (renderParams_content params).bind
      intro pieces
      apply (restPieces_content rest).bind
      intro last
      apply Alike.after
      intro list
      exact (resultText_content returns).step
  | .generic name args _ => by
      by_cases hn : name = .string "Object"
      · subst hn
        exact .ok _
      · rw [FlowType.content_generic hn, FlowType.render_generic hn, FlowType.render_generic hn]
        apply Alike.after
        intro shown
        exact (argumentText_content args).step
  | .nullable inner _ => FlowType.render_content inner
  | .object members indexers _ _ => by
      rw [FlowType.content, FlowType.render, FlowType.render]
      apply (renderMembers_content members).bind
      intro properties
      exact (renderIndexers_content indexers).step
  | .union types _ => (renderList_content types).step
  | .intersection types _ => (renderList_content types).step
  | .stringLiteral .. => .ok _
  | .booleanLiteral .. => .ok _
  | .tuple types _ => (renderList_content types).step
  | .unknown tag loc => .unhandled .type tag loc none

theorem renderList_content : (ts : List FlowType) →
    Alike (renderList ts) (renderList (typesContent ts))
  | [] => .ok []
  | t :: ts => by
      rw [typesContent, renderList, renderList]
      apply (FlowType.render_content t).bind
      intro piece
      exact (renderList_content ts).step

theorem argumentText_content : (args : Option (List FlowType)) →
    Alike (argumentText args) (argumentText (args.map typesContent))
  | none => .ok ""
  | some [] => .ok ""
  | some (t :: ts) => (renderList_content (t :: ts)).step

theorem resultText_content : (type : Option FlowType) →
    Alike (resultText type) (resultText (typeContent type))
  | none => .ok _
  | some t => (FlowType.render_content t).step

theorem FunctionParam.render_content : (p : FunctionParam) → Alike p.render p.content.render
  | ⟨name, type, optional, _⟩ => by
      rw [FunctionParam.content, FunctionParam.render, FunctionParam.render]
      apply (FlowType.render_content type).bind
      intro piece
      cases name.isPresent with
      | true => exact .refl _
      | false => exact .ok piece

theorem renderParams_content : (ps : List FunctionParam) →
    Alike (renderParams ps) (renderParams (paramsContent ps))
  | [] => .ok []
  | p :: ps => by
      rw [paramsContent, renderParams, renderParams]
      apply (FunctionParam.render_content p).bind
      intro piece
      exact (renderParams_content ps).step

theorem restPieces_content : (rest : Option FunctionParam) →
    Alike (restPieces rest) (restPieces (restContent rest))
  | none => .ok []
  | some p => by
      rw [restContent, restPieces, restPieces]
      exact (FunctionParam.render_content p).step

theorem renderMembers_content : (ms : List Member) →
    Alike (renderMembers ms) (renderMembers (membersContent ms))
  | [] => .ok ""
  | .property key value optional _ :: ms => by
      rw [membersContent, renderMembers, renderMembers]
      apply Alike.after
      intro shown
      apply (FlowType.render_content value).bind
      intro piece
      apply Alike.after
      intro type
      exact (renderMembers_content ms).step
  | .unknown tag loc :: _ => .unhandled .member tag loc none

theorem renderIndexers_content : (is : List Indexer) →
    Alike (renderIndexers is) (renderIndexers (indexersContent is))
  | [] => .ok ""
  | ⟨name, key, value, _⟩ :: is => by
      rw [indexersContent, renderIndexers, renderIndexers]
      apply (FlowType.render_content key).bind
      intro keyPiece
      apply (FlowType.render_content value).bind
      intro valuePiece
      apply Alike.after
      intro shown
      apply Alike.after
      intro keyType
      apply Alike.after
      intro valueType
      exact (renderIndexers_content is).step

end

theorem FlowType.renderText_content (t : FlowType) : Alike t.renderText t.content.renderText :=
  (FlowType.render_content t).step

/-! ## Aliases and functions -/

theorem TypeParameter.render_content (p : TypeParameter) : Alike p.render p.content.render := by
  obtain ⟨name, bound, loc⟩ := p
  cases bound with
  | none => exact .ok name
  | some t =>
      apply Alike.after
      intro shown
      exact (FlowType.renderText_content t).step

theorem renderTypeParams_content (params : Option (List TypeParameter)) :
    Alike (renderTypeParams params)
      (renderTypeParams (params.map (List.map TypeParameter.content))) := by
  match params with
  | none => exact .ok ""
  | some [] => exact .ok ""
  | some (p :: ps) => exact (Alike.mapM fun p _ => p.render_content).step

theorem Identifier.render_content (i : Identifier) : Alike i.render i.content.render := by
  obtain ⟨name, type, optional, loc⟩ := i
  cases type with
  | none => exact .refl _
  | some t =>
      simp only [Identifier.render, Identifier.content, typeContent, FlowType.isNullable_content]
      apply Alike.after
      intro shown
      exact (FlowType.renderText_content t).step

/-- Whether a rest parameter is optional does not show. -/
theorem Identifier.renderRest_content (i : Identifier) :
    Alike i.renderRest (Identifier.renderRest { i.content with optional := false }) := by
  obtain ⟨name, type, optional, loc⟩ := i
  apply Alike.after
  intro shown
  cases type with
  | none => exact .ok _
  | some t => exact (FlowType.renderText_content t).step

theorem Pattern.render_content (p : Pattern) : Alike p.render p.content.render := by
  cases p with
  | identifier i => exact Identifier.render_content i
  | unknown tag loc => exact .unhandled .parameter tag loc none
  | rest argument loc =>
      cases h : argument.isIdentifier with
      | true =>
          cases argument with
          | identifier i => exact (Identifier.renderRest_content i).step
          | _ => cases h
      | false =>
          rw [Pattern.content_rest h, Pattern.render_rest h, Pattern.render_rest (by simp [h]),
            Pattern.kind_content]
          exact .unhandled .restArgument argument.kind loc none
  | assignment left right loc =>
      cases h : left.isIdentifier with
      | true =>
          cases left with
          | identifier i => exact Identifier.render_content i
          | _ => cases h
      | false =>
          rw [Pattern.content, Pattern.render_assignment h, Pattern.render_assignment (by simp [h]),
            Pattern.kind_content]
          exact .unhandled .defaultTarget left.kind loc none

theorem renderReturns_content (type : Option FlowType) :
    Alike (renderReturns type) (renderReturns (typeContent type)) := by
  cases type with
  | none => exact .ok ""
  | some t => exact (FlowType.renderText_content t).step

theorem renderParameters_content (params : List Pattern) :
    Alike (renderParameters params) (renderParameters (params.map Pattern.content)) := by
  exact (Alike.mapM fun p _ => p.render_content).step

theorem Signature.render_content (f : Signature) : Alike f.render f.content.render := by
  apply Alike.after
  intro name
  apply (renderTypeParams_content f.typeParams).bind
  intro typeParams
  apply (renderParameters_content f.params).bind
  intro params
  exact (renderReturns_content f.returns).step

theorem TypeAlias.render_content (a : TypeAlias) : Alike a.render a.content.render := by
  obtain ⟨name, right, typeParams, loc⟩ := a
  cases h : right.isObject with
  | true =>
      cases right with
      | object members indexers exact loc =>
          apply (renderTypeParams_content typeParams).bind
          intro list
          apply Alike.after
          intro shown
          apply (renderMembers_content members).bind
          intro properties
          exact (renderIndexers_content indexers).step
      | _ => cases h
  | false =>
      rw [TypeAlias.content, TypeAlias.render_of_not_object h,
        TypeAlias.render_of_not_object (by simpa using h)]
      apply (renderTypeParams_content typeParams).bind
      intro list
      rw [FlowType.hasTypeAlias_content, FlowType.kind_content]
      split
      · apply Alike.after
        intro shown
        exact (FlowType.renderText_content right).step
      · exact .unhandled .aliasRight right.kind loc none

theorem TypeAlias.renderDeclared_content (a : TypeAlias) :
    Alike a.renderDeclared a.content.renderDeclared := by
  apply (renderTypeParams_content a.typeParams).bind
  intro typeParams
  apply Alike.after
  intro shown
  exact (FlowType.renderText_content a.right).step

/-! ## Specifiers -/

theorem Specifier.renderImport_content (ctx : Context) {s : Specifier} (h : s.Typed) :
    Alike (s.renderImport ctx).result (s.content.renderImport ctx).result := by
  cases h with
  | importNamed => exact .refl _
  | importDefault => exact .ok _
  | importNamespace hn =>
      exact .record ctx (by simpa [Gap.names] using hn) rfl _ none _
  | _ => exact .unhandled .importSpecifier _ _ _

theorem Specifier.renderExport_content (ctx : Context) {s : Specifier} (h : s.Typed) :
    Alike (s.renderExport ctx).result (s.content.renderExport ctx).result := by
  cases h with
  | exportNamed => exact .refl _
  | exportDefault he | exportNamespace he =>
      exact .record ctx (by simpa [Gap.names] using he) rfl _ none _
  | _ => exact .unhandled .exportSpecifier _ _ _

theorem startsNamed_content (specifiers : List Specifier) :
    startsNamed (specifiers.map Specifier.content) = startsNamed specifiers := by
  cases specifiers with
  | nil => rfl
  | cons s rest => cases s <;> rfl

theorem renderImport_content (ctx : Context) (source : String) {specifiers : List Specifier}
    (h : ∀ s ∈ specifiers, s.Typed) :
    Alike (renderImport ctx source specifiers).result
      (renderImport ctx source (specifiers.map Specifier.content)).result := by
  rw [renderImport, renderImport, Rendering.result_bind, Rendering.result_bind,
    Rendering.result_mapM, Rendering.result_mapM, startsNamed_content]
  have hs : ∀ s ∈ specifiers,
      Alike (s.renderImport ctx).result (s.content.renderImport ctx).result :=
    fun s hs => Specifier.renderImport_content ctx (h s hs)
  apply (Alike.mapM hs).bind
  intro pieces
  rw [Rendering.result_bind]
  exact Alike.refl _

theorem renderExport_content (ctx : Context) (source : Option String)
    {specifiers : List Specifier} (h : ∀ s ∈ specifiers, s.Typed) :
    Alike (renderExport ctx source specifiers).result
      (renderExport ctx source (specifiers.map Specifier.content)).result := by
  unfold renderExport
  rw [Rendering.result_bind, Rendering.result_bind, Rendering.result_mapM, Rendering.result_mapM]
  have hs : ∀ s ∈ specifiers,
      Alike (s.renderExport ctx).result (s.content.renderExport ctx).result :=
    fun s hs => Specifier.renderExport_content ctx (h s hs)
  apply (Alike.mapM hs).bind
  intro pieces
  rw [Rendering.result_bind]
  exact Alike.refl _

/-! ## Statements without others in them -/

theorem renderExportDefault_content (ctx : Context) (declaration : Statement)
    (loc : Option Location) :
    Alike (renderExportDefault declaration loc)
      ((Statement.exportDefault declaration loc).content.renderFlat ctx).result := by
  cases h : declaration.isFunction with
  | true =>
      cases declaration with
      | function f => exact (Signature.render_content f).step
      | _ => cases h
  | false =>
      rw [Statement.content_exportDefault h, Statement.renderFlat, renderExportDefault_other h,
        renderExportDefault_other (by simpa using h), Statement.kind_content]
      exact .unhandled .declaration declaration.kind loc none

theorem renderExported_content (ctx : Context) (declaration : Statement)
    (specifiers : List Specifier) (source : Option String) (kind : Json) (loc : Option Location) :
    Alike (renderExported declaration loc)
      ((Statement.exportNamed (some declaration) specifiers source kind loc).content.renderFlat
        ctx).result := by
  cases h : declaration.isExportable with
  | true =>
      cases declaration with
      | function f => exact (Signature.render_content f).step
      | typeAlias a => exact (TypeAlias.render_content a).step
      | variableDeclaration => exact .ok ""
      | _ => cases h
  | false =>
      rw [Statement.content_exportNamed h, Statement.renderFlat, renderExported_other h,
        renderExported_other (by simpa using h), Statement.kind_content]
      exact .unhandled .statement declaration.kind loc none

theorem Statement.renderFlat_content (ctx : Context) {s : Statement} (hf : s.isFlat)
    (h : s.Typed) : Alike (s.renderFlat ctx).result (s.content.renderFlat ctx).result := by
  cases h with
  | function hs =>
      have hn := hs.name.orElse_isText ""
      exact .record ctx (by simpa [Gap.names] using hn) rfl _ none ""
  | variableDeclaration hk => exact .record ctx (by simpa [Gap.names] using hk) rfl _ none ""
  | @typeAlias a => exact TypeAlias.render_content a
  | importDeclaration hi => exact renderImport_content ctx _ hi
  | exportDefault => exact renderExportDefault_content ctx _ _
  | @exportNamed declaration specifiers source kind loc _ he =>
      cases declaration with
      | none => exact renderExport_content ctx source he
      | some d => exact renderExported_content ctx d specifiers source kind loc
  | exportAll => exact .ok _
  | block => cases hf
  | declareModule => cases hf
  | @declareTypeAlias a => exact TypeAlias.renderDeclared_content a
  | declareClass hn => exact .record ctx (by simpa [Gap.names] using hn) rfl _ none _
  | unknown => exact .unhandled .statement _ _ none

/-! ## Statements and programs -/

mutual

theorem Statement.render_content (ctx : Context) : (s : Statement) → s.Typed → (depth : Int) →
    Alike (s.render ctx depth).result (s.content.render ctx depth).result
  | s, h, depth => by
      cases s with
      | block b =>
          rw [Statement.content, Statement.render, Statement.render]
          cases h with | block hb =>
          exact Block.render_content ctx b hb depth
      | declareModule name body loc =>
          rw [Statement.content, Statement.render, Statement.render, Rendering.result_bind,
            Rendering.result_bind]
          apply Alike.after
          intro lead
          rw [Rendering.result_bind, Rendering.result_bind]
          apply Alike.after
          intro shown
          rw [Rendering.result_bind, Rendering.result_bind]
          cases h with | declareModule _ hb _ =>
          exact (Block.render_content ctx body hb depth).step
      | _ =>
          rw [Statement.render_of_isFlat ctx rfl,
            Statement.render_of_isFlat ctx (by rw [Statement.isFlat_content]; rfl),
            Rendering.result_bind, Rendering.result_bind]
          exact (Statement.renderFlat_content ctx rfl h).step

theorem Block.render_content (ctx : Context) : (b : Block) → b.Typed → (depth : Int) →
    Alike (b.render ctx depth).result (b.content.render ctx depth).result
  | ⟨body, _⟩, .mk h _, depth => by
      rw [Block.content, Block.render, Block.render, Rendering.result_bind, Rendering.result_bind]
      exact (renderStatements_content ctx body h (depth + 1)).step

theorem renderStatements_content (ctx : Context) : (body : List Statement) →
    (∀ s ∈ body, s.Typed) → (depth : Int) →
    Alike (renderStatements ctx body depth).result
      (renderStatements ctx (bodyContent body) depth).result
  | [], _, _ => .ok []
  | s :: rest, h, depth => by
      rw [List.forall_mem_cons] at h
      rw [bodyContent, renderStatements, renderStatements, Rendering.result_bind,
        Rendering.result_bind]
      apply (Statement.render_content ctx s h.1 depth).bind
      intro text
      rw [Rendering.result_bind, Rendering.result_bind]
      exact (renderStatements_content ctx rest h.2 depth).step

end

theorem Program.render_content (ctx : Context) {p : Program} (h : p.Typed) :
    Alike (p.render ctx).result (p.content.render ctx).result := by
  rw [Program.render, Program.render, Rendering.result_bind, Rendering.result_bind]
  exact (renderStatements_content ctx p.body h.body 0).step

/-! ## Programs with the same content -/

theorem EndsAt.ne_ok {u : Unhandled} {r : Except Failure α} (h : EndsAt u r) (a : α) :
    r ≠ .ok a := by
  rintro rfl
  rcases h with ⟨-, h⟩ | ⟨-, h⟩ <;> cases h

theorem EndsAt.ne_outOfRange {u : Unhandled} {r : Except Failure α} (h : EndsAt u r) :
    r ≠ .error (.malformed .outOfRange) := by
  rintro rfl
  rcases h with ⟨-, h⟩ | ⟨-, h⟩ <;> cases h

/-- What is out of range can only be an indentation. -/
theorem Program.tooDeep_of_outOfRange {p : Program} (h : p.Typed) {ctx : Context}
    (hr : (p.render ctx).result = .error (.malformed .outOfRange)) :
    TooDeep ctx p.nesting (p.render ctx).result := by
  rcases Program.render_ends h ctx with hd | hs
  · exact hd
  · rcases hs.outcome with ⟨-, text, ht, -⟩ | ⟨u, -, hu⟩
    · cases hr.symm.trans ht
    · exact absurd hr hu.ne_outOfRange

theorem Program.offence_of_failed {p : Program} (h : p.Typed) {ctx : Context} {e : Failure}
    (hr : (p.render ctx).result = .error e) (he : e ≠ .malformed .outOfRange) :
    ∃ u, p.offences.head? = some u ∧ EndsAt u (p.render ctx).result := by
  rcases Program.render_ends h ctx with ⟨-, -, -, -, hd⟩ | hs
  · cases hr.symm.trans hd
    exact absurd rfl he
  · rcases hs.outcome with ⟨-, text, ht, -⟩ | hu
    · cases hr.symm.trans ht
    · exact hu

/-- Typed programs with the same content have the same text, or rendering of each ends at its first
offence, and these are of the same kind in the same role, or both need an indentation that is out of
range. So where the nodes are located shows only in a report, and in whether a report can be
written. -/
theorem Program.render_eq_of_content_eq {p q : Program} (hp : p.Typed) (hq : q.Typed)
    (h : p.content = q.content) (ctx : Context) :
    (∃ text, (p.render ctx).result = .ok text ∧ (q.render ctx).result = .ok text) ∨
    (∃ u v, p.offences.head? = some u ∧ q.offences.head? = some v ∧
      u.role = v.role ∧ u.kind = v.kind ∧
      EndsAt u (p.render ctx).result ∧ EndsAt v (q.render ctx).result) ∨
    TooDeep ctx p.nesting (p.render ctx).result ∧ TooDeep ctx q.nesting (q.render ctx).result := by
  have ha : Alike (p.render ctx).result (q.render ctx).result := by
    have hc := Program.render_content ctx hp
    rw [h] at hc
    exact hc.trans (Program.render_content ctx hq).symm
  generalize hr : (p.render ctx).result = r at ha ⊢
  generalize hs : (q.render ctx).result = s at ha ⊢
  cases ha with
  | ok text => exact .inl ⟨text, rfl, rfl⟩
  | outOfRange =>
      refine .inr (.inr ⟨?_, ?_⟩)
      · exact hr ▸ Program.tooDeep_of_outOfRange hp hr
      · exact hs ▸ Program.tooDeep_of_outOfRange hq hs
  | failed he he' =>
      obtain ⟨u, hu, hue⟩ := Program.offence_of_failed hp hr he
      obtain ⟨v, hv, hve⟩ := Program.offence_of_failed hq hs he'
      have huv : u.subject = v.subject := by
        have hh := congrArg List.head? (Program.offences_of_content_eq h)
        rw [List.head?_map, List.head?_map, hu, hv] at hh
        exact Option.some.inj hh
      refine .inr (.inl ⟨u, v, hu, hv, congrArg Prod.fst huv, congrArg Prod.snd huv, ?_, ?_⟩)
      · exact hr ▸ hue
      · exact hs ▸ hve

/-- An import of a whole module, a function that is not exported, and an exported interface. -/
def terseProgram : Program where
  body := [.importDeclaration "a" [.importNamespace (.string "n") none] (.string "value") none,
    .function ⟨.string "f", [], none, none, none⟩,
    .exportNamed (some (.typeAlias ⟨.string "T", .object [.property (.string "x")
      (.generic (.string "Object") none none) true none] [] false none, none, none⟩))
      [] none (.string "type") none]
  errors := []
  loc := none

/-- The same with other names, flags and locations, and with nodes of unknown kinds, all where it
does not matter. -/
def ornateProgram : Program where
  body := [.importDeclaration "a" [.importNamespace (.string "m") (some farLocation)]
      (.string "typeof") (some farLocation),
    .function ⟨.null, [.unknown (.string "ObjectPattern") none], none, none, some farLocation⟩,
    .exportNamed (some (.typeAlias ⟨.string "T", .object [.property (.string "x")
      (.generic (.string "Object") (some [.unknown (.string "TypeofTypeAnnotation") none]) none)
      true (some farLocation)] [] true none, none, some farLocation⟩))
      [.unknown (.string "ExportBatchSpecifier") none] (some "b") (.string "value") none]
  errors := [⟨.string "Unexpected token", none⟩]
  loc := some farLocation

theorem typed_terseProgram : terseProgram.Typed := by
  have hn : Located none := located_none
  refine ⟨?_, by simp [terseProgram], hn⟩
  simp only [terseProgram, List.forall_mem_cons]
  refine ⟨.importDeclaration ?_ hn, .function ?_, .exportNamed ?_ (by simp) hn, by simp⟩
  · exact List.forall_mem_singleton.2 (.importNamespace ⟨_, rfl⟩ hn)
  · exact ⟨.inr ⟨_, rfl⟩, by simp, by simp, by simp [TypedParameters], hn⟩
  · rintro _ ⟨⟩
    refine .typeAlias ⟨⟨_, rfl⟩, .object ?_ (by simp) hn, by simp [TypedParameters], hn⟩
    exact List.forall_mem_singleton.2 (.property ⟨_, rfl⟩ (.generic ⟨_, rfl⟩ (by simp) hn) hn)

theorem typed_ornateProgram : ornateProgram.Typed := by
  have hn : Located none := located_none
  have hf : Located (some farLocation) := located_farLocation
  refine ⟨?_, List.forall_mem_singleton.2 ⟨⟨_, rfl⟩, hn⟩, hf⟩
  simp only [ornateProgram, List.forall_mem_cons]
  refine ⟨.importDeclaration ?_ hf, .function ?_, .exportNamed ?_ ?_ hn, by simp⟩
  · exact List.forall_mem_singleton.2 (.importNamespace ⟨_, rfl⟩ hf)
  · refine ⟨.inl rfl, ?_, by simp, by simp [TypedParameters], hf⟩
    exact List.forall_mem_singleton.2 (.unknown ⟨_, rfl⟩ hn)
  · rintro _ ⟨⟩
    refine .typeAlias ⟨⟨_, rfl⟩, .object ?_ (by simp) hn, by simp [TypedParameters], hf⟩
    refine List.forall_mem_singleton.2 (.property ⟨_, rfl⟩ (.generic ⟨_, rfl⟩ ?_ hn) hf)
    rintro _ ⟨⟩
    exact List.forall_mem_singleton.2 (.unknown ⟨_, rfl⟩ hn)
  · exact List.forall_mem_singleton.2 (.unknown ⟨_, rfl⟩ hn)

theorem terseProgram_ornateProgram_text :
    terseProgram.Typed ∧ ornateProgram.Typed ∧ terseProgram.content = ornateProgram.content ∧
      ∃ text, (terseProgram.render ⟨"  ", ""⟩).result = .ok text ∧
        (ornateProgram.render ⟨"  ", ""⟩).result = .ok text := by
  have hc : terseProgram.content = ornateProgram.content := rfl
  have ht : (terseProgram.render ⟨"  ", ""⟩).result =
      .ok "import  from 'a';\n\nexport interface T \x7b\n  x?: object;\n\x7d\n" := rfl
  refine ⟨typed_terseProgram, typed_ornateProgram, hc, ?_⟩
  rcases Program.render_eq_of_content_eq typed_terseProgram typed_ornateProgram hc ⟨"  ", ""⟩ with
    h | ⟨u, v, -, -, -, -, h, -⟩ | ⟨⟨_, -, -, -, h⟩, -⟩
  · exact h
  · exact absurd ht (h.ne_ok _)
  · cases ht.symm.trans h

/-- A program of one statement of an unknown kind. -/
def unknownProgram (loc : Option Location) : Program :=
  ⟨[.unknown (.string "EnumDeclaration") loc], [], none⟩

theorem typed_unknownProgram {loc : Option Location} (h : Located loc) :
    (unknownProgram loc).Typed :=
  ⟨List.forall_mem_singleton.2 (.unknown ⟨_, rfl⟩ h), by simp [unknownProgram], located_none⟩

theorem unknownProgram_farLocation_differs :
    (unknownProgram none).Typed ∧ (unknownProgram (some farLocation)).Typed ∧
      (unknownProgram none).content = (unknownProgram (some farLocation)).content ∧
      ∀ ctx, ((unknownProgram none).render ctx).result =
          .error (.unhandled ⟨.statement, .string "EnumDeclaration", none⟩) ∧
        ((unknownProgram (some farLocation)).render ctx).result =
          .error (.malformed .tooManyDigits) := by
  refine ⟨typed_unknownProgram located_none, typed_unknownProgram located_farLocation, rfl,
    fun ctx => ⟨rfl, ?_⟩⟩
  have hu : Unhandled.Typed ⟨.statement, .string "EnumDeclaration", some farLocation⟩ :=
    ⟨⟨_, rfl⟩, located_farLocation⟩
  change Except.error
    (Unhandled.failure ⟨.statement, .string "EnumDeclaration", some farLocation⟩) = _
  rw [hu.failure_of_isFarOut isFarOut_farLocation]

end Typings
