import Typings.Proofs.Declaration.Support
import Typings.Proofs.Diagnostic.Wording
import Typings.Proofs.Outcome

/-!
# Where rendering ends

Rendering of typed syntax gives a text exactly when the syntax is supported. Otherwise it ends at
the first offence in the order of the document.
-/

namespace Typings

/-! ## Pieces -/

theorem pieceText_yields {v : Json} (h : v.IsText) : Yields (pieceText v) fun _ => True := by
  obtain ⟨s, rfl⟩ := h
  exact .ok trivial

theorem joinPieces_yields {separator : String} {pieces : List Json} (h : ∀ v ∈ pieces, v.IsText) :
    Yields (joinPieces separator pieces) fun _ => True :=
  (Yields.mapM fun v hv => pieceText_yields (h v hv)).bind fun _ _ => .ok trivial

theorem shownText_eq_ok_iff {v : Json} {shown : String} :
    shownText v = .ok shown ↔ v.display = .ok shown :=
  mapError_eq_ok_iff

theorem shownText_yields {v : Json} (h : v.IsText) : Yields (shownText v) fun _ => True := by
  obtain ⟨s, rfl⟩ := h
  exact .ok trivial

theorem OptionalName.isText {name : Json} (h : OptionalName name) (hp : name.isPresent = true) :
    name.IsText :=
  h.resolve_left fun he => absurd hp (by rw [he]; decide)

theorem OptionalName.orElse_isText {name : Json} (h : OptionalName name) (s : String) :
    (name.orElse (.string s)).IsText := by
  unfold Json.orElse
  split
  case isTrue hp => exact h.isText hp
  case isFalse => exact ⟨_, rfl⟩

/-! ## Kinds -/

theorem FlowType.Typed.kind {t : FlowType} (h : t.Typed) : t.kind.IsText := by
  cases h with
  | unknown ht _ => exact ht
  | @keyword k => exact ⟨_, rfl⟩
  | _ => exact ⟨_, rfl⟩

theorem Specifier.Typed.kind {s : Specifier} (h : s.Typed) : s.kind.IsText := by
  cases h with
  | unknown ht _ => exact ht
  | _ => exact ⟨_, rfl⟩

theorem Specifier.Typed.loc {s : Specifier} (h : s.Typed) : Located s.loc := by
  cases h <;> assumption

theorem Statement.Typed.kind {s : Statement} (h : s.Typed) : s.kind.IsText := by
  cases h with
  | unknown ht _ => exact ht
  | _ => exact ⟨_, rfl⟩

/-! ## The parts of a type -/

/-- The pieces for the rest parameter of a function type. -/
def restPieces : Option FunctionParam → Except Failure (List Json)
  | some param => do
    let text ← pieceText (← param.render)
    return [.string ("..." ++ text)]
  | none => pure []

/-- The result type of a function type. -/
def resultText : Option FlowType → Except Failure String
  | some type => type.renderText
  | none => pure defaultResult

/-- The arguments of a named type in angle brackets. -/
def argumentText : Option (List FlowType) → Except Failure String
  | some (arg :: more) => do
    let list ← joinPieces ", " (← renderList (arg :: more))
    return "<" ++ list ++ ">"
  | _ => pure ""

theorem FlowType.render_function {params : List FunctionParam} {returns : Option FlowType}
    {rest : Option FunctionParam} {loc : Option Location} :
    (FlowType.function (some params) returns rest loc).render = do
      let pieces ← renderParams params
      let last ← restPieces rest
      let list ← joinPieces ", " (pieces ++ last)
      let result ← resultText returns
      return .string ("(" ++ list ++ ") => " ++ result) := by
  cases rest <;> cases returns <;>
    simp [FlowType.render, restPieces, resultText, FlowType.renderText]

theorem replacement?_eq_none {name : Json} (h : name ≠ .string "Object") :
    replacement? name = none := by
  unfold replacement?
  split
  · exact absurd rfl h
  · rfl

theorem FlowType.render_generic {name : Json} {args : Option (List FlowType)}
    {loc : Option Location} (h : name ≠ .string "Object") :
    (FlowType.generic name args loc).render = do
      let shown ← shownText name
      let list ← argumentText args
      return .string (shown ++ list) := by
  rw [FlowType.render, replacement?_eq_none h]
  match args with
  | none => rfl
  | some [] => rfl
  | some (_ :: _) => simp [argumentText]

mutual

theorem FlowType.render_settles :
    (t : FlowType) → t.Typed → Settles t.offences t.render Json.IsText
  | .keyword .., _ => .ok ⟨_, rfl⟩
  | .function none .., _ => .ok ⟨_, rfl⟩
  | .function (some params) returns rest _, .function hp ht hr _ => by
      rw [FlowType.offences, FlowType.render_function, List.append_assoc]
      refine (renderParams_settles params (hp params rfl)).bind fun pieces hpieces => ?_
      refine (restPieces_settles rest hr).bind fun last hlast => ?_
      refine .after (joinPieces_yields (List.forall_mem_append.2 ⟨hpieces, hlast⟩)) fun list _ => ?_
      exact (resultText_settles returns ht).map fun _ _ => .ok ⟨_, rfl⟩
  | .generic name args _, .generic ht ha _ => by
      by_cases hn : name = .string "Object"
      · subst hn
        exact .ok ⟨_, rfl⟩
      · rw [FlowType.offences_generic hn, FlowType.render_generic hn]
        refine .after (shownText_yields ht) fun _ _ => ?_
        exact (argumentText_settles args ha).map fun _ _ => .ok ⟨_, rfl⟩
  | .nullable inner _, .nullable h _ => FlowType.render_settles inner h
  | .object members indexers _ _, .object hm hi _ => by
      rw [FlowType.offences, FlowType.render]
      refine (renderMembers_settles members hm).bind fun _ _ => ?_
      exact (renderIndexers_settles indexers hi).map fun _ _ => .ok ⟨_, rfl⟩
  | .union types _, .union h _ => by
      rw [FlowType.offences, FlowType.render]
      refine (renderList_settles types h).map fun pieces hpieces => ?_
      exact (joinPieces_yields hpieces).bind fun _ _ => .ok ⟨_, rfl⟩
  | .intersection types _, .intersection h _ => by
      rw [FlowType.offences, FlowType.render]
      refine (renderList_settles types h).map fun pieces hpieces => ?_
      exact (joinPieces_yields hpieces).bind fun _ _ => .ok ⟨_, rfl⟩
  | .stringLiteral .., .stringLiteral hr _ => .ok hr
  | .booleanLiteral .., .booleanLiteral hr _ => .ok hr
  | .tuple types _, .tuple h _ => by
      rw [FlowType.offences, FlowType.render]
      refine (renderList_settles types h).map fun pieces hpieces => ?_
      exact (joinPieces_yields hpieces).bind fun _ _ => .ok ⟨_, rfl⟩
  | .unknown tag loc, .unknown ht hl => Settles.failure (u := ⟨.type, tag, loc⟩) ⟨ht, hl⟩

theorem renderList_settles : (ts : List FlowType) → (∀ t ∈ ts, t.Typed) →
    Settles (listOffences ts) (renderList ts) fun pieces => ∀ v ∈ pieces, v.IsText
  | [], _ => .ok (by simp)
  | t :: ts, h => by
      rw [listOffences, renderList]
      refine (FlowType.render_settles t (h t (by simp))).bind fun piece hpiece => ?_
      refine (renderList_settles ts fun s hs => h s (by simp [hs])).map fun pieces hpieces => ?_
      exact .ok (List.forall_mem_cons.2 ⟨hpiece, hpieces⟩)

theorem argumentText_settles : (args : Option (List FlowType)) →
    (∀ ts, args = some ts → ∀ t ∈ ts, t.Typed) →
      Settles (listOffences (args.getD [])) (argumentText args) fun _ => True
  | none, _ => .ok trivial
  | some [], _ => .ok trivial
  | some (t :: ts), h => by
      refine (renderList_settles (t :: ts) (h _ rfl)).map fun pieces hpieces => ?_
      exact (joinPieces_yields hpieces).bind fun _ _ => .ok trivial

theorem resultText_settles : (type : Option FlowType) → (∀ t, type = some t → t.Typed) →
    Settles (typeOffences type) (resultText type) fun _ => True
  | none, _ => .ok trivial
  | some t, h => (FlowType.render_settles t (h t rfl)).map fun _ => shownText_yields

theorem FunctionParam.render_settles :
    (p : FunctionParam) → p.Typed → Settles p.offences p.render Json.IsText
  | ⟨name, type, _, _⟩, .mk hn ht _ => by
      rw [FunctionParam.offences, FunctionParam.render]
      refine (FlowType.render_settles type ht).map fun piece hpiece => ?_
      split
      case isFalse => exact .ok hpiece
      case isTrue hp =>
        refine (shownText_yields (hn.isText hp)).bind fun _ _ => ?_
        exact (shownText_yields hpiece).bind fun _ _ => .ok ⟨_, rfl⟩

theorem renderParams_settles : (ps : List FunctionParam) → (∀ p ∈ ps, p.Typed) →
    Settles (paramOffences ps) (renderParams ps) fun pieces => ∀ v ∈ pieces, v.IsText
  | [], _ => .ok (by simp)
  | p :: ps, h => by
      rw [paramOffences, renderParams]
      refine (FunctionParam.render_settles p (h p (by simp))).bind fun piece hpiece => ?_
      refine (renderParams_settles ps fun q hq => h q (by simp [hq])).map fun pieces hpieces => ?_
      exact .ok (List.forall_mem_cons.2 ⟨hpiece, hpieces⟩)

theorem restPieces_settles : (rest : Option FunctionParam) → (∀ p, rest = some p → p.Typed) →
    Settles (restOffences rest) (restPieces rest) fun pieces => ∀ v ∈ pieces, v.IsText
  | none, _ => .ok (by simp)
  | some p, h => by
      refine (FunctionParam.render_settles p (h p rfl)).map fun piece hpiece => ?_
      refine (pieceText_yields hpiece).bind fun text _ => .ok ?_
      exact List.forall_mem_singleton.2 ⟨_, rfl⟩

theorem renderMembers_settles : (ms : List Member) → (∀ m ∈ ms, m.Typed) →
    Settles (memberOffences ms) (renderMembers ms) fun _ => True
  | [], _ => .ok trivial
  | .property key value optional loc :: ms, h => by
      obtain ⟨hk, hv⟩ : key.IsText ∧ value.Typed := by
        cases h (.property key value optional loc) (by simp)
        exact ⟨by assumption, by assumption⟩
      rw [memberOffences, renderMembers]
      refine .after (shownText_yields hk) fun _ _ => ?_
      refine (FlowType.render_settles value hv).bind fun _ hpiece => ?_
      refine .after (shownText_yields hpiece) fun _ _ => ?_
      exact (renderMembers_settles ms fun m hm => h m (by simp [hm])).map fun _ _ => .ok trivial
  | .unknown tag loc :: ms, h => by
      obtain ⟨ht, hl⟩ : tag.IsText ∧ Located loc := by
        cases h (.unknown tag loc) (by simp)
        exact ⟨by assumption, by assumption⟩
      exact Settles.failure (u := ⟨.member, tag, loc⟩) ⟨ht, hl⟩

theorem renderIndexers_settles : (is : List Indexer) → (∀ i ∈ is, i.Typed) →
    Settles (indexerOffences is) (renderIndexers is) fun _ => True
  | [], _ => .ok trivial
  | ⟨name, key, value, loc⟩ :: is, h => by
      obtain ⟨hn, hk, hv⟩ : OptionalName name ∧ key.Typed ∧ value.Typed := by
        cases h ⟨name, key, value, loc⟩ (by simp)
        exact ⟨by assumption, by assumption, by assumption⟩
      rw [indexerOffences, renderIndexers, List.append_assoc]
      refine (FlowType.render_settles key hk).bind fun _ hkey => ?_
      refine (FlowType.render_settles value hv).bind fun _ hvalue => ?_
      refine .after (shownText_yields (hn.orElse_isText _)) fun _ _ => ?_
      refine .after (shownText_yields hkey) fun _ _ => ?_
      refine .after (shownText_yields hvalue) fun _ _ => ?_
      exact (renderIndexers_settles is fun i hi => h i (by simp [hi])).map fun _ _ => .ok trivial

end

theorem FlowType.renderText_settles {t : FlowType} (h : t.Typed) :
    Settles t.offences t.renderText fun _ => True :=
  (FlowType.render_settles t h).map fun _ => shownText_yields

/-! ## Aliases and functions -/

theorem TypeParameter.render_settles {p : TypeParameter} (h : p.Typed) :
    Settles (typeOffences p.bound) p.render Json.IsText := by
  unfold TypeParameter.render
  cases hb : p.bound with
  | none => exact .ok h.name
  | some bound =>
      refine .after (shownText_yields h.name) fun _ _ => ?_
      exact (FlowType.renderText_settles (h.bound bound hb)).map fun _ _ => .ok ⟨_, rfl⟩

theorem renderTypeParams_settles {params : Option (List TypeParameter)}
    (h : TypedParameters params) :
    Settles (boundOffences params) (renderTypeParams params) fun _ => True := by
  match params with
  | none => exact .ok trivial
  | some [] => exact .ok trivial
  | some (p :: ps) =>
      have hp : ∀ q ∈ p :: ps, Settles (typeOffences q.bound) q.render Json.IsText :=
        fun q hq => TypeParameter.render_settles (h _ rfl q hq)
      refine (Settles.mapM hp).map fun pieces hpieces => ?_
      exact (joinPieces_yields hpieces).bind fun _ _ => .ok trivial

theorem Identifier.render_settles {i : Identifier} (h : i.Typed) :
    Settles (typeOffences i.type) i.render Json.IsText := by
  unfold Identifier.render
  cases ht : i.type with
  | some type =>
      refine .after (shownText_yields h.name) fun _ _ => ?_
      exact (FlowType.renderText_settles (h.type type ht)).map fun _ _ => .ok ⟨_, rfl⟩
  | none =>
      cases i.optional with
      | true => exact .after (shownText_yields h.name) fun _ _ => .ok ⟨_, rfl⟩
      | false => exact .ok h.name

theorem Identifier.renderRest_settles {i : Identifier} (h : i.Typed) :
    Settles (typeOffences i.type) i.renderRest fun _ => True := by
  unfold Identifier.renderRest
  refine .after (shownText_yields h.name) fun _ _ => ?_
  cases ht : i.type with
  | some type => exact (FlowType.renderText_settles (h.type type ht)).map fun _ _ => .ok trivial
  | none => exact .ok trivial

theorem Pattern.render_settles {p : Pattern} (h : p.Typed) :
    Settles p.offences p.render Json.IsText := by
  match h with
  | .identifier hi => exact Identifier.render_settles hi
  | .rest (.identifier hi) _ =>
      exact (Identifier.renderRest_settles hi).map fun _ _ => .ok ⟨_, rfl⟩
  | .rest (.rest _ _) hl => exact .failure ⟨⟨_, rfl⟩, hl⟩
  | .rest (.assignment _ _ _) hl => exact .failure ⟨⟨_, rfl⟩, hl⟩
  | .rest (.unknown ht _) hl => exact .failure ⟨ht, hl⟩
  | .assignment (.identifier hi) _ _ => exact Identifier.render_settles hi
  | .assignment (.rest _ _) _ hl => exact .failure ⟨⟨_, rfl⟩, hl⟩
  | .assignment (.assignment _ _ _) _ hl => exact .failure ⟨⟨_, rfl⟩, hl⟩
  | .assignment (.unknown ht _) _ hl => exact .failure ⟨ht, hl⟩
  | .unknown ht hl => exact .failure ⟨ht, hl⟩

theorem renderName_yields {name : Json} (h : OptionalName name) :
    Yields (renderName name) fun _ => True := by
  unfold renderName
  split
  case isTrue hp => exact (shownText_yields (h.isText hp)).bind fun _ _ => .ok trivial
  case isFalse => exact .ok trivial

theorem Signature.render_settles {f : Signature} (h : f.Typed) :
    Settles f.offences f.render fun _ => True := by
  rw [Signature.offences, Signature.render, List.append_assoc]
  refine .after (renderName_yields h.name) fun _ _ => ?_
  refine (renderTypeParams_settles h.typeParams).bind fun _ _ => ?_
  have hp : Settles (f.params.flatMap Pattern.offences) (renderParameters f.params)
      fun _ => True :=
    (Settles.mapM fun p hp => Pattern.render_settles (h.params p hp)).map fun _ hpieces =>
      joinPieces_yields hpieces
  refine hp.bind fun _ _ => ?_
  have hr : Settles (typeOffences f.returns) (renderReturns f.returns) fun _ => True := by
    cases ht : f.returns with
    | none => exact .ok trivial
    | some t => exact (FlowType.renderText_settles (h.returns t ht)).map fun _ _ => .ok trivial
  exact hr.map fun _ _ => .ok trivial

theorem TypeAlias.render_settles {a : TypeAlias} (h : a.Typed) :
    Settles a.offences a.render fun _ => True := by
  obtain ⟨name, right, params, loc⟩ := a
  obtain ⟨hn, hr, hp, hl⟩ := h
  refine (renderTypeParams_settles hp).bind fun typeParams _ => ?_
  have ht : Settles right.offences (do
      let shown ← shownText name
      return "type " ++ shown ++ typeParams ++ " = " ++ (← right.renderText) ++ ";") fun _ => True :=
    .after (shownText_yields hn) fun _ _ =>
      (FlowType.renderText_settles hr).map fun _ _ => .ok trivial
  have hk := hr.kind
  cases hr with
  | object hm hi _ =>
      refine .after (pieceText_yields hn) fun _ _ => ?_
      refine (renderMembers_settles _ hm).bind fun _ _ => ?_
      exact (renderIndexers_settles _ hi).map fun _ _ => .ok trivial
  | nullable => exact .failure ⟨hk, hl⟩
  | booleanLiteral => exact .failure ⟨hk, hl⟩
  | unknown => exact .failure ⟨hk, hl⟩
  | _ => exact ht

theorem TypeAlias.renderDeclared_settles {a : TypeAlias} (h : a.Typed) :
    Settles (boundOffences a.typeParams ++ a.right.offences) a.renderDeclared fun _ => True := by
  refine (renderTypeParams_settles h.typeParams).bind fun _ _ => ?_
  refine .after (shownText_yields h.name) fun _ _ => ?_
  exact (FlowType.renderText_settles h.right).map fun _ _ => .ok trivial

/-! ## Gaps -/

theorem Gap.hasLongInteger_of_texts {gap : Gap} (h : ∀ v ∈ gap.names, v.IsText) :
    gap.hasLongInteger = false := by
  refine Gap.hasLongInteger_of_names fun v hv => ?_
  obtain ⟨s, rfl⟩ := h v hv
  rfl

theorem Context.record_settles {α : Type} {Q : α → Prop} {a : α} (ctx : Context) (gap : Gap)
    (h : ∀ v ∈ gap.names, v.IsText) (loc : Option Location) (ha : Q a) :
    Settles [] (do ctx.record gap loc; return a : Rendering α).result Q := by
  rw [Context.record_of_short (Gap.hasLongInteger_of_texts h)]
  exact .ok ha

/-! ## Specifiers -/

theorem renderRenamed_yields {name other shown : Json} (hn : name.IsText) (ho : other.IsText)
    (h : shown.IsText) : Yields (renderRenamed name other shown) Json.IsText := by
  unfold renderRenamed
  split
  · exact .ok h
  · refine (shownText_yields hn).bind fun _ _ => ?_
    exact (shownText_yields ho).bind fun _ _ => .ok ⟨_, rfl⟩

theorem Specifier.renderImport_settles (ctx : Context) {s : Specifier} (h : s.Typed) :
    Settles (s.offences .importSpecifier Specifier.isImport) (s.renderImport ctx).result
      Json.IsText := by
  have hu := fun role => Unhandled.Typed.mk (u := ⟨role, s.kind, s.loc⟩) h.kind h.loc
  cases h with
  | importNamed hi hl _ => exact renderRenamed_yields hi hl hi
  | importDefault hn _ => exact .ok hn
  | importNamespace hn _ =>
      exact ctx.record_settles (.namespaceImport _) (by simpa [Gap.names] using hn) _ ⟨_, rfl⟩
  | _ => exact .failure (hu _)

theorem Specifier.renderExport_settles (ctx : Context) {s : Specifier} (h : s.Typed) :
    Settles (s.offences .exportSpecifier Specifier.isExport) (s.renderExport ctx).result
      Json.IsText := by
  have hu := fun role => Unhandled.Typed.mk (u := ⟨role, s.kind, s.loc⟩) h.kind h.loc
  cases h with
  | exportNamed hl he _ => exact renderRenamed_yields hl he he
  | exportDefault he _ | exportNamespace he _ =>
      exact ctx.record_settles (.exportSpecifier _ _) (by simpa [Gap.names] using he) _ ⟨_, rfl⟩
  | _ => exact .failure (hu _)

theorem renderImport_settles (ctx : Context) {source : String} {specifiers : List Specifier}
    (h : ∀ s ∈ specifiers, s.Typed) :
    Settles (specifiers.flatMap (Specifier.offences .importSpecifier Specifier.isImport))
      (renderImport ctx source specifiers).result fun _ => True := by
  rw [renderImport, Rendering.result_bind, Rendering.result_mapM]
  refine (Settles.mapM fun s hs => Specifier.renderImport_settles ctx (h s hs)).map
    fun pieces hpieces => ?_
  rw [Rendering.result_bind]
  exact (joinPieces_yields hpieces).bind fun _ _ => .ok trivial

theorem renderExport_settles (ctx : Context) {source : Option String}
    {specifiers : List Specifier} (h : ∀ s ∈ specifiers, s.Typed) :
    Settles (specifiers.flatMap (Specifier.offences .exportSpecifier Specifier.isExport))
      (renderExport ctx source specifiers).result fun _ => True := by
  unfold renderExport
  rw [Rendering.result_bind, Rendering.result_mapM]
  refine (Settles.mapM fun s hs => Specifier.renderExport_settles ctx (h s hs)).map
    fun pieces hpieces => ?_
  rw [Rendering.result_bind]
  exact (joinPieces_yields hpieces).bind fun _ _ => .ok trivial

/-! ## Statements without others in them -/

/-- Whether a statement is rendered by itself, and not as a block. -/
def Statement.isFlat : Statement → Bool
  | .block _ | .declareModule .. => false
  | _ => true

theorem Statement.render_of_isFlat (ctx : Context) {s : Statement} (h : s.isFlat) (depth : Int) :
    s.render ctx depth = s.renderFlat ctx >>= ctx.indentText depth := by
  cases s with
  | block => cases h
  | declareModule => cases h
  | _ => rfl

theorem renderExportDefault_settles {declaration : Statement} {loc : Option Location}
    (h : declaration.Typed) (hl : Located loc) :
    Settles (Statement.offences (.exportDefault declaration loc))
      (renderExportDefault declaration loc) fun _ => True := by
  have hk := h.kind
  cases h with
  | function hf => exact (Signature.render_settles hf).map fun _ _ => .ok trivial
  | _ => exact .failure ⟨hk, hl⟩

theorem renderExported_settles {declaration : Statement} {loc : Option Location}
    {specifiers : List Specifier} {source : Option String} {kind : Json}
    (h : declaration.Typed) (hl : Located loc) :
    Settles (Statement.offences (.exportNamed (some declaration) specifiers source kind loc))
      (renderExported declaration loc) fun _ => True := by
  have hk := h.kind
  cases h with
  | function hf => exact (Signature.render_settles hf).map fun _ _ => .ok trivial
  | typeAlias ha => exact (TypeAlias.render_settles ha).map fun _ _ => .ok trivial
  | variableDeclaration => exact .ok trivial
  | _ => exact .failure ⟨hk, hl⟩

theorem Statement.renderFlat_settles (ctx : Context) {s : Statement} (hs : s.isFlat)
    (h : s.Typed) : Settles s.offences (s.renderFlat ctx).result fun _ => True := by
  cases h with
  | function hf =>
      have hn := hf.name.orElse_isText ""
      exact ctx.record_settles (.implementation _ _) (by simpa [Gap.names] using hn) _ trivial
  | variableDeclaration hk =>
      exact ctx.record_settles (.implementation _ _) (by simpa [Gap.names] using hk) _ trivial
  | typeAlias ha => exact TypeAlias.render_settles ha
  | importDeclaration hi _ => exact renderImport_settles ctx hi
  | exportDefault hd hl => exact renderExportDefault_settles hd hl
  | @exportNamed declaration _ _ _ _ hd he hl =>
      cases declaration with
      | none => exact renderExport_settles ctx he
      | some d => exact renderExported_settles (hd d rfl) hl
  | exportAll => exact .ok trivial
  | block => cases hs
  | declareModule => cases hs
  | declareTypeAlias ha => exact TypeAlias.renderDeclared_settles ha
  | declareClass hn =>
      exact ctx.record_settles (.declareClass _) (by simpa [Gap.names] using hn) _ trivial
  | unknown ht hl => exact .failure ⟨ht, hl⟩

end Typings
