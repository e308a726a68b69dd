import Typings.Proofs.Declaration.Abort
import Typings.Proofs.Syntax.Named
import Typings.Proofs.Text.Brackets

/-!
# Balanced documents

If no name and no unit of indentation has a bracket or an equals sign, the brackets of a document
close what they open. The same holds of everything a document is made of.
-/

namespace Typings

open Text (Balanced Bracketless Leaves WellNested)

/-! ## Pieces -/

theorem Shows.shownText {N : String → Prop} {v : Json} (h : Shows N v) :
    Ensures (shownText v) N :=
  fun shown hs => h shown (shownText_eq_ok_iff.1 hs)

theorem pieceText_balanced {v : Json} (h : Shows Balanced v) :
    Ensures (pieceText v) Balanced := by
  cases v with
  | string s => exact .ok (h s rfl)
  | _ => exact .error _

theorem joinPieces_balanced {separator : String} (hs : Bracketless separator) {pieces : List Json}
    (h : ∀ v ∈ pieces, Shows Balanced v) : Ensures (joinPieces separator pieces) Balanced :=
  (Ensures.mapM fun v hv => pieceText_balanced (h v hv)).bind
    fun _ ht => .ok (hs.balanced.intercalate ht)

theorem bracketless_optionalMark (optional : Bool) : Bracketless (optionalMark optional) := by
  cases optional <;> decide

theorem NamedIfAny.of_isPresent {N : String → Prop} {name : Json} (h : NamedIfAny N name)
    (hp : name.isPresent) : Shows N name := by
  apply h
  rintro rfl
  cases hp

/-! ## Annotations -/

/-- The text of the annotation, if it has one, is balanced. -/
def FlowType.Balances (t : FlowType) : Prop :=
  Ensures t.render (Shows Balanced)

theorem FlowType.Balances.renderText {t : FlowType} (h : t.Balances) :
    Ensures t.renderText Balanced :=
  h.bind fun _ hp => hp.shownText

theorem renderList_balanced {ts : List FlowType} (h : ∀ t ∈ ts, t.Balances) :
    Ensures (renderList ts) fun pieces => ∀ v ∈ pieces, Shows Balanced v := by
  induction ts with
  | nil => exact .ok (by simp)
  | cons t ts ih =>
      rw [List.forall_mem_cons] at h
      rw [renderList]
      refine h.1.bind fun piece hp => ?_
      refine (ih h.2).bind fun pieces hps => .ok ?_
      exact List.forall_mem_cons.2 ⟨hp, hps⟩

/-- Annotations between separators, and what is put around them. -/
theorem joined_balanced {separator : String} (hs : Bracketless separator) {ts : List FlowType}
    (h : ∀ t ∈ ts, t.Balances) {around : String → String}
    (ha : ∀ list, Balanced list → Balanced (around list)) :
    Ensures (do return Json.string (around (← joinPieces separator (← renderList ts))))
      (Shows Balanced) := by
  refine (renderList_balanced h).bind fun pieces hp => ?_
  exact (joinPieces_balanced hs hp).bind fun list hl => .ok (shows_string.2 (ha list hl))

theorem argumentText_balanced {args : Option (List FlowType)}
    (h : ∀ t ∈ args.getD [], t.Balances) : Ensures (argumentText args) Balanced := by
  cases args with
  | none => exact .ok .empty
  | some ts =>
      cases ts with
      | nil => exact .ok .empty
      | cons t ts =>
          refine (renderList_balanced h).bind fun pieces hp => ?_
          refine (joinPieces_balanced (by decide) hp).bind fun list hl => .ok ?_
          exact hl.wrap (b := .angle) (fun _ => ⟨rfl, by decide⟩) (fun _ => ⟨rfl, by decide⟩)

theorem resultText_balanced {returns : Option FlowType} (h : ∀ t ∈ returns.toList, t.Balances) :
    Ensures (resultText returns) Balanced := by
  cases returns with
  | none => exact .ok (Bracketless.balanced (by decide))
  | some t => exact (h t (by simp)).renderText

theorem label_balanced {name text : String} (optional : Bool) (hn : Bracketless name)
    (ht : Balanced text) : Balanced (name ++ optionalMark optional ++ ": " ++ text) := by
  have hl : Bracketless (name ++ optionalMark optional ++ ": ") :=
    (hn.append (bracketless_optionalMark optional)).append (by decide)
  exact hl.balanced.append ht

theorem FunctionParam.render_balanced {p : FunctionParam} (hn : NamedIfAny Bracketless p.name)
    (ht : p.type.Balances) : Ensures p.render (Shows Balanced) := by
  obtain ⟨name, type, optional, loc⟩ := p
  rw [FunctionParam.render]
  refine ht.bind fun piece hp => ?_
  split
  case isTrue h =>
    refine (hn.of_isPresent h).shownText.bind fun shown hs => ?_
    refine hp.shownText.bind fun type ht => .ok ?_
    exact shows_string.2 (label_balanced optional hs ht)
  case isFalse => exact .ok hp

theorem renderParams_balanced {ps : List FunctionParam}
    (hn : ∀ p ∈ ps, NamedIfAny Bracketless p.name)
    (ht : ∀ p ∈ ps, p.type.Balances) :
    Ensures (renderParams ps) fun pieces => ∀ v ∈ pieces, Shows Balanced v := by
  induction ps with
  | nil => exact .ok (by simp)
  | cons p ps ih =>
      rw [List.forall_mem_cons] at hn ht
      rw [renderParams]
      refine (FunctionParam.render_balanced hn.1 ht.1).bind fun piece hp => ?_
      refine (ih hn.2 ht.2).bind fun pieces hps => .ok ?_
      exact List.forall_mem_cons.2 ⟨hp, hps⟩

theorem restPieces_balanced {rest : Option FunctionParam}
    (hn : ∀ p ∈ rest.toList, NamedIfAny Bracketless p.name)
    (ht : ∀ p ∈ rest.toList, p.type.Balances) :
    Ensures (restPieces rest) fun pieces => ∀ v ∈ pieces, Shows Balanced v := by
  cases rest with
  | none => exact .ok (by simp)
  | some p =>
      refine (FunctionParam.render_balanced (hn p (by simp)) (ht p (by simp))).bind
        fun piece hp => ?_
      refine (pieceText_balanced hp).bind fun text h => .ok ?_
      have hd : Bracketless "..." := by decide
      exact List.forall_mem_singleton.2 (shows_string.2 (hd.balanced.append h))

theorem renderMembers_balanced {ms : List Member} (hn : ∀ m ∈ ms, m.Keyed Bracketless)
    (ht : ∀ t ∈ ms.filterMap Member.value?, t.Balances) : Ensures (renderMembers ms) Balanced := by
  induction ms with
  | nil => exact .ok .empty
  | cons m ms ih =>
      rw [List.forall_mem_cons] at hn
      cases m with
      | unknown tag loc => exact .error _
      | property key value optional loc =>
          rw [List.filterMap_cons, Member.value?, List.forall_mem_cons] at ht
          rw [renderMembers]
          refine hn.1.shownText.bind fun shown hs => ?_
          refine ht.1.bind fun piece hp => ?_
          refine hp.shownText.bind fun type htype => ?_
          refine (ih hn.2 ht.2).bind fun lines hl => .ok ?_
          have hb : Bracketless ("  " ++ shown) := Bracketless.append (by decide) hs
          have he : Bracketless ";\n" := by decide
          exact ((label_balanced optional hb htype).append he.balanced).append hl

theorem renderIndexers_balanced {is : List Indexer}
    (hn : ∀ i ∈ is, NamedIfAny Bracketless i.name)
    (ht : ∀ t ∈ is.flatMap fun i => [i.key, i.value], t.Balances) :
    Ensures (renderIndexers is) Balanced := by
  induction is with
  | nil => exact .ok .empty
  | cons i is ih =>
      obtain ⟨name, key, value, loc⟩ := i
      simp only [List.forall_mem_cons, List.flatMap_cons, List.forall_mem_append] at hn ht
      obtain ⟨⟨hk, hv, -⟩, ht⟩ := ht
      rw [renderIndexers]
      refine hk.bind fun keyPiece hkp => ?_
      refine hv.bind fun valuePiece hvp => ?_
      have hname : Shows Bracketless (name.orElse unnamedIndexer) := by
        unfold Json.orElse
        split
        case isTrue h => exact hn.1.of_isPresent h
        case isFalse => exact shows_string.2 (by decide)
      refine hname.shownText.bind fun shown hs => ?_
      refine hkp.shownText.bind fun keyType hkt => ?_
      refine hvp.shownText.bind fun valueType hvt => ?_
      refine (ih hn.2 ht).bind fun lines hl => .ok ?_
      have hc : Bracketless ": " := by decide
      have he : Bracketless ";\n" := by decide
      have hkey : Balanced ("  [" ++ (shown ++ ": " ++ keyType) ++ "]: ") :=
        ((hs.append hc).balanced.append hkt).wrap (b := .square) (fun _ => ⟨rfl, by decide⟩)
          (fun _ => ⟨rfl, by decide⟩)
      have hline := ((hkey.append hvt).append he.balanced).append hl
      simpa only [String.append_assoc] using hline

theorem body_balanced {properties indices : String} (hp : Balanced properties)
    (hi : Balanced indices) : Balanced ("\x7b\n" ++ properties ++ indices ++ "\x7d") := by
  intro opened
  have ho : Leaves opened "\x7b\n" (.curly :: opened) := ⟨rfl, by decide⟩
  exact ((ho.append (hp _)).append (hi _)).append ⟨rfl, by decide⟩

theorem FlowType.Named.balances {t : FlowType} (h : t.Named Bracketless) : t.Balances := by
  induction h with
  | @intro t hn _ ih =>
      cases t with
      | keyword k loc => exact .ok (shows_string.2 (Bracketless.balanced (by cases k <;> decide)))
      | function params returns rest loc =>
          cases params with
          | none => exact .ok (shows_string.2 (Bracketless.balanced (by decide)))
          | some params =>
              simp only [FlowType.NamedHere, FlowType.parts, Option.getD_some,
                List.forall_mem_append, List.forall_mem_map] at hn ih
              unfold FlowType.Balances
              rw [FlowType.render_function]
              refine (renderParams_balanced hn.1 ih.1.1).bind fun pieces hp => ?_
              refine (restPieces_balanced hn.2 ih.1.2).bind fun last hl => ?_
              refine (joinPieces_balanced (by decide)
                (List.forall_mem_append.2 ⟨hp, hl⟩)).bind fun list hlist => ?_
              refine (resultText_balanced ih.2).bind fun result hr => .ok ?_
              exact shows_string.2 ((hlist.wrap (b := .round) (fun _ => ⟨rfl, by decide⟩)
                (fun _ => ⟨rfl, by decide⟩)).append hr)
      | generic name args loc =>
          by_cases hname : name = .string "Object"
          · subst hname
            exact .ok (shows_string.2 (Bracketless.balanced (by decide)))
          · unfold FlowType.Balances
            rw [FlowType.render_generic hname]
            refine Shows.shownText hn |>.bind fun shown hs => ?_
            refine (argumentText_balanced ih).bind fun list hl => .ok ?_
            exact shows_string.2 ((Bracketless.balanced hs).append hl)
      | nullable inner loc => exact ih inner (by simp [FlowType.parts])
      | object members indexers exact loc =>
          simp only [FlowType.parts, List.forall_mem_append] at ih
          unfold FlowType.Balances
          rw [FlowType.render]
          refine (renderMembers_balanced hn.1 ih.1).bind fun properties hp => ?_
          refine (renderIndexers_balanced hn.2 ih.2).bind fun indices hi => .ok ?_
          exact shows_string.2 (body_balanced hp hi)
      | union types loc => exact joined_balanced (by decide) ih fun _ hl => hl
      | intersection types loc => exact joined_balanced (by decide) ih fun _ hl => hl
      | stringLiteral value raw loc => exact .ok (Shows.imp hn Bracketless.balanced)
      | booleanLiteral value raw loc => exact .ok (Shows.imp hn Bracketless.balanced)
      | tuple types loc =>
          refine joined_balanced (by decide) ih fun _ hl => ?_
          exact hl.wrap (b := .square) (fun _ => ⟨rfl, by decide⟩) (fun _ => ⟨rfl, by decide⟩)
      | unknown tag loc => exact .error _

theorem FlowType.Named.renderText_balanced {t : FlowType} (h : t.Named Bracketless) :
    Ensures t.renderText Balanced :=
  h.balances.renderText

/-! ## Signatures and aliases -/

theorem TypeParameter.Named.render_balanced {p : TypeParameter} (h : p.Named Bracketless) :
    Ensures p.render (Shows Balanced) := by
  unfold TypeParameter.render
  cases hb : p.bound with
  | none => exact .ok (h.name.imp Bracketless.balanced)
  | some bound =>
      refine h.name.shownText.bind fun shown hs => ?_
      refine (h.bound bound hb).renderText_balanced.bind fun text ht => .ok ?_
      have hc : Bracketless (shown ++ ": ") := hs.append (by decide)
      exact shows_string.2 (hc.balanced.append ht)

theorem NamedParameters.render_balanced {params : Option (List TypeParameter)}
    (h : NamedParameters Bracketless params) : Ensures (renderTypeParams params) Balanced := by
  cases params with
  | none => exact .ok .empty
  | some ps =>
      cases ps with
      | nil => exact .ok .empty
      | cons p ps =>
          refine (Ensures.mapM fun q hq => (h _ rfl q hq).render_balanced).bind fun pieces hp => ?_
          refine (joinPieces_balanced (by decide) hp).bind fun list hl => .ok ?_
          exact hl.wrap (b := .angle) (fun _ => ⟨rfl, by decide⟩) (fun _ => ⟨rfl, by decide⟩)

theorem Identifier.Named.render_balanced {i : Identifier} (h : i.Named Bracketless) :
    Ensures i.render (Shows Balanced) := by
  unfold Identifier.render
  cases ht : i.type with
  | some type =>
      refine h.name.shownText.bind fun shown hs => ?_
      refine (h.type type ht).renderText_balanced.bind fun text hb => .ok ?_
      exact shows_string.2 (label_balanced _ hs hb)
  | none =>
      cases i.optional with
      | true =>
          refine h.name.shownText.bind fun shown hs => .ok ?_
          exact shows_string.2 (hs.append (by decide)).balanced
      | false => exact .ok (h.name.imp Bracketless.balanced)

theorem Identifier.Named.renderRest_balanced {i : Identifier} (h : i.Named Bracketless) :
    Ensures i.renderRest Balanced := by
  unfold Identifier.renderRest
  refine h.name.shownText.bind fun shown hs => ?_
  have hr : Bracketless ("..." ++ shown) := Bracketless.append (by decide) hs
  cases ht : i.type with
  | none => exact .ok hr.balanced
  | some type =>
      refine (h.type type ht).renderText_balanced.bind fun text hb => .ok ?_
      have hc : Bracketless ("..." ++ shown ++ ": ") := hr.append (by decide)
      exact hc.balanced.append hb

theorem Pattern.Named.render_balanced {p : Pattern} (h : p.Named Bracketless) :
    Ensures p.render (Shows Balanced) := by
  cases h with
  | identifier hi => exact hi.render_balanced
  | rest ha =>
      cases ha with
      | identifier hi => exact hi.renderRest_balanced.bind fun _ ht => .ok (shows_string.2 ht)
      | _ => exact .error _
  | assignment hl =>
      cases hl with
      | identifier hi => exact hi.render_balanced
      | _ => exact .error _
  | unknown => exact .error _

theorem renderParameters_balanced {params : List Pattern}
    (h : ∀ p ∈ params, p.Named Bracketless) : Ensures (renderParameters params) Balanced :=
  (Ensures.mapM fun p hp => (h p hp).render_balanced).bind
    fun _ hp => joinPieces_balanced (by decide) hp

theorem renderReturns_balanced {returns : Option FlowType}
    (h : ∀ t, returns = some t → t.Named Bracketless) :
    Ensures (renderReturns returns) Balanced := by
  cases returns with
  | none => exact .ok (Bracketless.balanced (by decide))
  | some t =>
      refine (h t rfl).renderText_balanced.bind fun text ht => .ok ?_
      have hc : Bracketless ": " := by decide
      exact hc.balanced.append ht

theorem renderName_bracketless {name : Json} (h : NamedIfAny Bracketless name) :
    Ensures (renderName name) Bracketless := by
  unfold renderName
  split
  case isTrue hp =>
    refine (h.of_isPresent hp).shownText.bind fun shown hs => .ok ?_
    exact Bracketless.append (by decide) hs
  case isFalse => exact .ok (by decide)

theorem Signature.Named.render_balanced {f : Signature} (h : f.Named Bracketless) :
    Ensures f.render Balanced := by
  unfold Signature.render
  refine (renderName_bracketless h.name).bind fun name hn => ?_
  refine h.typeParams.render_balanced.bind fun typeParams ht => ?_
  refine (renderParameters_balanced h.params).bind fun params hp => ?_
  refine (renderReturns_balanced h.returns).bind fun returns hr => .ok ?_
  have hf : Bracketless "function" := by decide
  have he : Bracketless ";" := by decide
  intro opened
  have hhead := ((hf.append hn).balanced.append ht) opened
  have ho : Leaves opened "(" (.round :: opened) := ⟨rfl, by decide⟩
  have hc : Leaves (.round :: opened) ")" opened := ⟨rfl, by decide⟩
  exact ((((hhead.append ho).append (hp _)).append hc).append (hr _)).append (he.balanced _)

/-- An alias of any type, declared or not. -/
theorem definition_balanced {keyword name typeParams text : String} (hk : Bracketless keyword)
    (hn : Bracketless name) (ht : Balanced typeParams) (hr : Balanced text) :
    Balanced (keyword ++ name ++ typeParams ++ " = " ++ text ++ ";") := by
  have hs : Balanced " = " := fun _ => ⟨rfl, by decide⟩
  have he : Bracketless ";" := by decide
  exact ((((hk.append hn).balanced.append ht).append hs).append hr).append he.balanced

theorem interface_balanced {name typeParams properties indices : String} (hn : Bracketless name)
    (ht : Balanced typeParams) (hp : Balanced properties) (hi : Balanced indices) :
    Balanced ("interface " ++ name ++ typeParams ++ " \x7b\n" ++ properties ++ indices ++
      "\x7d") := by
  have hh : Bracketless ("interface " ++ name) := Bracketless.append (by decide) hn
  intro opened
  have ho : Leaves opened " \x7b\n" (.curly :: opened) := ⟨rfl, by decide⟩
  have hhead := ((hh.balanced.append ht) opened).append ho
  exact ((hhead.append (hp _)).append (hi _)).append ⟨rfl, by decide⟩

theorem TypeAlias.Named.render_balanced {a : TypeAlias} (h : a.Named Bracketless) :
    Ensures a.render Balanced := by
  obtain ⟨name, right, params, loc⟩ := a
  obtain ⟨hn, hr, hp⟩ := h
  refine hp.render_balanced.bind fun typeParams ht => ?_
  have hright := hr.renderText_balanced
  cases right with
  | object members indexers exact l =>
      obtain ⟨⟨hkeys, hnames⟩, hparts⟩ := hr
      have hbalances := fun t h => FlowType.Named.balances (hparts t h)
      simp only [FlowType.parts, List.forall_mem_append] at hbalances
      cases name with
      | string s =>
          refine (renderMembers_balanced hkeys hbalances.1).bind fun properties hprops => ?_
          refine (renderIndexers_balanced hnames hbalances.2).bind fun indices hind => .ok ?_
          exact interface_balanced (hn s rfl) ht hprops hind
      | _ => exact .error _
  | nullable => exact .error _
  | booleanLiteral => exact .error _
  | unknown => exact .error _
  | _ =>
      refine hn.shownText.bind fun shown hs => ?_
      refine hright.bind fun text htext => .ok ?_
      exact definition_balanced (by decide) hs ht htext

theorem TypeAlias.Named.renderDeclared_balanced {a : TypeAlias} (h : a.Named Bracketless) :
    Ensures a.renderDeclared Balanced := by
  refine h.typeParams.render_balanced.bind fun typeParams ht => ?_
  refine h.name.shownText.bind fun shown hs => ?_
  refine h.right.renderText_balanced.bind fun text hr => .ok ?_
  exact definition_balanced (by decide) hs ht hr

/-! ## Imports and exports -/

theorem renderRenamed_balanced {name other written : Json} (hn : Shows Bracketless name)
    (ho : Shows Bracketless other) (hw : Shows Bracketless written) :
    Ensures (renderRenamed name other written) (Shows Balanced) := by
  unfold renderRenamed
  split
  · exact .ok (hw.imp Bracketless.balanced)
  · refine hn.shownText.bind fun old hold => ?_
    refine ho.shownText.bind fun new hnew => .ok ?_
    have ha : Bracketless (old ++ " as ") := hold.append (by decide)
    exact shows_string.2 (ha.append hnew).balanced

theorem Specifier.Named.renderImport_balanced (ctx : Context) {s : Specifier}
    (h : s.Named Bracketless) :
    Ensures (s.renderImport ctx).result (Shows Balanced) := by
  cases s with
  | importNamed imported localName loc => exact renderRenamed_balanced h.1 h.2 h.1
  | importDefault localName loc => exact .ok (Shows.imp h Bracketless.balanced)
  | importNamespace localName loc => exact ctx.record_ensures _ loc (shows_string.2 .empty)
  | _ => exact .error _

theorem Specifier.Named.renderExport_balanced (ctx : Context) {s : Specifier}
    (h : s.Named Bracketless) :
    Ensures (s.renderExport ctx).result (Shows Balanced) := by
  cases s with
  | exportNamed localName exported loc => exact renderRenamed_balanced h.1 h.2 h.2
  | exportDefault exported loc => exact ctx.record_ensures _ loc (shows_string.2 .empty)
  | exportNamespace exported loc => exact ctx.record_ensures _ loc (shows_string.2 .empty)
  | _ => exact .error _

theorem braces_balanced {list : String} (h : Balanced list) :
    Balanced ("\x7b " ++ list ++ " \x7d") :=
  h.wrap (b := .curly) (fun _ => ⟨rfl, by decide⟩) (fun _ => ⟨rfl, by decide⟩)

theorem renderImport_balanced (ctx : Context) {source : String} (hs : Bracketless source)
    {specifiers : List Specifier} (h : ∀ s ∈ specifiers, s.Named Bracketless) :
    Ensures (renderImport ctx source specifiers).result Balanced := by
  rw [renderImport, Rendering.result_bind, Rendering.result_mapM]
  refine (Ensures.mapM fun s hm => (h s hm).renderImport_balanced ctx).bind fun pieces hp => ?_
  rw [Rendering.result_bind]
  refine (joinPieces_balanced (by decide) hp).bind fun list hl => .ok ?_
  have hlist : Balanced (if startsNamed specifiers then "\x7b " ++ list ++ " \x7d" else list) := by
    split
    · exact braces_balanced hl
    · exact hl
  have hi : Bracketless "import " := by decide
  have hf : Bracketless " from '" := by decide
  have he : Bracketless "';" := by decide
  exact (((hi.balanced.append hlist).append hf.balanced).append hs.balanced).append he.balanced

theorem renderExport_balanced (ctx : Context) {source : Option String}
    (hs : ∀ name, source = some name → Bracketless name) {specifiers : List Specifier}
    (h : ∀ s ∈ specifiers, s.Named Bracketless) :
    Ensures (renderExport ctx source specifiers).result Balanced := by
  unfold renderExport
  rw [Rendering.result_bind, Rendering.result_mapM]
  refine (Ensures.mapM fun s hm => (h s hm).renderExport_balanced ctx).bind fun pieces hp => ?_
  rw [Rendering.result_bind]
  refine (joinPieces_balanced (by decide) hp).bind fun list hl => .ok ?_
  intro opened
  have hopen : Leaves opened "export \x7b " (.curly :: opened) := ⟨rfl, by decide⟩
  have hclose : Leaves (.curly :: opened) " \x7d" opened := ⟨rfl, by decide⟩
  have hlist := (hopen.append (hl _)).append hclose
  have he : Bracketless ";" := by decide
  refine Leaves.append (hlist.append ?_) (he.balanced _)
  cases source with
  | none => exact Balanced.empty _
  | some name =>
      have hf : Bracketless (" from '" ++ name) := Bracketless.append (by decide) (hs name rfl)
      exact (hf.append (by decide)).balanced _

/-! ## Statements -/

theorem renderExportDefault_balanced {declaration : Statement} {loc : Option Location}
    (h : declaration.Named Bracketless) :
    Ensures (renderExportDefault declaration loc) Balanced := by
  cases h with
  | function hf =>
      refine hf.render_balanced.bind fun text ht => .ok ?_
      exact (Bracketless.balanced (by decide)).append ht
  | _ => exact .error _

theorem renderExported_balanced {declaration : Statement} {loc : Option Location}
    (h : declaration.Named Bracketless) : Ensures (renderExported declaration loc) Balanced := by
  cases h with
  | function hf =>
      refine hf.render_balanced.bind fun text ht => .ok ?_
      exact (Bracketless.balanced (by decide)).append ht
  | typeAlias ha =>
      refine ha.render_balanced.bind fun text ht => .ok ?_
      exact (Bracketless.balanced (by decide)).append ht
  | variableDeclaration => exact .ok .empty
  | _ => exact .error _

theorem Statement.Named.renderFlat_balanced (ctx : Context) {s : Statement}
    (h : s.Named Bracketless) : Ensures (s.renderFlat ctx).result Balanced := by
  cases h with
  | function | variableDeclaration => exact ctx.record_ensures _ _ .empty
  | typeAlias ha => exact ha.render_balanced
  | importDeclaration hs hi => exact renderImport_balanced ctx hs hi
  | exportDefault hd => exact renderExportDefault_balanced hd
  | @exportNamed declaration _ _ _ _ hd hx hs =>
      cases declaration with
      | none => exact renderExport_balanced ctx hs hx
      | some d => exact renderExported_balanced (hd d rfl)
  | exportAll hs =>
      have hx : Bracketless "export * from '" := by decide
      exact .ok ((hx.append hs).append (by decide)).balanced
  | block => exact .ok .empty
  | declareModule => exact .ok .empty
  | declareTypeAlias ha => exact ha.renderDeclared_balanced
  | declareClass =>
      have hc : Bracketless classStub := by decide
      exact ctx.record_ensures _ _ hc.balanced
  | unknown => exact .error _

theorem stack_balanced {texts : List String} (h : ∀ text ∈ texts, Balanced text) :
    Balanced (stack texts) := by
  have hn : Bracketless "\n\n" := by decide
  exact hn.balanced.intercalate fun text hm => h text (List.mem_filter.1 hm).1

theorem renderModule_balanced {lead body name : String} (hl : Bracketless lead)
    (hn : Bracketless name) (hb : Balanced body) :
    Balanced (renderModule lead name body) := by
  have hh : Bracketless (lead ++ "declare module '" ++ name) :=
    (hl.append (by decide)).append hn
  have hf : Bracketless "\n" := by decide
  intro opened
  have hopen : Leaves opened "' \x7b" (.curly :: opened) := ⟨rfl, by decide⟩
  have hclose : Leaves (.curly :: opened) "\x7d" opened := ⟨rfl, by decide⟩
  have header := (hh.balanced opened).append hopen
  have footer := (hl.balanced _).append hclose
  unfold renderModule
  split
  · exact (header.append (hf.balanced _)).append footer
  · have hinner := ((hb _).append (hf.balanced _)).append footer
    simpa [String.append_assoc] using (header.append (hf.balanced _)).append hinner

theorem Text.repeated_bracketless {unit : String} (h : Bracketless unit) (count : Int) :
    Ensures (Text.repeated unit count) Bracketless := by
  unfold Text.repeated
  exact .mapAfter h.copies

section

variable {ctx : Context}

theorem Context.lead_bracketless (hi : Bracketless ctx.indent) (depth : Int) :
    Ensures (ctx.lead depth).result Bracketless :=
  (Text.repeated_bracketless hi depth).mapError

theorem Context.indentText_balanced (hi : Bracketless ctx.indent) (depth : Int) {text : String}
    (h : Balanced text) : Ensures (ctx.indentText depth text).result Balanced := by
  refine Ensures.mapError ?_
  unfold Text.indentText
  split
  · exact .ok h
  · exact (Text.repeated_bracketless hi depth).map fun lead hl => h.leadText hl

mutual

theorem Statement.Named.render_balanced (hi : Bracketless ctx.indent) : {s : Statement} →
    s.Named Bracketless → (depth : Int) → Ensures (s.render ctx depth).result Balanced
  | s, h, depth => by
      cases s with
      | block b =>
          cases h with
          | block hb => exact hb.render_balanced hi depth
      | declareModule name body loc =>
          cases h with
          | declareModule hn hb =>
              rw [Statement.render, Rendering.result_bind]
              refine (Context.lead_bracketless hi depth).bind fun lead hl => ?_
              rw [Rendering.result_bind, Rendering.result_ofExcept]
              refine hn.shownText.bind fun shown hs => ?_
              rw [Rendering.result_bind]
              refine (hb.render_balanced hi depth).bind fun text ht => .ok ?_
              exact renderModule_balanced hl hs ht
      | _ =>
          rw [Statement.render_of_isFlat ctx rfl, Rendering.result_bind]
          refine (h.renderFlat_balanced ctx).bind fun text ht => ?_
          exact Context.indentText_balanced hi depth ht

theorem Block.Named.render_balanced (hi : Bracketless ctx.indent) : {b : Block} →
    b.Named Bracketless → (depth : Int) → Ensures (b.render ctx depth).result Balanced
  | ⟨body, _⟩, .mk hs, depth => by
      rw [Block.render, Rendering.result_bind]
      refine (renderStatements_balanced hi hs (depth + 1)).bind fun texts ht => .ok ?_
      exact stack_balanced ht

theorem renderStatements_balanced (hi : Bracketless ctx.indent) : {body : List Statement} →
    (∀ s ∈ body, s.Named Bracketless) → (depth : Int) →
      Ensures (renderStatements ctx body depth).result fun texts => ∀ text ∈ texts, Balanced text
  | [], _, _ => .ok (by simp)
  | s :: rest, h, depth => by
      rw [List.forall_mem_cons] at h
      rw [renderStatements, Rendering.result_bind]
      refine (h.1.render_balanced hi depth).bind fun text ht => ?_
      rw [Rendering.result_bind]
      refine (renderStatements_balanced hi h.2 depth).bind fun texts hts => .ok ?_
      exact List.forall_mem_cons.2 ⟨ht, hts⟩

end

theorem Program.Named.render_balanced (hi : Bracketless ctx.indent) {p : Program}
    (h : p.Named Bracketless) : Ensures (p.render ctx).result Balanced := by
  rw [Program.render, Rendering.result_bind]
  refine (renderStatements_balanced hi h 0).bind fun texts ht => .ok ?_
  unfold endDocument
  split
  · exact .empty
  · exact (stack_balanced ht).append (Bracketless.balanced (by decide))

/-- If there are no brackets in names and in the indentation, the brackets of every document are
well nested; so are those of every statement at any depth, whether alias, interface, import, export,
block or module, of every list of parameters and of every type. -/
theorem render_wellNested (ctx : Context) (hi : Bracketless ctx.indent) :
    (∀ p : Program, p.Named Bracketless →
      ∀ text, (p.render ctx).result = .ok text → WellNested text) ∧
    (∀ s : Statement, s.Named Bracketless →
      ∀ depth text, (s.render ctx depth).result = .ok text → WellNested text) ∧
    (∀ params : List Pattern, (∀ p ∈ params, p.Named Bracketless) →
      ∀ text, renderParameters params = .ok text → WellNested text) ∧
    ∀ t : FlowType, t.Named Bracketless →
      ∀ text, t.renderText = .ok text → WellNested text := by
  refine ⟨fun p h text ht => ?_, fun s h depth text ht => ?_, fun params h text ht => ?_,
    fun t h text ht => ?_⟩
  · exact (h.render_balanced hi text ht).wellNested
  · exact (h.render_balanced hi depth text ht).wellNested
  · exact (renderParameters_balanced h text ht).wellNested
  · exact (h.renderText_balanced text ht).wellNested

/-- A function with an optional parameter and a tuple as its result. -/
def bracketedType : FlowType :=
  .function (some [⟨.string "x", .keyword .number none, true, none⟩])
    (some (.tuple [.generic (.string "P") (some [.keyword .void none]) none] none)) none none

/-- An import, and a module with an interface that has a type parameter, a function and an
indexer. -/
def bracketedProgram : Program where
  body := [
    .importDeclaration "a" [.importNamed (.string "x") (.string "y") none] .null none,
    .declareModule (.string "m") ⟨[.typeAlias ⟨.string "T",
      .object [.property (.string "f") bracketedType false none]
        [⟨.null, .keyword .string none, .keyword .any none, none⟩] false none,
      some [⟨.string "A", none, none⟩], none⟩], none⟩ none]
  errors := []
  loc := none

theorem bracketedType_named : bracketedType.Named Bracketless := by
  have hk : ∀ k, (FlowType.keyword k none).Named Bracketless := fun _ => .leaf trivial rfl
  have hg : (FlowType.generic (.string "P") (some [.keyword .void none]) none).Named Bracketless :=
    .intro (shows_string.2 (by decide)) (List.forall_mem_singleton.2 (hk _))
  refine .of_pair ?_ rfl (hk .number) (.intro trivial (List.forall_mem_singleton.2 hg))
  exact List.forall_mem_singleton.2 fun _ => shows_string.2 (by decide)

theorem bracketedProgram_named : bracketedProgram.Named Bracketless := by
  have hk : ∀ k, (FlowType.keyword k none).Named Bracketless := fun _ => .leaf trivial rfl
  have hparams : NamedParameters Bracketless (some [⟨.string "A", none, none⟩]) := by
    rintro _ ⟨⟩
    exact List.forall_mem_singleton.2 ⟨shows_string.2 (by decide), by rintro _ ⟨⟩⟩
  have hobject : (FlowType.object [.property (.string "f") bracketedType false none]
      [⟨.null, .keyword .string none, .keyword .any none, none⟩] false none).Named Bracketless := by
    refine .intro ⟨?_, ?_⟩ ?_
    · exact List.forall_mem_singleton.2 (shows_string.2 (by decide))
    · exact List.forall_mem_singleton.2 fun h => absurd rfl h
    · exact List.forall_mem_cons.2 ⟨bracketedType_named, List.forall_mem_cons.2 ⟨hk .string,
        List.forall_mem_singleton.2 (hk .any)⟩⟩
  refine List.forall_mem_cons.2 ⟨?_, List.forall_mem_singleton.2 ?_⟩
  · refine .importDeclaration (by decide) (List.forall_mem_singleton.2 ?_)
    exact ⟨shows_string.2 (by decide), shows_string.2 (by decide)⟩
  · refine .declareModule (shows_string.2 (by decide)) (.mk (List.forall_mem_singleton.2 ?_))
    exact .typeAlias ⟨shows_string.2 (by decide), hobject, hparams⟩

theorem bracketedProgram_wellNested :
    Bracketless "  " ∧ bracketedProgram.Named Bracketless ∧
      ∃ text, (bracketedProgram.render ⟨"  ", ""⟩).result = .ok text ∧ WellNested text := by
  have hi : Bracketless "  " := by decide
  obtain ⟨text, ht⟩ : ∃ text, (bracketedProgram.render ⟨"  ", ""⟩).result = .ok text := ⟨_, rfl⟩
  exact ⟨hi, bracketedProgram_named, text, ht,
    (render_wellNested ⟨"  ", ""⟩ hi).1 _ bracketedProgram_named text ht⟩

end

end Typings
