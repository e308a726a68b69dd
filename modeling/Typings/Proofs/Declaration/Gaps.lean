import Typings.Proofs.Declaration.Abort

/-!
# What a document lacks

The gaps of a program are listed by its syntax alone, in the order of the document and down into
blocks and modules. A rendering that gives a text records exactly these; one that fails has recorded
the first of them, among them all gaps of the statements before the one that failed.
-/

namespace Typings

variable {α β : Type} {ctx : Context}

/-! ## Known gaps -/

/-- A gap as it is to be recorded, with its code and how serious it is. -/
structure KnownGap where
  severity : Severity
  code : String
  gap : Gap
  file : String
  line : Json

def KnownGap.diagnostic (k : KnownGap) : Diagnostic :=
  ⟨k.gap, k.file, k.line⟩

/-- What a diagnostic says. -/
def Diagnostic.known (d : Diagnostic) : KnownGap :=
  ⟨d.severity, d.gap.code, d.gap, d.file, d.line⟩

theorem Log.map_known_diagnostic (log : Log) :
    (log.map Diagnostic.known).map KnownGap.diagnostic = log := by
  rw [List.map_map]
  exact List.map_id log

/-- What a rendering adds to the log. -/
def Rendering.recorded (x : Rendering α) : List KnownGap :=
  x.log.map Diagnostic.known

/-! ## The gaps of syntax -/

/-- The line where a node starts; null if it has no location. -/
def startLine (loc : Option Location) : Json :=
  (loc.map fun l => l.start.line).getD .null

theorem lineOf_eq_startLine (loc : Option Location) : Location.lineOf loc = startLine loc := by
  cases loc <;> rfl

def Specifier.importGaps (file : String) : Specifier → List KnownGap
  | .importNamespace localName loc =>
    [⟨.warning, "W001", .namespaceImport localName, file, startLine loc⟩]
  | _ => []

def Specifier.exportGaps (file : String) : Specifier → List KnownGap
  | .exportDefault exported loc =>
    [⟨.warning, "W002", .exportSpecifier "Default" exported, file, startLine loc⟩]
  | .exportNamespace exported loc =>
    [⟨.warning, "W002", .exportSpecifier "Namespace" exported, file, startLine loc⟩]
  | _ => []

mutual

/-- A function or a variable has a gap only as a statement of its own, not as what is exported. -/
def Statement.gaps (file : String) : Statement → List KnownGap
  | .function f => [⟨.info, "I001", .implementation (.string "function")
      (f.name.orElse (.string "")), file, startLine f.loc⟩]
  | .variableDeclaration kind loc =>
    [⟨.info, "I001", .implementation kind (.string ""), file, startLine loc⟩]
  | .importDeclaration _ specifiers _ _ => specifiers.flatMap (Specifier.importGaps file)
  | .exportNamed none specifiers _ _ _ => specifiers.flatMap (Specifier.exportGaps file)
  | .declareClass name loc => [⟨.warning, "W003", .declareClass name, file, startLine loc⟩]
  | .block b | .declareModule _ b _ => b.gaps file
  | .exportNamed (some _) .. | .exportDefault .. | .exportAll .. | .typeAlias _
  | .declareTypeAlias _ | .unknown .. => []

def Block.gaps (file : String) : Block → List KnownGap
  | ⟨body, _⟩ => bodyGaps file body

def bodyGaps (file : String) : List Statement → List KnownGap
  | [] => []
  | s :: rest => s.gaps file ++ bodyGaps file rest

end

/-- The gaps of a program, in the order of the document. -/
def Program.gaps (file : String) (p : Program) : List KnownGap :=
  bodyGaps file p.body

/-! ## Logs of renderings -/

/-- What is recorded is the list if there is a result, and a beginning of the list if not. -/
def Records (gaps : List KnownGap) (r : Rendering α) : Prop :=
  match r.result with
  | .ok _ => r.recorded = gaps
  | .error _ => r.recorded <+: gaps

namespace Records

variable {gaps more : List KnownGap} {x : Rendering α}

theorem recorded_eq {a : α} (h : Records gaps x) (hx : x.result = .ok a) : x.recorded = gaps := by
  simpa [Records, hx] using h

theorem isPrefix (h : Records gaps x) : x.recorded <+: gaps := by
  cases hx : x.result with
  | ok a => exact (h.recorded_eq hx) ▸ List.prefix_refl x.recorded
  | error e => simpa [Records, hx] using h

theorem log_eq {a : α} (h : Records gaps x) (hx : x.result = .ok a) :
    x.log = gaps.map KnownGap.diagnostic := by
  rw [← h.recorded_eq hx]
  exact (Log.map_known_diagnostic x.log).symm

theorem log_isPrefix (h : Records gaps x) : x.log <+: gaps.map KnownGap.diagnostic := by
  have hm := h.isPrefix.map KnownGap.diagnostic
  rwa [Rendering.recorded, Log.map_known_diagnostic] at hm

theorem of_error {e : Failure} (hx : x.result = .error e) (h : x.recorded <+: gaps) :
    Records gaps x := by
  simpa [Records, hx] using h

theorem ofExcept (r : Except Failure α) : Records [] (.ofExcept r) := by
  cases r with
  | ok a => rfl
  | error e => exact List.prefix_refl []

theorem bind {f : α → Rendering β} (h : Records gaps x) (hf : ∀ a, Records more (f a)) :
    Records (gaps ++ more) (x >>= f) := by
  cases hx : x.result with
  | error e =>
      rw [Rendering.bind_of_error hx]
      exact of_error rfl (h.isPrefix.trans (List.prefix_append gaps more))
  | ok a =>
      have he : (x >>= f).recorded = gaps ++ (f a).recorded := by
        rw [Rendering.bind_of_ok hx, ← h.recorded_eq hx, Rendering.recorded, Rendering.log_of,
          List.map_append]
        rfl
      have hb : (x >>= f).result = (f a).result := by
        rw [Rendering.bind_of_ok hx]
        rfl
      cases hr : (f a).result with
      | error e =>
          refine of_error (hb.trans hr) ?_
          rw [he]
          exact (List.prefix_append_right_inj gaps).2 (hf a).isPrefix
      | ok b =>
          rw [Records, hb, hr, he, (hf a).recorded_eq hr]

/-- What records nothing comes after. -/
theorem andThen {f : α → Rendering β} (h : Records gaps x) (hf : ∀ a, Records [] (f a)) :
    Records gaps (x >>= f) := by
  simpa using h.bind hf

/-- What records nothing comes before. -/
theorem after {f : α → Rendering β} (h : Records [] x) (hf : ∀ a, Records gaps (f a)) :
    Records gaps (x >>= f) := by
  simpa using h.bind hf

theorem mapM {f : β → Rendering α} {gapsOf : β → List KnownGap} (h : ∀ v, Records (gapsOf v) (f v))
    (vs : List β) : Records (vs.flatMap gapsOf) (vs.mapM f) := by
  induction vs with
  | nil => exact ofExcept (.ok [])
  | cons v vs ih =>
      rw [List.mapM_cons, List.flatMap_cons]
      apply (h v).bind
      intro a
      apply ih.andThen
      intro as
      exact ofExcept (.ok (a :: as))

/-- A gap that can be worded is recorded with the line where the node starts. -/
theorem record (gap : Gap) (loc : Option Location) (a : α) :
    Records [⟨gap.severity, gap.code, gap, ctx.file, startLine loc⟩]
      (do ctx.record gap loc; return a) := by
  cases h : gap.hasLongInteger with
  | true =>
      rw [Context.record_of_long h]
      exact of_error rfl List.nil_prefix
  | false =>
      rw [Context.record_of_short h, lineOf_eq_startLine]
      rfl

end Records

/-! ## Statements without others in them -/

theorem Specifier.renderImport_records (s : Specifier) :
    Records (s.importGaps ctx.file) (s.renderImport ctx) := by
  cases s with
  | importNamespace localName loc => exact Records.record _ loc _
  | _ => exact Records.ofExcept _

theorem Specifier.renderExport_records (s : Specifier) :
    Records (s.exportGaps ctx.file) (s.renderExport ctx) := by
  cases s with
  | exportDefault exported loc => exact Records.record _ loc _
  | exportNamespace exported loc => exact Records.record _ loc _
  | _ => exact Records.ofExcept _

theorem renderImport_records (source : String) (specifiers : List Specifier) :
    Records (specifiers.flatMap (Specifier.importGaps ctx.file))
      (renderImport ctx source specifiers) := by
  apply (Records.mapM Specifier.renderImport_records specifiers).andThen
  intro pieces
  apply (Records.ofExcept _).andThen
  intro list
  exact Records.ofExcept _

theorem renderExport_records (source : Option String) (specifiers : List Specifier) :
    Records (specifiers.flatMap (Specifier.exportGaps ctx.file))
      (renderExport ctx source specifiers) := by
  apply (Records.mapM Specifier.renderExport_records specifiers).andThen
  intro pieces
  apply (Records.ofExcept _).andThen
  intro list
  exact Records.ofExcept _

theorem Statement.renderFlat_records {s : Statement} (h : s.isFlat) :
    Records (s.gaps ctx.file) (s.renderFlat ctx) := by
  cases s with
  | function f => rw [Statement.gaps]; exact Records.record _ f.loc _
  | variableDeclaration kind loc => rw [Statement.gaps]; exact Records.record _ loc _
  | declareClass name loc => rw [Statement.gaps]; exact Records.record _ loc _
  | importDeclaration source specifiers kind loc =>
      rw [Statement.gaps]
      exact renderImport_records source specifiers
  | exportNamed declaration specifiers source kind loc =>
      cases declaration with
      | none =>
          rw [Statement.gaps]
          exact renderExport_records source specifiers
      | some d =>
          rw [Statement.gaps]
          exact Records.ofExcept _
  | block => cases h
  | declareModule => cases h
  | _ =>
      rw [Statement.gaps]
      exact Records.ofExcept _

/-! ## Statements and blocks -/

mutual

theorem Statement.render_records (ctx : Context) : (s : Statement) → (depth : Int) →
    Records (s.gaps ctx.file) (s.render ctx depth)
  | s, depth => by
      cases s with
      | block b =>
          rw [Statement.gaps, Statement.render]
          exact Block.render_records ctx b depth
      | declareModule name body loc =>
          rw [Statement.gaps, Statement.render]
          apply (Records.ofExcept _).after
          intro lead
          apply (Records.ofExcept _).after
          intro shown
          apply (Block.render_records ctx body depth).andThen
          intro text
          exact Records.ofExcept _
      | _ =>
          rw [Statement.render_of_isFlat ctx rfl]
          apply (Statement.renderFlat_records rfl).andThen
          intro text
          exact Records.ofExcept _

theorem Block.render_records (ctx : Context) : (b : Block) → (depth : Int) →
    Records (b.gaps ctx.file) (b.render ctx depth)
  | ⟨body, _⟩, depth => by
      rw [Block.gaps, Block.render]
      apply (renderStatements_records ctx body (depth + 1)).andThen
      intro texts
      exact Records.ofExcept _

theorem renderStatements_records (ctx : Context) : (body : List Statement) → (depth : Int) →
    Records (bodyGaps ctx.file body) (renderStatements ctx body depth)
  | [], _ => Records.ofExcept _
  | s :: rest, depth => by
      rw [bodyGaps, renderStatements]
      apply (Statement.render_records ctx s depth).bind
      intro text
      apply (renderStatements_records ctx rest depth).andThen
      intro texts
      exact Records.ofExcept _

end

theorem Program.render_records (ctx : Context) (p : Program) :
    Records (p.gaps ctx.file) (p.render ctx) := by
  apply (renderStatements_records ctx p.body 0).andThen
  intro texts
  exact Records.ofExcept _

/-! ## The statement that failed -/

theorem renderStatements_error {depth : Int} {e : Failure} {body : List Statement}
    (h : (renderStatements ctx body depth).result = .error e) :
    ∃ before s after texts, body = before ++ s :: after ∧
      (renderStatements ctx before depth).result = .ok texts ∧
      (s.render ctx depth).result = .error e ∧
      (renderStatements ctx body depth).log =
        (renderStatements ctx before depth).log ++ (s.render ctx depth).log := by
  induction body with
  | nil => cases h
  | cons s rest ih =>
      rw [renderStatements] at h ⊢
      cases hr : (s.render ctx depth).result with
      | error e' =>
          rw [Rendering.bind_of_error hr] at h ⊢
          cases h
          exact ⟨[], s, rest, [], rfl, rfl, hr, rfl⟩
      | ok text =>
          rw [Rendering.bind_of_ok hr] at h ⊢
          cases hl : (renderStatements ctx rest depth).result with
          | ok texts =>
              rw [Rendering.bind_of_ok hl] at h
              cases h
          | error e' =>
              rw [Rendering.bind_of_error hl] at h ⊢
              cases h
              obtain ⟨before, t, after, texts, rfl, hb, ht, hlog⟩ := ih hl
              have hbefore : renderStatements ctx (s :: before) depth = .of (.ok (text :: texts))
                  ((s.render ctx depth).log ++ (renderStatements ctx before depth).log) := by
                rw [renderStatements, Rendering.bind_of_ok hr, Rendering.bind_of_ok hb]
                exact Rendering.ext rfl (by simp)
              refine ⟨s :: before, t, after, text :: texts, rfl, by rw [hbefore]; rfl, ht, ?_⟩
              rw [hbefore, Rendering.log_of, Rendering.log_of, Rendering.log_of, hlog,
                List.append_assoc]

/-- A rendering that gives a text records the gaps of the program, no more and no less, in the order
of the document, each with its code, the file, and the line where its node starts. One that fails at
a statement records the gaps of those before it and a beginning of its own, hence a beginning of the
gaps of the program. -/
theorem Program.render_log (ctx : Context) (p : Program) :
    match (p.render ctx).result with
    | .ok _ => (p.render ctx).recorded = p.gaps ctx.file
    | .error e =>
      (p.render ctx).recorded <+: p.gaps ctx.file ∧
      ∃ before s after text part, p.body = before ++ s :: after ∧
        (Program.render ctx { p with body := before }).result = .ok text ∧
        (s.render ctx 0).result = .error e ∧
        (p.render ctx).recorded = bodyGaps ctx.file before ++ part ∧ part <+: s.gaps ctx.file := by
  split
  case h_1 text h => exact (p.render_records ctx).recorded_eq h
  case h_2 e h =>
    refine ⟨(p.render_records ctx).isPrefix, ?_⟩
    have hb : (renderStatements ctx p.body 0).result = .error e := by
      rw [Program.render, Rendering.result_bind] at h
      cases hr : (renderStatements ctx p.body 0).result with
      | ok texts => rw [hr] at h; cases h
      | error e' => rw [hr] at h; cases h; rfl
    obtain ⟨before, s, after, texts, hbody, ht, hs, hlog⟩ := renderStatements_error hb
    refine ⟨before, s, after, endDocument (stack texts), _, hbody, ?_, hs, ?_,
      (Statement.render_records ctx s 0).isPrefix⟩
    · rw [Program.render, Rendering.result_bind, ht]
      rfl
    · rw [← (renderStatements_records ctx before 0).recorded_eq ht, Program.render,
        Rendering.bind_of_error hb, Rendering.recorded, Rendering.log_of, hlog, List.map_append]
      rfl

/-- One gap of every code, one of them in a module; the exported variable has none. -/
example :
    (Program.gaps "index.js" ⟨[
      .importDeclaration "a" [.importDefault (.string "b") none,
        .importNamespace (.string "c") none] .null none,
      .exportNamed (some (.variableDeclaration (.string "const") none)) [] none .null none,
      .declareModule (.string "m") ⟨[.declareClass (.string "D") none,
        .variableDeclaration (.string "let") none], none⟩ none,
      .exportNamed none [.exportNamespace (.string "d") none] (some "e") .null none],
      [], none⟩).map (·.code) = ["W001", "W003", "I001", "W002"] := rfl

end Typings
