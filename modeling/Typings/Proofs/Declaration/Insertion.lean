import Typings.Proofs.Declaration.Assembly
import Typings.Proofs.Declaration.Gaps

/-!
# Statements that are dropped

Functions and variables that are not exported, exported variables, and blocks of nothing else leave
no text in a document. They may be put in anywhere, at the top or down in blocks and modules: the
outcome stays the same, and what is recorded besides is one remark for each function or variable
that is not exported, at its place in the document. The one exception is a remark that can not be
worded.
-/

namespace Typings

variable {α β γ : Type} {ctx : Context}

/-! ## Dropped statements -/

mutual

/-- Whether a statement leaves no text in the document. -/
def Statement.isDropped : Statement → Bool
  | .function _ | .variableDeclaration .. => true
  | .exportNamed (some (.variableDeclaration ..)) .. => true
  | .block b => b.isDropped
  | _ => false

def Block.isDropped : Block → Bool
  | ⟨body, _⟩ => bodyIsDropped body

def bodyIsDropped : List Statement → Bool
  | [] => true
  | s :: rest => s.isDropped && bodyIsDropped rest

end

mutual

/-- One remark for each function or variable in a dropped statement that is not exported. -/
def Statement.remarks (ctx : Context) : Statement → Log
  | .function f => [⟨.implementation (.string "function") (f.name.orElse (.string "")), ctx.file,
      startLine f.loc⟩]
  | .variableDeclaration kind loc =>
    [⟨.implementation kind (.string ""), ctx.file, startLine loc⟩]
  | .block b => b.remarks ctx
  | _ => []

def Block.remarks (ctx : Context) : Block → Log
  | ⟨body, _⟩ => bodyRemarks ctx body

def bodyRemarks (ctx : Context) : List Statement → Log
  | [] => []
  | s :: rest => s.remarks ctx ++ bodyRemarks ctx rest

end

theorem stack_of_forall_empty {texts : List String} (h : ∀ text ∈ texts, text = "") :
    stack texts = "" := by
  apply stack_of_filter_eq_nil
  simpa using h

theorem Context.indentText_empty (ctx : Context) (depth : Int) :
    ctx.indentText depth "" = pure "" := by
  rw [Context.indentText, Text.indentText, if_pos (.inr rfl)]
  rfl

/-- A rendering records the remarks, and nothing is left but a result of no interest. If one of the
remarks can not be worded, the rendering ends there. -/
inductive Drops (remarks : Log) (Q : α → Prop) (x : Rendering α) : Prop where
  | ok {a} : Q a → x = .of (.ok a) remarks → Drops remarks Q x
  | unworded {log} : remarks.isWorded = false → log <+: remarks →
      x = .of (.error (.malformed .tooManyDigits)) log → Drops remarks Q x

namespace Drops

variable {remarks more : Log} {Q : α → Prop} {R : β → Prop} {x : Rendering α}

theorem bind {f : α → Rendering β} (h : Drops remarks Q x) (hf : ∀ a, Q a → Drops more R (f a)) :
    Drops (remarks ++ more) R (x >>= f) := by
  cases h with
  | unworded hw hl hx =>
      subst hx
      refine .unworded ?_ (hl.trans (List.prefix_append remarks more)) (Rendering.bind_of_error rfl)
      rw [Log.isWorded_append, hw, Bool.false_and]
  | @ok a ha hx =>
      subst hx
      rw [Rendering.bind_of_ok rfl]
      cases hf a ha with
      | ok hb hx => exact .ok hb (by simp [hx])
      | unworded hw hl hx =>
          refine .unworded ?_ ((List.prefix_append_right_inj remarks).2 hl) (by simp [hx])
          rw [Log.isWorded_append, hw, Bool.and_false]

theorem map {f : α → β} (h : Drops remarks Q x) (hf : ∀ a, Q a → R (f a)) :
    Drops remarks R (x >>= fun a => pure (f a)) := by
  have hb : Drops (remarks ++ []) R (x >>= fun a => pure (f a)) :=
    h.bind fun a ha => .ok (hf a ha) (Rendering.ext rfl rfl)
  rwa [List.append_nil] at hb

theorem record (ctx : Context) (gap : Gap) (loc : Option Location) (a : α) :
    Drops [⟨gap, ctx.file, startLine loc⟩] (· = a) (do ctx.record gap loc; return a) := by
  cases h : gap.hasLongInteger with
  | false =>
      rw [Context.record_of_short h, lineOf_eq_startLine]
      exact .ok rfl rfl
  | true =>
      rw [Context.record_of_long h]
      exact .unworded (by simp [Log.isWorded, h]) List.nil_prefix rfl

end Drops

theorem Statement.render_drops_of_renderFlat (ctx : Context) {s : Statement} (hf : s.isFlat)
    {remarks : Log} (h : Drops remarks (· = "") (s.renderFlat ctx)) (depth : Int) :
    Drops remarks (· = "") (s.render ctx depth) := by
  rw [Statement.render_of_isFlat ctx hf]
  have hb : Drops (remarks ++ []) (· = "") (s.renderFlat ctx >>= ctx.indentText depth) := by
    apply h.bind
    rintro _ rfl
    exact .ok rfl ((ctx.indentText_empty depth).trans (Rendering.ext rfl rfl))
  rwa [List.append_nil] at hb

mutual

theorem Statement.render_drops (ctx : Context) : (s : Statement) → s.isDropped →
    (depth : Int) → Drops (s.remarks ctx) (· = "") (s.render ctx depth)
  | s, h, depth => by
      cases s with
      | block b =>
          rw [Statement.isDropped] at h
          rw [Statement.render, Statement.remarks]
          exact Block.render_drops ctx b h depth
      | function f =>
          rw [Statement.remarks]
          exact Statement.render_drops_of_renderFlat ctx rfl (.record ctx _ f.loc "") depth
      | variableDeclaration kind loc =>
          rw [Statement.remarks]
          exact Statement.render_drops_of_renderFlat ctx rfl (.record ctx _ loc "") depth
      | exportNamed declaration specifiers source kind loc =>
          cases declaration with
          | none => simp [Statement.isDropped] at h
          | some d =>
              cases d with
              | variableDeclaration =>
                  simp only [Statement.remarks]
                  apply Statement.render_drops_of_renderFlat ctx rfl
                  exact .ok rfl (Rendering.ext rfl rfl)
              | _ => simp [Statement.isDropped] at h
      | _ => simp [Statement.isDropped] at h

theorem Block.render_drops (ctx : Context) : (b : Block) → b.isDropped → (depth : Int) →
    Drops (b.remarks ctx) (· = "") (b.render ctx depth)
  | ⟨body, _⟩, h, depth => by
      rw [Block.render, Block.remarks]
      exact (renderStatements_drops ctx body h (depth + 1)).map fun _ => stack_of_forall_empty

theorem renderStatements_drops (ctx : Context) : (body : List Statement) →
    bodyIsDropped body → (depth : Int) →
      Drops (bodyRemarks ctx body) (fun texts => ∀ text ∈ texts, text = "")
        (renderStatements ctx body depth)
  | [], _, _ => .ok (by simp) (Rendering.ext rfl rfl)
  | s :: rest, h, depth => by
      rw [bodyIsDropped, Bool.and_eq_true] at h
      rw [renderStatements, bodyRemarks]
      apply (Statement.render_drops ctx s h.1 depth).bind
      rintro _ rfl
      apply (renderStatements_drops ctx rest h.2 depth).map
      intro texts ht
      simpa using ht

end

/-! ## Insertions -/

mutual

/-- A statement, and what is put into the blocks and modules in it. -/
inductive Insertion where
  | keep (s : Statement)
  | block (body : BodyInsertion) (loc : Option Location)
  | declareModule (name : Json) (body : BodyInsertion) (bodyLoc loc : Option Location)
  | exportDefault (declaration : Insertion) (loc : Option Location)
  | exportNamed (declaration : Insertion) (specifiers : List Specifier) (source : Option String)
      (kind : Json) (loc : Option Location)

/-- Statements, and the dropped statements that are put in between them and into them. -/
inductive BodyInsertion where
  | nil
  | keep (s : Insertion) (rest : BodyInsertion)
  | insert (s : Statement) (dropped : s.isDropped) (rest : BodyInsertion)

end

mutual

def Insertion.before : Insertion → Statement
  | .keep s => s
  | .block body loc => .block ⟨body.before, loc⟩
  | .declareModule name body bodyLoc loc => .declareModule name ⟨body.before, bodyLoc⟩ loc
  | .exportDefault declaration loc => .exportDefault declaration.before loc
  | .exportNamed declaration specifiers source kind loc =>
    .exportNamed (some declaration.before) specifiers source kind loc

def BodyInsertion.before : BodyInsertion → List Statement
  | .nil => []
  | .keep s rest => s.before :: rest.before
  | .insert _ _ rest => rest.before

end

mutual

def Insertion.after : Insertion → Statement
  | .keep s => s
  | .block body loc => .block ⟨body.after, loc⟩
  | .declareModule name body bodyLoc loc => .declareModule name ⟨body.after, bodyLoc⟩ loc
  | .exportDefault declaration loc => .exportDefault declaration.after loc
  | .exportNamed declaration specifiers source kind loc =>
    .exportNamed (some declaration.after) specifiers source kind loc

def BodyInsertion.after : BodyInsertion → List Statement
  | .nil => []
  | .keep s rest => s.after :: rest.after
  | .insert s _ rest => s :: rest.after

end

/-! ## Marked logs -/

/-- A log in which what is there because of an insertion is marked. -/
abbrev MarkedLog := List (Diagnostic × Bool)

def Log.marked (log : Log) (mark : Bool) : MarkedLog :=
  log.map fun d => (d, mark)

namespace MarkedLog

def entries (m : MarkedLog) : Log :=
  m.map Prod.fst

/-- What is there without the insertions. -/
def kept (m : MarkedLog) : Log :=
  (m.filter fun d => !d.2).map Prod.fst

/-- What is there because of the insertions. -/
def inserted (m : MarkedLog) : Log :=
  (m.filter fun d => d.2).map Prod.fst

@[simp] theorem entries_append (m n : MarkedLog) : entries (m ++ n) = entries m ++ entries n :=
  List.map_append

@[simp] theorem kept_append (m n : MarkedLog) : kept (m ++ n) = kept m ++ kept n := by
  simp [kept]

@[simp] theorem inserted_append (m n : MarkedLog) :
    inserted (m ++ n) = inserted m ++ inserted n := by
  simp [inserted]

@[simp] theorem entries_marked (log : Log) (mark : Bool) :
    entries (Log.marked log mark) = log := by
  simp [entries, Log.marked, Function.comp_def]

@[simp] theorem kept_marked_false (log : Log) : kept (Log.marked log false) = log := by
  simp [kept, Log.marked, List.filter_map, Function.comp_def]

@[simp] theorem kept_marked_true (log : Log) : kept (Log.marked log true) = [] := by
  simp [kept, Log.marked, List.filter_map, Function.comp_def]

@[simp] theorem inserted_marked_true (log : Log) : inserted (Log.marked log true) = log := by
  simp [inserted, Log.marked, List.filter_map, Function.comp_def]

theorem marked_prefix {log gaps : Log} (h : log <+: gaps) (mark : Bool) :
    Log.marked log mark <+: Log.marked gaps mark :=
  h.map _

end MarkedLog

mutual

/-- The gaps of a statement with the remarks on what is put into it, in the order of the
document. -/
def Insertion.log (ctx : Context) : Insertion → MarkedLog
  | .keep s => Log.marked ((s.gaps ctx.file).map KnownGap.diagnostic) false
  | .block body _ | .declareModule _ body _ _ => body.log ctx
  | .exportDefault .. | .exportNamed .. => []

def BodyInsertion.log (ctx : Context) : BodyInsertion → MarkedLog
  | .nil => []
  | .keep s rest => s.log ctx ++ rest.log ctx
  | .insert s _ rest => (s.remarks ctx).marked true ++ rest.log ctx

end

/-! ## Renderings with and without insertions -/

/-- Two renderings end alike, both with a result or with one and the same failure. The logs are what
is kept of the marked log and all of it, up to the point where the renderings fail. If a gap because
of an insertion can not be worded, the second rendering may also end there. -/
inductive Shadows (marks : MarkedLog) (R : α → β → Prop) (x : Rendering α) (y : Rendering β) :
    Prop where
  | ok {a b} : R a b → x.result = .ok a → y.result = .ok b → x.log = marks.kept →
      y.log = marks.entries → Shadows marks R x y
  | error {m : MarkedLog} {e} : m <+: marks → x.result = .error e → y.result = .error e →
      x.log = m.kept → y.log = m.entries → Shadows marks R x y
  | unworded : marks.inserted.isWorded = false → y.log <+: marks.entries →
      y.result = .error (.malformed .tooManyDigits) → Shadows marks R x y

namespace Shadows

variable {marks more : MarkedLog} {R : α → β → Prop} {x : Rendering α} {y : Rendering β}

theorem bind {α' β' : Type} {S : α' → β' → Prop} {f : α → Rendering α'} {g : β → Rendering β'}
    (h : Shadows marks R x y) (hf : ∀ a b, R a b → Shadows more S (f a) (g b)) :
    Shadows (marks ++ more) S (x >>= f) (y >>= g) := by
  cases h with
  | unworded hw hl hy =>
      rw [Rendering.bind_of_error hy]
      refine .unworded ?_ ?_ rfl
      · rw [MarkedLog.inserted_append, Log.isWorded_append, hw, Bool.false_and]
      · rw [MarkedLog.entries_append]
        exact hl.trans (List.prefix_append _ _)
  | error hm hx hy hk he =>
      rw [Rendering.bind_of_error hx, Rendering.bind_of_error hy]
      exact .error (hm.trans (List.prefix_append marks more)) rfl rfl hk he
  | @ok a b hab hx hy hk he =>
      rw [Rendering.bind_of_ok hx, Rendering.bind_of_ok hy]
      cases hf a b hab with
      | ok hs hx' hy' hk' he' => exact .ok hs hx' hy' (by simp [hk, hk']) (by simp [he, he'])
      | error hm hx' hy' hk' he' =>
          exact .error ((List.prefix_append_right_inj marks).2 hm) hx' hy' (by simp [hk, hk'])
            (by simp [he, he'])
      | unworded hw hl hy' =>
          refine .unworded ?_ ?_ hy'
          · rw [MarkedLog.inserted_append, Log.isWorded_append, hw, Bool.and_false]
          · rw [Rendering.log_of, MarkedLog.entries_append, he]
            exact (List.prefix_append_right_inj _).2 hl

theorem map {α' β' : Type} {S : α' → β' → Prop} {f : α → α'} {g : β → β'}
    (h : Shadows marks R x y) (hf : ∀ a b, R a b → S (f a) (g b)) :
    Shadows marks S (x >>= fun a => pure (f a)) (y >>= fun b => pure (g b)) := by
  have hb : Shadows (marks ++ []) S (x >>= fun a => pure (f a)) (y >>= fun b => pure (g b)) := by
    apply h.bind
    intro a b hab
    exact .ok (hf a b hab) rfl rfl rfl rfl
  rwa [List.append_nil] at hb

theorem mapRight {β' : Type} {S : α → β' → Prop} {g : β → β'} (h : Shadows marks R x y)
    (hg : ∀ a b, R a b → S a (g b)) : Shadows marks S x (y >>= fun b => pure (g b)) := by
  have hm : Shadows marks S (x >>= fun a => pure a) (y >>= fun b => pure (g b)) := h.map hg
  rwa [bind_pure] at hm

/-- What is put in comes first. -/
theorem insert {remarks : Log} {Q : γ → Prop} {z : Rendering γ} {g : γ → Rendering β}
    (hz : Drops remarks Q z) (h : ∀ c, Q c → Shadows marks R x (g c)) :
    Shadows (remarks.marked true ++ marks) R x (z >>= g) := by
  cases hz with
  | unworded hw hl hz =>
      subst hz
      rw [Rendering.bind_of_error rfl]
      refine .unworded ?_ ?_ rfl
      · rw [MarkedLog.inserted_append, MarkedLog.inserted_marked_true, Log.isWorded_append, hw,
          Bool.false_and]
      · rw [MarkedLog.entries_append, MarkedLog.entries_marked]
        exact hl.trans (List.prefix_append _ _)
  | @ok c hc hz =>
      subst hz
      rw [Rendering.bind_of_ok rfl]
      cases h c hc with
      | ok hr hx hy hk he => exact .ok hr hx hy (by simp [hk]) (by simp [he])
      | error hm hx hy hk he =>
          exact .error ((List.prefix_append_right_inj _).2 hm) hx hy (by simp [hk]) (by simp [he])
      | unworded hw hl hy =>
          refine .unworded ?_ ?_ hy
          · rw [MarkedLog.inserted_append, Log.isWorded_append, hw, Bool.and_false]
          · rw [Rendering.log_of, Rendering.log_of, MarkedLog.entries_append,
              MarkedLog.entries_marked]
            exact (List.prefix_append_right_inj _).2 hl

theorem of_records {gaps : List KnownGap} (h : Records gaps x) :
    Shadows (Log.marked (gaps.map KnownGap.diagnostic) false) Eq x x := by
  cases hx : x.result with
  | ok a => exact .ok rfl hx hx (by simp [h.log_eq hx]) (by simp [h.log_eq hx])
  | error e =>
      exact .error (MarkedLog.marked_prefix h.log_isPrefix false) hx hx (by simp) (by simp)

end Shadows

/-! ## Insertions leave no trace in the text -/

theorem Insertion.render_exportDefault (declaration : Insertion) (ctx : Context)
    (loc : Option Location) (depth : Int) :
    (Statement.exportDefault declaration.after loc).render ctx depth =
      (Statement.exportDefault declaration.before loc).render ctx depth := by
  cases declaration with
  | keep s => simp only [Insertion.after, Insertion.before]
  | _ => rfl

theorem Insertion.render_exportNamed (declaration : Insertion) (ctx : Context)
    (specifiers : List Specifier) (source : Option String) (kind : Json) (loc : Option Location)
    (depth : Int) :
    (Statement.exportNamed (some declaration.after) specifiers source kind loc).render ctx depth =
      (Statement.exportNamed (some declaration.before) specifiers source kind loc).render ctx
        depth := by
  cases declaration with
  | keep s => simp only [Insertion.after, Insertion.before]
  | _ => rfl

theorem stack_eq_of_filter_eq {texts others : List String}
    (h : texts.filter (· != "") = others.filter (· != "")) : stack texts = stack others := by
  rw [stack, stack, h]

mutual

theorem Insertion.render_shadows (ctx : Context) : (i : Insertion) → (depth : Int) →
    Shadows (i.log ctx) Eq (i.before.render ctx depth) (i.after.render ctx depth)
  | .keep s, depth => by
      simp only [Insertion.before, Insertion.after, Insertion.log]
      exact .of_records (Statement.render_records ctx s depth)
  | .block body loc, depth => by
      simp only [Insertion.before, Insertion.after, Insertion.log, Statement.render]
      exact BodyInsertion.renderBlock_shadows ctx body loc depth
  | .declareModule name body bodyLoc loc, depth => by
      simp only [Insertion.before, Insertion.after, Insertion.log, Statement.render]
      -- The indentation of the module is made before its body is looked at.
      apply (Shadows.of_records (Records.ofExcept _)).bind
      rintro lead _ rfl
      apply (Shadows.of_records (Records.ofExcept _)).bind
      rintro shown _ rfl
      apply (BodyInsertion.renderBlock_shadows ctx body bodyLoc depth).map
      rintro text _ rfl
      rfl
  | .exportDefault declaration loc, depth => by
      have hr := Statement.render_records ctx (.exportDefault declaration.before loc) depth
      simp only [Insertion.before, Insertion.after, Insertion.log]
      rw [declaration.render_exportDefault ctx loc depth]
      rw [Statement.gaps] at hr
      exact .of_records hr
  | .exportNamed declaration specifiers source kind loc, depth => by
      have hr := Statement.render_records ctx
        (.exportNamed (some declaration.before) specifiers source kind loc) depth
      simp only [Insertion.before, Insertion.after, Insertion.log]
      rw [declaration.render_exportNamed ctx specifiers source kind loc depth]
      rw [Statement.gaps] at hr
      exact .of_records hr

theorem BodyInsertion.renderBlock_shadows (ctx : Context) (i : BodyInsertion)
    (loc : Option Location) (depth : Int) :
    Shadows (i.log ctx) Eq (Block.render ctx ⟨i.before, loc⟩ depth)
      (Block.render ctx ⟨i.after, loc⟩ depth) := by
  rw [Block.render, Block.render]
  apply (BodyInsertion.renderStatements_shadows ctx i (depth + 1)).map
  intro texts others h
  exact stack_eq_of_filter_eq h

theorem BodyInsertion.renderStatements_shadows (ctx : Context) : (i : BodyInsertion) →
    (depth : Int) → Shadows (i.log ctx) (fun texts others => texts.filter (· != "") =
      others.filter (· != "")) (renderStatements ctx i.before depth)
        (renderStatements ctx i.after depth)
  | .nil, depth => by
      simp only [BodyInsertion.before, BodyInsertion.after, BodyInsertion.log, renderStatements]
      exact .ok rfl rfl rfl rfl rfl
  | .keep s rest, depth => by
      simp only [BodyInsertion.before, BodyInsertion.after, BodyInsertion.log, renderStatements]
      apply (Insertion.render_shadows ctx s depth).bind
      rintro text _ rfl
      apply (BodyInsertion.renderStatements_shadows ctx rest depth).map
      intro texts others h
      simp only [List.filter_cons, h]
  | .insert s dropped rest, depth => by
      simp only [BodyInsertion.before, BodyInsertion.after, BodyInsertion.log, renderStatements]
      apply Shadows.insert (Statement.render_drops ctx s dropped depth)
      rintro _ rfl
      apply (BodyInsertion.renderStatements_shadows ctx rest depth).mapRight
      intro texts others h
      simpa using h

end

/-- What is put in changes neither the text of a document nor the failure to make it. The log has
the gaps that it had before, and at its place in the document one remark for each function or
variable put in that is not exported; if there is no document, the logs end at the same place. Only
a remark that can not be worded, for an integer that is too long, is a failure of its own. -/
theorem Program.render_insertion (ctx : Context) (p : Program) (i : BodyInsertion) :
    ((Program.render ctx { p with body := i.after }).result =
        (Program.render ctx { p with body := i.before }).result ∧
      match (Program.render ctx { p with body := i.before }).result with
      | .ok _ =>
        (Program.render ctx { p with body := i.before }).log = (i.log ctx).kept ∧
        (Program.render ctx { p with body := i.after }).log = (i.log ctx).entries
      | .error _ =>
        ∃ m : MarkedLog, m <+: i.log ctx ∧
          (Program.render ctx { p with body := i.before }).log = m.kept ∧
          (Program.render ctx { p with body := i.after }).log = m.entries) ∨
    (i.log ctx).inserted.isWorded = false ∧
      (Program.render ctx { p with body := i.after }).result =
        .error (.malformed .tooManyDigits) ∧
      (Program.render ctx { p with body := i.after }).log <+: (i.log ctx).entries := by
  have h : Shadows (i.log ctx) Eq (Program.render ctx { p with body := i.before })
      (Program.render ctx { p with body := i.after }) := by
    apply (BodyInsertion.renderStatements_shadows ctx i 0).map
    intro texts others h
    rw [stack_eq_of_filter_eq h]
  cases h with
  | ok h hx hy hk he =>
      left
      rw [hx, hy, h]
      exact ⟨rfl, hk, he⟩
  | error hm hx hy hk he =>
      left
      rw [hx, hy]
      exact ⟨rfl, _, hm, hk, he⟩
  | unworded hw hl hy => exact .inr ⟨hw, hy, hl⟩

/-- A block put into an empty module leaves its remark and nothing else. -/
example :
    (Program.render ⟨"  ", ""⟩ ⟨BodyInsertion.after
      (.keep (.declareModule (.string "m")
        (.insert (.block ⟨[.variableDeclaration (.string "let") none], none⟩) rfl .nil) none none)
        .nil), [], none⟩).log.map (·.gap.code) = ["I001"] := rfl

end Typings
