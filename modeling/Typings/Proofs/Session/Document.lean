import Typings.Session
import Typings.Proofs.Declaration.Program
import Typings.Proofs.Estree.Soundness

/-!
# From a tree to its document

A tree that fits the schema has few ways to end: it is read, and then there is a document, or the
first offence is reported, or the errors that the parser found are. Limits stand in the way of each
of these. A literal of the tree can be too long to be shown, the position of the offence or of the
first error can be too long to be written, and an indentation can be out of range.
-/

namespace Typings

variable {L : Json → Prop} {tree : Json}

/-! ## Reading -/

theorem Program.Conforms.ofEstree_reads (h : Program.Conforms L tree) :
    Yields (Program.ofEstree tree) Program.Typed ∨
      Program.ofEstree tree = .error (.malformed .tooManyDigits) ∧
        ∃ v, L v ∧ v.hasLongInteger = true := by
  rw [Program.ofEstree, notProgram?_eq_none h.tag]
  rcases h.reads with ⟨p, hp, ht⟩ | ⟨he, hv⟩
  · exact .inl ⟨p, by rw [hp]; rfl, ht⟩
  · exact .inr ⟨by rw [he]; rfl, hv⟩

theorem documentOfTree_of_longInteger
    (h : Program.ofEstree tree = .error (.malformed .tooManyDigits)) (ctx : Context) :
    documentOfTree ctx tree = .of (.error (.rejected .longInteger)) [] := by
  rw [documentOfTree, acceptTree, h]
  exact Rendering.bind_of_error rfl

theorem documentOfTree_result {p : Program} (h : Program.ofEstree tree = .ok p) (ctx : Context) :
    (documentOfTree ctx tree).result = p.check >>= fun q => (q.render ctx).result := by
  rw [documentOfTree, Rendering.result_bind, acceptTree, h]
  rfl

/-! ## Checking -/

theorem Program.check_of_no_errors {p : Program} (h : p.errors = []) : p.check = .ok p := by
  rw [Program.check, h]

theorem ParseError.text_eq {e : ParseError} {message : String}
    (h : e.message.display = .ok message) : e.text = withPosition message e.loc := by
  rw [ParseError.text, h]
  rfl

theorem Program.check_of_not_isFarOut {p : Program} {first : ParseError} {others : List ParseError}
    {message : String} (he : p.errors = first :: others)
    (hm : first.message.display = .ok message) (hw : WholeColumn first.loc)
    (hf : ¬ IsFarOut first.loc) : p.check = .error (.rejected (.sourceErrors first others)) := by
  obtain ⟨shown, hs⟩ := hw.withPosition hf message
  rw [Program.check, he]
  simp only [ParseError.text_eq hm, hs]

theorem Program.check_of_isFarOut {p : Program} {first : ParseError} {others : List ParseError}
    {message : String} (he : p.errors = first :: others)
    (hm : first.message.display = .ok message) (hf : IsFarOut first.loc) :
    p.check = .error (.malformed .tooManyDigits) := by
  rw [Program.check, he]
  simp only [ParseError.text_eq hm, hf.withPosition]

/-! ## The outcome -/

/-- A tree that fits the schema is read, unless a literal is too long to be shown, and then the tree
is rejected. If the parser found no errors, the document is made exactly if the program is supported,
and otherwise the first offence is reported, as far as the indentation of every depth can be made.
If the parser found errors, they are reported. A position that is too long to be written takes the
place of the report that names it. -/
theorem documentOfTree_outcome (h : Program.Conforms L tree) (ctx : Context) :
    (Program.ofEstree tree = .error (.malformed .tooManyDigits) ∧
      (∃ v, L v ∧ v.hasLongInteger = true) ∧
      (documentOfTree ctx tree).result = .error (.rejected .longInteger)) ∨
    ∃ p, Program.ofEstree tree = .ok p ∧
      (p.errors = [] →
        TooDeep ctx p.nesting (documentOfTree ctx tree).result ∨
        (p.Supported ∧ ∃ text, (documentOfTree ctx tree).result = .ok text) ∨
        ∃ u, p.offences.head? = some u ∧ ¬ p.Supported ∧
          EndsAt u (documentOfTree ctx tree).result) ∧
      ∀ first others, p.errors = first :: others →
        (IsFarOut first.loc →
          (documentOfTree ctx tree).result = .error (.malformed .tooManyDigits)) ∧
        (¬ IsFarOut first.loc →
          (documentOfTree ctx tree).result = .error (.rejected (.sourceErrors first others))) := by
  rcases h.ofEstree_reads with ⟨p, hp, ht⟩ | ⟨he, hv⟩
  · refine .inr ⟨p, hp, fun he => ?_, fun first others he => ?_⟩
    · rw [documentOfTree_result hp, Program.check_of_no_errors he]
      exact (Program.render_ends ht ctx).imp_right Program.outcome_of_settles
    · obtain ⟨⟨message, hm⟩, hl⟩ := ht.errors first (by simp [he])
      have hd : first.message.display = .ok message := by rw [hm]; rfl
      rw [documentOfTree_result hp]
      refine ⟨fun hf => ?_, fun hf => ?_⟩
      · rw [Program.check_of_isFarOut he hd hf]
        rfl
      · rw [Program.check_of_not_isFarOut he hd hl.wholeColumn hf]
        rfl
  · exact .inl ⟨he, hv, by rw [documentOfTree_of_longInteger he]; rfl⟩

/-- A tree with a statement of an unknown kind that starts in the column. -/
def columnTree (column : Int) : Json :=
  .object [("type", .string "Program"), ("body", .list [
    .object [("type", .string "EnumDeclaration"),
      ("loc", .object [("start", .object [("line", .int 1), ("column", .int column)])])]])]

theorem columnTree_conforms (column : Int) :
    Program.Conforms (fun _ => False) (columnTree column) := by
  refine ⟨⟨⟨_, rfl⟩, by rintro v ⟨⟩⟩, rfl, by rintro v ⟨⟩; exact ⟨_, rfl⟩, fun v hv => ?_,
    by rintro v ⟨⟩, fun v hv => absurd hv List.not_mem_nil⟩
  have ht : v.HasTag "EnumDeclaration" := by
    rw [List.mem_singleton.1 hv]
    rfl
  refine .other ⟨ht.isObject, ?_⟩ (ht.hasOtherTag (by decide))
  rw [List.mem_singleton.1 hv]
  rintro w ⟨⟩
  exact ⟨⟨_, rfl, ⟨_, rfl⟩, _, rfl⟩, by rintro w ⟨⟩⟩

theorem columnTree_ofEstree (column : Int) :
    Program.ofEstree (columnTree column) =
      .ok ⟨[.unknown (.string "EnumDeclaration") (some (columnLocation column))], [], none⟩ := by
  have hs : Statement.ofEstree (.object [("type", .string "EnumDeclaration"), ("loc", .object
      [("start", .object [("line", .int 1), ("column", .int column)])])]) =
      .ok (.unknown (.string "EnumDeclaration") (some (columnLocation column))) :=
    Statement.ofEstree_other ⟨⟨_, rfl⟩, by rintro v ⟨⟩; exact ⟨_, rfl, by decide⟩⟩ rfl
  have hb : (columnTree column).eachItem "body" Statement.ofEstree =
      .ok [.unknown (.string "EnumDeclaration") (some (columnLocation column))] := by
    change List.mapM Statement.ofEstree [_] = _
    rw [List.mapM_cons, hs]
    rfl
  have hn : notProgram? (columnTree column) = none := notProgram?_eq_none rfl
  have ho : (columnTree column).IsObject := ⟨_, rfl⟩
  rw [Program.ofEstree, hn, Program.ofParts_eq ho, hb]
  rfl

theorem columnTree_reported :
    Program.Conforms (fun _ => False) (columnTree 4) ∧
      (documentOfTree defaultContext (columnTree 4)).result = .error (.unhandled
        ⟨.statement, .string "EnumDeclaration", some (columnLocation 4)⟩) := by
  refine ⟨columnTree_conforms 4, ?_⟩
  rcases documentOfTree_outcome (columnTree_conforms 4) defaultContext with
    ⟨-, ⟨v, hv, -⟩, -⟩ | ⟨p, hp, ho, -⟩
  · cases hv
  rw [columnTree_ofEstree] at hp
  cases hp
  rcases ho rfl with ⟨depth, hl, hh, -⟩ | ⟨hs, -⟩ | ⟨u, hu, -, ⟨hf, -⟩ | ⟨-, hr⟩⟩
  · exact absurd (Nat.le_trans hl hh) (by decide)
  · rw [Program.supported_iff] at hs
    cases hs
  · cases hu
    obtain ⟨l, ⟨⟩, hl | ⟨n, hn, ht⟩⟩ := hf
    · exact absurd hl (by decide +kernel)
    · cases hn
      exact absurd ht (by decide +kernel)
  · cases hu
    exact hr

theorem columnTree_farColumn_malformed :
    ∃ tree, Program.Conforms (fun _ => False) tree ∧
      ∀ ctx, (documentOfTree ctx tree).result = .error (.malformed .tooManyDigits) := by
  refine ⟨columnTree farColumn, columnTree_conforms farColumn, fun ctx => ?_⟩
  have hu : Unhandled.Typed ⟨.statement, .string "EnumDeclaration", some farLocation⟩ :=
    ⟨⟨_, rfl⟩, located_farLocation⟩
  rw [documentOfTree_result (columnTree_ofEstree farColumn)]
  change Except.error
    (Unhandled.failure ⟨.statement, .string "EnumDeclaration", some farLocation⟩) = _
  rw [hu.failure_of_isFarOut isFarOut_farLocation]

end Typings
