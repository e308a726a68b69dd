import Typings.Proofs.Declaration.Abort
import Typings.Proofs.Text.Indentation

/-!
# The outcome of a program

Statements in blocks and modules are indented, and copies of the unit of indentation can be too many
to be counted. Apart from that, a typed program has a document exactly when it is supported, and
otherwise rendering ends at its first offence.
-/

namespace Typings

variable {α β : Type} {ctx : Context} {low high low' high' : Int}

/-! ## Depths -/

mutual

/-- How many levels deeper than the statement the statements in it stand. -/
def Statement.nesting : Statement → Nat
  | .block b | .declareModule _ b _ => b.nesting
  | _ => 0

def Block.nesting : Block → Nat
  | ⟨body, _⟩ => bodyNesting body + 1

def bodyNesting : List Statement → Nat
  | [] => 0
  | s :: rest => max s.nesting (bodyNesting rest)

end

/-- The depth of the deepest statements of a program. -/
def Program.nesting (p : Program) : Nat :=
  bodyNesting p.body

/-! ## Indentation that cannot be made -/

/-- The outcome is that the indentation of one of the depths cannot be made. -/
def Cramped (ctx : Context) (low high : Int) (r : Except Failure α) : Prop :=
  ∃ depth m, low ≤ depth ∧ depth ≤ high ∧ Text.repeated ctx.indent depth = .error m ∧
    r = .error (.malformed m)

theorem Cramped.mono {r : Except Failure α} (h : Cramped ctx low high r) (hl : low' ≤ low)
    (hh : high ≤ high') : Cramped ctx low' high' r := by
  obtain ⟨depth, m, h1, h2, hm, hr⟩ := h
  exact ⟨depth, m, Int.le_trans hl h1, Int.le_trans h2 hh, hm, hr⟩

theorem Cramped.bind {r : Except Failure α} (h : Cramped ctx low high r)
    (f : α → Except Failure β) : Cramped ctx low high (r >>= f) := by
  obtain ⟨depth, m, hl, hh, hm, rfl⟩ := h
  exact ⟨depth, m, hl, hh, hm, rfl⟩

/-- The outcome is that the indentation of one of the depths below the top is out of range. -/
def TooDeep (ctx : Context) (nesting : Nat) (r : Except Failure α) : Prop :=
  ∃ depth, 1 ≤ depth ∧ depth ≤ nesting ∧ ¬ Text.Fits ctx.indent depth ∧
    r = .error (.malformed .outOfRange)

theorem Text.repeated_eq_error {unit : String} {count : Int} {m : Malformed}
    (h : Text.repeated unit count = .error m) : m = .outOfRange := by
  unfold Text.repeated Text.copyCount at h
  dsimp only at h
  split at h
  · cases h
    rfl
  · cases h

/-- No indentation is needed at depth zero. -/
theorem Cramped.tooDeep {nesting : Nat} {r : Except Failure α} (h : Cramped ctx 0 nesting r) :
    TooDeep ctx nesting r := by
  obtain ⟨depth, m, hl, hh, hm, hr⟩ := h
  obtain ⟨n, rfl⟩ := Int.eq_ofNat_of_zero_le hl
  have hf : ¬ Text.Fits ctx.indent n := by
    intro hf
    rw [Text.repeated_of_fits hf] at hm
    cases hm
  have hz : n ≠ 0 := fun hz => hf (hz ▸ Text.fits_zero _)
  rw [Text.repeated_eq_error hm] at hr
  exact ⟨n, by omega, by omega, hf, hr⟩

/-! ## How rendering ends -/

/-- The indentation of one of the depths cannot be made, or the offences settle the outcome. -/
def Ends (ctx : Context) (low high : Int) (os : List Unhandled) (r : Except Failure α) : Prop :=
  Cramped ctx low high r ∨ Settles os r fun _ => True

namespace Ends

variable {os os' : List Unhandled} {r : Except Failure α}

theorem mono (h : Ends ctx low high os r) (hl : low' ≤ low) (hh : high ≤ high') :
    Ends ctx low' high' os r := by
  rcases h with h | h
  · exact .inl (h.mono hl hh)
  · exact .inr h

theorem bind {f : α → Except Failure β} (h : Ends ctx low high os r)
    (hf : ∀ a, Ends ctx low high os' (f a)) : Ends ctx low high (os ++ os') (r >>= f) := by
  rcases h with h | h
  · exact .inl (h.bind f)
  · cases os with
    | nil =>
        obtain ⟨a, rfl, -⟩ := h
        exact hf a
    | cons u os =>
        obtain ⟨hl, rfl⟩ := h
        exact .inr (.failure hl)

/-- What cannot fail comes before. -/
theorem after {f : α → Except Failure β} {Q : α → Prop} (h : Yields r Q)
    (hf : ∀ a, Ends ctx low high os (f a)) : Ends ctx low high os (r >>= f) := by
  obtain ⟨a, rfl, -⟩ := h
  exact hf a

/-- What cannot fail comes after. -/
theorem map {f : α → β} (h : Ends ctx low high os r) :
    Ends ctx low high os (r >>= fun a => .ok (f a)) := by
  have hb : Ends ctx low high (os ++ []) (r >>= fun a => .ok (f a)) :=
    h.bind fun _ => .inr (.ok trivial)
  rwa [List.append_nil] at hb

end Ends

theorem Ends.of_repeated {r : Except Failure α} {depth : Int}
    (h : ∀ lead, Text.repeated ctx.indent depth = .ok lead → Yields r fun _ => True)
    (hm : ∀ m, Text.repeated ctx.indent depth = .error m → r = .error (.malformed m)) :
    Ends ctx depth depth [] r := by
  cases hr : Text.repeated ctx.indent depth with
  | ok lead => exact .inr (h lead hr)
  | error m => exact .inl ⟨depth, m, Int.le_refl _, Int.le_refl _, hr, hm m hr⟩

theorem Context.lead_ends (depth : Int) : Ends ctx depth depth [] (ctx.lead depth).result := by
  refine .of_repeated (fun lead h => ?_) (fun m h => ?_)
  · exact ⟨lead, by rw [Context.lead, h]; rfl, trivial⟩
  · rw [Context.lead, h]; rfl

theorem Context.indentText_ends (depth : Int) (text : String) :
    Ends ctx depth depth [] (ctx.indentText depth text).result := by
  by_cases hd : depth ≤ 0 ∨ text = ""
  · right
    exact ⟨text, by rw [Context.indentText, Text.indentText, if_pos hd]; rfl, trivial⟩
  · refine .of_repeated (fun lead h => ?_) (fun m h => ?_)
    · exact ⟨_, by rw [Context.indentText, Text.indentText, if_neg hd, h]; rfl, trivial⟩
    · rw [Context.indentText, Text.indentText, if_neg hd, h]; rfl

/-! ## Statements and blocks -/

mutual

theorem Statement.render_ends (ctx : Context) : (s : Statement) → s.Typed → (depth : Int) →
    Ends ctx depth (depth + s.nesting) s.offences (s.render ctx depth).result
  | s, h, depth => by
      cases s with
      | block b =>
          cases h with
          | block hb => exact Block.render_ends ctx b hb depth
      | declareModule name body loc =>
          cases h with
          | declareModule hn hb _ =>
              rw [Statement.render, Rendering.result_bind]
              refine ((Context.lead_ends depth).mono (Int.le_refl _) (by omega)).bind fun lead => ?_
              rw [Rendering.result_bind, Rendering.result_ofExcept]
              refine .after (shownText_yields hn) fun shown => ?_
              rw [Rendering.result_bind]
              exact (Block.render_ends ctx body hb depth).map
      | _ =>
          rw [Statement.render_of_isFlat ctx rfl, Rendering.result_bind]
          have hf := Statement.renderFlat_settles ctx rfl h
          rw [← List.append_nil (Statement.offences _)]
          refine Ends.bind (.inr hf) fun text => ?_
          exact (Context.indentText_ends depth text).mono (Int.le_refl _) (by omega)

theorem Block.render_ends (ctx : Context) : (b : Block) → b.Typed → (depth : Int) →
    Ends ctx depth (depth + b.nesting) b.offences (b.render ctx depth).result
  | ⟨body, _⟩, .mk hb _, depth => by
      rw [Block.render, Rendering.result_bind, Block.offences, Block.nesting]
      refine ((renderStatements_ends ctx body hb (depth + 1)).mono ?_ ?_).map
      · omega
      · omega

theorem renderStatements_ends (ctx : Context) : (body : List Statement) →
    (∀ s ∈ body, s.Typed) → (depth : Int) →
      Ends ctx depth (depth + bodyNesting body) (statementOffences body)
        (renderStatements ctx body depth).result
  | [], _, _ => .inr (.ok trivial)
  | s :: rest, h, depth => by
      rw [renderStatements, Rendering.result_bind, statementOffences, bodyNesting]
      refine ((Statement.render_ends ctx s (h s (by simp)) depth).mono (Int.le_refl _) ?_).bind
        fun text => ?_
      · omega
      · rw [Rendering.result_bind]
        refine ((renderStatements_ends ctx rest (fun t ht => h t (by simp [ht])) depth).mono
          (Int.le_refl _) ?_).map
        omega

end

theorem Program.render_ends {p : Program} (h : p.Typed) (ctx : Context) :
    TooDeep ctx p.nesting (p.render ctx).result ∨
      Settles p.offences (p.render ctx).result fun _ => True := by
  have he : Ends ctx 0 p.nesting p.offences (p.render ctx).result := by
    rw [Program.render, Rendering.result_bind]
    refine ((renderStatements_ends ctx p.body h.body 0).mono (Int.le_refl _) ?_).map
    exact Int.le_of_eq (Int.zero_add _)
  exact he.imp_left Cramped.tooDeep

/-! ## The outcome -/

/-- Offences are what keeps a program from being supported. -/
theorem Program.outcome_of_settles {p : Program} {r : Except Failure α} {Q : α → Prop}
    (h : Settles p.offences r Q) :
    (p.Supported ∧ ∃ a, r = .ok a) ∨
      ∃ u, p.offences.head? = some u ∧ ¬ p.Supported ∧ EndsAt u r := by
  rw [Program.supported_iff]
  rcases h.outcome with ⟨ho, a, ha, -⟩ | ⟨u, hu, hr⟩
  · exact .inl ⟨ho, a, ha⟩
  · refine .inr ⟨u, hu, fun ho => ?_, hr⟩
    rw [ho] at hu
    cases hu

/-- A typed program has a document exactly when it is supported; otherwise rendering ends at the
first offence, and reports it unless its position cannot be written. Both hold as far as the
indentation of every depth of the program can be made. -/
theorem Program.render_outcome {p : Program} (h : p.Typed) (ctx : Context) :
    TooDeep ctx p.nesting (p.render ctx).result ∨
      (p.Supported ∧ ∃ text, (p.render ctx).result = .ok text) ∨
      ∃ u, p.offences.head? = some u ∧ ¬ p.Supported ∧ EndsAt u (p.render ctx).result :=
  (Program.render_ends h ctx).imp_right Program.outcome_of_settles

/-- A module with an export, an alias of a nullable type and a statement of an unknown kind. -/
def twoOffences : Program where
  body := [.declareModule (.string "m") ⟨[.exportAll "a" none,
    .typeAlias ⟨.string "A", .nullable (.keyword .string none) none, none, none⟩,
    .unknown (.string "EnumDeclaration") none], none⟩ none]
  errors := []
  loc := none

theorem twoOffences_outcome :
    twoOffences.Typed ∧
      (twoOffences.render ⟨"  ", ""⟩).result =
        .error (.unhandled ⟨.aliasRight, .string "NullableTypeAnnotation", none⟩) := by
  have hn : Located none := located_none
  have ht : twoOffences.Typed := by
    refine ⟨?_, by simp [twoOffences], hn⟩
    simp only [twoOffences, List.forall_mem_singleton]
    refine .declareModule ⟨_, rfl⟩ (.mk ?_ hn) hn
    simp only [List.forall_mem_cons]
    refine ⟨.exportAll hn, .typeAlias ⟨⟨_, rfl⟩, .nullable (.keyword hn) hn, ?_, hn⟩,
      .unknown ⟨_, rfl⟩ hn, by simp⟩
    rintro ps ⟨⟩
  refine ⟨ht, ?_⟩
  rcases Program.render_outcome ht ⟨"  ", ""⟩ with ⟨d, hl, hh, hf, -⟩ | ⟨hs, -⟩ | ⟨u, hu, -, hr⟩
  · have hd : d = 1 := Nat.le_antisymm hh hl
    rw [hd] at hf
    exact absurd (by decide) hf
  · rw [Program.supported_iff] at hs
    cases hs
  · cases hu
    rcases hr with ⟨⟨loc, hloc, -⟩, -⟩ | ⟨-, hr⟩
    · cases hloc
    · exact hr

/-- The first column whose successor is too long to be written. -/
def farColumn : Int := (Nat.pow 10 Decimal.maxDigits : Nat) - 1

/-- A column of the first line. -/
def columnLocation (column : Int) : Location :=
  ⟨⟨.int 1, .int column⟩, ⟨.int 1, .int column⟩, .null⟩

def farLocation : Location := columnLocation farColumn

theorem isFarOut_farLocation : IsFarOut (some farLocation) :=
  -- The power of ten is only small for the kernel.
  ⟨farLocation, rfl, .inr ⟨farColumn, rfl, by decide +kernel⟩⟩

theorem located_farLocation : Located (some farLocation) := by
  rintro l ⟨⟩
  exact ⟨⟨⟨_, rfl⟩, ⟨_, rfl⟩⟩, ⟨⟨_, rfl⟩, ⟨_, rfl⟩⟩⟩

theorem unknown_farLocation_not_reported :
    ∃ p : Program, p.Typed ∧ ¬ p.Supported ∧
      ∀ ctx u, (p.render ctx).result ≠ .error (.unhandled u) := by
  refine ⟨⟨[.unknown (.string "EnumDeclaration") (some farLocation)], [], none⟩,
    ⟨?_, by simp, located_none⟩, ?_, ?_⟩
  · exact List.forall_mem_singleton.2 (.unknown ⟨_, rfl⟩ located_farLocation)
  · rw [Program.supported_iff]
    rintro ⟨⟩
  · intro ctx u h
    have hr : (.error (Unhandled.failure ⟨.statement, .string "EnumDeclaration", some farLocation⟩) :
        Except Failure String) = .error (.unhandled u) := h
    have hu : Unhandled.Typed ⟨.statement, .string "EnumDeclaration", some farLocation⟩ :=
      ⟨⟨_, rfl⟩, located_farLocation⟩
    rw [hu.failure_of_isFarOut isFarOut_farLocation] at hr
    cases hr

end Typings
