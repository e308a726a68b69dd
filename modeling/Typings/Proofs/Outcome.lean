import Typings.Failure
import Typings.Proofs.Json.Shown
import Typings.Proofs.Syntax.Typed

/-!
# Outcomes

A reader of a proper tree has a result, unless an integer is too long to be shown. A renderer of
proper syntax has a result if nothing stands in its way, and otherwise ends at the first of the nodes
that do. Elsewhere it matters only what a result is like if there is one. All these kinds of outcome
are put together along the steps of a computation.
-/

namespace Typings

variable {α β : Type} {ε : Type}

/-! ## Results -/

/-- There is a result, and it has the property. -/
def Yields (r : Except ε α) (Q : α → Prop) : Prop :=
  ∃ a, r = .ok a ∧ Q a

theorem Yields.ok {a : α} {Q : α → Prop} (h : Q a) : Yields (.ok a : Except ε α) Q :=
  ⟨a, rfl, h⟩

theorem Yields.bind {r : Except ε α} {f : α → Except ε β} {Q : α → Prop} {R : β → Prop}
    (h : Yields r Q) (hf : ∀ a, Q a → Yields (f a) R) : Yields (r >>= f) R := by
  obtain ⟨a, rfl, ha⟩ := h
  exact hf a ha

theorem Yields.mapM {f : β → Except ε α} {Q : α → Prop} :
    {vs : List β} → (∀ v ∈ vs, Yields (f v) Q) → Yields (vs.mapM f) (fun as => ∀ a ∈ as, Q a)
  | [], _ => .ok (by simp)
  | v :: vs, h => by
      rw [List.mapM_cons]
      refine (h v (by simp)).bind fun a ha => ?_
      refine (Yields.mapM fun w hw => h w (by simp [hw])).bind fun as has => ?_
      exact .ok (List.forall_mem_cons.2 ⟨ha, has⟩)

/-- There is a result with the property, unless a value among those with the property `L` holds an
integer that is too long to be shown. -/
def Reads (L : Json → Prop) (r : Except Malformed α) (Q : α → Prop) : Prop :=
  Yields r Q ∨ r = .error .tooManyDigits ∧ ∃ v, L v ∧ v.hasLongInteger = true

theorem Yields.reads {L : Json → Prop} {r : Except Malformed α} {Q : α → Prop} (h : Yields r Q) :
    Reads L r Q :=
  .inl h

namespace Reads

variable {L : Json → Prop} {r : Except Malformed α} {Q : α → Prop} {R : β → Prop}

theorem ok {a : α} (h : Q a) : Reads L (.ok a) Q :=
  .inl (.ok h)

theorem bind {f : α → Except Malformed β} (h : Reads L r Q) (hf : ∀ a, Q a → Reads L (f a) R) :
    Reads L (r >>= f) R := by
  rcases h with ⟨a, rfl, ha⟩ | ⟨rfl, hv⟩
  · exact hf a ha
  · exact .inr ⟨rfl, hv⟩

theorem mapM {f : β → Except Malformed α} {vs : List β} (h : ∀ v ∈ vs, Reads L (f v) Q) :
    Reads L (vs.mapM f) (fun as => ∀ a ∈ as, Q a) := by
  induction vs with
  | nil => exact ok (by simp)
  | cons v vs ih =>
      rw [List.mapM_cons]
      refine (h v (by simp)).bind fun a ha => ?_
      refine (ih fun w hw => h w (by simp [hw])).bind fun as has => ?_
      exact ok (List.forall_mem_cons.2 ⟨ha, has⟩)

theorem option {f : β → Except Malformed α} {v : β} (h : Reads L (f v) Q) :
    Reads L ((some v).mapM f) (fun o => ∀ a, o = some a → Q a) := by
  rw [Option.mapM_some]
  rcases h with ⟨a, ha, hq⟩ | ⟨he, hv⟩
  · rw [ha]
    exact ok (by simpa using hq)
  · rw [he]
    exact .inr ⟨rfl, hv⟩

/-- A value is shown, unless it holds an integer that is too long. -/
theorem display {v : Json} (h : L v) : Reads L v.display fun _ => True := by
  cases hl : v.hasLongInteger with
  | true => exact .inr ⟨Json.display_of_long hl, v, h, hl⟩
  | false =>
      obtain ⟨shown, hs⟩ := Json.display_of_not_long hl
      exact .inl ⟨shown, hs, trivial⟩

end Reads

/-- Another name for a failure is no result. -/
theorem mapError_eq_ok_iff {δ : Type} {r : Except ε α} {f : ε → δ} {a : α} :
    r.mapError f = .ok a ↔ r = .ok a := by
  cases r with
  | error e => exact ⟨fun h => (by cases h), fun h => (by cases h)⟩
  | ok b => exact ⟨fun h => (by cases h; rfl), fun h => (by cases h; rfl)⟩

/-- A sequence has a result if each of its steps has one. -/
theorem bind_eq_ok_iff {r : Except ε α} {f : α → Except ε β} {b : β} :
    r >>= f = .ok b ↔ ∃ a, r = .ok a ∧ f a = .ok b := by
  cases r with
  | error e => exact ⟨fun h => (by cases h), fun ⟨_, h, _⟩ => (by cases h)⟩
  | ok a => exact ⟨fun h => ⟨a, rfl, h⟩, fun ⟨_, ha, h⟩ => by cases ha; exact h⟩

/-- Whatever there is as a result has the property. -/
def Ensures (r : Except ε α) (Q : α → Prop) : Prop :=
  ∀ a, r = .ok a → Q a

namespace Ensures

variable {r : Except ε α} {Q : α → Prop} {R : β → Prop}

theorem ok {a : α} (h : Q a) : Ensures (.ok a : Except ε α) Q := by
  rintro b ⟨⟩
  exact h

theorem error (e : ε) : Ensures (.error e : Except ε α) Q := by
  intro a h
  cases h

theorem bind {f : α → Except ε β} (h : Ensures r Q) (hf : ∀ a, Q a → Ensures (f a) R) :
    Ensures (r >>= f) R := by
  cases r with
  | error e => exact .error e
  | ok a => exact hf a (h a rfl)

/-- Nothing has to be known of what comes before. -/
theorem after {f : α → Except ε β} (hf : ∀ a, Ensures (f a) R) : Ensures (r >>= f) R := by
  cases r with
  | error e => exact .error e
  | ok a => exact hf a

theorem map {f : α → β} (h : Ensures r Q) (hf : ∀ a, Q a → R (f a)) :
    Ensures (r.map f) R := by
  cases r with
  | error e => exact .error e
  | ok a => exact .ok (hf a (h a rfl))

theorem mapAfter {f : α → β} (hf : ∀ a, R (f a)) : Ensures (r.map f) R := by
  cases r with
  | error e => exact .error e
  | ok a => exact .ok (hf a)

theorem mapError {δ : Type} {f : ε → δ} (h : Ensures r Q) : Ensures (r.mapError f) Q := by
  cases r with
  | error e => exact .error (f e)
  | ok a => exact .ok (h a rfl)

theorem and {Q' : α → Prop} (h : Ensures r Q) (h' : Ensures r Q') :
    Ensures r fun a => Q a ∧ Q' a :=
  fun a ha => ⟨h a ha, h' a ha⟩

theorem mapM {f : β → Except ε α} {vs : List β} (h : ∀ v ∈ vs, Ensures (f v) Q) :
    Ensures (vs.mapM f) fun as => ∀ a ∈ as, Q a := by
  induction vs with
  | nil => exact .ok (by simp)
  | cons v vs ih =>
      rw [List.mapM_cons]
      refine (h v (by simp)).bind fun a ha => ?_
      refine (ih fun w hw => h w (by simp [hw])).bind fun as has => ?_
      exact .ok (List.forall_mem_cons.2 ⟨ha, has⟩)

end Ensures

/-! ## Positions that can be shown -/

/-- The line of the location is too long to be written, or the column counted from one is. -/
def IsFarOut (loc : Option Location) : Prop :=
  ∃ l, loc = some l ∧ (l.start.line.hasLongInteger = true ∨
    ∃ n, l.start.column = .int n ∧ Decimal.isTooLong (n + 1) = true)

theorem IsFarOut.withPosition {loc : Option Location} (h : IsFarOut loc) (text : String) :
    withPosition text loc = .error .tooManyDigits := by
  obtain ⟨l, rfl, h⟩ := h
  have hp : l.position = .error .tooManyDigits := by
    cases hl : l.start.line.hasLongInteger with
    | true => rw [Location.position, Json.display_of_long hl]; rfl
    | false =>
        obtain ⟨line, hs⟩ := Json.display_of_not_long hl
        obtain ⟨n, hn, ht⟩ := h.resolve_left (by simp [hl])
        have ha : l.start.column.add (.int 1) = .ok (.int (n + 1)) := by rw [hn]; rfl
        have hd : (Json.int (n + 1)).display = .error .tooManyDigits := Json.display_of_long ht
        rw [Location.position, hs, ha]
        simp only [bind, Except.bind, hd]
  rw [Typings.withPosition, hp]
  rfl

/-- A location, if there is one, has a whole number as its column. -/
def WholeColumn (loc : Option Location) : Prop :=
  ∀ l, loc = some l → ∃ n, l.start.column = .int n

theorem Located.wholeColumn {loc : Option Location} (h : Located loc) : WholeColumn loc :=
  fun l hl => (h l hl).start.column

theorem WholeColumn.withPosition {loc : Option Location} (hw : WholeColumn loc)
    (h : ¬ IsFarOut loc) (text : String) : ∃ shown, withPosition text loc = .ok shown := by
  cases loc with
  | none => exact ⟨text, rfl⟩
  | some l =>
      obtain ⟨n, hn⟩ := hw l rfl
      have hl : l.start.line.hasLongInteger = false := by
        rw [← Bool.not_eq_true]
        exact fun hl => h ⟨l, rfl, .inl hl⟩
      have hc : (Json.int (n + 1)).hasLongInteger = false := by
        rw [← Bool.not_eq_true]
        exact fun ht => h ⟨l, rfl, .inr ⟨n, hn, ht⟩⟩
      obtain ⟨line, hline⟩ := Json.display_of_not_long hl
      obtain ⟨column, hcolumn⟩ := Json.display_of_not_long hc
      have ha : l.start.column.add (.int 1) = .ok (.int (n + 1)) := by rw [hn]; rfl
      rw [Typings.withPosition, Location.position, hline, ha]
      simp only [bind, Except.bind, hcolumn]
      exact ⟨_, rfl⟩

/-! ## Reports of nodes -/

/-- A run ends with the report of a node, unless its position is too long to be written. -/
def EndsAt (u : Unhandled) (r : Except Failure α) : Prop :=
  IsFarOut u.loc ∧ r = .error (.malformed .tooManyDigits) ∨
    ¬ IsFarOut u.loc ∧ r = .error (.unhandled u)

/-- How rendering ends at a node without a rendering. -/
def Unhandled.failure (u : Unhandled) : Failure :=
  .ofUnhandled u.role u.kind u.loc

/-- The kind of the node is a text and its location proper. -/
structure Unhandled.Typed (u : Unhandled) : Prop where
  kind : u.kind.IsText
  loc : Located u.loc

theorem Unhandled.Typed.text_eq {u : Unhandled} (h : u.Typed) :
    ∃ text, u.text = withPosition text u.loc := by
  obtain ⟨kind, hk⟩ := h.kind
  refine ⟨"Never reach here: " ++ (u.role.message ++ ": " ++ kind), ?_⟩
  rw [Unhandled.text, Unhandled.detail, hk]
  rfl

theorem Unhandled.Typed.failure_of_isFarOut {u : Unhandled} (h : u.Typed) (hf : IsFarOut u.loc) :
    u.failure = .malformed .tooManyDigits := by
  obtain ⟨text, ht⟩ := h.text_eq
  rw [hf.withPosition] at ht
  simp only [Unhandled.failure, Failure.ofUnhandled, ht]

theorem Unhandled.Typed.failure_of_not_isFarOut {u : Unhandled} (h : u.Typed)
    (hf : ¬ IsFarOut u.loc) : u.failure = .unhandled u := by
  obtain ⟨text, ht⟩ := h.text_eq
  obtain ⟨shown, hs⟩ := h.loc.wholeColumn.withPosition hf text
  rw [hs] at ht
  simp only [Unhandled.failure, Failure.ofUnhandled, ht]

theorem Unhandled.Typed.endsAt {u : Unhandled} (h : u.Typed) :
    EndsAt u (.error u.failure : Except Failure α) := by
  by_cases hf : IsFarOut u.loc
  · exact .inl ⟨hf, by rw [h.failure_of_isFarOut hf]⟩
  · exact .inr ⟨hf, by rw [h.failure_of_not_isFarOut hf]⟩

/-! ## Renderings -/

/-- If nothing stands in the way there is a result with the property; otherwise the outcome is the
failure of the first node that does. -/
def Settles (os : List Unhandled) (r : Except Failure α) (Q : α → Prop) : Prop :=
  match os with
  | [] => Yields r Q
  | u :: _ => u.Typed ∧ r = .error u.failure

namespace Settles

variable {os os' : List Unhandled} {r : Except Failure α} {Q : α → Prop} {R : β → Prop}

theorem ok {a : α} (h : Q a) : Settles [] (.ok a) Q :=
  Yields.ok h

theorem failure {u : Unhandled} (h : u.Typed) : Settles (u :: os) (.error u.failure) Q :=
  ⟨h, rfl⟩

theorem bind {f : α → Except Failure β} (h : Settles os r Q)
    (hf : ∀ a, Q a → Settles os' (f a) R) : Settles (os ++ os') (r >>= f) R := by
  cases os with
  | nil =>
      obtain ⟨a, rfl, ha⟩ := h
      exact hf a ha
  | cons u os =>
      obtain ⟨hl, rfl⟩ := h
      exact ⟨hl, rfl⟩

/-- What cannot fail comes before. -/
theorem after {f : α → Except Failure β} (h : Yields r Q) (hf : ∀ a, Q a → Settles os (f a) R) :
    Settles os (r >>= f) R := by
  obtain ⟨a, rfl, ha⟩ := h
  exact hf a ha

/-- What cannot fail comes after. -/
theorem map {f : α → Except Failure β} (h : Settles os r Q)
    (hf : ∀ a, Q a → Yields (f a) R) : Settles os (r >>= f) R := by
  have hb : Settles (os ++ []) (r >>= f) R := h.bind hf
  rwa [List.append_nil] at hb

theorem mapM {f : β → Except Failure α} {offences : β → List Unhandled} :
    {vs : List β} → (∀ v ∈ vs, Settles (offences v) (f v) Q) →
      Settles (vs.flatMap offences) (vs.mapM f) (fun as => ∀ a ∈ as, Q a)
  | [], _ => ok (by simp)
  | v :: vs, h => by
      rw [List.mapM_cons, List.flatMap_cons]
      refine (h v (by simp)).bind fun a ha => ?_
      refine (mapM fun w hw => h w (by simp [hw])).map fun as has => ?_
      exact .ok (List.forall_mem_cons.2 ⟨ha, has⟩)

theorem outcome (h : Settles os r Q) :
    (os = [] ∧ Yields r Q) ∨ ∃ u, os.head? = some u ∧ EndsAt u r := by
  cases os with
  | nil => exact .inl ⟨rfl, h⟩
  | cons u os =>
      obtain ⟨hu, rfl⟩ := h
      exact .inr ⟨u, rfl, hu.endsAt⟩

end Settles

end Typings
