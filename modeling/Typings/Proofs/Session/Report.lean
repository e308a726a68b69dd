import Typings.Proofs.Diagnostic.Counting
import Typings.Proofs.Declaration.Gaps
import Typings.Proofs.Json.Fields
import Typings.Proofs.Json.Reading
import Typings.Session

/-!
# Reports on documents

A tree in which no integer is too long is read into syntax with short names and lines. So whatever
is recorded while its document is made can be shown, and the report comes to its end.
-/

namespace Typings

/-! ## Parts of short values -/

namespace Json

/-- No integer in the value is too long. -/
def IsShort (v : Json) : Prop :=
  v.hasLongInteger = false

theorem isShort_string (s : String) : (Json.string s).IsShort :=
  rfl

namespace IsShort

variable {data : Json} {key : String}

theorem of_mem_fields {fields : List (String × Json)} (h : fieldsHaveLongInteger fields = false)
    {v : Json} (hm : (key, v) ∈ fields) : v.IsShort := by
  induction fields with
  | nil => cases hm
  | cons first rest ih =>
      rw [fieldsHaveLongInteger, Bool.or_eq_false_iff] at h
      rcases List.mem_cons.1 hm with rfl | hm
      · exact h.1
      · exact ih h.2 hm

theorem of_mem_items {items : List Json} (h : haveLongInteger items = false) {v : Json}
    (hm : v ∈ items) : v.IsShort := by
  induction items with
  | nil => cases hm
  | cons first rest ih =>
      rw [haveLongInteger, Bool.or_eq_false_iff] at h
      rcases List.mem_cons.1 hm with rfl | hm
      · exact h.1
      · exact ih h.2 hm

theorem at? (h : data.IsShort) {v : Json} (hv : data.at? key = some v) : v.IsShort := by
  obtain ⟨fields, rfl⟩ := isObject_of_at? hv
  have hf : fieldsHaveLongInteger fields = false := by simpa [IsShort, hasLongInteger] using h
  obtain ⟨before, after, rfl, -⟩ := List.lookup_eq_some_iff.1 hv
  exact of_mem_fields hf List.mem_append_cons_self

theorem field? (h : data.IsShort) :
    Ensures (data.field? key) fun found => ∀ p ∈ found, p.val.IsShort := by
  cases data with
  | object fields =>
      obtain ⟨found, hf, hv⟩ := field?_eq ⟨fields, rfl⟩ key
      rw [hf]
      refine .ok fun p hp => ?_
      rw [Option.mem_def.1 hp] at hv
      exact h.at? hv.symm
  | _ => exact .error _

theorem required (h : data.IsShort) : Ensures (data.required key) fun p => p.val.IsShort := by
  cases data with
  | object fields =>
      cases hv : (Json.object fields).at? key with
      | none =>
          rw [required_eq_missing ⟨fields, rfl⟩ hv]
          exact .error _
      | some v =>
          obtain ⟨part, hp, rfl⟩ := required_eq hv
          rw [hp]
          exact .ok (h.at? hv)
  | _ => exact .error _

theorem getD (h : data.IsShort) {default : Json} (hd : default.IsShort) :
    Ensures (data.getD key default) IsShort := by
  refine h.field?.bind fun found hf => ?_
  cases found with
  | none => exact .ok hd
  | some p => exact .ok (hf p rfl)

theorem get (h : data.IsShort) : Ensures (data.get key) IsShort :=
  h.getD rfl

theorem child? (h : data.IsShort) :
    Ensures (data.child? key) fun found => ∀ p ∈ found, p.val.IsShort := by
  refine h.field?.bind fun found hf => ?_
  cases found with
  | none => exact .ok (by simp)
  | some p =>
      refine .ok fun q hq => ?_
      split at hq
      · exact hf q hq
      · cases hq

theorem elements (h : data.IsShort) : Ensures data.elements fun vs => ∀ v ∈ vs, v.IsShort := by
  cases data with
  | list items =>
      have hi : haveLongInteger items = false := by simpa [IsShort, hasLongInteger] using h
      exact .ok fun v hv => of_mem_items hi hv
  | string s =>
      refine .ok fun v hv => ?_
      obtain ⟨c, -, rfl⟩ := List.mem_map.1 hv
      rfl
  | object fields =>
      refine .ok fun v hv => ?_
      obtain ⟨field, -, rfl⟩ := List.mem_map.1 hv
      rfl
  | _ => exact .error _

theorem children (h : data.IsShort) :
    Ensures (data.children key) fun ps => ∀ p ∈ ps, p.val.IsShort := by
  refine h.child?.bind fun found hf => ?_
  cases found with
  | none => exact .ok (by simp)
  | some part =>
      intro ps hps p hp
      have hv := partElements_val part
      rw [show partElements part = .ok ps from hps] at hv
      exact (hf part rfl).elements _ hv.symm _ (List.mem_map_of_mem hp)

theorem orElse {v w : Json} (hv : v.IsShort) (hw : w.IsShort) : (v.orElse w).IsShort := by
  unfold Json.orElse
  split
  · exact hv
  · exact hw

end IsShort

mutual

theorem isShort_of_isReadable : (v : Json) → v.isReadable = true → v.IsShort
  | .null => fun _ => rfl
  | .bool _ => fun _ => rfl
  | .real _ => fun _ => rfl
  | .string _ => fun _ => rfl
  | .int n => by
      intro h
      rw [isReadable, Bool.not_eq_true'] at h
      rw [IsShort, hasLongInteger, h]
  | .list items => by
      intro h
      rw [isReadable] at h
      rw [IsShort, hasLongInteger, items_of_areReadable items h]
  | .object fields => by
      intro h
      rw [isReadable, Bool.and_eq_true] at h
      rw [IsShort, hasLongInteger, fields_of_areReadable fields h.2]

theorem items_of_areReadable : (items : List Json) → areReadable items = true →
    haveLongInteger items = false
  | [], _ => rfl
  | v :: rest, h => by
      rw [areReadable, Bool.and_eq_true] at h
      rw [haveLongInteger, isShort_of_isReadable v h.1, items_of_areReadable rest h.2]
      rfl

theorem fields_of_areReadable : (fields : List (String × Json)) →
    fieldsAreReadable fields = true → fieldsHaveLongInteger fields = false
  | [], _ => rfl
  | (_, v) :: rest, h => by
      rw [fieldsAreReadable, Bool.and_eq_true] at h
      rw [fieldsHaveLongInteger, isShort_of_isReadable v h.1, fields_of_areReadable rest h.2]
      rfl

end

end Json

/-! ## Locations and names -/

variable {data : Json}

theorem Position.ofEstree_short (h : data.IsShort) :
    Ensures (Position.ofEstree data) fun p => p.line.IsShort :=
  h.required.bind fun _ hl => .after fun _ => .ok hl

theorem Location.ofEstree?_short (h : data.IsShort) :
    Ensures (Location.ofEstree? data) fun loc => (startLine loc).IsShort := by
  unfold Location.ofEstree?
  split
  · exact .ok rfl
  · refine .after fun held => ?_
    split
    · exact .ok rfl
    · refine .after fun stop => h.required.bind fun start hs => ?_
      refine (Position.ofEstree_short hs).bind fun first hf => ?_
      exact .after fun last => .after fun source => .ok hf

theorem Location.ofNode_short (h : data.IsShort) :
    Ensures (Location.ofNode data) fun loc => (startLine loc).IsShort :=
  h.get.bind fun _ hv => Location.ofEstree?_short hv

theorem nameIn_short (h : data.IsShort) : Ensures (nameIn data) Json.IsShort := by
  unfold nameIn
  split
  · refine .after fun tag => ?_
    split
    · exact .after fun value => .after fun shown => .ok rfl
    · exact h.getD rfl
  · exact .ok rfl

theorem nameUnder_short (h : data.IsShort) {key other : String} :
    Ensures (nameUnder data key other) Json.IsShort :=
  h.get.bind fun _ hv => h.get.bind fun _ hw => nameIn_short (hv.orElse hw)

theorem nameOfId_short (h : data.IsShort) : Ensures (nameOfId data) Json.IsShort := by
  refine h.child?.bind fun found hf => ?_
  cases found with
  | none => exact .ok rfl
  | some id => exact (hf id rfl).required.bind fun _ hn => .ok hn

theorem declaredName_short (h : data.IsShort) : Ensures (declaredName data) Json.IsShort :=
  h.required.bind fun _ hi => hi.required.bind fun _ hn => .ok hn

/-! ## Syntax -/

/-- What is to be recorded can be shown. -/
def AllShown (gaps : List KnownGap) : Prop :=
  ∀ k ∈ gaps, k.diagnostic.hasLongInteger = false

namespace AllShown

theorem nil : AllShown [] :=
  List.forall_mem_nil _

theorem append {gaps more : List KnownGap} (h : AllShown gaps) (h' : AllShown more) :
    AllShown (gaps ++ more) :=
  List.forall_mem_append.2 ⟨h, h'⟩

theorem single {severity : Severity} {code file : String} {gap : Gap} {loc : Option Location}
    (hg : ∀ v ∈ gap.names, v.IsShort) (hl : (startLine loc).IsShort) :
    AllShown [⟨severity, code, gap, file, startLine loc⟩] := by
  refine List.forall_mem_singleton.2 ?_
  simp only [KnownGap.diagnostic, Diagnostic.hasLongInteger, Gap.hasLongInteger_of_names hg,
    Bool.or_false]
  exact hl

theorem flatMap {α : Type} {vs : List α} {f : α → List KnownGap} (h : ∀ v ∈ vs, AllShown (f v)) :
    AllShown (vs.flatMap f) := by
  intro k hk
  obtain ⟨v, hv, hk⟩ := List.mem_flatMap.1 hk
  exact h v hv k hk

end AllShown

theorem Specifier.ofEstree_shown (file : String) (h : data.IsShort) :
    Ensures (Specifier.ofEstree data)
      fun s => AllShown (s.importGaps file) ∧ AllShown (s.exportGaps file) := by
  unfold Specifier.ofEstree
  refine .after fun tag => (Location.ofNode_short h).bind fun loc hl => ?_
  have single {name : Json} (hn : name.IsShort) : ∀ v ∈ [name], v.IsShort :=
    List.forall_mem_singleton.2 hn
  split
  · exact .after fun imported => .after fun localName => .ok ⟨.nil, .nil⟩
  · exact .after fun localName => .ok ⟨.nil, .nil⟩
  · exact (nameUnder_short h).bind fun name hn => .ok ⟨.single (single hn) hl, .nil⟩
  · exact .after fun v => .after fun localName => .after fun w => .after fun exported =>
      .ok ⟨.nil, .nil⟩
  · refine h.get.bind fun v hv => (nameIn_short hv).bind fun name hn => ?_
    exact .ok ⟨.nil, .single (single hn) hl⟩
  · refine h.get.bind fun v hv => (nameIn_short hv).bind fun name hn => ?_
    exact .ok ⟨.nil, .single (single hn) hl⟩
  · exact .after fun tag => .ok ⟨.nil, .nil⟩

theorem Specifier.listOf_shown (file : String) (h : data.IsShort) :
    Ensures (Specifier.listOf data) fun specifiers => ∀ s ∈ specifiers,
      AllShown (s.importGaps file) ∧ AllShown (s.exportGaps file) :=
  h.children.bind fun _ hp => .mapM fun p hm => Specifier.ofEstree_shown file (hp p hm)

theorem Signature.ofEstree_short (h : data.IsShort) :
    Ensures (Signature.ofEstree data) fun f => f.name.IsShort ∧ (startLine f.loc).IsShort := by
  refine (nameOfId_short h).bind fun name hn => ?_
  refine .after fun ps => .after fun params => .after fun returns => .after fun typeParams => ?_
  exact (Location.ofNode_short h).bind fun loc hl => .ok ⟨hn, hl⟩

theorem AllShown.body {file : String} {body : List Statement}
    (h : ∀ s ∈ body, AllShown (s.gaps file)) : AllShown (bodyGaps file body) := by
  induction body with
  | nil => exact .nil
  | cons s rest ih =>
      rw [List.forall_mem_cons] at h
      exact h.1.append (ih h.2)

mutual

theorem Statement.ofEstree_shown (file : String) (data : Json) (h : data.IsShort) :
    Ensures (Statement.ofEstree data) fun s => AllShown (s.gaps file) := by
  unfold Statement.ofEstree
  refine .after fun tag => (Location.ofNode_short h).bind fun loc hl => ?_
  split
  · refine (Signature.ofEstree_short h).bind fun f hf => .ok (.single ?_ hf.2)
    exact List.forall_mem_cons.2
      ⟨rfl, List.forall_mem_singleton.2 (hf.1.orElse (Json.isShort_string ""))⟩
  · refine (h.getD (Json.isShort_string "var")).bind fun kind hk => .ok (.single ?_ hl)
    exact List.forall_mem_cons.2 ⟨hk, List.forall_mem_singleton.2 (Json.isShort_string "")⟩
  · exact .after fun a => .ok .nil
  · refine .after fun source => .after fun name => ?_
    refine (Specifier.listOf_shown file h).bind fun specifiers hs => .after fun kind => .ok ?_
    exact .flatMap fun s hm => (hs s hm).1
  · exact .after fun declaration => .after fun s => .ok .nil
  · refine .after fun found => .after fun declaration => ?_
    refine (Specifier.listOf_shown file h).bind fun specifiers hs => ?_
    refine .after fun source => .after fun name => .after fun kind => .ok ?_
    cases declaration with
    | none => exact .flatMap fun s hm => (hs s hm).2
    | some d => exact .nil
  · exact .after fun source => .after fun name => .ok .nil
  · refine h.children.bind fun ps hp => ?_
    refine (Ensures.mapM fun p hm => Statement.ofEstree_shown file p.val (hp p hm)).bind ?_
    exact fun body hb => .ok (.body hb)
  · refine .after fun id => .after fun name => h.child?.bind fun found hf => ?_
    cases found with
    | none => exact .ok .nil
    | some p =>
        have hb : Ensures (some <$> Block.ofEstree p.val)
            fun body => AllShown (Block.gaps file (body.getD ⟨[], none⟩)) :=
          (Block.ofEstree_shown file p.val (hf p rfl)).map fun b hb => hb
        exact hb.bind fun body hb => .ok hb
  · exact .after fun a => .ok .nil
  · refine (declaredName_short h).bind fun name hn => .ok (.single ?_ hl)
    exact List.forall_mem_singleton.2 hn
  · exact .after fun tag => .ok .nil
termination_by data.size
decreasing_by all_goals exact Json.Part.size_lt _

theorem Block.ofEstree_shown (file : String) (data : Json) (h : data.IsShort) :
    Ensures (Block.ofEstree data) fun b => AllShown (b.gaps file) := by
  unfold Block.ofEstree
  refine h.children.bind fun ps hp => ?_
  refine (Ensures.mapM fun p hm => Statement.ofEstree_shown file p.val (hp p hm)).bind ?_
  exact fun body hb => .after fun loc => .ok (.body hb)
termination_by data.size
decreasing_by exact Json.Part.size_lt _

end

end Typings
