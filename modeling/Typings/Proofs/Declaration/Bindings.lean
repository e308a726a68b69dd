import Typings.Proofs.Declaration.Independence
import Typings.Proofs.Declaration.Spelling

/-!
# Imports and exports are read back

An entry of an import or an export is a name, or two names with `as` between them. As long as names
are made of the characters of identifiers, a list of entries can be read from left to right: an
entry ends before a comma or before a blank that no `as` follows. The text of an import or an export
thus determines its entries, and whatever is left is its source.
-/

namespace Typings

/-! ## Entries -/

/-- A name and the name it is imported or exported under. -/
structure Binding where
  name : String
  other : String

namespace Binding

structure WellNamed (b : Binding) : Prop where
  name : IsIdentifier b.name
  other : IsIdentifier b.other

def text (b : Binding) : String :=
  if b.name = b.other then b.name else b.name ++ " as " ++ b.other

/-- What is written after the first name. -/
def asClause (b : Binding) : List Char :=
  if b.name = b.other then [] else ' ' :: 'a' :: 's' :: ' ' :: b.other.toList

def chars (b : Binding) : List Char :=
  b.name.toList ++ b.asClause

theorem toList_text (b : Binding) : b.text.toList = b.chars := by
  unfold text chars asClause
  split <;> simp

/-- An entry ends before `r`. -/
structure Stops (r : List Char) : Prop where
  noName : ∀ c ∈ r.head?, isIdentifierChar c = false
  noClause : ∀ t, r ≠ ' ' :: 'a' :: t

theorem stops_comma (t : List Char) : Stops (',' :: t) where
  noName := by simp; decide
  noClause := by simp

theorem stops_asClause (b : Binding) {r : List Char} (hr : Stops r) :
    ∀ c ∈ (b.asClause ++ r).head?, isIdentifierChar c = false := by
  unfold asClause
  split
  · exact hr.noName
  · simp
    decide

theorem chars_unique {b b' : Binding} (hb : b.WellNamed) (hb' : b'.WellNamed) {r s : List Char}
    (hr : Stops r) (hs : Stops s) (h : b.chars ++ r = b'.chars ++ s) : b = b' ∧ r = s := by
  obtain ⟨name, other⟩ := b
  obtain ⟨name', other'⟩ := b'
  rw [chars, chars, List.append_assoc, List.append_assoc] at h
  obtain ⟨hname, h⟩ := run_unique hb.name.2 hb'.name.2 (stops_asClause _ hr) (stops_asClause _ hs) h
  obtain rfl : name = name' := String.toList_inj.1 hname
  have hsame : asClause ⟨name, name⟩ = [] := if_pos rfl
  have hother {o : String} (ho : name ≠ o) :
      asClause ⟨name, o⟩ = ' ' :: 'a' :: 's' :: ' ' :: o.toList := if_neg ho
  by_cases ho : name = other <;> by_cases ho' : name = other'
  · subst ho ho'
    rw [hsame] at h
    exact ⟨rfl, h⟩
  · subst ho
    rw [hsame, hother ho'] at h
    exact absurd h (hr.noClause _)
  · subst ho'
    rw [hsame, hother ho] at h
    exact absurd h.symm (hs.noClause _)
  · rw [hother ho, hother ho'] at h
    simp only [List.cons_append, List.cons.injEq, true_and] at h
    obtain ⟨hother, rfl⟩ := run_unique hb.other.2 hb'.other.2 hr.noName hs.noName h
    obtain rfl : other = other' := String.toList_inj.1 hother
    exact ⟨rfl, rfl⟩

theorem endsList_blank {c : Char} (hc : c ≠ 'a') (t : List Char) :
    EndsList Stops chars WellNamed (' ' :: c :: t) where
  stops := ⟨by simp; decide, by simp [hc]⟩
  noComma := by simp
  noItem b hb u := by
    rw [chars, List.append_assoc]
    exact hb.name.ne_cons (by decide) _ _

/-- Entries with commas between them are read back up to the blank that ends them. -/
theorem commaList_chars_unique {bs bs' : List Binding} (hb : ∀ b ∈ bs, b.WellNamed)
    (hb' : ∀ b ∈ bs', b.WellNamed) {c : Char} (hc : c ≠ 'a') {r s : List Char}
    (h : commaList (bs.map chars) ++ ' ' :: c :: r = commaList (bs'.map chars) ++ ' ' :: c :: s) :
    bs = bs' ∧ r = s := by
  obtain ⟨rfl, hrs⟩ := commaList_unique_of stops_comma hb hb'
    (fun b hm _ _ _ hy hr hs h => chars_unique (hb b hm) hy hr hs h) (endsList_blank hc r)
    (endsList_blank hc s) h
  simpa using hrs

/-- The entries of an import or an export. -/
def listText (bs : List Binding) : String :=
  ", ".intercalate (bs.map text)

theorem toList_listText (bs : List Binding) : (listText bs).toList = commaList (bs.map chars) := by
  simp [listText, commaList, Function.comp_def, toList_text]

def importText (braced : Bool) (bs : List Binding) (source : String) : String :=
  "import " ++ (if braced then "\x7b " ++ listText bs ++ " \x7d" else listText bs) ++
    " from '" ++ source ++ "';"

def exportText (bs : List Binding) (source : Option String) : String :=
  "export \x7b " ++ listText bs ++ " \x7d" ++
    (match source with
      | some source => " from '" ++ source ++ "'"
      | none => "") ++ ";"

/-! ## Reading back -/

theorem commaList_chars_ne_brace {bs : List Binding} (hb : ∀ b ∈ bs, b.WellNamed)
    (r s : List Char) : commaList (bs.map chars) ++ ' ' :: r ≠ '\x7b' :: s := by
  cases bs with
  | nil => simp [commaList]
  | cons b bs =>
      rw [List.map_cons, commaList_cons, chars, List.append_assoc, List.append_assoc]
      exact (hb b (by simp)).name.ne_cons (by decide) _ _

/-- The text between the quotes is whatever is left, also if it has quotes of its own. -/
theorem quoted_unique {source source' : String} {close : List Char}
    (h : source.toList ++ close = source'.toList ++ close) : source = source' :=
  String.toList_inj.1 (List.append_cancel_right h)

theorem toList_importText_braced (bs : List Binding) (source : String) :
    (importText true bs source).toList = "import ".toList ++ '\x7b' :: ' ' ::
      (commaList (bs.map chars) ++ ' ' :: '\x7d' ::
        (" from '".toList ++ (source.toList ++ "';".toList))) := by
  simp [importText, toList_listText]

theorem toList_importText_bare (bs : List Binding) (source : String) :
    (importText false bs source).toList = "import ".toList ++
      (commaList (bs.map chars) ++ ' ' :: 'f' ::
        ("rom '".toList ++ (source.toList ++ "';".toList))) := by
  simp [importText, toList_listText]

theorem importText_unique {braced braced' : Bool} {bs bs' : List Binding}
    (hb : ∀ b ∈ bs, b.WellNamed) (hb' : ∀ b ∈ bs', b.WellNamed) {source source' : String}
    (h : importText braced bs source = importText braced' bs' source') :
    braced = braced' ∧ bs = bs' ∧ source = source' := by
  have hl := congrArg String.toList h
  -- The first character of the list tells whether it has braces.
  cases braced with
  | false =>
      cases braced' with
      | false =>
          rw [toList_importText_bare, toList_importText_bare] at hl
          obtain ⟨rfl, hs⟩ := commaList_chars_unique hb hb' (by decide) (List.append_cancel_left hl)
          exact ⟨rfl, rfl, quoted_unique (List.append_cancel_left hs)⟩
      | true =>
          rw [toList_importText_bare, toList_importText_braced] at hl
          exact absurd (List.append_cancel_left hl) (commaList_chars_ne_brace hb _ _)
  | true =>
      cases braced' with
      | false =>
          rw [toList_importText_braced, toList_importText_bare] at hl
          exact absurd (List.append_cancel_left hl).symm (commaList_chars_ne_brace hb' _ _)
      | true =>
          rw [toList_importText_braced, toList_importText_braced] at hl
          have hl := List.append_cancel_left hl
          simp only [List.cons.injEq, true_and] at hl
          obtain ⟨rfl, hs⟩ := commaList_chars_unique hb hb' (by decide) hl
          exact ⟨rfl, rfl, quoted_unique (List.append_cancel_left hs)⟩

/-- The characters from the closing brace of an export on. -/
def originChars : Option String → List Char
  | some source => [' ', 'f', 'r', 'o', 'm', ' ', '\''] ++ (source.toList ++ ['\'', ';'])
  | none => [';']

theorem originChars_injective : Function.Injective originChars := by
  intro source source' h
  cases source with
  | none =>
      cases source' with
      | none => rfl
      | some source' => simp [originChars] at h
  | some source =>
      cases source' with
      | none => simp [originChars] at h
      | some source' => rw [quoted_unique (List.append_cancel_left h)]

theorem toList_exportText (bs : List Binding) (source : Option String) :
    (exportText bs source).toList = "export \x7b ".toList ++
      (commaList (bs.map chars) ++ ' ' :: '\x7d' :: originChars source) := by
  cases source with
  | none => simp [exportText, originChars, toList_listText]
  | some source => simp [exportText, originChars, toList_listText]

theorem exportText_unique {bs bs' : List Binding} (hb : ∀ b ∈ bs, b.WellNamed)
    (hb' : ∀ b ∈ bs', b.WellNamed) {source source' : Option String}
    (h : exportText bs source = exportText bs' source') : bs = bs' ∧ source = source' := by
  have hl := congrArg String.toList h
  rw [toList_exportText, toList_exportText] at hl
  obtain ⟨rfl, hs⟩ := commaList_chars_unique hb hb' (by decide) (List.append_cancel_left hl)
  exact ⟨rfl, originChars_injective hs⟩

end Binding

/-! ## Specifiers -/

/-- The names of a specifier that stands for an entry. -/
def Specifier.binding : Specifier → Binding
  | .importNamed name other _ | .exportNamed name other _ => ⟨name.asText, other.asText⟩
  | .importDefault name _ => ⟨name.asText, name.asText⟩
  | _ => ⟨"", ""⟩

theorem Specifier.binding_content (s : Specifier) : s.content.binding = s.binding := by
  cases s <;> rfl

inductive Specifier.NamedImport : Specifier → Prop where
  | mk {imported localName loc} : imported.IsName isIdentifierChar →
      localName.IsName isIdentifierChar →
      Specifier.NamedImport (.importNamed imported localName loc)

inductive Specifier.NamedExport : Specifier → Prop where
  | mk {localName exported loc} : localName.IsName isIdentifierChar →
      exported.IsName isIdentifierChar →
      Specifier.NamedExport (.exportNamed localName exported loc)

/-- The specifiers of an import: possibly a default import, and then named ones. -/
inductive ImportList : List Specifier → Prop where
  | named {specifiers} : (∀ s ∈ specifiers, s.NamedImport) → ImportList specifiers
  | withDefault {localName loc specifiers} : localName.IsName isIdentifierChar →
      (∀ s ∈ specifiers, s.NamedImport) → ImportList (.importDefault localName loc :: specifiers)

def ExportList (specifiers : List Specifier) : Prop :=
  ∀ s ∈ specifiers, s.NamedExport

/-- The specifier is written as its names. -/
structure Specifier.Entry (render : Context → Specifier → Rendering Json) (s : Specifier) :
    Prop where
  wellNamed : s.binding.WellNamed
  result : ∀ ctx, (render ctx s).result = .ok (.string s.binding.text)

theorem renderRenamed_string {name other shown : String} (h : name = other → shown = name) :
    renderRenamed (.string name) (.string other) (.string shown) =
      .ok (.string (Binding.text ⟨name, other⟩)) := by
  have hs : (Json.string name).same (.string other) = (name == other) := by
    simp [Json.same, Json.sameScalar]
  rw [renderRenamed, hs, Binding.text]
  by_cases ho : name = other
  · simp [ho, h ho]
  · rw [if_neg (by simpa using ho), if_neg ho]
    rfl

theorem Specifier.NamedImport.entry {s : Specifier} (h : s.NamedImport) :
    s.Entry Specifier.renderImport := by
  obtain ⟨⟨name, rfl, hn⟩, ⟨other, rfl, ho⟩⟩ := h
  exact ⟨⟨hn, ho⟩, fun _ => renderRenamed_string fun _ => rfl⟩

theorem Specifier.NamedExport.entry {s : Specifier} (h : s.NamedExport) :
    s.Entry Specifier.renderExport := by
  obtain ⟨⟨name, rfl, hn⟩, ⟨other, rfl, ho⟩⟩ := h
  exact ⟨⟨hn, ho⟩, fun _ => renderRenamed_string Eq.symm⟩

theorem ImportList.entry {specifiers : List Specifier} (h : ImportList specifiers) :
    ∀ s ∈ specifiers, s.Entry Specifier.renderImport := by
  cases h with
  | named h => exact fun s hs => (h s hs).entry
  | withDefault hd h =>
      intro s hs
      rcases List.mem_cons.1 hs with rfl | hs
      · obtain ⟨name, rfl, hn⟩ := hd
        refine ⟨⟨hn, hn⟩, fun _ => ?_⟩
        rw [Specifier.binding, Binding.text, if_pos rfl]
        rfl
      · exact (h s hs).entry

theorem ExportList.entry {specifiers : List Specifier} (h : ExportList specifiers) :
    ∀ s ∈ specifiers, s.Entry Specifier.renderExport :=
  fun s hs => (h s hs).entry

theorem wellNamed_bindings {render : Context → Specifier → Rendering Json}
    {specifiers : List Specifier} (h : ∀ s ∈ specifiers, s.Entry render) :
    ∀ b ∈ specifiers.map Specifier.binding, b.WellNamed := by
  intro b hb
  obtain ⟨s, hs, rfl⟩ := List.mem_map.1 hb
  exact (h s hs).wellNamed

theorem joined_entries {render : Context → Specifier → Rendering Json} (ctx : Context)
    {specifiers : List Specifier} (h : ∀ s ∈ specifiers, s.Entry render) :
    ∃ pieces, (specifiers.mapM (render ctx)).result = .ok pieces ∧
      joinPieces ", " pieces = .ok (Binding.listText (specifiers.map Specifier.binding)) := by
  refine ⟨(specifiers.map fun s => s.binding.text).map Json.string, ?_, ?_⟩
  · rw [Rendering.result_mapM]
    induction specifiers with
    | nil => rfl
    | cons s specifiers ih =>
        rw [List.mapM_cons, (h s (by simp)).result, ih fun s hs => h s (by simp [hs])]
        rfl
  · rw [joinPieces_strings, Binding.listText, List.map_map]
    rfl

theorem renderImport_result (ctx : Context) (source : String) {specifiers : List Specifier}
    (h : ImportList specifiers) :
    (renderImport ctx source specifiers).result =
      .ok (Binding.importText (startsNamed specifiers) (specifiers.map Specifier.binding)
        source) := by
  obtain ⟨pieces, hp, hj⟩ := joined_entries ctx h.entry
  rw [renderImport, Rendering.result_bind, hp]
  change (Rendering.ofExcept (joinPieces ", " pieces) >>= _).result = _
  rw [hj]
  rfl

theorem renderExport_result (ctx : Context) (source : Option String) {specifiers : List Specifier}
    (h : ExportList specifiers) :
    (renderExport ctx source specifiers).result =
      .ok (Binding.exportText (specifiers.map Specifier.binding) source) := by
  obtain ⟨pieces, hp, hj⟩ := joined_entries ctx h.entry
  unfold renderExport
  rw [Rendering.result_bind, hp]
  change (Rendering.ofExcept (joinPieces ", " pieces) >>= _).result = _
  rw [hj]
  cases source <;> rfl

/-! ## From entries to specifiers -/

def Binding.imported (b : Binding) : Specifier :=
  .importNamed (.string b.name) (.string b.other) none

def Binding.exported (b : Binding) : Specifier :=
  .exportNamed (.string b.name) (.string b.other) none

/-- Without braces, the first entry is a default import. -/
def Binding.imports (braced : Bool) : List Binding → List Specifier
  | [] => []
  | b :: bs => (if braced then b.imported else .importDefault (.string b.name) none) ::
      bs.map Binding.imported

theorem map_content_eq {written : Binding → Specifier} {specifiers : List Specifier}
    (h : ∀ s ∈ specifiers, s.content = written s.binding) :
    specifiers.map Specifier.content = (specifiers.map Specifier.binding).map written := by
  rw [List.map_map]
  exact List.map_congr_left h

theorem Specifier.NamedImport.content_eq {s : Specifier} (h : s.NamedImport) :
    s.content = s.binding.imported := by
  obtain ⟨⟨name, rfl, -⟩, ⟨other, rfl, -⟩⟩ := h
  rfl

theorem Specifier.NamedExport.content_eq {s : Specifier} (h : s.NamedExport) :
    s.content = s.binding.exported := by
  obtain ⟨⟨name, rfl, -⟩, ⟨other, rfl, -⟩⟩ := h
  rfl

theorem ImportList.map_content {specifiers : List Specifier} (h : ImportList specifiers) :
    specifiers.map Specifier.content =
      Binding.imports (startsNamed specifiers) (specifiers.map Specifier.binding) := by
  cases h with
  | named h =>
      rw [map_content_eq fun s hs => (h s hs).content_eq]
      cases specifiers with
      | nil => rfl
      | cons s specifiers =>
          obtain ⟨-, -⟩ := h s (by simp)
          rfl
  | withDefault hd h =>
      obtain ⟨name, rfl, -⟩ := hd
      rw [List.map_cons, map_content_eq fun s hs => (h s hs).content_eq]
      rfl

theorem map_binding_of_map_content {specifiers specifiers' : List Specifier}
    (h : specifiers.map Specifier.content = specifiers'.map Specifier.content) :
    specifiers.map Specifier.binding = specifiers'.map Specifier.binding := by
  have hb := congrArg (List.map Specifier.binding) h
  simpa only [List.map_map, Function.comp_def, Specifier.binding_content] using hb

/-- The text of an import or of an export of names gives back the kinds of its specifiers, their
names and their order, and the source. -/
theorem specifiers_determined (ctx ctx' : Context) :
    (∀ (source source' : String) (specifiers specifiers' : List Specifier),
      ImportList specifiers → ImportList specifiers' →
      (∃ text, (renderImport ctx source specifiers).result = .ok text) ∧
      ((renderImport ctx source specifiers).result =
          (renderImport ctx' source' specifiers').result ↔
        specifiers.map Specifier.content = specifiers'.map Specifier.content ∧
          source = source')) ∧
    (∀ (source source' : Option String) (specifiers specifiers' : List Specifier),
      ExportList specifiers → ExportList specifiers' →
      (∃ text, (renderExport ctx source specifiers).result = .ok text) ∧
      ((renderExport ctx source specifiers).result =
          (renderExport ctx' source' specifiers').result ↔
        specifiers.map Specifier.content = specifiers'.map Specifier.content ∧
          source = source')) := by
  constructor
  · intro source source' specifiers specifiers' h h'
    rw [renderImport_result ctx source h, renderImport_result ctx' source' h']
    refine ⟨⟨_, rfl⟩, ?_, ?_⟩
    · intro he
      obtain ⟨hs, hb, rfl⟩ := Binding.importText_unique (wellNamed_bindings h.entry)
        (wellNamed_bindings h'.entry) (Except.ok.inj he)
      rw [h.map_content, h'.map_content, hs, hb]
      exact ⟨rfl, rfl⟩
    · rintro ⟨hc, rfl⟩
      rw [map_binding_of_map_content hc, ← startsNamed_content, hc, startsNamed_content]
  · intro source source' specifiers specifiers' h h'
    rw [renderExport_result ctx source h, renderExport_result ctx' source' h']
    refine ⟨⟨_, rfl⟩, ?_, ?_⟩
    · intro he
      obtain ⟨hb, rfl⟩ := Binding.exportText_unique (wellNamed_bindings h.entry)
        (wellNamed_bindings h'.entry) (Except.ok.inj he)
      rw [map_content_eq fun s hs => (h s hs).content_eq,
        map_content_eq fun s hs => (h' s hs).content_eq, hb]
      exact ⟨rfl, rfl⟩
    · rintro ⟨hc, rfl⟩
      rw [map_binding_of_map_content hc]

theorem specifiers_determined_of_keywords :
    let imports : List Specifier :=
      [.importDefault (.string "from") none, .importNamed (.string "as") (.string "from") none]
    let exports : List Specifier := [.exportNamed (.string "from") (.string "as") none]
    ImportList imports ∧ ExportList exports ∧
      (renderImport ⟨"  ", ""⟩ "a" imports).result = .ok "import from, as as from from 'a';" ∧
      (renderImport ⟨"  ", ""⟩ "a" imports).result ≠
        (renderImport ⟨"\t", ""⟩ "a' from 'a" imports).result ∧
      (renderExport ⟨"  ", ""⟩ none exports).result ≠
        (renderExport ⟨"\t", ""⟩ (some "") exports).result := by
  intro imports exports
  have hf : (Json.string "from").IsName isIdentifierChar := ⟨_, rfl, by decide⟩
  have ha : (Json.string "as").IsName isIdentifierChar := ⟨_, rfl, by decide⟩
  have hi : ImportList imports :=
    .withDefault hf fun s hs => List.eq_of_mem_singleton hs ▸ .mk ha hf
  have he : ExportList exports := fun s hs => List.eq_of_mem_singleton hs ▸ .mk hf ha
  obtain ⟨imp, exp⟩ := specifiers_determined ⟨"  ", ""⟩ ⟨"\t", ""⟩
  refine ⟨hi, he, rfl, fun h => ?_, fun h => ?_⟩
  · exact absurd ((imp _ _ _ _ hi hi).2.1 h).2 (by decide)
  · exact absurd ((exp _ _ _ _ he he).2.1 h).2 (by decide)

end Typings
