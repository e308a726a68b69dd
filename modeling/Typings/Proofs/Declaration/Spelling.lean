import Typings.Proofs.Declaration.Abort
import Typings.Proofs.Declaration.Phrase
import Typings.Proofs.Syntax.Parts

/-!
# The spelling of types

The text of a type is that of a phrase: signs stand between the phrases of the members of a union or
an intersection, and nothing shows where a member ends. Where names are made of the characters of
names, types have the same text just if they have the same phrase.
-/

namespace Typings

/-! ## Phrases of types -/

/-- The text that a value is; other values have none. -/
def Json.asText : Json → String
  | .string text => text
  | _ => ""

def Phrase.word (w : String) : Phrase :=
  .alone (.named w [])

/-- The first phrase, the sign and the second phrase. -/
def Phrase.append : Phrase → Operator → Phrase → Phrase
  | .arrow params result, op, q => .arrow params (result.append op q)
  | .alone a, op, q => .joined a op q
  | .joined a sign rest, op, q => .joined a sign (rest.append op q)

def joinPhrases (op : Operator) : List Phrase → Phrase
  | [] => .word ""
  | [p] => p
  | p :: ps => p.append op (joinPhrases op ps)

mutual

def FlowType.phrase : FlowType → Phrase
  | .keyword k _ => .word k.text
  | .function none _ _ _ => .word anyFunction
  | .function (some params) returns rest _ =>
    .arrow (paramPhrases params ++ restPhrases rest) (resultPhrase returns)
  | .generic (.string "Object") _ _ => .word "object"
  | .generic name none _ => .word name.asText
  | .generic name (some args) _ => .alone (.named name.asText (typePhrases args))
  | .nullable inner _ => inner.phrase
  | .object members indexers _ _ =>
    .alone (.object (memberFields members ++ indexerFields indexers))
  | .union types _ => joinPhrases .union (typePhrases types)
  | .intersection types _ => joinPhrases .intersection (typePhrases types)
  | .tuple types _ => .alone (.tuple (typePhrases types))
  | .stringLiteral _ raw _ | .booleanLiteral _ raw _ => .word raw.asText
  | .unknown .. => .word ""

def typePhrases : List FlowType → List Phrase
  | [] => []
  | t :: ts => t.phrase :: typePhrases ts

def resultPhrase : Option FlowType → Phrase
  | none => .word defaultResult
  | some t => t.phrase

def paramPhrases : List FunctionParam → List Param
  | [] => []
  | ⟨name, type, optional, _⟩ :: ps =>
    ⟨false, name.asText, optional, type.phrase⟩ :: paramPhrases ps

def restPhrases : Option FunctionParam → List Param
  | none => []
  | some ⟨name, type, optional, _⟩ => [⟨true, name.asText, optional, type.phrase⟩]

def memberFields : List Member → List Field
  | [] => []
  | .property key value optional _ :: ms =>
    .property key.asText optional value.phrase :: memberFields ms
  | .unknown .. :: ms => memberFields ms

def indexerFields : List Indexer → List Field
  | [] => []
  | ⟨name, key, value, _⟩ :: is =>
    .indexer (name.orElse unnamedIndexer).asText key.phrase value.phrase :: indexerFields is

end

def FunctionParam.phrase (isRest : Bool) (p : FunctionParam) : Param :=
  ⟨isRest, p.name.asText, p.optional, p.type.phrase⟩

def Indexer.field (i : Indexer) : Field :=
  .indexer (i.name.orElse unnamedIndexer).asText i.key.phrase i.value.phrase

@[simp] theorem typePhrases_eq_map (ts : List FlowType) :
    typePhrases ts = ts.map FlowType.phrase := by
  induction ts with
  | nil => rfl
  | cons t ts ih => rw [typePhrases, ih, List.map_cons]

@[simp] theorem paramPhrases_eq_map (ps : List FunctionParam) :
    paramPhrases ps = ps.map (FunctionParam.phrase false) := by
  induction ps with
  | nil => rfl
  | cons p ps ih =>
      obtain ⟨name, type, optional, loc⟩ := p
      rw [paramPhrases, ih, List.map_cons]
      rfl

@[simp] theorem restPhrases_eq_map (rest : Option FunctionParam) :
    restPhrases rest = rest.toList.map (FunctionParam.phrase true) := by
  cases rest with
  | none => rfl
  | some p =>
      obtain ⟨name, type, optional, loc⟩ := p
      rfl

@[simp] theorem indexerFields_eq_map (is : List Indexer) :
    indexerFields is = is.map Indexer.field := by
  induction is with
  | nil => rfl
  | cons i is ih =>
      obtain ⟨name, key, value, loc⟩ := i
      rw [indexerFields, ih, List.map_cons]
      rfl

theorem FlowType.phrase_generic {name : Json} {args : Option (List FlowType)}
    {loc : Option Location} (h : name ≠ .string "Object") :
    (FlowType.generic name args loc).phrase =
      .alone (.named name.asText ((args.getD []).map FlowType.phrase)) := by
  cases args with
  | none =>
      rw [FlowType.phrase]
      · rfl
      · exact h
  | some args =>
      rw [FlowType.phrase, typePhrases_eq_map]
      · rfl
      · exact h

/-! ## Characters of joined phrases -/

theorem Phrase.chars_append : (p : Phrase) → (op : Operator) → (q : Phrase) →
    (p.append op q).chars = p.chars ++ (' ' :: op.sign :: ' ' :: q.chars)
  | .arrow params result, op, q => by
      simp [Phrase.append, Phrase.chars, result.chars_append op q]
  | .alone a, op, q => by simp [Phrase.append, Phrase.chars]
  | .joined a sign rest, op, q => by simp [Phrase.append, Phrase.chars, rest.chars_append op q]

@[simp] theorem Phrase.chars_word (w : String) : (Phrase.word w).chars = w.toList := by
  simp [Phrase.word, Phrase.chars, Operand.chars, angleList]

theorem Phrase.WellNamed.append {op : Operator} {p q : Phrase} (hp : p.WellNamed)
    (hq : q.WellNamed) : (p.append op q).WellNamed := by
  match hp with
  | .arrow hps hr => exact .arrow hps (hr.append hq)
  | .alone ha => exact .joined ha hq
  | .joined ha hr => exact .joined ha (hr.append hq)

def Operator.separator : Operator → String
  | .union => " | "
  | .intersection => " & "

theorem Operator.toList_separator (op : Operator) :
    op.separator.toList = [' ', op.sign, ' '] := by
  cases op <;> rfl

theorem joinPhrases_chars (op : Operator) (ps : List Phrase) :
    (joinPhrases op ps).chars =
      (op.separator.intercalate (ps.map fun p => String.ofList p.chars)).toList := by
  induction ps with
  | nil => simp [joinPhrases]
  | cons p ps ih =>
      cases ps with
      | nil => simp [joinPhrases]
      | cons q qs =>
          change (p.append op (joinPhrases op (q :: qs))).chars = _
          rw [Phrase.chars_append, ih]
          simp [Operator.toList_separator]

theorem joinPhrases_wellNamed {op : Operator} {ps : List Phrase} (hn : ps ≠ [])
    (h : ∀ p ∈ ps, p.WellNamed) : (joinPhrases op ps).WellNamed := by
  induction ps with
  | nil => exact absurd rfl hn
  | cons p ps ih =>
      cases ps with
      | nil => exact h p (by simp)
      | cons q qs => exact (h p (by simp)).append (ih (by simp) fun r hr => h r (by simp [hr]))

/-! ## Types with proper names -/

def Json.IsName (p : Char → Bool) (v : Json) : Prop :=
  ∃ s, v = .string s ∧ IsRun p s

theorem Json.IsName.isRun {p : Char → Bool} {v : Json} (h : v.IsName p) : IsRun p v.asText := by
  obtain ⟨s, rfl, hs⟩ := h
  exact hs

theorem Json.IsName.shownText {p : Char → Bool} {v : Json} (h : v.IsName p) :
    shownText v = .ok v.asText := by
  obtain ⟨s, rfl, -⟩ := h
  rfl

theorem Json.IsName.isPresent {p : Char → Bool} {v : Json} (h : v.IsName p) :
    v.isPresent = true := by
  obtain ⟨s, rfl, hs⟩ := h
  simpa [Json.isPresent] using hs.1

theorem Json.IsName.orElse {p : Char → Bool} {v : Json} (h : v.IsName p) (other : Json) :
    v.orElse other = v := by
  rw [Json.orElse, if_pos h.isPresent]

def Member.Named : Member → Prop
  | .property key _ _ _ => key.IsName isIdentifierChar
  | .unknown .. => False

/-- What the names in a type without its parts have to be like for the type to have a phrase of its
own. -/
def FlowType.Spelled : FlowType → Prop
  | .keyword .. | .nullable .. | .tuple .. => True
  | .function params _ rest _ =>
    ∀ p ∈ params.getD [] ++ rest.toList, p.name.IsName isIdentifierChar
  | .generic name _ _ => name.IsName isNameChar
  | .object members indexers _ _ =>
    (∀ m ∈ members, m.Named) ∧ ∀ i ∈ indexers, i.name.IsName isIdentifierChar
  | .union types _ | .intersection types _ => types ≠ []
  | .stringLiteral .. | .booleanLiteral .. | .unknown .. => False

def FlowType.spelling (t : FlowType) : String :=
  String.ofList t.phrase.chars

theorem ofList_joinPhrases (op : Operator) (ts : List FlowType) :
    String.ofList (joinPhrases op (ts.map FlowType.phrase)).chars =
      op.separator.intercalate (ts.map FlowType.spelling) := by
  rw [joinPhrases_chars, String.ofList_toList, List.map_map]
  rfl

/-! ## Texts -/

theorem joinPieces_strings (separator : String) (texts : List String) :
    joinPieces separator (texts.map Json.string) = .ok (separator.intercalate texts) := by
  have h : (texts.map Json.string).mapM pieceText = .ok texts := by
    induction texts with
    | nil => rfl
    | cons text texts ih =>
        rw [List.map_cons, List.mapM_cons, ih]
        rfl
  rw [joinPieces, h]
  rfl

theorem renderList_eq_spelling {ts : List FlowType}
    (h : ∀ t ∈ ts, t.render = .ok (.string t.spelling)) :
    renderList ts = .ok ((ts.map FlowType.spelling).map .string) := by
  induction ts with
  | nil => rfl
  | cons t ts ih =>
      rw [renderList, h t (by simp), ih fun s hs => h s (by simp [hs])]
      rfl

theorem renderList_joined {α : Type} {ts : List FlowType}
    (h : ∀ t ∈ ts, t.render = .ok (.string t.spelling)) (separator : String) (f : String → α) :
    (do
      let list ← joinPieces separator (← renderList ts)
      return f list) = .ok (f (separator.intercalate (ts.map FlowType.spelling))) := by
  rw [renderList_eq_spelling h]
  change (joinPieces separator ((ts.map FlowType.spelling).map .string) >>= fun s => pure (f s)) = _
  rw [joinPieces_strings]
  rfl

theorem toList_optionalMark (optional : Bool) :
    (optionalMark optional).toList = if optional then ['?'] else [] := by
  cases optional <;> rfl

theorem FunctionParam.render_eq_phrase {p : FunctionParam} (hn : p.name.IsName isIdentifierChar)
    (ht : p.type.render = .ok (.string p.type.spelling)) :
    p.render = .ok (.string (String.ofList (p.phrase false).chars)) := by
  obtain ⟨name, type, optional, loc⟩ := p
  have hs : name.asText ++ optionalMark optional ++ ": " ++ type.spelling =
      String.ofList (FunctionParam.phrase false ⟨name, type, optional, loc⟩).chars := by
    apply String.toList_inj.1
    simp [FunctionParam.phrase, Param.chars, labelChars, toList_optionalMark, FlowType.spelling]
  rw [FunctionParam.render, ht]
  simp only [bind, Except.bind, hn.isPresent, hn.shownText]
  exact congrArg (fun s => Except.ok (Json.string s)) hs

theorem renderParams_eq_phrase {ps : List FunctionParam}
    (hn : ∀ p ∈ ps, p.name.IsName isIdentifierChar)
    (ht : ∀ p ∈ ps, p.type.render = .ok (.string p.type.spelling)) :
    renderParams ps =
      .ok ((ps.map fun p => String.ofList (p.phrase false).chars).map .string) := by
  induction ps with
  | nil => rfl
  | cons p ps ih =>
      rw [renderParams, FunctionParam.render_eq_phrase (hn p (by simp)) (ht p (by simp)),
        ih (fun q hq => hn q (by simp [hq])) fun q hq => ht q (by simp [hq])]
      rfl

theorem restPieces_eq_phrase {rest : Option FunctionParam}
    (hn : ∀ p ∈ rest.toList, p.name.IsName isIdentifierChar)
    (ht : ∀ p ∈ rest.toList, p.type.render = .ok (.string p.type.spelling)) :
    restPieces rest =
      .ok ((rest.toList.map fun p => String.ofList (p.phrase true).chars).map .string) := by
  cases rest with
  | none => rfl
  | some p =>
      have hs : "..." ++ String.ofList (p.phrase false).chars =
          String.ofList (p.phrase true).chars := by
        apply String.toList_inj.1
        simp [FunctionParam.phrase, Param.chars]
      rw [restPieces, FunctionParam.render_eq_phrase (hn p (by simp)) (ht p (by simp))]
      exact congrArg (fun s => Except.ok [Json.string s]) hs

theorem resultText_eq_phrase {returns : Option FlowType}
    (ht : ∀ t ∈ returns.toList, t.render = .ok (.string t.spelling)) :
    resultText returns = .ok (String.ofList (resultPhrase returns).chars) := by
  cases returns with
  | none => rfl
  | some t =>
      rw [resultText, FlowType.renderText, ht t (by simp), resultPhrase]
      rfl

theorem renderMembers_eq_phrase {ms : List Member} (hn : ∀ m ∈ ms, m.Named)
    (ht : ∀ t ∈ ms.filterMap Member.value?, t.render = .ok (.string t.spelling)) :
    renderMembers ms = .ok (String.ofList ((memberFields ms).map Field.chars).flatten) := by
  induction ms with
  | nil => rfl
  | cons m ms ih =>
      cases m with
      | unknown tag loc => exact (hn (.unknown tag loc) (by simp)).elim
      | property key value optional loc =>
          simp only [Member.value?, List.filterMap_cons, List.forall_mem_cons] at ht
          have hk : key.IsName isIdentifierChar := hn (.property key value optional loc) (by simp)
          rw [renderMembers, hk.shownText, ht.1, ih (fun m hm => hn m (by simp [hm])) ht.2]
          refine congrArg Except.ok (String.toList_inj.1 ?_)
          simp [memberFields, Field.chars, labelChars, toList_optionalMark, FlowType.spelling]

theorem renderIndexers_eq_phrase {is : List Indexer}
    (hn : ∀ i ∈ is, i.name.IsName isIdentifierChar)
    (ht : ∀ t ∈ is.flatMap fun i => [i.key, i.value], t.render = .ok (.string t.spelling)) :
    renderIndexers is = .ok (String.ofList ((indexerFields is).map Field.chars).flatten) := by
  induction is with
  | nil => rfl
  | cons i is ih =>
      obtain ⟨name, key, value, loc⟩ := i
      simp only [List.flatMap_cons, List.forall_mem_append, List.forall_mem_cons] at ht
      have hs : shownText (name.orElse unnamedIndexer) = .ok (name.orElse unnamedIndexer).asText := by
        have hi := hn ⟨name, key, value, loc⟩ (by simp)
        rw [hi.orElse, hi.shownText]
      rw [renderIndexers, ht.1.1, ht.1.2.1, hs, ih (fun i hi => hn i (by simp [hi])) ht.2]
      refine congrArg Except.ok (String.toList_inj.1 ?_)
      simp [Indexer.field, Field.chars, labelChars, FlowType.spelling]

theorem argumentText_eq_phrase {args : Option (List FlowType)}
    (h : ∀ t ∈ args.getD [], t.render = .ok (.string t.spelling)) :
    argumentText args =
      .ok (String.ofList (angleList ((args.getD []).map fun t => t.phrase.chars))) := by
  match args with
  | none => rfl
  | some [] => rfl
  | some (t :: ts) =>
      have hl := renderList_joined h ", " fun list => "<" ++ list ++ ">"
      refine hl.trans (congrArg Except.ok (String.toList_inj.1 ?_))
      simp [commaList, angleList_cons, FlowType.spelling, Function.comp_def]

theorem FlowType.render_function_eq_spelling {params : List FunctionParam}
    {returns : Option FlowType} {rest : Option FunctionParam} {loc : Option Location}
    (hn : ∀ p ∈ params ++ rest.toList, p.name.IsName isIdentifierChar)
    (hp : ∀ p ∈ params ++ rest.toList, p.type.render = .ok (.string p.type.spelling))
    (hr : ∀ t ∈ returns.toList, t.render = .ok (.string t.spelling)) :
    (FlowType.function (some params) returns rest loc).render =
      .ok (.string (FlowType.function (some params) returns rest loc).spelling) := by
  rw [List.forall_mem_append] at hn hp
  rw [FlowType.render_function, renderParams_eq_phrase hn.1 hp.1, restPieces_eq_phrase hn.2 hp.2,
    resultText_eq_phrase hr]
  change (joinPieces ", " (List.map Json.string _ ++ List.map Json.string _) >>= _) = _
  rw [← List.map_append, joinPieces_strings]
  refine congrArg (fun s => Except.ok (Json.string s)) (String.toList_inj.1 ?_)
  simp [commaList, FlowType.spelling, FlowType.phrase, Phrase.chars,
    Function.comp_def]

theorem FlowType.Everywhere.render_eq {t : FlowType} (h : t.Everywhere FlowType.Spelled) :
    t.render = .ok (.string t.spelling) := by
  induction h with
  | @intro t hn _ ih =>
      cases t with
      | keyword k loc => simp [FlowType.render, FlowType.spelling, FlowType.phrase]
      | function params returns rest loc =>
          cases params with
          | none => simp [FlowType.render, FlowType.spelling, FlowType.phrase]
          | some params =>
              refine FlowType.render_function_eq_spelling hn (fun p hp => ih _ ?_)
                fun t ht => ih _ ?_
              · exact List.mem_append_left _ (List.mem_map_of_mem hp)
              · exact List.mem_append_right _ ht
      | generic name args loc =>
          by_cases ho : name = .string "Object"
          · subst ho
            simp [FlowType.render, FlowType.spelling, FlowType.phrase, replacement?]
          · rw [FlowType.render_generic ho, hn.shownText, argumentText_eq_phrase ih, FlowType.spelling,
              FlowType.phrase_generic ho]
            refine congrArg (fun s => Except.ok (Json.string s)) (String.toList_inj.1 ?_)
            simp [Phrase.chars, Operand.chars, Function.comp_def]
      | nullable inner loc =>
          rw [FlowType.render, ih inner (by simp [FlowType.parts])]
          rfl
      | object members indexers exact loc =>
          obtain ⟨hm, hi⟩ := hn
          rw [FlowType.parts, List.forall_mem_append] at ih
          rw [FlowType.render, renderMembers_eq_phrase hm ih.1, renderIndexers_eq_phrase hi ih.2]
          refine congrArg (fun s => Except.ok (Json.string s)) (String.toList_inj.1 ?_)
          simp [FlowType.spelling, FlowType.phrase, Phrase.chars, Operand.chars]
      | union types loc =>
          rw [FlowType.render, FlowType.spelling, FlowType.phrase, typePhrases_eq_map,
            ofList_joinPhrases]
          exact renderList_joined ih Operator.union.separator Json.string
      | intersection types loc =>
          rw [FlowType.render, FlowType.spelling, FlowType.phrase, typePhrases_eq_map,
            ofList_joinPhrases]
          exact renderList_joined ih Operator.intersection.separator Json.string
      | tuple types loc =>
          rw [FlowType.render]
          refine (renderList_joined ih ", " fun list => Json.string ("[" ++ list ++ "]")).trans ?_
          refine congrArg (fun s => Except.ok (Json.string s)) (String.toList_inj.1 ?_)
          simp [commaList, FlowType.spelling, FlowType.phrase, Phrase.chars,
            Operand.chars, FlowType.parts, Function.comp_def]
      | stringLiteral | booleanLiteral | unknown => exact hn.elim

/-! ## Phrases with proper names -/

theorem Phrase.WellNamed.word {w : String} (h : IsWord w) : (Phrase.word w).WellNamed :=
  .alone (.named h (by simp))

theorem resultPhrase_wellNamed {returns : Option FlowType}
    (h : ∀ t ∈ returns.toList, t.phrase.WellNamed) : (resultPhrase returns).WellNamed := by
  cases returns with
  | none => exact .word (by decide)
  | some t => exact h t (by simp)

theorem memberFields_wellNamed {ms : List Member} (hn : ∀ m ∈ ms, m.Named)
    (ht : ∀ t ∈ ms.filterMap Member.value?, t.phrase.WellNamed) :
    ∀ f ∈ memberFields ms, f.WellNamed := by
  induction ms with
  | nil => simp [memberFields]
  | cons m ms ih =>
      cases m with
      | unknown tag loc => exact (hn (.unknown tag loc) (by simp)).elim
      | property key value optional loc =>
          have hk : key.IsName isIdentifierChar := hn (.property key value optional loc) (by simp)
          simp only [Member.value?, List.filterMap_cons, List.forall_mem_cons] at ht
          rw [memberFields, List.forall_mem_cons]
          exact ⟨.property hk.isRun ht.1, ih (fun m hm => hn m (by simp [hm])) ht.2⟩

theorem indexerFields_wellNamed {is : List Indexer}
    (hn : ∀ i ∈ is, i.name.IsName isIdentifierChar)
    (ht : ∀ t ∈ is.flatMap fun i => [i.key, i.value], t.phrase.WellNamed) :
    ∀ f ∈ indexerFields is, f.WellNamed := by
  rw [indexerFields_eq_map, List.forall_mem_map]
  intro i hi
  rw [Indexer.field, (hn i hi).orElse]
  refine .indexer (hn i hi).isRun (ht _ ?_) (ht _ ?_)
  all_goals exact List.mem_flatMap.2 ⟨i, hi, by simp⟩

theorem FlowType.Everywhere.phrase_wellNamed {t : FlowType} (h : t.Everywhere FlowType.Spelled) :
    t.phrase.WellNamed := by
  induction h with
  | @intro t hn _ ih =>
      cases t with
      | keyword k loc => exact .word (by cases k <;> decide)
      | function params returns rest loc =>
          cases params with
          | none => exact .word (by decide)
          | some params =>
              obtain ⟨hn, hm⟩ := List.forall_mem_append.1 hn
              simp only [FlowType.parts, List.map_append, List.forall_mem_append,
                List.forall_mem_map] at ih
              obtain ⟨⟨hp, hq⟩, hr⟩ := ih
              rw [FlowType.phrase, paramPhrases_eq_map, restPhrases_eq_map]
              refine .arrow (List.forall_mem_append.2 ⟨?_, ?_⟩) (resultPhrase_wellNamed hr)
              · exact List.forall_mem_map.2 fun p h => .mk (hn p h).isRun (hp p h)
              · exact List.forall_mem_map.2 fun p h => .mk (hm p h).isRun (hq p h)
      | generic name args loc =>
          by_cases ho : name = .string "Object"
          · subst ho
            exact .word (by decide)
          · rw [FlowType.phrase_generic ho]
            exact .alone (.named hn.isRun (List.forall_mem_map.2 ih))
      | nullable inner loc => exact ih inner (by simp [FlowType.parts])
      | object members indexers exact loc =>
          obtain ⟨hm, hi⟩ := hn
          rw [FlowType.parts, List.forall_mem_append] at ih
          exact .alone (.object (List.forall_mem_append.2
            ⟨memberFields_wellNamed hm ih.1, indexerFields_wellNamed hi ih.2⟩))
      | union types loc | intersection types loc =>
          rw [FlowType.phrase, typePhrases_eq_map]
          have hne : types.map FlowType.phrase ≠ [] := by
            simpa using (show types ≠ [] from hn)
          exact joinPhrases_wellNamed hne (List.forall_mem_map.2 ih)
      | tuple types loc =>
          rw [FlowType.phrase, typePhrases_eq_map]
          exact .alone (.tuple (List.forall_mem_map.2 ih))
      | stringLiteral | booleanLiteral | unknown => exact hn.elim

/-- Two types with proper names have the same text just if they have the same phrase. -/
theorem FlowType.Everywhere.render_eq_iff {t u : FlowType} (ht : t.Everywhere FlowType.Spelled)
    (hu : u.Everywhere FlowType.Spelled) : t.render = u.render ↔ t.phrase = u.phrase := by
  rw [ht.render_eq, hu.render_eq]
  constructor
  · intro h
    simp only [Except.ok.injEq, Json.string.injEq, FlowType.spelling, String.ofList_inj] at h
    exact ht.phrase_wellNamed.eq_of_chars_eq hu.phrase_wellNamed h
  · intro h
    rw [FlowType.spelling, FlowType.spelling, h]

end Typings
