import Typings.Proofs.Declaration.Spelling
import Typings.Proofs.Syntax.Rebuild

/-!
# Types read back

A phrase is read as a union of intersections: `&` binds more than `|`, and the result of a function
extends as far as it can. What is read from the phrase of a type is the type with unions in unions
and intersections in intersections made one, as long as no member of an intersection is a union and
no member before the last ends in the result of a function.
-/

namespace Typings

/-! ## Unions of intersections -/

def FlowType.summands : FlowType → List FlowType
  | .union types _ => types
  | t => [t]

def FlowType.factors : FlowType → List FlowType
  | .intersection types _ => types
  | t => [t]

def unionOf : List FlowType → FlowType
  | [t] => t
  | ts => .union ts none

def intersectionOf : List FlowType → FlowType
  | [t] => t
  | ts => .intersection ts none

def namedType (name : String) : FlowType :=
  .generic (.string name) none none

/-- The union of the intersections of the given lists. -/
def sumOfProducts (clauses : List (List FlowType)) : FlowType :=
  unionOf (clauses.map intersectionOf)

/-- Makes one of a union and the unions among its members, and of an intersection likewise. -/
def FlowType.merged : FlowType → FlowType
  | .union types loc => .union (types.flatMap FlowType.summands) loc
  | .intersection types loc => .intersection (types.flatMap FlowType.factors) loc
  | t => t

/-- The annotation without its locations. -/
def FlowType.unlocated (t : FlowType) : FlowType :=
  t.rebuild id fun _ => none

/-- The annotation without its locations, with no union directly in a union and no intersection
directly in an intersection. -/
def FlowType.flattened (t : FlowType) : FlowType :=
  t.rebuild FlowType.merged fun _ => none

/-! ## Reading -/

/-- Joins a member to the first of the intersections. -/
def meetFirst (t : FlowType) : List (List FlowType) → List (List FlowType)
  | [] => [[t]]
  | clause :: clauses => (t :: clause) :: clauses

section

variable (word : String → FlowType)

mutual

/-- The members of the intersections that a phrase is a union of, where `word` says what a single
word stands for. -/
def Phrase.clauses : Phrase → List (List FlowType)
  | .arrow params result =>
    [[.function (some (readParams params)) (some (sumOfProducts result.clauses)) (readRest params)
      none]]
  | .alone a => [[a.read]]
  | .joined a .union rest => [a.read] :: rest.clauses
  | .joined a .intersection rest => meetFirst a.read rest.clauses

def Operand.read : Operand → FlowType
  | .named name [] => word name
  | .named name (p :: ps) => .generic (.string name) (some (readPhrases (p :: ps))) none
  | .tuple types => .tuple (readPhrases types) none
  | .object fields => .object (readMembers fields) (readIndexers fields) false none

def readPhrases : List Phrase → List FlowType
  | [] => []
  | p :: ps => sumOfProducts p.clauses :: readPhrases ps

def readParams : List Param → List FunctionParam
  | [] => []
  | ⟨true, _, _, _⟩ :: ps => readParams ps
  | ⟨false, name, optional, type⟩ :: ps =>
    ⟨.string name, sumOfProducts type.clauses, optional, none⟩ :: readParams ps

def readRest : List Param → Option FunctionParam
  | [] => none
  | ⟨true, name, optional, type⟩ :: _ =>
    some ⟨.string name, sumOfProducts type.clauses, optional, none⟩
  | ⟨false, _, _, _⟩ :: ps => readRest ps

def readMembers : List Field → List Member
  | [] => []
  | .property key optional value :: fs =>
    .property (.string key) (sumOfProducts value.clauses) optional none :: readMembers fs
  | .indexer .. :: fs => readMembers fs

def readIndexers : List Field → List Indexer
  | [] => []
  | .property .. :: fs => readIndexers fs
  | .indexer name key value :: fs =>
    ⟨.string name, sumOfProducts key.clauses, sumOfProducts value.clauses, none⟩ :: readIndexers fs

end

end

/-! ## Phrases in the open -/

/-- A function in the open takes what follows as part of its result. -/
def Phrase.isOpen : Phrase → Bool
  | .arrow .. => true
  | .alone _ => false
  | .joined _ _ rest => rest.isOpen

mutual

/-- Whether the type is a function type or has one among its members. -/
def FlowType.isOpen : FlowType → Bool
  | .function (some _) _ _ _ => true
  | .nullable inner _ => inner.isOpen
  | .union types _ | .intersection types _ => anyOpen types
  | _ => false

def anyOpen : List FlowType → Bool
  | [] => false
  | t :: ts => t.isOpen || anyOpen ts

end

theorem Phrase.isOpen_append : (p : Phrase) → (op : Operator) → (q : Phrase) →
    (p.append op q).isOpen = (p.isOpen || q.isOpen)
  | .arrow .., _, _ => rfl
  | .alone _, _, _ => rfl
  | .joined _ _ rest, op, q => rest.isOpen_append op q

mutual

theorem FlowType.isOpen_phrase (t : FlowType) : t.phrase.isOpen = t.isOpen := by
  match t with
  | .keyword .. | .function none .. | .function (some _) .. | .object .. | .tuple ..
  | .stringLiteral .. | .booleanLiteral .. | .unknown .. => rfl
  | .generic name args loc =>
      by_cases ho : name = .string "Object"
      · subst ho
        rfl
      · rw [FlowType.phrase_generic ho]
        rfl
  | .nullable inner _ => exact inner.isOpen_phrase
  | .union types _ => exact isOpen_joinPhrases .union types
  | .intersection types _ => exact isOpen_joinPhrases .intersection types

theorem isOpen_joinPhrases (op : Operator) (ts : List FlowType) :
    (joinPhrases op (typePhrases ts)).isOpen = anyOpen ts := by
  match ts with
  | [] => rfl
  | [t] => rw [anyOpen, anyOpen, Bool.or_false, ← t.isOpen_phrase]; rfl
  | t :: u :: ts =>
      rw [anyOpen, ← isOpen_joinPhrases op (u :: ts), ← t.isOpen_phrase]
      exact Phrase.isOpen_append _ _ _

end

/-! ## Clauses of joined phrases -/

section

variable {word : String → FlowType}

theorem Phrase.clauses_ne_nil (p : Phrase) : p.clauses word ≠ [] := by
  match p with
  | .arrow .. | .alone _ | .joined _ .union _ => simp [Phrase.clauses]
  | .joined _ .intersection rest =>
      rw [Phrase.clauses]
      cases rest.clauses word <;> simp [meetFirst]

theorem Phrase.ne_nil_of_mem_clauses : (p : Phrase) → ∀ c ∈ p.clauses word, c ≠ []
  | .arrow .. => by simp [Phrase.clauses]
  | .alone _ => by simp [Phrase.clauses]
  | .joined _ .union rest => by
      rw [Phrase.clauses, List.forall_mem_cons]
      exact ⟨by simp, rest.ne_nil_of_mem_clauses⟩
  | .joined _ .intersection rest => by
      have ih := rest.ne_nil_of_mem_clauses
      rw [Phrase.clauses]
      cases hc : rest.clauses word with
      | nil => simp [meetFirst]
      | cons c cs =>
          rw [hc, List.forall_mem_cons] at ih
          rw [meetFirst, List.forall_mem_cons]
          exact ⟨by simp, ih.2⟩

theorem Phrase.clauses_append_union : (p q : Phrase) → p.isOpen = false →
    (p.append .union q).clauses word = p.clauses word ++ q.clauses word
  | .alone _, _, _ => by simp [Phrase.append, Phrase.clauses]
  | .joined _ .union rest, q, h => by
      simp [Phrase.append, Phrase.clauses, rest.clauses_append_union q h]
  | .joined _ .intersection rest, q, h => by
      rw [Phrase.append, Phrase.clauses, Phrase.clauses, rest.clauses_append_union q h]
      cases hc : rest.clauses word with
      | nil => exact absurd hc rest.clauses_ne_nil
      | cons c cs => rfl

-- Only the last clause of the first phrase meets the second phrase; here it is the only one.
theorem Phrase.clauses_append_intersection : (p q : Phrase) → p.isOpen = false →
    {c d : List FlowType} → p.clauses word = [c] → q.clauses word = [d] →
    (p.append .intersection q).clauses word = [c ++ d]
  | .alone _, q, _, c, d, hc, hd => by
      rw [Phrase.clauses] at hc
      cases hc
      rw [Phrase.append, Phrase.clauses, hd]
      rfl
  | .joined _ .union rest, q, _, c, d, hc, _ => by
      rw [Phrase.clauses] at hc
      exact absurd (List.tail_eq_of_cons_eq hc) rest.clauses_ne_nil
  | .joined a .intersection rest, q, h, c, d, hc, hd => by
      rw [Phrase.clauses] at hc
      cases hr : rest.clauses word with
      | nil => exact absurd hr rest.clauses_ne_nil
      | cons e es =>
          rw [hr, meetFirst] at hc
          cases hc
          rw [Phrase.append, Phrase.clauses, rest.clauses_append_intersection q h hr hd]
          rfl

theorem clauses_joinPhrases_union {ts : List FlowType} (hn : ts ≠ [])
    (ho : ∀ t ∈ ts.dropLast, t.isOpen = false) :
    (joinPhrases .union (ts.map FlowType.phrase)).clauses word =
      ts.flatMap fun t => t.phrase.clauses word := by
  induction ts with
  | nil => exact absurd rfl hn
  | cons t ts ih =>
      cases ts with
      | nil => simp [joinPhrases]
      | cons u us =>
          rw [List.dropLast_cons_cons, List.forall_mem_cons] at ho
          rw [List.flatMap_cons, ← ih (by simp) ho.2]
          exact t.phrase.clauses_append_union _ (t.isOpen_phrase.trans ho.1)

theorem clauses_joinPhrases_intersection {ts : List FlowType} {f : FlowType → List FlowType}
    (hn : ts ≠ []) (ho : ∀ t ∈ ts.dropLast, t.isOpen = false)
    (hf : ∀ t ∈ ts, t.phrase.clauses word = [f t]) :
    (joinPhrases .intersection (ts.map FlowType.phrase)).clauses word = [ts.flatMap f] := by
  induction ts with
  | nil => exact absurd rfl hn
  | cons t ts ih =>
      rw [List.forall_mem_cons] at hf
      cases ts with
      | nil => simpa [joinPhrases] using hf.1
      | cons u us =>
          rw [List.dropLast_cons_cons, List.forall_mem_cons] at ho
          exact t.phrase.clauses_append_intersection _ (t.isOpen_phrase.trans ho.1) hf.1
            (ih (by simp) ho.2 hf.2)

end

/-! ## Regular types -/

def FlowType.isUnion : FlowType → Bool
  | .union .. => true
  | _ => false

section

variable (word : String → FlowType)

/-- What a type has to be like, apart from its parts, for its phrase to be read as the type. -/
def FlowType.Regular : FlowType → Prop
  | .keyword k _ => word k.text = .keyword k none
  | .function none returns rest _ =>
    returns = none ∧ rest = none ∧ word anyFunction = .function none none none none
  | .function (some _) returns _ _ => returns ≠ none
  | .generic name args _ =>
    name ≠ .string "Object" ∧ args ≠ some [] ∧
      (args = none → word name.asText = .generic name none none)
  | .object _ _ exact _ => exact = false
  | .union types _ => 2 ≤ types.length ∧ ∀ t ∈ types.dropLast, t.isOpen = false
  | .intersection types _ =>
    2 ≤ types.length ∧ (∀ t ∈ types.dropLast, t.isOpen = false) ∧ ∀ t ∈ types, t.isUnion = false
  | .tuple .. => True
  | .nullable .. | .stringLiteral .. | .booleanLiteral .. | .unknown .. => False

structure ReadsAs (p : Phrase) (t : FlowType) : Prop where
  clauses : p.clauses word = t.summands.map FlowType.factors
  products : ∀ s ∈ t.summands, intersectionOf s.factors = s
  sum : unionOf t.summands = t

end

section

variable {word : String → FlowType}

theorem ReadsAs.sumOfProducts_eq {p : Phrase} {t : FlowType} (h : ReadsAs word p t) :
    sumOfProducts (p.clauses word) = t := by
  have hp : t.summands.map (intersectionOf ∘ FlowType.factors) = t.summands :=
    (List.map_congr_left (g := id) h.products).trans (List.map_id _)
  rw [sumOfProducts, h.clauses, List.map_map, hp, h.sum]

theorem ReadsAs.single {p : Phrase} {t : FlowType} (hs : t.summands = [t]) (hf : t.factors = [t])
    (hc : p.clauses word = [[t]]) : ReadsAs word p t := by
  refine ⟨by simp [hs, hf, hc], ?_, by rw [hs]; rfl⟩
  rw [hs, List.forall_mem_singleton, hf]
  rfl

theorem ReadsAs.ofWord {w : String} {t : FlowType} (h : word w = t) (hs : t.summands = [t])
    (hf : t.factors = [t]) : ReadsAs word (.word w) t := by
  refine .single hs hf ?_
  rw [Phrase.word, Phrase.clauses, Operand.read, h]

theorem readPhrases_map_phrase {ts : List FlowType}
    (h : ∀ t ∈ ts, ReadsAs word t.phrase t.flattened) :
    readPhrases word (ts.map FlowType.phrase) = ts.map FlowType.flattened := by
  induction ts with
  | nil => rfl
  | cons t ts ih =>
      rw [List.forall_mem_cons] at h
      rw [List.map_cons, readPhrases, h.1.sumOfProducts_eq, ih h.2, List.map_cons]

theorem Json.IsName.eq_string {p : Char → Bool} {v : Json} (h : v.IsName p) :
    .string v.asText = v := by
  obtain ⟨s, rfl, -⟩ := h
  rfl

def FunctionParam.flattened (p : FunctionParam) : FunctionParam :=
  p.rebuild FlowType.merged fun _ => none

theorem FunctionParam.flattened_eq (p : FunctionParam) :
    p.flattened = ⟨p.name, p.type.flattened, p.optional, none⟩ := by
  cases p
  rfl

theorem readParams_map_phrase {ps : List FunctionParam} {rest : Option FunctionParam}
    (hn : ∀ p ∈ ps, p.name.IsName isIdentifierChar)
    (ht : ∀ p ∈ ps, ReadsAs word p.type.phrase p.type.flattened) :
    readParams word (ps.map (FunctionParam.phrase false) ++
        rest.toList.map (FunctionParam.phrase true)) =
      ps.map FunctionParam.flattened := by
  induction ps with
  | nil =>
      cases rest with
      | none => rfl
      | some p => rfl
  | cons p ps ih =>
      rw [List.forall_mem_cons] at hn ht
      rw [List.map_cons, List.cons_append, FunctionParam.phrase, readParams, ih hn.2 ht.2,
        List.map_cons, hn.1.eq_string, ht.1.sumOfProducts_eq, p.flattened_eq]

theorem readRest_map_phrase {ps : List FunctionParam} {rest : Option FunctionParam}
    (hn : ∀ p ∈ rest.toList, p.name.IsName isIdentifierChar)
    (ht : ∀ p ∈ rest.toList, ReadsAs word p.type.phrase p.type.flattened) :
    readRest word (ps.map (FunctionParam.phrase false) ++
        rest.toList.map (FunctionParam.phrase true)) =
      rest.map FunctionParam.flattened := by
  induction ps with
  | nil =>
      cases rest with
      | none => rfl
      | some p =>
          simp only [Option.toList_some, List.forall_mem_singleton] at hn ht
          simp only [Option.toList_some, List.map_nil, List.map_cons, List.nil_append,
            FunctionParam.phrase, readRest, hn.eq_string, ht.sumOfProducts_eq, Option.map_some,
            p.flattened_eq]
  | cons p ps ih => rw [List.map_cons, List.cons_append, FunctionParam.phrase, readRest, ih]

theorem readMembers_fields {ms : List Member} (is : List Indexer) (hn : ∀ m ∈ ms, m.Named)
    (ht : ∀ t ∈ ms.filterMap Member.value?, ReadsAs word t.phrase t.flattened) :
    readMembers word (memberFields ms ++ is.map Indexer.field) =
      rebuildMembers FlowType.merged (fun _ => none) ms := by
  induction ms with
  | nil =>
      induction is with
      | nil => rfl
      | cons i is ih => exact ih
  | cons m ms ih =>
      rw [List.forall_mem_cons] at hn
      cases m with
      | unknown tag loc => exact hn.1.elim
      | property key value optional loc =>
          simp only [Member.value?, List.filterMap_cons, List.forall_mem_cons] at ht
          have hk : key.IsName isIdentifierChar := hn.1
          rw [memberFields, List.cons_append, readMembers, ih hn.2 ht.2, hk.eq_string,
            ht.1.sumOfProducts_eq, rebuildMembers]
          rfl

theorem readIndexers_fields {is : List Indexer} (ms : List Member)
    (hn : ∀ i ∈ is, i.name.IsName isIdentifierChar)
    (ht : ∀ t ∈ is.flatMap fun i => [i.key, i.value], ReadsAs word t.phrase t.flattened) :
    readIndexers word (memberFields ms ++ is.map Indexer.field) =
      rebuildIndexers FlowType.merged (fun _ => none) is := by
  induction ms with
  | cons m ms ih =>
      cases m with
      | unknown tag loc => exact ih
      | property key value optional loc => exact ih
  | nil =>
      induction is with
      | nil => rfl
      | cons i is ih =>
          obtain ⟨name, key, value, loc⟩ := i
          rw [List.forall_mem_cons] at hn
          simp only [List.flatMap_cons, List.forall_mem_append, List.forall_mem_cons] at ht
          have hs := ih hn.2 ht.2
          rw [memberFields, List.nil_append] at hs ⊢
          rw [List.map_cons, Indexer.field, readIndexers, hn.1.orElse, hn.1.eq_string,
            ht.1.1.sumOfProducts_eq, ht.1.2.1.sumOfProducts_eq, hs, rebuildIndexers]
          rfl

/-! ## Members of flattened types -/

theorem FlowType.flattened_function (params : List FunctionParam) (result : FlowType)
    (rest : Option FunctionParam) (loc : Option Location) :
    (FlowType.function (some params) (some result) rest loc).flattened =
      .function (some (params.map FunctionParam.flattened)) (some result.flattened)
        (rest.map FunctionParam.flattened) none := by
  rw [FlowType.flattened, FlowType.rebuild, rebuildParams_eq_map, rebuildRest_eq_map]
  rfl

theorem FlowType.flattened_union (types : List FlowType) (loc : Option Location) :
    (FlowType.union types loc).flattened =
      .union (types.flatMap fun t => t.flattened.summands) none := by
  rw [FlowType.flattened, FlowType.rebuild, rebuildTypes_eq_map, FlowType.merged,
    List.flatMap_map]
  rfl

theorem FlowType.flattened_intersection (types : List FlowType) (loc : Option Location) :
    (FlowType.intersection types loc).flattened =
      .intersection (types.flatMap fun t => t.flattened.factors) none := by
  rw [FlowType.flattened, FlowType.rebuild, rebuildTypes_eq_map, FlowType.merged,
    List.flatMap_map]
  rfl

theorem FlowType.summands_flattened {t : FlowType} (h : t.isUnion = false) :
    t.flattened.summands = [t.flattened] := by
  cases t with
  | union types loc => cases h
  | function params returns rest loc => cases params <;> rfl
  | generic name args loc => cases args <;> rfl
  | _ => rfl

theorem ne_nil_of_two_le {ts : List FlowType} (h : 2 ≤ ts.length) : ts ≠ [] := by
  rintro rfl
  simp at h

theorem unionOf_of_two_le {ts : List FlowType} (h : 2 ≤ ts.length) :
    unionOf ts = .union ts none := by
  match ts with
  | _ :: _ :: _ => rfl

theorem intersectionOf_of_two_le {ts : List FlowType} (h : 2 ≤ ts.length) :
    intersectionOf ts = .intersection ts none := by
  match ts with
  | _ :: _ :: _ => rfl

theorem length_le_length_flatMap {ts : List FlowType} {f : FlowType → List FlowType}
    (h : ∀ t ∈ ts, f t ≠ []) : ts.length ≤ (ts.flatMap f).length := by
  induction ts with
  | nil => simp
  | cons t ts ih =>
      rw [List.forall_mem_cons] at h
      have hl := List.length_pos_iff.2 h.1
      have hs := ih h.2
      rw [List.flatMap_cons, List.length_append, List.length_cons]
      omega

theorem ReadsAs.summands_ne_nil {p : Phrase} {t : FlowType} (h : ReadsAs word p t) :
    t.summands ≠ [] := by
  intro hs
  have hc := h.clauses
  rw [hs] at hc
  exact p.clauses_ne_nil hc

theorem ReadsAs.union {types : List FlowType} {loc : Option Location} (hl : 2 ≤ types.length)
    (ho : ∀ t ∈ types.dropLast, t.isOpen = false)
    (h : ∀ t ∈ types, ReadsAs word t.phrase t.flattened) :
    ReadsAs word (FlowType.union types loc).phrase (FlowType.union types loc).flattened := by
  have hn := ne_nil_of_two_le hl
  rw [FlowType.flattened_union, FlowType.phrase, typePhrases_eq_map]
  refine ⟨?_, ?_, unionOf_of_two_le ?_⟩
  · rw [clauses_joinPhrases_union hn ho, FlowType.summands, List.map_flatMap]
    exact List.flatMap_congr fun t ht => (h t ht).clauses
  · intro s hs
    obtain ⟨t, ht, hs⟩ := List.mem_flatMap.1 hs
    exact (h t ht).products s hs
  · exact Nat.le_trans hl (length_le_length_flatMap fun t ht => (h t ht).summands_ne_nil)

theorem ReadsAs.intersection {types : List FlowType} {loc : Option Location}
    (hl : 2 ≤ types.length) (ho : ∀ t ∈ types.dropLast, t.isOpen = false)
    (hu : ∀ t ∈ types, t.isUnion = false) (h : ∀ t ∈ types, ReadsAs word t.phrase t.flattened) :
    ReadsAs word (FlowType.intersection types loc).phrase
      (FlowType.intersection types loc).flattened := by
  have hn := ne_nil_of_two_le hl
  have hc : ∀ t ∈ types, t.phrase.clauses word = [t.flattened.factors] := by
    intro t ht
    rw [(h t ht).clauses, FlowType.summands_flattened (hu t ht)]
    rfl
  -- Else the intersection might collapse to one member.
  have hf : ∀ t ∈ types, t.flattened.factors ≠ [] := fun t ht =>
    t.phrase.ne_nil_of_mem_clauses _ (by rw [hc t ht]; exact List.mem_singleton_self _)
  rw [FlowType.flattened_intersection, FlowType.phrase, typePhrases_eq_map]
  refine ⟨clauses_joinPhrases_intersection hn ho hc, List.forall_mem_singleton.2 ?_, rfl⟩
  exact intersectionOf_of_two_le (Nat.le_trans hl (length_le_length_flatMap hf))

theorem ReadsAs.function {params : List FunctionParam} {result : FlowType}
    {rest : Option FunctionParam} {loc : Option Location}
    (hn : ∀ p ∈ params ++ rest.toList, p.name.IsName isIdentifierChar)
    (hp : ∀ p ∈ params ++ rest.toList, ReadsAs word p.type.phrase p.type.flattened)
    (hr : ReadsAs word result.phrase result.flattened) :
    ReadsAs word (FlowType.function (some params) (some result) rest loc).phrase
      (FlowType.function (some params) (some result) rest loc).flattened := by
  rw [List.forall_mem_append] at hn hp
  refine .single rfl rfl ?_
  rw [FlowType.phrase, paramPhrases_eq_map, restPhrases_eq_map, resultPhrase, Phrase.clauses,
    readParams_map_phrase hn.1 hp.1, readRest_map_phrase hn.2 hp.2, hr.sumOfProducts_eq,
    FlowType.flattened_function]

theorem ReadsAs.generic {name : Json} {args : List FlowType} {loc : Option Location}
    (hn : name.IsName isNameChar) (ha : args ≠ [])
    (h : ∀ t ∈ args, ReadsAs word t.phrase t.flattened) :
    ReadsAs word (.alone (.named name.asText (args.map FlowType.phrase)))
      (FlowType.generic name (some args) loc).flattened := by
  refine .single rfl rfl ?_
  have hr := readPhrases_map_phrase h
  rw [FlowType.flattened, FlowType.rebuild, rebuildTypes_eq_map, Phrase.clauses]
  cases args with
  | nil => exact absurd rfl ha
  | cons arg more =>
      rw [List.map_cons] at hr ⊢
      rw [Operand.read, hr, hn.eq_string]
      rfl

theorem ReadsAs.tuple {types : List FlowType} {loc : Option Location}
    (h : ∀ t ∈ types, ReadsAs word t.phrase t.flattened) :
    ReadsAs word (FlowType.tuple types loc).phrase (FlowType.tuple types loc).flattened := by
  refine .single rfl rfl ?_
  rw [FlowType.phrase, typePhrases_eq_map, Phrase.clauses, Operand.read, readPhrases_map_phrase h,
    FlowType.flattened, FlowType.rebuild, rebuildTypes_eq_map]
  rfl

theorem ReadsAs.object {members : List Member} {indexers : List Indexer} {loc : Option Location}
    (hm : ∀ m ∈ members, m.Named) (hi : ∀ i ∈ indexers, i.name.IsName isIdentifierChar)
    (h : ∀ t ∈ (FlowType.object members indexers false loc).parts,
      ReadsAs word t.phrase t.flattened) :
    ReadsAs word (FlowType.object members indexers false loc).phrase
      (FlowType.object members indexers false loc).flattened := by
  rw [FlowType.parts, List.forall_mem_append] at h
  refine .single rfl rfl ?_
  rw [FlowType.phrase, indexerFields_eq_map, Phrase.clauses, Operand.read,
    readMembers_fields indexers hm h.1, readIndexers_fields members hi h.2]
  rfl

theorem FlowType.Everywhere.reads {t : FlowType}
    (h : t.Everywhere fun t => t.Spelled ∧ t.Regular word) : ReadsAs word t.phrase t.flattened := by
  induction h with
  | @intro t hn _ ih =>
      obtain ⟨hs, hr⟩ := hn
      cases t with
      | keyword k loc => exact .ofWord hr rfl rfl
      | function params returns rest loc =>
          cases params with
          | none =>
              obtain ⟨rfl, rfl, hw⟩ := hr
              exact .ofWord hw rfl rfl
          | some params =>
              cases returns with
              | none => exact absurd rfl hr
              | some result =>
                  simp only [FlowType.parts, List.forall_mem_append, List.forall_mem_map] at ih
                  exact .function hs (List.forall_mem_append.2 ih.1) (ih.2 result (by simp))
      | generic name args loc =>
          obtain ⟨ho, he, hw⟩ := hr
          rw [FlowType.phrase_generic ho]
          cases args with
          | none => exact .ofWord (hw rfl) rfl rfl
          | some args => exact .generic hs (fun h => he (congrArg some h)) ih
      | object members indexers exact loc =>
          obtain rfl : exact = false := hr
          exact .object hs.1 hs.2 ih
      | union types loc => exact .union hr.1 hr.2 ih
      | intersection types loc => exact .intersection hr.1 hr.2.1 hr.2.2 ih
      | tuple types loc => exact .tuple ih
      | nullable | stringLiteral | booleanLiteral | unknown => exact hr.elim

theorem flattened_eq_of_render_eq {t u : FlowType}
    (ht : t.Everywhere fun t => t.Spelled ∧ t.Regular word)
    (hu : u.Everywhere fun t => t.Spelled ∧ t.Regular word) (h : t.render = u.render) :
    t.flattened = u.flattened := by
  have hp : t.phrase = u.phrase :=
    ((ht.imp fun _ h => h.1).render_eq_iff (hu.imp fun _ h => h.1)).1 h
  rw [← ht.reads.sumOfProducts_eq, hp, hu.reads.sumOfProducts_eq]

end

end Typings
