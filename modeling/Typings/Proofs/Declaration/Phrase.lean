import Typings.Text.Lines
import Mathlib.Data.List.Basic

/-!
# Types as they are written

A phrase is the written form of a type, read from left to right: operands with signs between them,
and in front of an operand the parameter lists of functions whose result starts there. What a sign
or a parameter list applies to is not part of a phrase. The characters of a phrase determine it, as
far as its names are made of the characters of names.
-/

namespace Typings

/-! ## Phrases -/

inductive Operator where
  | union
  | intersection
  deriving DecidableEq

def Operator.sign : Operator → Char
  | .union => '|'
  | .intersection => '&'

theorem Operator.sign_injective : Function.Injective Operator.sign := by
  intro op op' h
  cases op <;> cases op' <;> first | rfl | cases h

mutual

inductive Phrase where
  /-- The parameters of a function, before its result. -/
  | arrow (params : List Param) (result : Phrase)
  | alone (a : Operand)
  | joined (a : Operand) (op : Operator) (rest : Phrase)

inductive Operand where
  | named (name : String) (args : List Phrase)
  | tuple (types : List Phrase)
  | object (fields : List Field)

structure Param where
  isRest : Bool
  name : String
  optional : Bool
  type : Phrase

inductive Field where
  | property (key : String) (optional : Bool) (value : Phrase)
  | indexer (name : String) (key value : Phrase)

end

/-! ## Characters of a phrase -/

def commaList (items : List (List Char)) : List Char :=
  [',', ' '].intercalate items

def angleList (items : List (List Char)) : List Char :=
  if items = [] then [] else '<' :: (commaList items ++ ['>'])

def labelChars (name : String) (optional : Bool) : List Char :=
  name.toList ++ ((if optional then ['?'] else []) ++ [':', ' '])

mutual

def Phrase.chars : Phrase → List Char
  | .arrow params result =>
    '(' :: (commaList (paramChars params) ++ (')' :: ' ' :: '=' :: '>' :: ' ' :: result.chars))
  | .alone a => a.chars
  | .joined a op rest => a.chars ++ (' ' :: op.sign :: ' ' :: rest.chars)

def Operand.chars : Operand → List Char
  | .named name args => name.toList ++ angleList (phraseChars args)
  | .tuple types => '[' :: (commaList (phraseChars types) ++ [']'])
  | .object fields => '\x7b' :: '\n' :: ((fieldChars fields).flatten ++ ['\x7d'])

def Param.chars : Param → List Char
  | ⟨isRest, name, optional, type⟩ =>
    (if isRest then ['.', '.', '.'] else []) ++ (labelChars name optional ++ type.chars)

def Field.chars : Field → List Char
  | .property key optional value =>
    ' ' :: ' ' :: (labelChars key optional ++ (value.chars ++ [';', '\n']))
  | .indexer name key value =>
    ' ' :: ' ' :: '[' :: (labelChars name false ++
      (key.chars ++ (']' :: ':' :: ' ' :: (value.chars ++ [';', '\n']))))

def phraseChars : List Phrase → List (List Char)
  | [] => []
  | p :: ps => p.chars :: phraseChars ps

def paramChars : List Param → List (List Char)
  | [] => []
  | p :: ps => p.chars :: paramChars ps

def fieldChars : List Field → List (List Char)
  | [] => []
  | f :: fs => f.chars :: fieldChars fs

end

@[simp] theorem phraseChars_eq_map (ps : List Phrase) : phraseChars ps = ps.map Phrase.chars := by
  induction ps with
  | nil => simp [phraseChars]
  | cons p ps ih => simp [phraseChars, ih]

@[simp] theorem paramChars_eq_map (ps : List Param) : paramChars ps = ps.map Param.chars := by
  induction ps with
  | nil => simp [paramChars]
  | cons p ps ih => simp [paramChars, ih]

@[simp] theorem fieldChars_eq_map (fs : List Field) : fieldChars fs = fs.map Field.chars := by
  induction fs with
  | nil => simp [fieldChars]
  | cons f fs ih => simp [fieldChars, ih]

/-! ## Names -/

def isIdentifierChar (c : Char) : Bool :=
  c.isAlphanum || c == '_' || c == '$'

def isNameChar (c : Char) : Bool :=
  isIdentifierChar c || c == '.'

/-- The name is not empty and has no other characters. -/
def IsRun (p : Char → Bool) (name : String) : Prop :=
  name ≠ "" ∧ ∀ c ∈ name.toList, p c

instance (p : Char → Bool) (name : String) : Decidable (IsRun p name) :=
  decidable_of_iff (name ≠ "" ∧ name.toList.all p) (by simp [IsRun])

abbrev IsIdentifier (name : String) : Prop :=
  IsRun isIdentifierChar name

abbrev IsWord (name : String) : Prop :=
  IsRun isNameChar name

mutual

inductive Phrase.WellNamed : Phrase → Prop where
  | arrow {params result} : (∀ p ∈ params, Param.WellNamed p) → Phrase.WellNamed result →
      Phrase.WellNamed (.arrow params result)
  | alone {a} : Operand.WellNamed a → Phrase.WellNamed (.alone a)
  | joined {a op rest} : Operand.WellNamed a → Phrase.WellNamed rest →
      Phrase.WellNamed (.joined a op rest)

inductive Operand.WellNamed : Operand → Prop where
  | named {name args} : IsWord name → (∀ p ∈ args, Phrase.WellNamed p) →
      Operand.WellNamed (.named name args)
  | tuple {types} : (∀ p ∈ types, Phrase.WellNamed p) → Operand.WellNamed (.tuple types)
  | object {fields} : (∀ f ∈ fields, Field.WellNamed f) → Operand.WellNamed (.object fields)

inductive Param.WellNamed : Param → Prop where
  | mk {isRest name optional type} : IsIdentifier name → Phrase.WellNamed type →
      Param.WellNamed ⟨isRest, name, optional, type⟩

inductive Field.WellNamed : Field → Prop where
  | property {key optional value} : IsIdentifier key → Phrase.WellNamed value →
      Field.WellNamed (.property key optional value)
  | indexer {name key value} : IsIdentifier name → Phrase.WellNamed key → Phrase.WellNamed value →
      Field.WellNamed (.indexer name key value)

end

/-! ## What may follow -/

/-- A phrase ends at the end of the text or before one of these. -/
def closers : List Char := [',', ')', ']', '>', ';']

def Closes (r : List Char) : Prop :=
  ∀ c ∈ r.head?, c ∈ closers

/-- An operand ends where a phrase ends, or before a blank. -/
def Breaks (r : List Char) : Prop :=
  ∀ c ∈ r.head?, c ∈ ' ' :: closers

theorem Closes.breaks {r : List Char} (h : Closes r) : Breaks r :=
  fun c hc => List.mem_cons_of_mem _ (h c hc)

theorem closes_cons {c : Char} {r : List Char} (h : c ∈ closers) : Closes (c :: r) := by
  simpa [Closes] using h

theorem breaks_blank (r : List Char) : Breaks (' ' :: r) := by
  simp [Breaks]

theorem isNameChar_eq_false_of_mem {c : Char} (h : c ∈ '(' :: ' ' :: closers) :
    isNameChar c = false := by
  have hc : ('(' :: ' ' :: closers).all (fun d => !isNameChar d) := by decide
  simpa using List.all_eq_true.1 hc c h

theorem isNameChar_eq_false_of_breaks {r : List Char} (h : Breaks r) :
    ∀ c ∈ r.head?, isNameChar c = false :=
  fun c hc => isNameChar_eq_false_of_mem (List.mem_cons_of_mem _ (h c hc))

/-! ## Words and labels -/

theorem takeWhile_run {p : Char → Bool} {w r : List Char} (hw : ∀ c ∈ w, p c)
    (hr : ∀ c ∈ r.head?, p c = false) : (w ++ r).takeWhile p = w := by
  rw [List.takeWhile_append_of_pos hw]
  cases r with
  | nil => simp
  | cons c r => simp [hr c (by simp)]

/-- A run of characters of a kind ends where another character follows. -/
theorem run_unique {p : Char → Bool} {v w r s : List Char} (hv : ∀ c ∈ v, p c) (hw : ∀ c ∈ w, p c)
    (hr : ∀ c ∈ r.head?, p c = false) (hs : ∀ c ∈ s.head?, p c = false) (h : v ++ r = w ++ s) :
    v = w ∧ r = s := by
  have hvw : v = w := by rw [← takeWhile_run hv hr, ← takeWhile_run hw hs, h]
  subst hvw
  exact ⟨rfl, List.append_cancel_left h⟩

theorem IsRun.ne_cons {p : Char → Bool} {name : String} (h : IsRun p name) {c : Char}
    (hc : p c = false) (r s : List Char) : name.toList ++ r ≠ c :: s := by
  cases hl : name.toList with
  | nil => exact absurd (String.toList_eq_nil_iff.1 hl) h.1
  | cons d ds =>
      rintro ⟨⟩
      have hp : p c := h.2 c (by simp [hl])
      rw [hc] at hp
      cases hp

theorem ellipsis_unique {isRest isRest' : Bool} {name other : String} {r s : List Char}
    (hn : IsIdentifier name) (ho : IsIdentifier other)
    (h : (if isRest then ['.', '.', '.'] else []) ++ (name.toList ++ r) =
      (if isRest' then ['.', '.', '.'] else []) ++ (other.toList ++ s)) :
    isRest = isRest' ∧ name.toList ++ r = other.toList ++ s := by
  cases isRest with
  | false =>
      cases isRest' with
      | false => exact ⟨rfl, h⟩
      | true => exact absurd h (hn.ne_cons (by decide) _ _)
  | true =>
      cases isRest' with
      | false => exact absurd h.symm (ho.ne_cons (by decide) _ _)
      | true => exact ⟨rfl, List.append_cancel_left h⟩

theorem label_unique {name other : String} {optional optional' : Bool} {r s : List Char}
    (hn : IsIdentifier name) (ho : IsIdentifier other)
    (h : labelChars name optional ++ r = labelChars other optional' ++ s) :
    name = other ∧ optional = optional' ∧ r = s := by
  simp only [labelChars, List.append_assoc] at h
  have hm : ∀ (b : Bool) (r : List Char),
      ∀ c ∈ ((if b then ['?'] else []) ++ ([':', ' '] ++ r)).head?, isIdentifierChar c = false := by
    intro b r
    cases b <;> simp <;> decide
  obtain ⟨hv, hr⟩ := run_unique hn.2 ho.2 (hm optional r) (hm optional' s) h
  refine ⟨String.toList_inj.1 hv, ?_⟩
  cases optional <;> cases optional' <;> simp_all

/-! ## Lists -/

section

variable {α : Type} {f : α → List Char} {P : α → Prop} {close : Char}

/-- The characters of `x` before a closing character determine `x` among the things with the
property. -/
def Determines (f : α → List Char) (P : α → Prop) (x : α) : Prop :=
  ∀ {y r s}, P y → Closes r → Closes s → f x ++ r = f y ++ s → x = y ∧ r = s

/-- What stands in a list after its first item. -/
def commaTail (items : List (List Char)) : List Char :=
  items.flatMap fun item => ',' :: ' ' :: item

theorem commaList_cons (item : List Char) (items : List (List Char)) :
    commaList (item :: items) = item ++ commaTail items := by
  induction items generalizing item with
  | nil => simp [commaList, commaTail]
  | cons next items ih =>
      have h : commaList (item :: next :: items) =
          item ++ ([',', ' '] ++ commaList (next :: items)) := by simp [commaList]
      rw [h, ih]
      simp [commaTail]

/-- A list of things can end before `r`, where `S` tells what may follow an item. -/
structure EndsList (S : List Char → Prop) (f : α → List Char) (P : α → Prop)
    (r : List Char) : Prop where
  stops : S r
  noComma : ∀ t, r ≠ ',' :: t
  noItem : ∀ x, P x → ∀ t, f x ++ t ≠ r

section

variable {S : List Char → Prop} {xs ys : List α} {r s : List Char}

theorem stops_commaTail (hS : ∀ t, S (',' :: t)) (items : List (List Char)) (hr : S r) :
    S (commaTail items ++ r) := by
  cases items with
  | nil => exact hr
  | cons item items => exact hS _

theorem commaTail_unique_of (hS : ∀ t, S (',' :: t)) (hy : ∀ y ∈ ys, P y)
    (hd : ∀ x ∈ xs, ∀ {y r s}, P y → S r → S s → f x ++ r = f y ++ s → x = y ∧ r = s)
    (hr : EndsList S f P r) (hs : EndsList S f P s)
    (h : commaTail (xs.map f) ++ r = commaTail (ys.map f) ++ s) : xs = ys ∧ r = s := by
  induction xs generalizing ys with
  | nil =>
      cases ys with
      | nil => exact ⟨rfl, h⟩
      | cons y ys => exact absurd h (hr.noComma _)
  | cons x xs ih =>
      cases ys with
      | nil => exact absurd h.symm (hs.noComma _)
      | cons y ys =>
          have ht : f x ++ (commaTail (xs.map f) ++ r) = f y ++ (commaTail (ys.map f) ++ s) := by
            simpa [commaTail] using h
          obtain ⟨rfl, hrest⟩ := hd x (by simp) (hy y (by simp)) (stops_commaTail hS _ hr.stops)
            (stops_commaTail hS _ hs.stops) ht
          obtain ⟨rfl, rfl⟩ := ih (fun y hm => hy y (by simp [hm]))
            (fun x hm => hd x (by simp [hm])) hrest
          exact ⟨rfl, rfl⟩

theorem commaList_unique_of (hS : ∀ t, S (',' :: t)) (hx : ∀ x ∈ xs, P x) (hy : ∀ y ∈ ys, P y)
    (hd : ∀ x ∈ xs, ∀ {y r s}, P y → S r → S s → f x ++ r = f y ++ s → x = y ∧ r = s)
    (hr : EndsList S f P r) (hs : EndsList S f P s)
    (h : commaList (xs.map f) ++ r = commaList (ys.map f) ++ s) : xs = ys ∧ r = s := by
  cases xs with
  | nil =>
      cases ys with
      | nil => exact ⟨rfl, h⟩
      | cons y ys =>
          rw [List.map_cons, commaList_cons, List.append_assoc] at h
          exact absurd h.symm (hr.noItem y (hy y (by simp)) _)
  | cons x xs =>
      cases ys with
      | nil =>
          rw [List.map_cons, commaList_cons, List.append_assoc] at h
          exact absurd h (hs.noItem x (hx x (by simp)) _)
      | cons y ys =>
          rw [List.map_cons, List.map_cons, commaList_cons, commaList_cons] at h
          apply commaTail_unique_of hS hy hd hr hs
          simpa [commaTail] using h

end

theorem commaList_unique (hc : close ∈ closers) (hn : close ≠ ',')
    (hf : ∀ x, P x → ∀ r s, f x ++ r ≠ close :: s) {xs ys : List α} (hx : ∀ x ∈ xs, P x)
    (hy : ∀ y ∈ ys, P y) (hd : ∀ x ∈ xs, Determines f P x) {r s : List Char}
    (h : commaList (xs.map f) ++ close :: r = commaList (ys.map f) ++ close :: s) :
    xs = ys ∧ r = s := by
  have he (t : List Char) : EndsList Closes f P (close :: t) :=
    ⟨closes_cons hc, by simp [hn], fun x hp u => hf x hp u t⟩
  have hS (t : List Char) : Closes (',' :: t) := closes_cons (by decide)
  obtain ⟨hxy, hrs⟩ := commaList_unique_of hS hx hy hd (he r) (he s) h
  exact ⟨hxy, List.tail_eq_of_cons_eq hrs⟩

theorem flatten_unique (hf : ∀ x, P x → ∀ r s, f x ++ r ≠ close :: s) {xs ys : List α}
    (hx : ∀ x ∈ xs, P x) (hy : ∀ y ∈ ys, P y)
    (hd : ∀ x ∈ xs, ∀ {y r s}, P y → f x ++ r = f y ++ s → x = y ∧ r = s) {r s : List Char}
    (h : (xs.map f).flatten ++ close :: r = (ys.map f).flatten ++ close :: s) :
    xs = ys ∧ r = s := by
  induction xs generalizing ys with
  | nil =>
      cases ys with
      | nil => simpa using h
      | cons y ys =>
          rw [List.map_cons, List.flatten_cons, List.append_assoc] at h
          exact absurd h.symm (hf y (hy y (by simp)) _ _)
  | cons x xs ih =>
      cases ys with
      | nil =>
          rw [List.map_cons, List.flatten_cons, List.append_assoc] at h
          exact absurd h (hf x (hx x (by simp)) _ _)
      | cons y ys =>
          rw [List.map_cons, List.map_cons, List.flatten_cons, List.flatten_cons,
            List.append_assoc, List.append_assoc] at h
          obtain ⟨rfl, hrest⟩ := hd x (by simp) (hy y (by simp)) h
          obtain ⟨rfl, rfl⟩ := ih (fun x hm => hx x (by simp [hm]))
            (fun y hm => hy y (by simp [hm])) (fun x hm => hd x (by simp [hm])) hrest
          exact ⟨rfl, rfl⟩

theorem angleList_cons (item : List Char) (items : List (List Char)) :
    angleList (item :: items) = '<' :: (commaList (item :: items) ++ ['>']) := by
  simp [angleList]

theorem isNameChar_eq_false_of_angleList (items : List (List Char)) {r : List Char}
    (hr : Breaks r) : ∀ c ∈ (angleList items ++ r).head?, isNameChar c = false := by
  cases items with
  | nil => exact isNameChar_eq_false_of_breaks hr
  | cons item items =>
      rw [angleList_cons]
      rintro _ ⟨⟩
      decide

theorem angleList_unique (hf : ∀ x, P x → ∀ r s, f x ++ r ≠ '>' :: s) {xs ys : List α}
    (hx : ∀ x ∈ xs, P x) (hy : ∀ y ∈ ys, P y) (hd : ∀ x ∈ xs, Determines f P x) {r s : List Char}
    (hr : Breaks r) (hs : Breaks s)
    (h : angleList (xs.map f) ++ r = angleList (ys.map f) ++ s) : xs = ys ∧ r = s := by
  cases xs with
  | nil =>
      cases ys with
      | nil => exact ⟨rfl, h⟩
      | cons y ys =>
          rw [List.map_cons, angleList_cons] at h
          exact absurd (hr '<' (by rw [show r = _ from h]; rfl)) (by decide)
  | cons x xs =>
      cases ys with
      | nil =>
          rw [List.map_cons, angleList_cons] at h
          exact absurd (hs '<' (by rw [show s = _ from h.symm]; rfl)) (by decide)
      | cons y ys =>
          rw [List.map_cons, List.map_cons, angleList_cons, angleList_cons] at h
          simp only [List.cons_append, List.append_assoc, List.cons.injEq, true_and,
            List.nil_append] at h
          exact commaList_unique (by decide) (by decide) hf hx hy hd h

end

/-! ## Where things start -/

theorem Operand.WellNamed.ne_cons {a : Operand} (h : a.WellNamed) {c : Char}
    (hc : c ∈ '(' :: ' ' :: closers) (r s : List Char) : a.chars ++ r ≠ c :: s := by
  cases h with
  | named hn _ =>
      rw [Operand.chars, List.append_assoc]
      exact hn.ne_cons (isNameChar_eq_false_of_mem hc) _ _
  | tuple _ =>
      rw [Operand.chars, List.cons_append]
      rintro ⟨⟩
      revert hc; decide
  | object _ =>
      rw [Operand.chars, List.cons_append]
      rintro ⟨⟩
      revert hc; decide

theorem Phrase.WellNamed.ne_closer {p : Phrase} (h : p.WellNamed) {close : Char}
    (hm : close ∈ closers) (r s : List Char) : p.chars ++ r ≠ close :: s := by
  cases h with
  | arrow _ _ =>
      rw [Phrase.chars, List.cons_append]
      rintro ⟨⟩
      revert hm; decide
  | alone ha =>
      rw [Phrase.chars]
      exact ha.ne_cons (by simp [hm]) _ _
  | joined ha _ =>
      rw [Phrase.chars, List.append_assoc]
      exact ha.ne_cons (by simp [hm]) _ _

theorem Param.WellNamed.ne_paren {p : Param} (h : p.WellNamed) (r s : List Char) :
    p.chars ++ r ≠ ')' :: s := by
  cases h with
  | @mk isRest name optional type hn _ =>
      cases isRest with
      | true => simp [Param.chars]
      | false =>
          simp only [Param.chars, labelChars, List.append_assoc, Bool.false_eq_true, if_false,
            List.nil_append]
          exact hn.ne_cons (by decide) _ _

theorem Field.ne_brace (f : Field) (r s : List Char) : f.chars ++ r ≠ '\x7d' :: s := by
  cases f <;> simp [Field.chars]

/-! ## Unique readability -/

-- The recursion is on the derivation for the first of two phrases. What follows them is arbitrary,
-- up to the character that shows where they end.
mutual

theorem Phrase.WellNamed.determines {p : Phrase} (hp : p.WellNamed) :
    Determines Phrase.chars Phrase.WellNamed p := by
  intro q r s hq hr hs h
  match hp, hq with
  | .arrow hps hp, .arrow hqs hq =>
      simp only [Phrase.chars, paramChars_eq_map, List.cons_append, List.append_assoc,
        List.cons.injEq, true_and] at h
      obtain ⟨rfl, hrest⟩ := commaList_unique (by decide) (by decide) (fun _ h => h.ne_paren)
        hps hqs (fun x hx => (hps x hx).determines) h
      simp only [List.cons.injEq, true_and] at hrest
      obtain ⟨rfl, rfl⟩ := hp.determines hq hr hs hrest
      exact ⟨rfl, rfl⟩
  | .arrow _ _, .alone hb =>
      simp only [Phrase.chars, List.cons_append] at h
      exact absurd h.symm (hb.ne_cons (by decide) _ _)
  | .arrow _ _, .joined hb _ =>
      simp only [Phrase.chars, List.cons_append, List.append_assoc] at h
      exact absurd h.symm (hb.ne_cons (by decide) _ _)
  | .alone ha, .arrow _ _ =>
      simp only [Phrase.chars, List.cons_append] at h
      exact absurd h (ha.ne_cons (by decide) _ _)
  | .joined ha _, .arrow _ _ =>
      simp only [Phrase.chars, List.cons_append, List.append_assoc] at h
      exact absurd h (ha.ne_cons (by decide) _ _)
  | .alone ha, .alone hb =>
      simp only [Phrase.chars] at h
      obtain ⟨rfl, rfl⟩ := ha.determines hb hr.breaks hs.breaks h
      exact ⟨rfl, rfl⟩
  -- A sign comes after a blank, and no phrase ends before a blank.
  | .alone ha, .joined hb _ =>
      simp only [Phrase.chars, List.append_assoc, List.cons_append] at h
      obtain ⟨-, rfl⟩ := ha.determines hb hr.breaks (breaks_blank _) h
      exact absurd (hr ' ' (by simp)) (by decide)
  | .joined ha _, .alone hb =>
      simp only [Phrase.chars, List.append_assoc, List.cons_append] at h
      obtain ⟨-, rfl⟩ := ha.determines hb (breaks_blank _) hs.breaks h
      exact absurd (hs ' ' (by simp)) (by decide)
  | .joined ha hp, .joined hb hq =>
      simp only [Phrase.chars, List.append_assoc, List.cons_append] at h
      obtain ⟨rfl, hrest⟩ := ha.determines hb (breaks_blank _) (breaks_blank _) h
      simp only [List.cons.injEq, true_and] at hrest
      obtain ⟨rfl, rfl⟩ := hp.determines hq hr hs hrest.2
      exact ⟨by rw [Operator.sign_injective hrest.1], rfl⟩

theorem Operand.WellNamed.determines {a b : Operand} {r s : List Char} (ha : a.WellNamed)
    (hb : b.WellNamed) (hr : Breaks r) (hs : Breaks s) (h : a.chars ++ r = b.chars ++ s) :
    a = b ∧ r = s := by
  match ha, hb with
  | .named hn hps, .named hm hqs =>
      simp only [Operand.chars, phraseChars_eq_map, List.append_assoc] at h
      obtain ⟨hw, hrest⟩ := run_unique hn.2 hm.2 (isNameChar_eq_false_of_angleList _ hr)
        (isNameChar_eq_false_of_angleList _ hs) h
      obtain ⟨rfl, rfl⟩ := angleList_unique (fun _ h => h.ne_closer (by decide)) hps hqs
        (fun x hx => (hps x hx).determines) hr hs hrest
      exact ⟨by rw [String.toList_inj.1 hw], rfl⟩
  | .tuple hps, .tuple hqs =>
      simp only [Operand.chars, phraseChars_eq_map, List.cons_append, List.append_assoc,
        List.cons.injEq, true_and, List.nil_append] at h
      obtain ⟨rfl, rfl⟩ := commaList_unique (by decide) (by decide)
        (fun _ h => h.ne_closer (by decide)) hps hqs (fun x hx => (hps x hx).determines) h
      exact ⟨rfl, rfl⟩
  | .object hfs, .object hgs =>
      simp only [Operand.chars, fieldChars_eq_map, List.cons_append, List.append_assoc,
        List.cons.injEq, true_and, List.nil_append] at h
      obtain ⟨rfl, rfl⟩ := flatten_unique (fun x _ => x.ne_brace) hfs hgs
        (fun x hx => (hfs x hx).determines) h
      exact ⟨rfl, rfl⟩
  | .named hn _, .tuple _ | .named hn _, .object _ =>
      simp only [Operand.chars, List.append_assoc, List.cons_append] at h
      exact absurd h (hn.ne_cons (by decide) _ _)
  | .tuple _, .named hm _ | .object _, .named hm _ =>
      simp only [Operand.chars, List.append_assoc, List.cons_append] at h
      exact absurd h.symm (hm.ne_cons (by decide) _ _)
  | .tuple _, .object _ | .object _, .tuple _ =>
      simp [Operand.chars] at h

theorem Param.WellNamed.determines {p : Param} (hp : p.WellNamed) :
    Determines Param.chars Param.WellNamed p := by
  intro q r s hq hr hs h
  match hp, hq with
  | .mk hn ht, .mk hn' ht' =>
      simp only [Param.chars, labelChars, List.append_assoc] at h
      obtain ⟨rfl, hlabel⟩ := ellipsis_unique hn hn' h
      obtain ⟨rfl, rfl, htype⟩ := label_unique hn hn' (by simpa [labelChars] using hlabel)
      obtain ⟨rfl, rfl⟩ := ht.determines ht' hr hs htype
      exact ⟨rfl, rfl⟩

theorem Field.WellNamed.determines {f g : Field} (hf : f.WellNamed) {r s : List Char}
    (hg : g.WellNamed) (h : f.chars ++ r = g.chars ++ s) : f = g ∧ r = s := by
  match hf, hg with
  | .property hn hv, .property hn' hv' =>
      simp only [Field.chars, List.cons_append, List.append_assoc, List.cons.injEq, true_and,
        List.nil_append] at h
      obtain ⟨rfl, rfl, hrest⟩ := label_unique hn hn' h
      obtain ⟨rfl, hend⟩ := hv.determines hv' (closes_cons (by decide)) (closes_cons (by decide))
        hrest
      simp only [List.cons.injEq, true_and] at hend
      exact ⟨rfl, hend⟩
  | .indexer hn hk hv, .indexer hn' hk' hv' =>
      simp only [Field.chars, List.cons_append, List.append_assoc, List.cons.injEq, true_and,
        List.nil_append] at h
      obtain ⟨rfl, -, hrest⟩ := label_unique hn hn' h
      obtain ⟨rfl, hvalue⟩ := hk.determines hk' (closes_cons (by decide)) (closes_cons (by decide))
        hrest
      simp only [List.cons.injEq, true_and] at hvalue
      obtain ⟨rfl, hend⟩ := hv.determines hv' (closes_cons (by decide)) (closes_cons (by decide))
        hvalue
      simp only [List.cons.injEq, true_and] at hend
      exact ⟨rfl, hend⟩
  | .property hn _, .indexer _ _ _ =>
      simp only [Field.chars, labelChars, List.cons_append, List.append_assoc, List.cons.injEq,
        true_and] at h
      exact absurd h (hn.ne_cons (by decide) _ _)
  | .indexer _ _ _, .property hn _ =>
      simp only [Field.chars, labelChars, List.cons_append, List.append_assoc, List.cons.injEq,
        true_and] at h
      exact absurd h.symm (hn.ne_cons (by decide) _ _)

end

/-- The characters of a phrase determine it. -/
theorem Phrase.WellNamed.eq_of_chars_eq {p q : Phrase} (hp : p.WellNamed) (hq : q.WellNamed)
    (h : p.chars = q.chars) : p = q := by
  have hc : Closes [] := by simp [Closes]
  exact (hp.determines (r := []) (s := []) hq hc hc (by rw [h])).1

end Typings
