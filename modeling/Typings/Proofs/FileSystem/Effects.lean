import Typings.FileSystem.Basic
import Typings.Proofs.Outcome

/-!
# What operations on a file system change

Making directories only puts directories where nothing stood, at places that the path leads through,
and succeeds exactly if each of them is there or can be put there once those above it are. Writing
puts a file at the one place that the path leads to, unless that is a directory. Wherever a path led
before, it leads after both.
-/

namespace Typings

/-- The first parts of a path. -/
def Path.take (path : Path) (n : Nat) : Path :=
  { path with parts := path.parts.take n }

theorem Path.take_parent (path : Path) (n : Nat) :
    path.parent.take n = path.take (min n (path.parts.length - 1)) := by
  simp [Path.take, Path.parent, List.dropLast_eq_take, List.take_take]

theorem Path.take_length (path : Path) : path.take path.parts.length = path := by
  simp [Path.take]

namespace FileSystem

variable {fs fs' fs'' : FileSystem} {path : Path} {name : String} {location : List String}

/-! ## Entries -/

theorem lookup_cons_eq (other location : List String) (entry : Entry)
    (rest : List (List String × Entry)) :
    ((location, entry) :: rest).lookup other =
      if other = location then some entry else rest.lookup other := by
  rw [List.lookup_cons]
  by_cases h : other = location
  · simp [h]
  · have hb : (other == location) = false := by simpa using h
    simp [h, hb]

theorem lookup_setEntry (location other : List String) (entry : Entry)
    (entries : List (List String × Entry)) :
    (setEntry location entry entries).lookup other =
      if other = location then some entry else entries.lookup other := by
  induction entries with
  | nil => exact lookup_cons_eq other location entry []
  | cons found rest ih =>
      obtain ⟨l, e⟩ := found
      rw [setEntry]
      by_cases hl : l = location
      · rw [if_pos hl, lookup_cons_eq, lookup_cons_eq, hl]
        split <;> rfl
      · rw [if_neg hl, lookup_cons_eq, lookup_cons_eq, ih]
        by_cases h : other = location
        · rw [if_neg (h ▸ Ne.symm hl), if_pos h, if_pos h]
        · rw [if_neg h, if_neg h]

theorem lookup?_put (fs : FileSystem) {location : List String} (h : location ≠ [])
    (entry : Entry) (other : List String) :
    (fs.put location entry).lookup? other =
      if other = location then some entry else fs.lookup? other := by
  rw [lookup?, lookup?, put, lookup_setEntry]
  by_cases ho : other = []
  · rw [if_pos ho, if_pos ho, if_neg (ho ▸ Ne.symm h)]
  · rw [if_neg ho, if_neg ho]

theorem ne_nil_of_lookup? (h : fs.lookup? location ≠ some .directory) : location ≠ [] := by
  rintro rfl
  exact h rfl

/-! ## Paths lead where they led -/

/-- All directories are still there. -/
structure Keeps (fs fs' : FileSystem) : Prop where
  current : fs'.current = fs.current
  directory : ∀ location, fs.lookup? location = some .directory →
    fs'.lookup? location = some .directory

theorem Keeps.put (h : fs.lookup? location ≠ some .directory) (entry : Entry) :
    Keeps fs (fs.put location entry) := by
  refine ⟨rfl, fun l hl => ?_⟩
  have hne : l ≠ location := by
    rintro rfl
    exact h hl
  rw [lookup?_put fs (ne_nil_of_lookup? h), if_neg hne, hl]

theorem Keeps.step (h : Keeps fs fs') {component : String} {next : List String}
    (hs : fs.step location component = .ok next) : fs'.step location component = .ok next := by
  unfold FileSystem.step at hs ⊢
  split at hs
  · cases hs
  · cases hs
  · rename_i hd
    rw [h.directory location hd]
    exact hs

theorem Keeps.steps (h : Keeps fs fs') {components : List String} {start last : List String}
    (hs : components.foldlM fs.step start = .ok last) :
    components.foldlM fs'.step start = .ok last := by
  induction components generalizing start with
  | nil => exact hs
  | cons component rest ih =>
      rw [List.foldlM_cons] at hs ⊢
      cases hn : fs.step start component with
      | error e => rw [hn] at hs; cases hs
      | ok next =>
          rw [hn] at hs
          rw [h.step hn]
          exact ih hs

theorem Keeps.resolve (h : Keeps fs fs') (hr : fs.resolve name = .ok location) :
    fs'.resolve name = .ok location := by
  unfold FileSystem.resolve at hr ⊢
  simp only [h.current]
  split at hr
  · cases hr
  rename_i hn
  split at hr
  · cases hr
  rename_i he
  split at hr
  · cases hr
  rename_i hm
  rw [if_neg hn, if_neg he, if_neg hm]
  rw [h.steps (mapError_eq_ok_iff.1 hr)]
  rfl

theorem Keeps.isDirectory (h : Keeps fs fs') (hd : fs.isDirectory name) : fs'.isDirectory name := by
  unfold FileSystem.isDirectory at hd ⊢
  split at hd
  · rename_i location hr
    rw [h.resolve hr]
    simpa using h.directory location (by simpa using hd)
  · cases hd

/-! ## When operations succeed -/

/-- A file can be written in place of what is there, unless that is a directory. -/
theorem write_eq_ok_iff {bytes : List UInt8} :
    fs.write name bytes = .ok fs' ↔
      ∃ location, fs.resolve name = .ok location ∧ fs.lookup? location ≠ some .directory ∧
        fs' = fs.put location (.file bytes) := by
  unfold FileSystem.write
  cases hr : fs.resolve name with
  | error e => simp [bind, Except.bind]
  | ok location =>
      by_cases hl : fs.lookup? location = some .directory
      · simp [bind, Except.bind, hl]
      · simp [bind, Except.bind, pure, Except.pure, hl, @eq_comm _ fs']

/-- A directory is there already, or it is made where nothing stood. -/
def Provides (name : String) (fs fs' : FileSystem) : Prop :=
  (fs.isDirectory name ∧ fs' = fs) ∨
    ∃ location, fs.resolve name = .ok location ∧ fs.lookup? location = none ∧
      fs' = fs.put location .directory

theorem makeDirectoryIfMissing_eq_ok_iff :
    fs.makeDirectoryIfMissing name = .ok fs' ↔ Provides name fs fs' := by
  unfold makeDirectoryIfMissing makeDirectory Provides FileSystem.isDirectory
  cases hr : fs.resolve name with
  | error e => simp [bind, Except.bind]
  | ok location =>
      cases hl : fs.lookup? location with
      | none => simp [bind, Except.bind, hl, pure, Except.pure, eq_comm]
      | some entry =>
          cases entry with
          | file bytes => simp [bind, Except.bind, hl]
          | directory => simp [bind, Except.bind, hl, FileError.isNotFound, eq_comm]

theorem makeDirectoryIfMissing_of_resolve_error {e : FileError}
    (h : fs.resolve name = .error e) : fs.makeDirectoryIfMissing name = .error e := by
  simp [makeDirectoryIfMissing, makeDirectory, FileSystem.isDirectory, h, bind, Except.bind]

theorem resolve_error_of_isNotFound {e : FileError} (h : fs.makeDirectoryIfMissing name = .error e)
    (he : e.isNotFound) : fs.resolve name = .error e := by
  unfold makeDirectoryIfMissing makeDirectory at h
  cases hr : fs.resolve name with
  | error e' => simpa [hr, bind, Except.bind, FileSystem.isDirectory] using h
  | ok location =>
      -- Something stands there, which is another error.
      cases hl : fs.lookup? location with
      | none => simp [hr, hl, bind, Except.bind, pure, Except.pure] at h
      | some entry =>
          simp only [hr, hl, bind, Except.bind] at h
          split at h
          · cases h
          · cases h
            cases he

/-- A directory is provided. If the one above it is missing, that one is provided before. -/
inductive ProvidesAll (fs : FileSystem) : Path → FileSystem → Prop where
  | one {path : Path} {fs' : FileSystem} : Provides path.toString fs fs' → ProvidesAll fs path fs'
  | above {path : Path} {e : FileError} {mid fs' : FileSystem} :
      fs.resolve path.toString = .error e → e.isNotFound → path.parts ≠ [] →
      ProvidesAll fs path.parent mid → Provides path.toString mid fs' → ProvidesAll fs path fs'

theorem makeDirectories_eq_ok_iff :
    fs.makeDirectories path = (.ok (), fs') ↔ ProvidesAll fs path fs' := by
  constructor
  · fun_induction fs.makeDirectories path generalizing fs' with
    | case1 path made hm =>
        rintro ⟨⟩
        exact .one (makeDirectoryIfMissing_eq_ok_iff.1 hm)
    | case2 path e _ _ e' left hm ih => rintro ⟨⟩
    | case3 path e hf hn parents hp made hm ih =>
        rintro ⟨⟩
        exact .above (resolve_error_of_isNotFound hf hn.1) hn.1 hn.2 (ih hp)
          (makeDirectoryIfMissing_eq_ok_iff.1 hm)
    | case4 path e _ _ parents hp e' hm ih => rintro ⟨⟩
    | case5 path e _ _ => rintro ⟨⟩
  · intro h
    induction h with
    | one h =>
        rw [makeDirectories, makeDirectoryIfMissing_eq_ok_iff.2 h]
    | above hr he hp _ h ih =>
        rw [makeDirectories, makeDirectoryIfMissing_of_resolve_error hr]
        simp only [ih, makeDirectoryIfMissing_eq_ok_iff.2 h]
        exact dif_pos ⟨he, hp⟩

/-! ## What operations change -/

/-- Besides what there was, there are only directories, at places that the path leads through. -/
structure MadeFor (path : Path) (fs fs' : FileSystem) : Prop where
  current : fs'.current = fs.current
  entry : ∀ location, fs'.lookup? location = fs.lookup? location ∨
    fs.lookup? location = none ∧ fs'.lookup? location = some .directory ∧
      ∃ n, fs'.resolve (path.take n).toString = .ok location

namespace MadeFor

theorem refl (path : Path) (fs : FileSystem) : MadeFor path fs fs :=
  ⟨rfl, fun _ => .inl rfl⟩

theorem keeps (h : MadeFor path fs fs') : Keeps fs fs' := by
  refine ⟨h.current, fun location hd => ?_⟩
  rcases h.entry location with he | ⟨hn, _⟩
  · rw [he, hd]
  · rw [hn] at hd
    cases hd

theorem trans (h : MadeFor path fs fs') (h' : MadeFor path fs' fs'') : MadeFor path fs fs'' := by
  refine ⟨h'.current.trans h.current, fun location => ?_⟩
  rcases h'.entry location with he' | ⟨hn', hd', n, hr'⟩
  · rcases h.entry location with he | ⟨hn, hd, n, hr⟩
    · exact .inl (he'.trans he)
    · exact .inr ⟨hn, he'.trans hd, n, h'.keeps.resolve hr⟩
  · rcases h.entry location with he | ⟨_, hd, _⟩
    · exact .inr ⟨he ▸ hn', hd', n, hr'⟩
    · rw [hd] at hn'
      cases hn'

theorem of_parent (h : MadeFor path.parent fs fs') : MadeFor path fs fs' := by
  refine ⟨h.current, fun location => ?_⟩
  rcases h.entry location with he | ⟨hn, hd, n, hr⟩
  · exact .inl he
  · rw [Path.take_parent] at hr
    exact .inr ⟨hn, hd, _, hr⟩

end MadeFor

theorem Provides.effect (h : Provides path.toString fs fs') :
    MadeFor path fs fs' ∧ fs'.isDirectory path.toString := by
  rcases h with ⟨hd, rfl⟩ | ⟨location, hr, hn, rfl⟩
  · exact ⟨.refl path _, hd⟩
  · have hd : fs.lookup? location ≠ some .directory := by simp [hn]
    have hp : ∀ other, (fs.put location .directory).lookup? other =
        if other = location then some .directory else fs.lookup? other :=
      lookup?_put fs (ne_nil_of_lookup? hd) .directory
    have hr' := (Keeps.put hd .directory).resolve hr
    refine ⟨⟨rfl, fun other => ?_⟩, ?_⟩
    · rw [hp]
      split
      · rename_i ho
        subst ho
        refine .inr ⟨hn, rfl, path.parts.length, ?_⟩
        rw [Path.take_length, hr']
      · exact .inl rfl
    · rw [FileSystem.isDirectory, hr']
      simp [hp]

/-- Whether or not all directories could be made, nothing but directories was. -/
theorem makeDirectories_madeFor (fs : FileSystem) (path : Path) :
    MadeFor path fs (fs.makeDirectories path).2 ∧
      ((fs.makeDirectories path).1 = .ok () →
        (fs.makeDirectories path).2.isDirectory path.toString) := by
  fun_induction fs.makeDirectories path with
  | case1 path made hm =>
      obtain ⟨hmade, hd⟩ := (makeDirectoryIfMissing_eq_ok_iff.1 hm).effect
      exact ⟨hmade, fun _ => hd⟩
  | case2 path e _ _ e' left hm ih =>
      rw [hm] at ih
      refine ⟨ih.1.of_parent, ?_⟩
      rintro ⟨⟩
  | case3 path e _ _ parents hp made hm ih =>
      rw [hp] at ih
      obtain ⟨hmade, hd⟩ := (makeDirectoryIfMissing_eq_ok_iff.1 hm).effect
      exact ⟨ih.1.of_parent.trans hmade, fun _ => hd⟩
  | case4 path e _ _ parents hp e' hm ih =>
      rw [hp] at ih
      refine ⟨ih.1.of_parent, ?_⟩
      rintro ⟨⟩
  | case5 path e _ _ =>
      refine ⟨.refl path fs, ?_⟩
      rintro ⟨⟩

/-- A written file is read again, and everything else is as it was. -/
theorem write_effect {bytes : List UInt8} (h : fs.write name bytes = .ok fs') :
    Keeps fs fs' ∧ fs'.read name = .ok bytes ∧
      ∀ location, fs'.resolve name ≠ .ok location → fs'.lookup? location = fs.lookup? location := by
  obtain ⟨target, hr, hd, rfl⟩ := write_eq_ok_iff.1 h
  have hk := Keeps.put hd (.file bytes)
  have hp := lookup?_put fs (ne_nil_of_lookup? hd) (.file bytes)
  have ht : (fs.put target (.file bytes)).lookup? target = some (.file bytes) := by
    rw [hp, if_pos rfl]
  refine ⟨hk, ?_, fun location hl => ?_⟩
  · rw [FileSystem.read, hk.resolve hr]
    simp only [bind, Except.bind, ht]
    rfl
  · rw [hp, if_neg]
    rintro rfl
    exact hl (hk.resolve hr)

end FileSystem

end Typings
