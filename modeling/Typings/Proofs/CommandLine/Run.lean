import Typings.Proofs.CommandLine.Dump
import Typings.Proofs.FileSystem.Effects
import Typings.Proofs.Session.Report

/-!
# What a run leaves behind

A run makes its whole content before it prints or writes anything. A run without content leaves
nothing but the report of the failure, if it reports it; a run with content leaves it in one place.
-/

namespace Typings

/-! ## Reported failures -/

namespace FileSystem

/-- A file can be written at a path: directories lead there, as they are or once the missing ones
are made, and what stands there is no directory. -/
structure Admits (fs : FileSystem) (path : Path) (made : FileSystem) (location : List String) :
    Prop where
  leading : ProvidesAll fs path.parent made
  place : made.resolve path.toString = .ok location
  free : made.lookup? location ≠ some .directory

/-- A text was written to a path. Nothing else is different but that directories were made which
lead to it. -/
structure Delivered (path : Path) (content : String) (fs fs' : FileSystem) : Prop where
  current : fs'.current = fs.current
  bytes : fs'.read path.toString = .ok (Text.encodeUtf8 content)
  text : Text.decodeUtf8 (Text.encodeUtf8 content) = .ok content
  parent : fs'.isDirectory path.parent.toString
  other : ∀ location, fs'.resolve path.toString ≠ .ok location →
    fs'.lookup? location = fs.lookup? location ∨
      fs.lookup? location = none ∧ fs'.lookup? location = some .directory ∧
        ∃ n, fs'.resolve (path.parent.take n).toString = .ok location

variable {fs made : FileSystem} {path : Path} {location : List String}

theorem Admits.deliver (h : fs.Admits path made location) (content : String) :
    ∃ fs', fs.deliver path content = (.ok (), fs') ∧ Delivered path content fs fs' := by
  have hm := makeDirectories_eq_ok_iff.2 h.leading
  have hw : made.write path.toString (Text.encodeUtf8 content) =
      .ok (made.put location (.file (Text.encodeUtf8 content))) :=
    write_eq_ok_iff.2 ⟨location, h.place, h.free, rfl⟩
  obtain ⟨hmade, hparent⟩ := makeDirectories_madeFor fs path.parent
  rw [hm] at hmade hparent
  obtain ⟨hkeeps, hread, hother⟩ := write_effect hw
  refine ⟨made.put location (.file (Text.encodeUtf8 content)),
    by simp only [FileSystem.deliver, hm, hw], ?_⟩
  constructor
  case current => exact hkeeps.current.trans hmade.current
  case bytes => exact hread
  case text => exact Text.decodeUtf8_encodeUtf8 content
  case parent => exact hkeeps.isDirectory (hparent rfl)
  case other =>
    intro other ho
    rw [hother other ho]
    rcases hmade.entry other with he | ⟨hn, hd, n, hr⟩
    · exact .inl he
    · exact .inr ⟨hn, hd, n, hkeeps.resolve hr⟩

end FileSystem

/-! ## Runs -/

/-- The content that a run makes, with the diagnostics recorded on the way. -/
def Options.content (o : Options) (width : Nat) (fs : FileSystem) (launch : Launch) :
    Rendering String :=
  o.render width (o.tree (fs.read o.input) launch).1

end Typings
