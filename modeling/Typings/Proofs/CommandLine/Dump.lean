import Typings.CommandLine.Run
import Typings.Proofs.Declaration.Relabelled
import Typings.Proofs.Json.Written
import Typings.Proofs.Session.Routes

/-!
# Dumps

The dump of a tree is one line of plain ASCII that holds the tree again. A file with the dump in it
may stand for the file that was dumped: it has the same dump and the same document.
-/

namespace Typings

open Json

/-! ## Line ends -/

theorem Text.unifyLineEnds_eq_self {s : List Char} (h : '\r' ∉ s) : Text.unifyLineEnds s = s := by
  induction s with
  | nil => rfl
  | cons c s ih =>
    rw [List.mem_cons, not_or] at h
    rw [Text.unifyLineEnds]
    · rw [ih h.2]
    · rintro rest rfl
      exact absurd rfl h.1
    · rintro rfl
      exact absurd rfl h.1

/-! ## The text of a dump -/

theorem toList_dumpTree (v : Json) : (dumpTree v).toList = v.writeChars ++ ['\n'] := by
  simp [dumpTree, write]

theorem dumpTree_unified {v : Json} (hr : v.hasNoReal = true) :
    Text.unifyLineEnds (dumpTree v).toList = (dumpTree v).toList := by
  apply Text.unifyLineEnds_eq_self
  rw [toList_dumpTree, List.mem_append, not_or]
  constructor
  · intro h
    exact absurd (List.all_eq_true.1 (writeChars_all v hr) _ h) (by decide)
  · decide

theorem read_dumpTree {v : Json} (hv : v.isReadable = true) (hr : v.hasNoReal = true) :
    Json.read (dumpTree v) = .ok v := by
  rw [Json.read, toList_dumpTree, readChars_line hv hr]
  rfl

/-! ## Trees in files -/

/-- Whether the input is a file that holds a tree. -/
def Options.ReadsTree (o : Options) : Prop :=
  (Path.ofString o.input).suffix = ".json"

instance (o : Options) : Decidable o.ReadsTree :=
  inferInstanceAs (Decidable (_ = _))

theorem Options.tree_eq {o : Options} {bytes : List UInt8} {text : String} (launch : Launch)
    (h : o.ReadsTree) (hd : Text.decodeUtf8 bytes = .ok text) :
    o.tree (.ok bytes) launch =
      ((Json.read (String.ofList (Text.unifyLineEnds text.toList))).mapError
        (.ofReadError (.treeFile o.input)), []) := by
  simp only [Options.tree, hd]
  exact if_pos h

theorem Options.tree_dumpTree {v : Json} (hv : v.isReadable = true) (hr : v.hasNoReal = true)
    {o : Options} (launch : Launch) (h : o.ReadsTree) :
    o.tree (.ok (Text.encodeUtf8 (dumpTree v))) launch = (.ok v, []) := by
  rw [Options.tree_eq launch h (Text.decodeUtf8_encodeUtf8 _), dumpTree_unified hr,
    String.ofList_toList, read_dumpTree hv hr]
  rfl

theorem Launch.tree_isReadable {program : Option String} {launch : Launch} {v : Json}
    (h : launch.tree program = .ok v) : v.isReadable = true := by
  cases launch with
  | missing => cases h
  | denied => cases h
  | undecodable e => cases h
  | finished code output complaint =>
    rw [Launch.tree] at h
    split at h
    · cases hr : Json.read output with
      | error e =>
        rw [hr] at h
        cases h
      | ok w =>
        rw [hr] at h
        cases w
        case object fields =>
          cases h
          exact read_isReadable hr
        all_goals cases h
    · cases h

theorem Options.tree_isReadable {o : Options} {file : Except FileError (List UInt8)}
    {launch : Launch} {v : Json} (h : (o.tree file launch).1 = .ok v) : v.isReadable = true := by
  cases file with
  | error e => cases h
  | ok bytes =>
    cases hd : Text.decodeUtf8 bytes with
    | error e =>
      rw [Options.tree, hd] at h
      cases h
    | ok text =>
      by_cases hs : o.ReadsTree
      · rw [Options.tree_eq launch hs hd] at h
        cases hr : Json.read (String.ofList (Text.unifyLineEnds text.toList)) with
        | error e =>
          rw [hr] at h
          cases h
        | ok w =>
          rw [hr] at h
          cases h
          exact read_isReadable hr
      · have hs' : (Path.ofString o.input).suffix ≠ ".json" := hs
        simp only [Options.tree, hd, if_neg hs'] at h
        exact Launch.tree_isReadable h

/-! ## Runs on a dump -/

theorem documentOfTree_inFile (ctx : Context) (file : String) (tree : Json) :
    documentOfTree (ctx.inFile file) tree = (documentOfTree ctx tree).inFile file := by
  rw [documentOfTree, documentOfTree, Rendering.inFile_bind, Rendering.inFile_ofExcept]
  congr 1
  funext p
  exact p.render_inFile ctx file

theorem Options.render_ok (o : Options) (width : Nat) (v : Json) :
    o.render width (.ok v) =
      if o.dump then pure (dumpTree v)
      else documentOfTree ⟨Text.copies " " width, o.input⟩ v :=
  pure_bind v _

theorem Options.render_inFile {o o' : Options} (h : o'.dump = o.dump) (width : Nat) (v : Json) :
    o'.render width (.ok v) = (o.render width (.ok v)).inFile o'.input := by
  rw [Options.render_ok, Options.render_ok, h]
  split
  · exact (Rendering.inFile_pure (dumpTree v)).symm
  · exact documentOfTree_inFile ⟨Text.copies " " width, o.input⟩ o'.input v

/-- The dump of a value holds the value. -/
structure DumpReloads (v : Json) : Prop where
  /-- The dump is one line of plain ASCII. -/
  line : ∃ line, (dumpTree v).toList = line ++ ['\n'] ∧ line.all isPlainAscii = true
  /-- It is what a run gives that dumps a file with this tree. -/
  dump (o : Options) (file : Except FileError (List UInt8)) (launch : Launch) (width : Nat) :
    o.dump = true → (o.tree file launch).1 = .ok v →
    o.render width (o.tree file launch).1 = pure (dumpTree v)
  /-- In a file that holds a tree it is the value again, and the parser is not started. -/
  tree (o : Options) (launch : Launch) : o.ReadsTree →
    o.tree (.ok (Text.encodeUtf8 (dumpTree v))) launch = (.ok v, [])
  /-- Such a file has the same dump and the same document as any file with this tree, with the
  same diagnostics up to the name of the file. -/
  render (o o' : Options) (file : Except FileError (List UInt8)) (launch launch' : Launch)
    (width : Nat) : (o.tree file launch).1 = .ok v → o'.ReadsTree → o'.dump = o.dump →
    o'.render width (o'.tree (.ok (Text.encodeUtf8 (dumpTree v))) launch').1 =
      (o.render width (o.tree file launch).1).inFile o'.input

/-- A value without reals can be reloaded from its dump if its keys are distinct and its integers
are not too long, and so can the tree of any file. -/
theorem dump_reloads {v : Json} (hr : v.hasNoReal = true)
    (hv : v.isReadable = true ∨ ∃ (o : Options) (file : Except FileError (List UInt8))
      (launch : Launch), (o.tree file launch).1 = .ok v) :
    DumpReloads v := by
  replace hv : v.isReadable = true := by
    rcases hv with hv | ⟨o, file, launch, h⟩
    · exact hv
    · exact Options.tree_isReadable h
  constructor
  case line => exact ⟨v.writeChars, toList_dumpTree v, writeChars_all v hr⟩
  case dump =>
    intro o file launch width hd h
    rw [h, Options.render_ok, if_pos hd]
  case tree =>
    intro o launch h
    exact Options.tree_dumpTree hv hr launch h
  case render =>
    intro o o' file launch launch' width h hs hd
    rw [h, Options.tree_dumpTree hv hr launch' hs]
    exact Options.render_inFile hd width v

/-- Escapes, a pair of surrogates, a negative integer, and empty containers. -/
def ornateValue : Json :=
  .object [("k\"\t", .list [.int (-12), .string "é\\\n😀", .list []]), ("", .object [])]

theorem ornateValue_reloads : dumpTree ornateValue =
      "\x7b\"k\\\"\\t\": [-12, \"\\u00e9\\\\\\n\\ud83d\\ude00\", []], \"\": \x7b\x7d\x7d\n" ∧
    DumpReloads ornateValue :=
  ⟨rfl, dump_reloads rfl (.inl (by decide +kernel))⟩

/-- An integer with more digits than are read is the tree of no file. -/
theorem longInteger_not_reloaded :
    ∃ v : Json, v.hasNoReal = true ∧ ∀ (o : Options) (bytes : List UInt8) (launch : Launch),
      (o.tree (.ok bytes) launch).1 ≠ .ok v := by
  refine ⟨.int (10 ^ 4300), rfl, ?_⟩
  intro o bytes launch h
  exact absurd (Options.tree_isReadable h) (by decide +kernel)

end Typings
