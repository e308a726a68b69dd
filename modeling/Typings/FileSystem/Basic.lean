import Typings.FileSystem.Path
import Typings.Text.Quoted

/-!
# A file system

Files and directories by their location, the list of names from the root down. The root is always a
directory. A written path is followed from the root or from the current directory, component by
component; every component but the last must lead to a directory that exists. Paths and components
have greatest lengths.
-/

namespace Typings

/-! ## Errors -/

/-- Why an operation on a file system fails. -/
inductive FileFlaw where
  | notFound
  | denied
  | occupied
  | notDirectory
  | isDirectory
  | nameTooLong
  deriving DecidableEq, Repr

def FileFlaw.code : FileFlaw → Nat
  | .notFound => 2
  | .denied => 13
  | .occupied => 17
  | .notDirectory => 20
  | .isDirectory => 21
  | .nameTooLong => 36

def FileFlaw.wording : FileFlaw → String
  | .notFound => "No such file or directory"
  | .denied => "Permission denied"
  | .occupied => "File exists"
  | .notDirectory => "Not a directory"
  | .isDirectory => "Is a directory"
  | .nameTooLong => "File name too long"

/-- The wording of a flaw with its number. -/
def FileFlaw.message (flaw : FileFlaw) : String :=
  "[Errno " ++ flaw.code.repr ++ "] " ++ flaw.wording

/-- A failed operation on a file. -/
inductive FileError where
  /-- The operation met a flaw on the given path. -/
  | flawed (flaw : FileFlaw) (path : String)
  /-- The path holds a null character, with which no path can be followed. -/
  | nullInPath
  deriving DecidableEq, Repr

/-- The wording of an error: the flaw with its number and the path. -/
def FileError.message : FileError → String
  | .flawed flaw path => flaw.message ++ ": " ++ Text.quoted path
  | .nullInPath => "embedded null byte"

/-- Whether nothing stands where a path leads to, or a directory on the way there is missing. -/
def FileError.isNotFound : FileError → Bool
  | .flawed .notFound _ => true
  | _ => false

/-! ## Entries -/

/-- What stands at a location. -/
inductive Entry where
  | file (bytes : List UInt8)
  | directory
  deriving DecidableEq, Repr

/-- A file system with a current directory. -/
structure FileSystem where
  entries : List (List String × Entry)
  current : List String
  deriving Repr

namespace FileSystem

/-- What stands at a location, if anything does. -/
def lookup? (fs : FileSystem) (location : List String) : Option Entry :=
  if location = [] then some .directory else fs.entries.lookup location

/-- Sets what stands at a location. -/
def setEntry (location : List String) (entry : Entry) :
    List (List String × Entry) → List (List String × Entry)
  | [] => [(location, entry)]
  | (l, e) :: rest =>
    if l = location then (l, entry) :: rest else (l, e) :: setEntry location entry rest

/-- The file system with `entry` at a location. -/
def put (fs : FileSystem) (location : List String) (entry : Entry) : FileSystem :=
  { fs with entries := setEntry location entry fs.entries }

/-! ## Following paths -/

/-- The most bytes of a component. -/
def maxComponent : Nat := 255

/-- The most bytes of a path. -/
def maxPath : Nat := 4095

/-- Follows one component from a location, which must be a directory. -/
def step (fs : FileSystem) (location : List String) (component : String) :
    Except FileFlaw (List String) :=
  match fs.lookup? location with
  | none => .error .notFound
  | some (.file _) => .error .notDirectory
  | some .directory =>
    if component = "" ∨ component = "." then .ok location
    else if component = ".." then .ok location.dropLast
    else if maxComponent < component.utf8ByteSize then .error .nameTooLong
    else .ok (location ++ [component])

/-- The location that a written path leads to. Nothing need stand there. -/
def resolve (fs : FileSystem) (path : String) : Except FileError (List String) :=
  if '\x00' ∈ path.toList then .error .nullInPath
  else if path = "" then .error (.flawed .notFound path)
  else if maxPath < path.utf8ByteSize then .error (.flawed .nameTooLong path)
  else
    let start := if path.toList.head? = some '/' then [] else fs.current
    ((Path.components path).foldlM fs.step start).mapError (.flawed · path)

def isDirectory (fs : FileSystem) (path : String) : Bool :=
  match fs.resolve path with
  | .ok location => fs.lookup? location == some .directory
  | .error _ => false

/-! ## Operations -/

/-- The contents of a file. -/
def read (fs : FileSystem) (path : String) : Except FileError (List UInt8) := do
  let location ← fs.resolve path
  match fs.lookup? location with
  | some (.file bytes) => return bytes
  | some .directory => .error (.flawed .isDirectory path)
  | none => .error (.flawed .notFound path)

/-- Writes a file, in place of what it held before. -/
def write (fs : FileSystem) (path : String) (bytes : List UInt8) :
    Except FileError FileSystem := do
  let location ← fs.resolve path
  match fs.lookup? location with
  | some .directory => .error (.flawed .isDirectory path)
  | _ => return fs.put location (.file bytes)

/-- Makes a directory where nothing stands. -/
def makeDirectory (fs : FileSystem) (path : String) : Except FileError FileSystem := do
  let location ← fs.resolve path
  match fs.lookup? location with
  | some _ => .error (.flawed .occupied path)
  | none => return fs.put location .directory

/-- Makes a directory unless it is there. -/
def makeDirectoryIfMissing (fs : FileSystem) (path : String) : Except FileError FileSystem :=
  match fs.makeDirectory path with
  | .ok fs => .ok fs
  | .error e => if ¬ e.isNotFound ∧ fs.isDirectory path then .ok fs else .error e

/-- Makes a directory and all that lead to it, unless they are there. What was made before a failure
stays. -/
def makeDirectories (fs : FileSystem) (path : Path) : Except FileError Unit × FileSystem :=
  match fs.makeDirectoryIfMissing path.toString with
  | .ok made => (.ok (), made)
  | .error e =>
    if _h : e.isNotFound ∧ path.parts ≠ [] then
      match makeDirectories fs path.parent with
      | (.error e, left) => (.error e, left)
      | (.ok (), fs) =>
        match fs.makeDirectoryIfMissing path.toString with
        | .ok made => (.ok (), made)
        | .error e => (.error e, fs)
    else (.error e, fs)
termination_by path.parts.length
decreasing_by
  have := List.length_pos_iff.2 _h.2
  simp only [Path.parent, List.length_dropLast]
  omega

/-! ## Contents -/

/-- A file system that holds the given files and directories, by written paths relative to its
current directory, and the directories that lead to them. -/
def ofEntries (current : List String) (given : List (String × Entry)) : FileSystem :=
  given.foldl
    (fun fs (path, entry) =>
      let location := current ++ (Path.ofString path).parts
      let leading := (List.range location.length).map location.take
      let prepared := leading.foldl (fun fs l => if l = [] then fs else fs.put l .directory) fs
      prepared.put location entry)
    ⟨if current = [] then [] else [(current, .directory)], current⟩

/-- The path of a location below the current directory, if it is below. -/
def relative? (fs : FileSystem) (location : List String) : Option String :=
  if fs.current.isPrefixOf location then
    some ("/".intercalate (location.drop fs.current.length))
  else none

/-- The files below the current directory that `after` holds and `before` does not, or not with
the same contents. -/
def changedFiles (before after : FileSystem) : List (String × List UInt8) :=
  after.entries.filterMap fun (location, entry) =>
    match entry with
    | .directory => none
    | .file bytes =>
      if before.lookup? location = some entry then none
      else (after.relative? location).map (·, bytes)

end FileSystem

end Typings
