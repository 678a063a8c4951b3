import Storefront.Storage.Path
import Storefront.Storage.Sink
/-!
# Storage — a tree in memory

A tree of directories and files that exists only in memory. Paths are
told apart by their components; a file keeps the spelling under which it
was first written. A file needs its parent directory, unless it has none
or that is the empty path.
-/

namespace Storefront

/-- A written file. -/
structure StoredFile where
  path : String
  content : String
  deriving DecidableEq, Repr

/-- Directories by their components, and files in path order. -/
structure MemoryTree where
  directories : List (List Component) := []
  files : List StoredFile := []
  deriving DecidableEq, Repr

namespace MemoryTree

/-- The file at a path. -/
def find? (t : MemoryTree) (path : String) : Option StoredFile :=
  t.files.find? fun f => Path.same f.path path

/-- The content of the file at a path. -/
def read? (t : MemoryTree) (path : String) : Option String :=
  (t.find? path).map (·.content)

/-- Whether a directory stands at some components. -/
def hasDirectory (t : MemoryTree) (cs : List Component) : Bool :=
  t.directories.contains cs

/-- Whether a file or a directory stands at a path. -/
def isTaken (t : MemoryTree) (path : String) : Bool :=
  (t.find? path).isSome || t.hasDirectory (Path.components path)

/-- The paths of the files, in path order. -/
def paths (t : MemoryTree) : List String := t.files.map (·.path)

/-- Add a directory. -/
def addDirectory (t : MemoryTree) (cs : List Component) : MemoryTree :=
  if t.hasDirectory cs then t else { t with directories := t.directories ++ [cs] }

/-- Make a directory and those above it. -/
def createDirectories (t : MemoryTree) (path : String) : MemoryTree :=
  (Path.lineage (Path.components path)).foldl addDirectory t

/-- The files with one more, or with the content of one changed. -/
def storeFile (path content : String) : List StoredFile → List StoredFile
  | [] => [⟨path, content⟩]
  | f :: rest =>
    if Path.same f.path path then { f with content } :: rest
    else if Path.before path f.path then ⟨path, content⟩ :: f :: rest
    else f :: storeFile path content rest

/-- Whether the directory that a file needs is there. -/
def hasParent (t : MemoryTree) (path : String) : Bool :=
  match Path.properParent? path with
  | none => true
  | some dir => t.hasDirectory (Path.components dir)

/-- Write a file in a directory that is there. -/
def writeFile (t : MemoryTree) (path content : String) : Except Failure MemoryTree :=
  if t.hasParent path then .ok { t with files := storeFile path content t.files }
  else .error (.transfer (.outputFailed path "Parent directory does not exist"))

instance : Sink MemoryTree where
  isTaken := isTaken
  createDirectories t path := ⟨t.createDirectories path, none, []⟩
  writeFile t path content :=
    match t.writeFile path content with
    | .ok t' => ⟨t', none, []⟩
    | .error f => ⟨t, some f, []⟩

end MemoryTree

end Storefront
