import Storefront.Storage.Path
import Storefront.Storage.Sink
/-!
# Storage — a disk

A disk holds directories and files at absolute places, and has a current
directory. A path is walked piece by piece: every piece before the last
has to lead to a directory. Operations fail with the errors of the
system, and what was done before a failure stays done.
-/

namespace Storefront

/-- An error of the system. -/
inductive SystemError where
  | notFound
  | alreadyExists
  | notDirectory
  | isDirectory
  | notUtf8
  deriving DecidableEq, Repr

/-- The words of the system for an error. -/
def SystemError.message : SystemError → String
  | notFound => "No such file or directory (os error 2)"
  | alreadyExists => "File exists (os error 17)"
  | notDirectory => "Not a directory (os error 20)"
  | isDirectory => "Is a directory (os error 21)"
  | notUtf8 => "stream did not contain valid UTF-8"

/-- What a file holds: a text, or bytes that are none. -/
inductive Content where
  | text (value : String)
  | binary (bytes : List UInt8)
  deriving DecidableEq, Repr

/-- What stands at a place of a disk. -/
inductive DiskNode where
  | directory
  | file (content : Content)
  deriving DecidableEq, Repr

/-- A place, by the names that lead to it from the root. -/
abbrev Place := List String

/-- Directories and files, and the current directory. The root and the
current directory are always there. -/
structure Disk where
  current : Place
  nodes : List (Place × DiskNode)
  deriving DecidableEq, Repr

/-- Where a path leads. -/
inductive Spot where
  | directory (place : Place)
  | file (place : Place) (content : Content)
  /-- Nothing is there, but its directory is. -/
  | vacant (place : Place) (slash : Bool)
  deriving DecidableEq, Repr

namespace Disk

/-- What stands at a place. -/
def node? (d : Disk) (p : Place) : Option DiskNode :=
  if p.isEmpty || p == d.current then some .directory else d.nodes.lookup p

/-- Walk the pieces of a path from a directory. -/
def walk (d : Disk) : Place → List String → Except SystemError Spot
  | dir, [] => .ok (.directory dir)
  | dir, piece :: rest =>
    if Path.isFiller piece then walk d dir rest
    else if piece == ".." then walk d dir.dropLast rest
    else
      let next := dir ++ [piece]
      match d.node? next with
      | some .directory => walk d next rest
      | some (.file c) => if rest.isEmpty then .ok (.file next c) else .error .notDirectory
      | none =>
        if rest.all (· == "") then .ok (.vacant next !rest.isEmpty) else .error .notFound

/-- Where a path leads. -/
def locate (d : Disk) (path : String) : Except SystemError Spot :=
  let pieces := fun cs => (List.splitOn '/' cs).map String.ofList
  match path.toList with
  | [] => .error .notFound
  | '/' :: rest => d.walk [] (pieces rest)
  | cs => d.walk d.current (pieces cs)

/-- Whether something stands at a path. -/
def isTaken (d : Disk) (path : String) : Bool :=
  match d.locate path with
  | .ok (.directory _) => true
  | .ok (.file _ _) => true
  | _ => false

/-- Whether a file stands at a path. -/
def isFile (d : Disk) (path : String) : Bool :=
  match d.locate path with
  | .ok (.file _ _) => true
  | _ => false

/-- Whether a directory stands at a path. -/
def isDirectory (d : Disk) (path : String) : Bool :=
  match d.locate path with
  | .ok (.directory _) => true
  | _ => false

/-- The content of the file at a path. -/
def read (d : Disk) (path : String) : Except SystemError Content :=
  match d.locate path with
  | .ok (.file _ c) => .ok c
  | .ok (.directory _) => .error .isDirectory
  | .ok (.vacant _ _) => .error .notFound
  | .error e => .error e

/-- The text of the file at a path. -/
def readText (d : Disk) (path : String) : Except SystemError String :=
  match d.read path with
  | .ok (.text s) => .ok s
  | .ok (.binary _) => .error .notUtf8
  | .error e => .error e

/-- The disk with something at a place. -/
def set (d : Disk) (p : Place) (n : DiskNode) : Disk :=
  { d with nodes := (d.nodes.filter fun e => e.1 != p) ++ [(p, n)] }

/-- Make one directory. -/
def makeDirectory (d : Disk) (path : String) : Except SystemError Disk :=
  match d.locate path with
  | .ok (.vacant p _) => .ok (d.set p .directory)
  | .ok _ => .error .alreadyExists
  | .error e => .error e

/-- Make a directory and those above it. The disk is left as far as the
work went. -/
def makeDirectoriesWithin : Nat → Disk → String → Disk × Option SystemError
  | 0, d, _ => (d, some .notFound)
  | fuel + 1, d, path =>
    let settle (d : Disk) (e : SystemError) : Disk × Option SystemError :=
      if d.isDirectory path then (d, none) else (d, some e)
    if path == "" then (d, none)
    else
      match d.makeDirectory path with
      | .ok d => (d, none)
      | .error .notFound =>
        match Path.parent? path with
        | none => (d, some .notFound)
        | some parent =>
          match makeDirectoriesWithin fuel d parent with
          | (d, some e) => (d, some e)
          | (d, none) =>
            match d.makeDirectory path with
            | .ok d => (d, none)
            | .error e => settle d e
      | .error e => settle d e

/-- Make a directory and those above it. -/
def makeDirectories (d : Disk) (path : String) : Disk × Option SystemError :=
  makeDirectoriesWithin (path.length + 1) d path

/-- Write a text to a file, which need not be there yet. -/
def writeText (d : Disk) (path text : String) : Except SystemError Disk :=
  match d.locate path with
  | .ok (.file p _) => .ok (d.set p (.file (.text text)))
  | .ok (.vacant p false) => .ok (d.set p (.file (.text text)))
  | .ok _ => .error .isDirectory
  | .error e => .error e

/-- Where the events of a disk come from. -/
def target : String := "shopgen_adapters::filesystem::local"

/-- An operation of the system that failed on the way to a document. -/
def outputFailed (path operation : String) (e : SystemError) : Failure :=
  .transfer (.outputFailed path ("Failed to " ++ operation ++ ": " ++ e.message))

instance : Sink Disk where
  isTaken := isTaken
  createDirectories d path :=
    let (d, e) := d.makeDirectories path
    { sink := d, failure := e.map (outputFailed path "create directory") }
  writeFile d path content :=
    match d.writeText path content with
    | .ok d =>
      { sink := d
        events :=
          [{ level := .debug, target, message := "wrote document",
             fields := [("path", .shown path), ("bytes", .count content.utf8ByteSize)] }] }
    | .error e => { sink := d, failure := some (outputFailed path "write file" e) }

end Disk

end Storefront
