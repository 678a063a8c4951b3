/-!
# Storage — paths

A path is a text; what it leads to depends on its components. Doubled
slashes, a slash at the end and a point between slashes have no meaning,
so `a//b`, `a/./b` and `a/b/` name the same place; a point in front and
two points are components like any other. Paths are compared and sorted
by their components.
-/

namespace Storefront

/-- One step of a path. -/
inductive Component where
  | root
  | here
  | up
  | name (text : String)
  deriving DecidableEq, Repr

namespace Component

/-- The place of a component's kind in the order of components. -/
def rank : Component → Nat
  | root => 0
  | here => 1
  | up => 2
  | name _ => 3

/-- Whether a component comes before another. -/
def before : Component → Component → Bool
  | name a, name b => a < b
  | a, b => a.rank < b.rank

end Component

namespace Path

/-- A path without its beginning: the beginning and the pieces between
the slashes of what follows. -/
def parts (path : String) : String × List String :=
  let pieces := fun cs => (List.splitOn '/' cs).map String.ofList
  match path.toList with
  | '/' :: rest => ("/", pieces rest)
  | ['.'] => (".", [])
  | '.' :: '/' :: rest => (".", pieces ('/' :: rest))
  | cs => ("", pieces cs)

/-- A piece without meaning. -/
def isFiller (piece : String) : Bool := piece == "" || piece == "."

/-- The components that a beginning stands for. -/
def startComponents (start : String) : List Component :=
  if start == "/" then [.root] else if start == "." then [.here] else []

/-- The component of a piece. -/
def pieceComponent (piece : String) : Component :=
  if piece == ".." then .up else .name piece

/-- The components of a path. -/
def components (path : String) : List Component :=
  let (start, pieces) := parts path
  startComponents start ++ (pieces.filter fun p => !isFiller p).map pieceComponent

/-- Pieces without the fillers at the end. -/
def dropFillers (pieces : List String) : List String :=
  (pieces.reverse.dropWhile isFiller).reverse

/-- The path without its last component, unless that is the root or
there is none. -/
def parent? (path : String) : Option String :=
  let (start, pieces) := parts path
  match dropFillers pieces with
  | [] => if start == "." then some "" else none
  | kept => some (start ++ "/".intercalate (dropFillers kept.dropLast))

/-- The parent, if it is more than an empty path. -/
def properParent? (path : String) : Option String :=
  (parent? path).filter fun p => p != ""

/-- A path inside a directory; a path from the root stays as it is. -/
def join (directory path : String) : String :=
  if path.startsWith "/" then path
  else if directory == "" || directory.endsWith "/" then directory ++ path
  else directory ++ "/" ++ path

/-- Whether two paths name the same place. -/
def same (p q : String) : Bool := components p == components q

/-- Whether a list of components comes before another. -/
def componentsBefore : List Component → List Component → Bool
  | [], [] => false
  | [], _ :: _ => true
  | _ :: _, [] => false
  | a :: as, b :: bs => a.before b || (a == b && componentsBefore as bs)

/-- Whether a path comes before another. -/
def before (p q : String) : Bool := componentsBefore (components p) (components q)

/-- The nonempty initial runs of components, the shortest first. -/
def lineage : List Component → List (List Component)
  | [] => []
  | c :: cs => [c] :: (lineage cs).map (c :: ·)

end Path

end Storefront
