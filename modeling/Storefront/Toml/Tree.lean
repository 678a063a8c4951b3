import Storefront.Toml.Value
/-!
# TOML — tables under construction

A document builds its tables from headers and dotted keys. How a table
came to be decides who may still add to it: a header may open a table
that was only implied by another header, a dotted key may go through
such a table and extend what dotted keys made, and nothing may reach
into a written value. `Tree.put` and `Tree.open?` refuse everything
else.
-/

namespace Storefront.Toml

/-- How a table came to be. -/
inductive Origin where
  /-- A header, or the document, defined it. -/
  | defined
  /-- A header named it on the way to another table. -/
  | implied
  /-- A dotted key named it. -/
  | dotted
  deriving DecidableEq, Repr

/-- What stands under a key while a document is read. -/
inductive Node where
  /-- A written value, complete in itself. -/
  | value (v : Toml)
  | table (origin : Origin) (entries : List (String × Node))
  /-- A list of tables, each from a header of its own; the last one
  first. -/
  | tables (last : List (String × Node)) (earlier : List (List (String × Node)))
  deriving Inhabited

/-- The entries of a table under construction. -/
abbrev Tree := List (String × Node)

namespace Tree

/-- The tree with a node under a key. -/
def set (key : String) (n : Node) : Tree → Tree
  | [] => [(key, n)]
  | (k, m) :: rest => if k == key then (k, n) :: rest else (k, m) :: set key n rest

/-- Change the table that a path leads to, making the tables on the way.
The change sees how its table came to be. -/
def modify (byDots : Bool) (change : Origin → Tree → Option Tree) :
    Origin → List String → Tree → Option Tree
  | origin, [], tree => change origin tree
  | _, key :: path, tree =>
    let made : Origin := if byDots then .dotted else .implied
    match tree.lookup key with
    | none => do
      let inner ← modify byDots change made path []
      return tree.set key (.table made inner)
    | some (.table origin inner) =>
      if byDots && origin == .defined then none
      else do
        let inner ← modify byDots change origin path inner
        return tree.set key (.table origin inner)
    | some (.tables last earlier) => do
      let last ← modify byDots change .defined path last
      return tree.set key (.tables last earlier)
    | some (.value _) => none

/-- Add a written value under a dotted key, whose last part is apart. A
table on the way has to be one that dotted keys made. -/
def put (path : List String) (key : String) (v : Toml) (tree : Tree) : Option Tree :=
  modify true
    (fun origin inner =>
      if !path.isEmpty && origin != .dotted then none
      else if (inner.lookup key).isSome then none
      else some (inner.set key (.value v)))
    .defined path tree

/-- Open the table of a header: a new one, or one that was implied. -/
def openTable (path : List String) (key : String) (tree : Tree) : Option Tree :=
  modify false
    (fun _ inner =>
      match inner.lookup key with
      | none => some (inner.set key (.table .defined []))
      | some (.table .implied entries) => some (inner.set key (.table .defined entries))
      | _ => none)
    .defined path tree

/-- Open the next table of a list of tables. -/
def openNext (path : List String) (key : String) (tree : Tree) : Option Tree :=
  modify false
    (fun _ inner =>
      match inner.lookup key with
      | none => some (inner.set key (.tables [] []))
      | some (.tables last earlier) => some (inner.set key (.tables [] (last :: earlier)))
      | _ => none)
    .defined path tree

/-- Change the table that was opened last, which a path leads to. -/
def within (path : List String) (change : Tree → Option Tree) (tree : Tree) : Option Tree :=
  modify false (fun _ inner => change inner) .defined path tree

end Tree

mutual

/-- The value that a node has become. -/
def Node.toValue : Node → Toml
  | .value v => v
  | .table _ entries => .table (sortEntries (entryValues entries))
  | .tables last earlier =>
    .list (tableValues earlier [.table (sortEntries (entryValues last))])

/-- The values of entries. -/
def entryValues : List (String × Node) → List (String × Toml)
  | [] => []
  | (k, n) :: rest => (k, n.toValue) :: entryValues rest

/-- The values of tables, the last one first, in front of others. -/
def tableValues : List (List (String × Node)) → List Toml → List Toml
  | [], acc => acc
  | t :: ts, acc => tableValues ts (.table (sortEntries (entryValues t)) :: acc)

end

/-- The table that a tree has become. -/
def Tree.toValue (tree : Tree) : Toml :=
  .table (sortEntries (entryValues tree))

end Storefront.Toml
