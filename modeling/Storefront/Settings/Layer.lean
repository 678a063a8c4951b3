import Storefront.Settings.Environment
import Storefront.Settings.Setting
/-!
# Settings — layers

Settings come in layers: a file, and above it the variables whose names
start with `SHOPGEN__`. A layer sets values at dotted paths, so that
`defaults.mode` is the key `mode` of the table `defaults`. What a layer
sets replaces what is below it; tables alone are merged key by key.
-/

namespace Storefront

/-- One step of a dotted path. -/
inductive PathStep where
  | key (name : String)
  | index (place : Int)
  deriving DecidableEq, Repr

/-- A dotted path. -/
abbrev DottedPath := List PathStep

namespace DottedPath

/-- A character of a key. -/
def isKeyChar (c : Char) : Bool := c.isAlphanum || c == '_' || c == '-'

/-- An integer in front, if it fits a word. -/
def index? (cs : List Char) : Option (Int × List Char) :=
  let (sign, rest) := match cs with
    | '-' :: rest => (['-'], rest)
    | rest => ([], rest)
  let ds := rest.takeWhile Char.isDigit
  if ds.isEmpty then none
  else
    (Setting.word? (String.ofList (sign ++ ds))).map fun n => (n.toInt, rest.drop ds.length)

/-- A key in front. -/
def key? (cs : List Char) : Option (String × List Char) :=
  let name := cs.takeWhile isKeyChar
  if name.isEmpty then none else some (String.ofList name, cs.drop name.length)

/-- The steps behind the first key. -/
def steps? (fuel : Nat) (cs : List Char) : Option DottedPath :=
  match fuel, cs with
  | _, [] => some []
  | 0, _ => none
  | fuel + 1, '.' :: rest => do
    let (name, rest) ← key? rest
    return .key name :: (← steps? fuel rest)
  | fuel + 1, '[' :: rest => do
    let (place, rest) ← index? rest
    match rest with
    | ']' :: rest => return .index place :: (← steps? fuel rest)
    | _ => none
  | _, _ => none

/-- A dotted path that fills the whole text. -/
def parse? (s : String) : Option DottedPath := do
  let cs := s.toList
  let (name, rest) ← key? cs
  return .key name :: (← steps? rest.length rest)

/-- The path that a key of a layer stands for: a dotted path if it is
one, and else the key itself. -/
def ofKey (s : String) : DottedPath := (parse? s).getD [.key s]

end DottedPath

namespace Setting

/-- The entries of a table; anything else has none. -/
def entries : Setting → List (String × Setting)
  | table es => es
  | _ => []

/-- The items of a list; anything else has none. -/
def items : Setting → List Setting
  | list xs => xs
  | _ => []

/-- Entries with another value of a key. -/
def assign (key : String) (v : Setting) : List (String × Setting) → List (String × Setting)
  | [] => [(key, v)]
  | (k, old) :: rest => if k == key then (k, v) :: rest else (k, old) :: assign key v rest

/-- The value of a key. -/
def valueOf (key : String) (es : List (String × Setting)) : Setting :=
  (es.lookup key).getD absent

mutual

/-- A setting on top of another. -/
def above : Setting → Setting → Setting
  | table es, old => table (entriesAbove es old.entries)
  | v, _ => v

/-- The entries of a table on top of others. -/
def entriesAbove : List (String × Setting) → List (String × Setting) →
    List (String × Setting)
  | [], old => old
  | (k, v) :: es, old => entriesAbove es (assign k (above v (valueOf k old)) old)

end

/-- A list with room for the item at a place, and the place counted from
the start. A negative place counts from the end. -/
def makeRoom (place : Int) (xs : List Setting) : Nat × List Setting :=
  let fill := fun (n : Nat) => List.replicate n absent
  if 0 ≤ place then
    (place.toNat, xs ++ fill (place.toNat + 1 - xs.length))
  else
    let back := (-place).toNat
    if back ≤ xs.length then (xs.length - back, xs) else (0, fill (back - xs.length) ++ xs)

/-- A setting with a value at a path. -/
def put (old : Setting) : DottedPath → Setting → Setting
  | [], v => above v old
  | .key k :: path, v =>
    table (assign k (put (valueOf k old.entries) path v) old.entries)
  | .index i :: path, v =>
    let (place, xs) := makeRoom i old.items
    list (xs.set place (put (xs.getD place absent) path v))

/-- A layer on top of a setting: its values at the paths of its keys. -/
def putAll (layer : List (String × Setting)) (base : Setting) : Setting :=
  layer.foldl (fun s e => s.put (DottedPath.ofKey e.1) e.2) base

end Setting

/-- What the names of variables that set something start with, in lower
case. -/
def variableStart : List Char := "shopgen__".toList

/-- A text in which two underscores are a point. -/
def pointed : List Char → List Char
  | '_' :: '_' :: cs => '.' :: pointed cs
  | c :: cs => c :: pointed cs
  | [] => []

/-- The key that a variable sets. -/
def variableKey? (name : String) : Option String :=
  let cs := name.toList.map Char.toLower
  if variableStart.isPrefixOf cs then
    some (String.ofList (pointed (cs.drop variableStart.length)))
  else none

/-- The layer of the environment. Of two variables with the same key the
later one counts. -/
def Environment.layer (env : Environment) : List (String × Setting) :=
  env.foldl
    (fun layer v =>
      match variableKey? v.1 with
      | some key => Setting.assign key (Setting.ofVariable v.2) layer
      | none => layer)
    []

end Storefront
