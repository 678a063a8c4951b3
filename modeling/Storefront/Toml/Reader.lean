import Storefront.Toml.Quotation
import Storefront.Toml.Scalar
import Storefront.Toml.Tree
/-!
# TOML — reading a document

`Toml.parse?` reads a whole document. It accepts TOML 1.1: tables in
braces may span lines and end in a comma. A byte order mark at the start
is skipped. Whatever breaks the grammar, defines a key twice or does not
fit its type makes the whole document unreadable.
-/

namespace Storefront.Toml

/-- Brackets and braces may be nested this deep. -/
def depthLimit : Nat := 80

/-- The rest of a line comment after its mark, without the line break. -/
def comment? : List Char → Option (List Char)
  | [] => some []
  | '\n' :: cs => some ('\n' :: cs)
  | '\r' :: '\n' :: cs => some ('\r' :: '\n' :: cs)
  | c :: cs => if isTextChar c then comment? cs else none

/-- Drop a comment in front, if there is one. -/
def skipComment? : List Char → Option (List Char)
  | '#' :: cs => comment? cs
  | cs => some cs

/-- The end of a line: blanks, a comment, and a line break or the end of
the document. -/
def lineEnd? (cs : List Char) : Option (List Char) := do
  let rest ← skipComment? (skipSpace cs)
  match rest with
  | [] => return []
  | rest => newline? rest

/-- Drop blanks, line breaks and comments in front. -/
def skipLines? (fuel : Nat) (cs : List Char) : Option (List Char) :=
  match fuel with
  | 0 => none
  | fuel + 1 =>
    match skipSpace cs with
    | '#' :: rest => do
      let rest ← comment? rest
      skipLines? fuel rest
    | rest =>
      match newline? rest with
      | some rest => skipLines? fuel rest
      | none => some rest

/-- Drop blanks, line breaks and comments in front. -/
def skipAll? (cs : List Char) : Option (List Char) := skipLines? (cs.length + 1) cs

/-- A character of a key without quotes. -/
def isBareKeyChar (c : Char) : Bool :=
  c.isAlphanum || c == '_' || c == '-'

/-- One part of a key. -/
def keyPart? (cs : List Char) : Option (String × List Char) :=
  match lineText? cs with
  | some r => some r
  | none =>
    let bare := cs.takeWhile isBareKeyChar
    if bare.isEmpty then none else some (String.ofList bare, cs.drop bare.length)

/-- A key: parts with points between them. The last part is apart from
those before it. -/
def key? (fuel : Nat) (cs : List Char) : Option ((List String × String) × List Char) :=
  match fuel with
  | 0 => none
  | fuel + 1 => do
    let (part, rest) ← keyPart? (skipSpace cs)
    let rest := skipSpace rest
    match rest with
    | '.' :: rest => do
      let ((path, last), rest) ← key? fuel rest
      return ((part :: path, last), rest)
    | rest => return (([], part), rest)

mutual

/-- A value. -/
def value? (fuel depth : Nat) (cs : List Char) : Option (Toml × List Char) :=
  match fuel with
  | 0 => none
  | fuel + 1 =>
    match cs with
    | '"' :: _ => (anyText? cs).map fun r => (.text r.1, r.2)
    | '\'' :: _ => (anyText? cs).map fun r => (.text r.1, r.2)
    | '[' :: rest =>
      if depth == 0 then none
      else (items? fuel (depth - 1) rest).map fun r => (.list r.1, r.2)
    | '\x7b' :: rest =>
      if depth == 0 then none
      else (pairs? fuel (depth - 1) [] rest).map fun r => (Tree.toValue r.1, r.2)
    | cs => do
      let (tok, rest) := token cs
      let v ← scalar? tok
      return (v, rest)

/-- The items of a list up to its closing bracket. -/
def items? (fuel depth : Nat) (cs : List Char) : Option (List Toml × List Char) :=
  match fuel with
  | 0 => none
  | fuel + 1 => do
    match ← skipAll? cs with
    | ']' :: rest => return ([], rest)
    | rest => do
      let (v, rest) ← value? fuel depth rest
      match ← skipAll? rest with
      | ',' :: rest => do
        let (vs, rest) ← items? fuel depth rest
        return (v :: vs, rest)
      | ']' :: rest => return ([v], rest)
      | _ => none

/-- The pairs of a table in braces up to its closing brace. -/
def pairs? (fuel depth : Nat) (tree : Tree) (cs : List Char) : Option (Tree × List Char) :=
  match fuel with
  | 0 => none
  | fuel + 1 => do
    match ← skipAll? cs with
    | '\x7d' :: rest => return (tree, rest)
    | rest => do
      let ((path, key), rest) ← key? (rest.length + 1) rest
      match rest with
      | '=' :: rest => do
        let (v, rest) ← value? fuel depth (skipSpace rest)
        let tree ← tree.put path key v
        match ← skipAll? rest with
        | ',' :: rest => pairs? fuel depth tree rest
        | '\x7d' :: rest => return (tree, rest)
        | _ => none
      | _ => none

end

/-- A document under construction: its tree, and the path of the table
that was opened last. -/
structure Draft where
  tree : Tree := []
  current : List String := []

/-- A header after its opening brackets; a doubled one opens the next
table of a list. -/
def header? (doubled : Bool) (d : Draft) (cs : List Char) : Option (Draft × List Char) := do
  let ((path, key), rest) ← key? (cs.length + 1) cs
  let tree ← if doubled then d.tree.openNext path key else d.tree.openTable path key
  let rest ← match doubled, rest with
    | true, ']' :: ']' :: rest => some rest
    | false, ']' :: rest => some rest
    | _, _ => none
  return (⟨tree, path ++ [key]⟩, rest)

/-- A key with its value. -/
def pair? (d : Draft) (cs : List Char) : Option (Draft × List Char) := do
  let ((path, key), rest) ← key? (cs.length + 1) cs
  match rest with
  | '=' :: rest => do
    let (v, rest) ← value? (2 * rest.length + 2) depthLimit (skipSpace rest)
    let tree ← d.tree.within d.current (Tree.put path key v)
    return ({ d with tree }, rest)
  | _ => none

/-- The rest of a document. -/
def lines? (fuel : Nat) (d : Draft) (cs : List Char) : Option Draft :=
  match fuel with
  | 0 => none
  | fuel + 1 => do
    let cs ← skipAll? cs
    match cs with
    | [] => return d
    | cs => do
      let (d, rest) ← match cs with
        | '[' :: '[' :: rest => header? true d rest
        | '[' :: rest => header? false d rest
        | cs => pair? d cs
      let rest ← lineEnd? rest
      lines? fuel d rest

/-- A text without a byte order mark at its start. -/
def skipMark : List Char → List Char
  | '\ufeff' :: cs => cs
  | cs => cs

/-- The table that a document writes. -/
def parse? (s : String) : Option Toml :=
  let cs := skipMark s.toList
  (lines? (cs.length + 1) {} cs).map fun d => d.tree.toValue

end Storefront.Toml
