import Storefront.Catalog.Basic
import Storefront.CommandLine.Interface
import Storefront.Csv.Printer
import Storefront.Json.Printer
/-!
# Commands — listings

A listing has a row for every entry of a catalog, or for those of one
kind: the kind, the name and a short account. It is written as a table,
as names alone, as JSON or as CSV, always in catalog order.
-/

namespace Storefront

/-- An entry as a listing shows it. -/
structure Row where
  kind : Kind
  name : String
  detail : String
  deriving DecidableEq, Repr

/-- A short account of an entitlement. -/
def Entitlement.detail (e : Entitlement) : String :=
  let start := e.parent.identifier ++ ", max " ++ toString e.maxCount
  if e.consumable then start ++ ", consumable" else start

/-- A short account of an entry. -/
def Entry.detail : Entry → String
  | info m => m.name.text
  | entitlement e => e.detail
  | offer o => "grants " ++ o.entitlementType ++ " for " ++ o.price.text
  | bundle b => toString b.items.length ++ " offer(s) for " ++ b.price.text

/-- The row of an entry. -/
def Entry.row (e : Entry) : Row := ⟨e.kind, e.key, e.detail⟩

/-- The kinds that are listed. -/
def listedKinds : Option Kind → List Kind
  | none => Kind.all
  | some k => [k]

/-- The rows of a catalog, or those of one kind. -/
def Catalog.rows (c : Catalog) (only : Option Kind) : List Row :=
  (listedKinds only).flatMap fun k => (c.entries k).map Entry.row

namespace Row

/-- A text with blanks behind it up to a width. -/
def padded (width : Nat) (s : String) : String :=
  String.ofList (s.toList ++ List.replicate (width - s.length) ' ')

/-- The width of the column of names: the greatest size of one in
bytes. -/
def nameWidth (rows : List Row) : Nat :=
  rows.foldl (fun w r => max w r.name.utf8ByteSize) 0

/-- A row as a line of a table. -/
def tableLine (width : Nat) (r : Row) : String :=
  "  " ++ padded 11 r.kind.name ++ " " ++ padded width r.name ++ "  " ++ r.detail

/-- The lines of a table. -/
def tableLines (rows : List Row) : List String := rows.map (tableLine (nameWidth rows))

/-- The names, each on a line of its own. -/
def namesText (rows : List Row) : String := String.join (rows.map fun r => r.name ++ "\n")

/-- A row as a JSON record. -/
def toJson (r : Row) : Json :=
  .record [("kind", .text r.kind.name), ("name", .text r.name), ("detail", .text r.detail)]

/-- The rows as a JSON document. -/
def jsonText (rows : List Row) : String := (Json.list (rows.map toJson)).pretty ++ "\n"

/-- A row as a CSV record. -/
def toRecord (r : Row) : List String := [r.kind.name, r.name, r.detail]

/-- The first record of a CSV listing. -/
def csvHeader : List String := ["kind", "name", "detail"]

/-- The rows as a CSV document. -/
def csvText (rows : List Row) : String := Csv.text (csvHeader :: rows.map toRecord)

end Row

end Storefront
