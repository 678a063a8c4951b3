import Storefront.Catalog.Codec
import Storefront.Catalog.Rule
import Storefront.Command.Listing
import Storefront.Command.Presentation
import Storefront.Session.Basic
/-!
# Commands — answers

What a command has to say, apart from its errors. An answer is decided
without regard to how it is shown; `Answer.text` writes it for a
presentation. The fields of a JSON report stand in alphabetical order.
-/

namespace Storefront

/-- What a command has to say. -/
inductive Answer where
  /-- A text that is shown as it is. -/
  | document (content : String)
  /-- A document that was generated and not written to a file. -/
  | generated (session : Session)
  /-- A document that was generated and written to a file. -/
  | written (session : Session) (path : String)
  /-- What was found out about a catalog. -/
  | verdict (source : String) (summary : Summary) (issues : List Issue)
  /-- A listing, with where it comes from. -/
  | listing (source : String) (format : ListFormat) (rows : List Row)
  /-- Whether an amount is a price. -/
  | price (amount : Int64)
  /-- Something was done. -/
  | done (remark : String)
  deriving DecidableEq, Repr

namespace Answer

/-- A report as text. -/
def report (fields : List (String × Json)) : String :=
  (Json.record fields).pretty ++ "\n"

/-- The selected names as JSON. -/
def selected (s : Session) : Json := Json.texts s.selection.toList

/-- A summary as JSON. -/
def summaryJson (s : Summary) : Json :=
  .record
    [("bundles", .ofNat s.bundles), ("consumables", .ofNat s.consumables),
      ("entitlements", .ofNat s.entitlements), ("info_modules", .ofNat s.infoModules),
      ("offers", .ofNat s.offers)]

/-- The report of a generated document. -/
def generatedReport (s : Session) : String :=
  report
    [("document", Json.text s.render), ("mode", Json.text s.mode.name),
      ("quantity", .ofNat s.quantity.toNat), ("selected", selected s)]

/-- The report of a written document. -/
def writtenReport (s : Session) (path : String) : String :=
  report [("mode", Json.text s.mode.name), ("path", Json.text path), ("selected", selected s)]

/-- The report of a verdict. -/
def verdictReport (source : String) (summary : Summary) (issues : List Issue) : String :=
  report
    [("clean", .bool issues.isEmpty), ("issues", .list (issues.map Issue.toJson)),
      ("source", Json.text source), ("summary", summaryJson summary), ("valid", .bool true)]

/-- The line of a verdict that counts entries. -/
def summaryLine (s : Summary) : String :=
  let infoModules := s.infoModules
  let entitlements := s.entitlements
  let consumables := s.consumables
  let offers := s.offers
  let bundles := s.bundles
  s!"  {infoModules} info modules, {entitlements} entitlements ({consumables} consumable), " ++
    s!"{offers} offers, {bundles} bundles"

/-- The last line of a verdict. -/
def closingLine (issues : List Issue) : String :=
  let count := issues.length
  if issues.isEmpty then "All entries pass the catalog rules"
  else s!"All entries pass the catalog rules ({count} integrity warning(s))"

/-- The lines of a verdict. -/
def verdictLines (p : Presentation) (source : String) (summary : Summary)
    (issues : List Issue) : String :=
  p.heading ("Catalog: " ++ source) ++ p.remark (summaryLine summary) ++
    String.join (issues.map fun i => p.warning i.message) ++
    p.success (closingLine issues)

/-- The report on an amount. -/
def priceReport (amount : Int64) : String :=
  let violations := Price.violations amount
  report
    [("amount", .int amount.toInt), ("valid", .bool violations.isEmpty),
      ("violations", Json.texts violations)]

/-- The line on an amount; there is none if it is no price. -/
def priceLine (p : Presentation) (amount : Int64) : String :=
  if (Price.violations amount).isEmpty then
    p.success (toString amount ++ " V-Bucks is a valid price")
  else ""

/-- The table of a listing. -/
def table (p : Presentation) (source : String) (rows : List Row) : String :=
  p.heading ("Catalog entries (" ++ source ++ "):") ++
    String.join ((Row.tableLines rows).map p.remark)

/-- An answer as it is shown. -/
def text (p : Presentation) : Answer → String
  | document content => content
  | generated s => if p.isJson then generatedReport s else s.render
  | written s path =>
    if p.isJson then writtenReport s path
    else p.success ("Wrote " ++ s.mode.name ++ " to " ++ path)
  | verdict source summary issues =>
    if p.isJson then verdictReport source summary issues
    else verdictLines p source summary issues
  | listing source format rows =>
    match format with
    | .table => table p source rows
    | .list => Row.namesText rows
    | .json => Row.jsonText rows
    | .csv => Row.csvText rows
  | price amount => if p.isJson then priceReport amount else priceLine p amount
  | done remark => p.success remark

end Answer

end Storefront
