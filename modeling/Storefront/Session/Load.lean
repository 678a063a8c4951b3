import Storefront.Log.Told
import Storefront.Manifest.Load
import Storefront.Session.Basic
import Storefront.Session.Source
import Storefront.Storage.Disk
/-!
# Sessions — loading a catalog

A source is loaded in three steps: its text is read, the text is read as
a manifest, and the manifest's entries are accepted one by one. A
session over a source starts with the catalog that it loads.
-/

namespace Storefront

namespace Source

/-- Where the events of loading come from. -/
def target : String := "shopgen_adapters::catalog_source::manifest"

/-- The text of a manifest file. -/
def readFile (disk : Disk) (path : String) : Except Failure String :=
  if disk.isTaken path then
    (disk.readText path).mapError fun e => .transfer (.catalogUnreadable path e.message)
  else .error (.transfer (.catalogNotFound path))

/-- What is told about a manifest. -/
def parsedEvent (m : Manifest) : Event :=
  { level := .debug, target, message := "parsed catalog manifest"
    fields :=
      [("info", .count m.infos.length), ("entitlements", .count m.entitlements.length),
        ("offers", .count m.offers.length), ("bundles", .count m.bundles.length)] }

/-- What is told about an entry that is not accepted. -/
def rejectedEvent (f : Failure) : Event :=
  { level := .warn, target, message := "catalog entry rejected"
    fields := [("error", .shown f.message)] }

/-- The catalog of a manifest. -/
def accept (m : Manifest) : Told Failure Catalog :=
  match m.toCatalog with
  | .ok c => .ok c
  | .error e =>
    { result := .error (.catalog e), events := [rejectedEvent (.catalog e)] }

/-- The catalog of a manifest text with a known origin. -/
def loadText (origin : String) (text : Except Failure String) : Told Failure Catalog :=
  Told.inside ⟨target, "load", [("origin", .shown origin)]⟩ do
    let text ← Told.ofExcept text
    let m ← Told.ofExcept (Manifest.parseFrom origin text)
    Told.tell (parsedEvent m)
    accept m

/-- The catalog of a source. -/
def load (s : Source) (disk : Disk) : Told Failure Catalog :=
  match s with
  | file path => loadText path (readFile disk path)
  | inline label text => loadText label (.ok text)
  | held _ c => .ok c

end Source

namespace Session

/-- What is told about a loaded catalog. -/
def loadedEvent (c : Catalog) : Event :=
  event .info "Catalog loaded"
    [("entitlements", .count (c.count .entitlement)), ("offers", .count (c.count .offer)),
      ("bundles", .count (c.count .bundle))]

/-- A new session over the catalog of a source. -/
def ofSource (s : Source) (disk : Disk) : Told Failure Session :=
  Told.inside ⟨target, "from_source", [("source", .shown s.describe)]⟩ do
    let c ← s.load disk
    Told.tell (loadedEvent c)
    return start c

end Session

end Storefront
