import Storefront.Command.Outcome
import Storefront.Manifest.Sample
import Storefront.Session.Load
import Storefront.Settings.Basic
/-!
# Commands — which catalog

A command works on the sample, on the catalog that the command line or
the settings name, or on the first one found: the one that
`SHOPGEN_CATALOG` names, `catalog.toml` in the current directory, or
`catalog.toml` beside the program.
-/

namespace Storefront

namespace World

/-- The variable that names a catalog. -/
def catalogVariable : String := "SHOPGEN_CATALOG"

/-- The usual name of a catalog. -/
def catalogFile : String := "catalog.toml"

/-- Where a catalog is looked for, in order. -/
def catalogCandidates (w : World) : List String :=
  (w.environment.get? catalogVariable).toList ++ [catalogFile] ++
    (w.programDirectory.map fun d => Path.join d catalogFile).toList

/-- Where the events of the search come from. -/
def searchTarget : String := "shopgen_adapters::builtin_catalog"

/-- What is told about a path that is looked at. -/
def checkedEvent (path : String) (found : Bool) : Event :=
  { level := .debug, target := searchTarget, message := "checking candidate catalog path"
    fields := [("path", .shown path), ("exists", .bool found)] }

/-- What is told about a catalog that is found. -/
def foundEvent (path : String) : Event :=
  { level := .debug, target := searchTarget, message := "catalog discovered"
    fields := [("path", .shown path)] }

/-- The first of some paths at which a file stands. -/
def firstFile (disk : Disk) : List String → Told CommandError String
  | [] => .fail .noCatalog
  | path :: rest => do
    Told.tell (checkedEvent path (disk.isFile path))
    if disk.isFile path then do
      Told.tell (foundEvent path)
      return path
    else firstFile disk rest

/-- The first catalog that is found. -/
def findCatalog (w : World) : Told CommandError String :=
  Told.inside ⟨searchTarget, "discover", []⟩ (firstFile w.disk w.catalogCandidates)

/-- The catalog to work on, before it is told. -/
def pickSource (w : World) (o : CatalogOptions) (s : Settings) :
    Told CommandError Source :=
  if o.sample then .ok (.inline Manifest.sampleLabel Manifest.sample)
  else
    match o.catalog.or s.catalogPath with
    | some path => .ok (.file path)
    | none => do
      let path ← w.findCatalog
      return .file path

/-- What is told about the catalog to work on. -/
def resolvedEvent (source : Source) : Event :=
  { level := .debug, target := "shopgen::commands", message := "catalog source resolved"
    fields := [("source", .shown source.describe)] }

/-- The catalog to work on. -/
def chooseSource (w : World) (o : CatalogOptions) (s : Settings) :
    Told CommandError Source := do
  let source ← w.pickSource o s
  Told.tell (resolvedEvent source)
  return source

/-- A session over the catalog to work on, and where the catalog comes
from. -/
def openSession (w : World) (o : CatalogOptions) (s : Settings) :
    Told CommandError (Source × Session) := do
  let source ← w.chooseSource o s
  let session ← (Session.ofSource source w.disk).mapError .failed
  return (source, session)

end World

end Storefront
