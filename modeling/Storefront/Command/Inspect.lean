import Storefront.Command.CatalogChoice
/-!
# Commands — inspecting a catalog

A catalog can be validated or listed, and an amount can be checked for
being a price. Validation reports the flaws of a catalog; they are errors
only if the user is strict.
-/

namespace Storefront

namespace Validate

/-- Where the events of the command come from. -/
def target : String := "shopgen::commands::validate"

/-- What is found out about a catalog. -/
def judge (strict : Bool) (disk : Disk) (source : Source) (s : Session) : Outcome :=
  let issues := s.catalog.issues
  { disk
    answer := some (.verdict source.describe s.summary issues)
    error :=
      if strict && !issues.isEmpty then some (.integrityFailed issues.length) else none }

/-- Validate a catalog. -/
def run (o : CatalogOptions) (strict : Bool) (settings : Settings) (w : World) : Outcome :=
  Outcome.inside ⟨target, "execute", [("strict", .bool strict)]⟩
    (.after w.disk (w.openSession o settings) fun (source, s) => judge strict w.disk source s)

end Validate

namespace Listing

/-- The catalog to list, and where it comes from. -/
def find (o : CatalogOptions) (settings : Settings) (w : World) :
    Told CommandError (Source × Catalog) := do
  let source ← w.chooseSource o settings
  let catalog ← (source.load w.disk).mapError .failed
  return (source, catalog)

/-- List a catalog. -/
def run (o : CatalogOptions) (only : Option Kind) (format : ListFormat)
    (settings : Settings) (w : World) : Outcome :=
  .after w.disk (find o settings w) fun (source, catalog) =>
    .answering w.disk (.listing source.describe format (catalog.rows only))

end Listing

namespace PriceCheck

/-- The error of an amount that is no price. -/
def error? (amount : Int64) : Option CommandError :=
  let violations := Price.violations amount
  if violations.isEmpty then none else some (.invalidPrice amount violations)

/-- Check an amount. -/
def run (amount : Int64) (w : World) : Outcome :=
  { disk := w.disk, answer := some (.price amount), error := error? amount }

end PriceCheck

end Storefront
