import Storefront.Verse.Calls
import Storefront.Verse.Definitions
import Storefront.Verse.Mode
/-!
# Verse — the document of a mode

One function from a mode, a catalog, a selection and a quantity to a
document. The definitions depend on the catalog alone; the quantity
counts only where something is consumed.
-/

namespace Storefront.Verse

/-- The document of a mode. -/
def document (mode : Mode) (c : Catalog) (s : Selection) (quantity : UInt32) : String :=
  match mode with
  | .definitions => definitions c
  | .purchase => purchaseCalls c s
  | .consume => consumeCalls c s quantity

end Storefront.Verse
