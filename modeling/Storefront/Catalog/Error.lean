import Storefront.Catalog.Entry
/-!
# Catalog — refusals

Why a catalog refuses an edit, or a session a quantity. Each refusal has
one message, a category and some advice; a broken rule also carries the
texts of the rules it breaks.
-/

namespace Storefront

/-- What a failure means for whoever asked. -/
inductive Category where
  | validation
  | notFound
  | internal
  deriving DecidableEq, Repr

/-- The word for a category. -/
def Category.name : Category → String
  | validation => "Validation"
  | notFound => "NotFound"
  | internal => "Internal"

/-- Why an edit of a catalog is refused. -/
inductive CatalogError where
  /-- An entitlement breaks rules. -/
  | entitlementRejected (className : String) (violations : List String)
  /-- A price breaks rules. -/
  | priceRejected (className : String) (amount : Int64) (violations : List String)
  /-- A parent of the shop's own is asked for and not named. -/
  | parentUnnamed (className : String)
  /-- A quantity is too small to consume. -/
  | quantityRejected (value : UInt32)
  /-- A catalog says something that has no meaning. -/
  | invalidCatalog (detail : String)
  /-- There is no entry at an index. -/
  | indexOutOfRange (kind : Kind) (index len : Nat)
  deriving DecidableEq, Repr

namespace CatalogError

/-- The sentence that reports a refusal. -/
def message : CatalogError → String
  | entitlementRejected className violations =>
    s!"entitlement '{className}' rejected: " ++ "; ".intercalate violations
  | priceRejected className amount violations =>
    s!"price {amount} of '{className}' rejected: " ++ "; ".intercalate violations
  | parentUnnamed className =>
    s!"entitlement '{className}' uses a custom parent but names none"
  | quantityRejected value => s!"consume quantity must be at least 1, got {value}"
  | invalidCatalog detail => s!"Invalid catalog: {detail}"
  | indexOutOfRange kind index len =>
    s!"no {kind.name} at index {index} (catalog holds {len})"

/-- The texts of the broken rules, in rule order. -/
def violations : CatalogError → List String
  | entitlementRejected _ vs => vs
  | priceRejected _ _ vs => vs
  | _ => []

/-- What to do about a refusal, line by line. -/
def suggestions : CatalogError → List String
  | entitlementRejected _ vs => vs.map fun v => "  • " ++ v
  | priceRejected _ _ vs => vs.map fun v => "  • " ++ v
  | parentUnnamed className =>
    [s!"Set custom_parent for '{className}'",
      "Or use parent_class = \"island_entitlement\" / \"cosmetic_entitlement\""]
  | quantityRejected _ => ["Pass a quantity of 1 or more"]
  | invalidCatalog detail =>
    ["Check the catalog manifest",
      s!"Details: {detail}",
      "Try: shopgen sample > catalog.toml for a working example"]
  | indexOutOfRange kind _ len => [s!"Valid {kind.name} indices are 0..{len}"]

/-- The category of a refusal. -/
def category : CatalogError → Category
  | indexOutOfRange .. => .notFound
  | _ => .validation

end CatalogError

end Storefront
