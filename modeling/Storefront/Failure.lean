import Storefront.Catalog.Error
/-!
# Failures — what can go wrong around a catalog

A failure is a refusal by the catalog itself, or an error in carrying
data: a manifest that is missing or unreadable, a document that cannot
be written. Every failure has a message, a category and some advice.
-/

namespace Storefront

/-- An error in carrying data to or from the program. -/
inductive TransferError where
  /-- There is no manifest at a path. -/
  | catalogNotFound (path : String)
  /-- A manifest is there and cannot be used. -/
  | catalogUnreadable (origin reason : String)
  /-- A document could not be written. -/
  | outputFailed (path reason : String)
  /-- A document is there already. -/
  | outputExists (path : String)
  /-- Shared state was left unusable by its last writer. -/
  | lockPoisoned
  deriving DecidableEq, Repr

namespace TransferError

/-- The sentence that reports an error. -/
def message : TransferError → String
  | catalogNotFound path => s!"Catalog not found at {path}"
  | catalogUnreadable origin reason => s!"Failed to load catalog from {origin}: {reason}"
  | outputFailed path reason => s!"Output error at {path}: {reason}"
  | outputExists path => s!"Output already exists at {path}"
  | lockPoisoned => "Adapter state lock poisoned"

/-- What to do about an error, line by line. -/
def suggestions : TransferError → List String
  | catalogNotFound path =>
    [s!"No catalog at: {path}",
      "Pass --catalog <FILE> or set catalog.path in the config",
      "Or try the built-in catalog with --sample"]
  | catalogUnreadable _ reason =>
    [s!"Loading failed: {reason}", "Compare your manifest with: shopgen sample"]
  | outputFailed path _ =>
    [s!"Failed to write: {path}", "Check that you have write permissions"]
  | outputExists path => [s!"File already exists: {path}", "Use --force to overwrite"]
  | lockPoisoned => ["Try again in a moment"]

/-- The category of an error. -/
def category : TransferError → Category
  | catalogNotFound _ => .notFound
  | catalogUnreadable .. => .validation
  | outputExists _ => .validation
  | outputFailed .. => .internal
  | lockPoisoned => .internal

end TransferError

/-- Anything that can go wrong around a catalog. -/
inductive Failure where
  | catalog (error : CatalogError)
  | transfer (error : TransferError)
  deriving DecidableEq, Repr

namespace Failure

/-- The message of the error itself. -/
def innerMessage : Failure → String
  | catalog e => e.message
  | transfer e => e.message

/-- The sentence that reports a failure. -/
def message : Failure → String
  | catalog e => "Domain error: " ++ e.message
  | transfer e => "Application error: " ++ e.message

/-- The texts of the broken rules, in rule order. -/
def violations : Failure → List String
  | catalog e => e.violations
  | transfer _ => []

/-- What to do about a failure, line by line. -/
def suggestions : Failure → List String
  | catalog e => e.suggestions
  | transfer e => e.suggestions

/-- The category of a failure. -/
def category : Failure → Category
  | catalog e => e.category
  | transfer e => e.category

end Failure

end Storefront
