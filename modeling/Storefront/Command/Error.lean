import Storefront.Catalog.Rule
import Storefront.Failure
import Storefront.Log.Event
/-!
# Commands — errors

Why a command fails. An error has a message, a category that decides the
exit code, some advice, and the chain of the errors that caused it.
-/

namespace Storefront

/-- What an error means for whoever gave the command. -/
inductive ErrorCategory where
  | user
  | notFound
  | configuration
  | internal
  deriving DecidableEq, Repr

namespace ErrorCategory

/-- The exit code of a category. -/
def exitCode : ErrorCategory → Nat
  | internal => 1
  | user => 2
  | notFound => 3
  | configuration => 4

/-- The level at which a category is logged. -/
def level : ErrorCategory → Level
  | user => .warn
  | notFound => .warn
  | configuration => .error
  | internal => .error

/-- What a category is called in the log. -/
def title : ErrorCategory → String
  | user => "User error"
  | notFound => "Not found"
  | configuration => "Configuration error"
  | internal => "Internal error"

end ErrorCategory

/-- Why a command fails. -/
inductive CommandError where
  /-- An argument makes no sense for this catalog. -/
  | invalidInput (message : String)
  /-- There is no catalog to work on. -/
  | noCatalog
  /-- An amount is no valid price. -/
  | invalidPrice (amount : Int64) (violations : List String)
  /-- A catalog has flaws where none are allowed. -/
  | integrityFailed (count : Nat)
  /-- A file that would be made is there already. -/
  | fileExists (path : String)
  /-- The settings cannot be read or written. -/
  | configuration (message : String) (causes : List String)
  /-- Something went wrong around the catalog. -/
  | failed (failure : Failure)
  /-- The system refused an operation, for a cause that may have causes
  of its own. -/
  | io (message : String) (cause : String) (deeper : List String)
  deriving DecidableEq, Repr

namespace CommandError

/-- The sentence that reports an error. -/
def message : CommandError → String
  | invalidInput m => s!"Invalid input: {m}"
  | noCatalog => "No catalog found"
  | invalidPrice amount _ => s!"{amount} is not a valid V-Bucks price"
  | integrityFailed count => s!"Catalog has {count} integrity issue(s)"
  | fileExists path => s!"File already exists at {path}"
  | configuration m _ => s!"Configuration error: {m}"
  | failed f => f.message
  | io m _ _ => s!"I/O error: {m}"

/-- The texts of broken rules that are listed under the message. -/
def violations : CommandError → List String
  | invalidPrice _ vs => vs
  | _ => []

/-- The errors behind an error, the nearest first. -/
def causes : CommandError → List String
  | configuration _ cs => cs
  | failed f => [f.innerMessage]
  | io _ c cs => c :: cs
  | _ => []

/-- The advice on an amount: the rules, and the closest valid price. -/
def priceAdvice (amount : Int64) : List String :=
  let least := Price.least
  let greatest := Price.greatest
  let step := Price.step
  let nearest := Price.nearest amount
  [s!"Prices run from {least} to {greatest} V-Bucks in steps of {step}",
    s!"Nearest valid price: {nearest}"]

/-- What to do about an error, line by line. -/
def suggestions : CommandError → List String
  | invalidInput m => [s!"Check your input: {m}", "Use --help for usage information"]
  | noCatalog =>
    ["Pass --catalog <FILE>, or --sample for the built-in catalog",
      "Or set catalog.path in the config, or SHOPGEN_CATALOG",
      "Start a catalog with: shopgen sample > catalog.toml"]
  | invalidPrice amount _ => priceAdvice amount
  | integrityFailed _ =>
    ["Fix the references listed above", "Drop --strict to treat them as warnings"]
  | fileExists path =>
    [s!"The file '{path}' already exists", "Use --force to overwrite"]
  | configuration m _ =>
    [s!"Configuration issue: {m}",
      "Show the active config file with: shopgen config path",
      "Recreate a default config with: shopgen init --force"]
  | failed f => f.suggestions
  | io m _ _ =>
    [s!"I/O operation failed: {m}",
      "Check file permissions",
      "Ensure the parent directory exists"]

/-- The category of a failure, seen from a command. -/
def failureCategory (f : Failure) : ErrorCategory :=
  match f.category with
  | .validation => .user
  | .notFound => .notFound
  | .internal => .internal

/-- The category of an error. -/
def category : CommandError → ErrorCategory
  | noCatalog => .notFound
  | configuration .. => .configuration
  | failed f => failureCategory f
  | io .. => .internal
  | _ => .user

/-- The exit code of an error. -/
def exitCode (e : CommandError) : Nat := e.category.exitCode

/-- Where errors are logged from. -/
def target : String := "shopgen::error"

/-- What is logged about an error: the error itself, and for the curious
its nearest cause. -/
def events (e : CommandError) : List Event :=
  { level := e.category.level, target, message := e.category.title ++ ": " ++ e.message } ::
    (e.causes.take 1).map fun c => { level := .debug, target, message := "Caused by: " ++ c }

/-- An operation of the system that failed while something was tried. -/
def ofSystem (context cause : String) : CommandError := io context cause []

/-- Settings that could not be written out while something was tried. -/
def ofSettings (context cause : String) : CommandError :=
  configuration (context ++ ": " ++ cause) [cause]

end CommandError

end Storefront
