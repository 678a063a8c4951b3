import Storefront.Failure
import Storefront.Manifest.Shape
import Storefront.Toml.Reader
/-!
# Manifest — loading a catalog from a text

A text is a manifest if it is TOML of the right shape. `load` goes all
the way to a catalog, and says where the text came from if it fails.
-/

namespace Storefront.Manifest

/-- Why a text is no manifest. -/
inductive Fault where
  /-- It is not TOML. -/
  | notToml
  /-- It is TOML of another shape. -/
  | wrongShape (error : ShapeError)
  deriving DecidableEq, Repr

/-- The sentence that reports a fault. -/
def Fault.message : Fault → String
  | notToml => "the text is not a TOML document"
  | wrongShape e => e.message

/-- The manifest that a text writes. -/
def parse (text : String) : Except Fault Manifest :=
  match Toml.parse? text with
  | none => .error .notToml
  | some v => (asManifest v).mapError .wrongShape

/-- The manifest of a text with a known origin. -/
def parseFrom (origin text : String) : Except Failure Manifest :=
  (parse text).mapError fun f => .transfer (.catalogUnreadable origin f.message)

/-- The catalog of a text with a known origin. -/
def load (origin text : String) : Except Failure Catalog :=
  (parseFrom origin text).bind fun m => m.toCatalog.mapError .catalog

end Storefront.Manifest
