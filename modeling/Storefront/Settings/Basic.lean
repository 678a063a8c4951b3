import Storefront.Toml.Printer
import Storefront.Verse.Mode
/-!
# Settings

What a user may set once for all commands: the document to generate and
the quantity in it, where the catalog is, and how output looks. The
written form is a TOML document with a table for each of the three
subjects.
-/

namespace Storefront

/-- The settings, with the values they have when nothing is set. -/
structure Settings where
  mode : Mode := .definitions
  quantity : UInt32 := 1
  catalogPath : Option String := none
  noColor : Bool := false
  format : String := "auto"
  deriving DecidableEq, Repr

namespace Settings

/-- The word for a flag. -/
def flagText (b : Bool) : String := if b then "true" else "false"

/-- The value of a setting by its dotted name; an unset path is empty. -/
def value? (s : Settings) : String → Option String
  | "defaults.mode" => some s.mode.name
  | "defaults.quantity" => some (toString s.quantity)
  | "catalog.path" => some (s.catalogPath.getD "")
  | "output.no_color" => some (flagText s.noColor)
  | "output.format" => some s.format
  | _ => none

/-- A line of a table. -/
def line (key value : String) : String := key ++ " = " ++ value ++ "\n"

/-- The written form. An unset path is left out. -/
def text (s : Settings) : String :=
  String.join
    (["[defaults]\n",
      line "mode" (Toml.writeText s.mode.name),
      line "quantity" (toString s.quantity),
      "\n[catalog]\n"] ++
      (s.catalogPath.map fun p => line "path" (Toml.writeText p)).toList ++
      ["\n[output]\n",
        line "no_color" (flagText s.noColor),
        line "format" (Toml.writeText s.format)])

end Settings

end Storefront
