import Storefront.Catalog.Error
import Storefront.Text.Blank
/-!
# Catalog — naming a parent

A manifest names a parent by a word and, for a class of the shop's own,
by that class's name. The word is read in any mix of letter cases, and
the class name without the blanks around it.
-/

namespace Storefront.Parent

/-- The parent that a word and a class name stand for, on the
entitlement `className`. -/
def ofParts (className word : String) (customName : Option String) :
    Except CatalogError Parent :=
  let word := word.map Char.toLower
  if word == island.kindName then .ok island
  else if word == cosmetic.kindName then .ok cosmetic
  else if word == "custom" then
    match customName.map Text.trim with
    | some name => if name == "" then .error (.parentUnnamed className) else .ok (custom name)
    | none => .error (.parentUnnamed className)
  else .error (.invalidCatalog s!"unknown parent class '{word}' on '{className}'")

end Storefront.Parent
