import Storefront.Catalog.Basic
import Storefront.Verse.Declaration
/-!
# Verse — the definitions document

The document declares every entry of a catalog in catalog order, in one
module for each kind. A kind without entries has no module. The module
of the entitlements opens with the built-in base classes in use, each
once and in the order of first use.
-/

namespace Storefront

/-- The base class that the document has to declare for a parent. -/
def Parent.builtIn? : Parent → Option String
  | .custom _ => none
  | p => some p.identifier

namespace Verse

/-- The fields of a class that takes its display texts from an info
module. -/
def delegatedFields (infoModule : String) : List Field :=
  ["Name", "Description", "ShortDescription"].map fun f =>
    Field.overriding f "message" (.displayText infoModule f)

/-- The field that holds an icon. -/
def iconField (icon : String) : Field :=
  Field.overriding "Icon" "texture" (.verbatim icon)

/-- The field that holds a price. -/
def priceField (p : Price) : Field :=
  Field.overriding "Price" "price_dimension" (.price p.amount)

end Verse

open Verse

/-- The declaration of an info module. -/
def InfoModule.declaration (m : InfoModule) : Declaration :=
  .fieldModule m.moduleName
    [Field.localized "Name" m.name.text,
      Field.localized "Description" m.description.text,
      Field.localized "ShortDescription" m.shortDescription.text]

/-- The declaration of an entitlement. -/
def Entitlement.declaration (e : Entitlement) : Declaration :=
  .concreteClass e.className e.parent.identifier
    (delegatedFields e.infoModule ++
      [iconField e.icon,
        Field.overriding "ConsequentialToGameplay" "logic" (.logic e.consequential),
        Field.overriding "MaxCount" "int" (.int e.maxCount),
        Field.overriding "Consumable" "logic" (.logic e.consumable)])

/-- The declaration of an offer. -/
def Offer.declaration (o : Offer) : Declaration :=
  .concreteClass o.className "entitlement_offer"
    (delegatedFields o.infoModule ++
      [iconField o.icon,
        Field.overriding "EntitlementType" "castable_subtype(entitlement)"
          (.classRef ⟨.entitlement, o.entitlementType⟩),
        priceField o.price])

/-- The declaration of a bundle. -/
def Bundle.declaration (b : Bundle) : Declaration :=
  .concreteClass b.className "bundle_offer"
    [Field.overriding "Name" "message" (.literal b.name.text),
      Field.overriding "Description" "message" (.literal b.description.text),
      Field.overriding "ShortDescription" "message" (.literal b.shortDescription.text),
      iconField b.icon,
      Field.overriding "Offers" "[]tuple(offer, int)"
        (.tuples (b.items.map fun i => (⟨.offer, i.offer⟩, i.quantity))),
      priceField b.price]

/-- The declaration of an entry. -/
def Entry.declaration : Entry → Declaration
  | info m => m.declaration
  | entitlement e => e.declaration
  | offer o => o.declaration
  | bundle b => b.declaration

namespace Catalog

/-- The built-in base classes in use, in the order of first use. -/
def baseClasses (c : Catalog) : List String :=
  (c.entitlements.filterMap fun e => e.parent.builtIn?).eraseDups

/-- The paragraphs that stand in front of the entries of a kind. -/
def preamble (c : Catalog) : Kind → List Declaration
  | .entitlement =>
    match c.baseClasses with
    | [] => []
    | names => [.abstractClasses names]
  | _ => []

/-- The module of a kind, if the catalog has entries of it. -/
def block? (c : Catalog) (k : Kind) : Option Block :=
  match c.entries k with
  | [] => none
  | entries => some ⟨k, c.preamble k ++ entries.map Entry.declaration⟩

/-- The modules of the definitions document. -/
def blocks (c : Catalog) : List Block :=
  Kind.all.filterMap c.block?

end Catalog

namespace Verse

/-- The first lines of a definitions document. -/
def definitionsBanner : Paragraph :=
  ["# Auto-generated Verse entitlement definitions",
    "# Do not edit by hand: regenerate from the catalog"]

/-- The paragraphs of the definitions document of a catalog. -/
def definitionsParagraphs (c : Catalog) : List Paragraph :=
  definitionsBanner :: c.blocks.flatMap Block.paragraphs

/-- The definitions document of a catalog. -/
def definitions (c : Catalog) : String :=
  documentText (definitionsParagraphs c)

end Verse

end Storefront
