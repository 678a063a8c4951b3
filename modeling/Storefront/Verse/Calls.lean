import Storefront.Catalog.Selection
import Storefront.Verse.Declaration
/-!
# Verse — the call-site documents

Two documents show how the declared classes are used: one buys the
selected offers and bundles, the other consumes the selected consumable
entitlements. Every selected entry yields one stanza in catalog order;
a document without stanzas says what to select.
-/

namespace Storefront.Verse

/-- One paragraph of a call-site document. -/
inductive Stanza where
  /-- A remark. -/
  | note (text : String)
  /-- The purchase of an offer. -/
  | buyOffer (name : String) (price : Price)
  /-- The purchase of a bundle. -/
  | buyBundle (name : String) (items : Nat) (price : Price)
  /-- The use of a consumable entitlement. -/
  | consume (name : String) (quantity : UInt32)
  deriving DecidableEq, Repr

/-- A call that can fail, with what is printed in either case. -/
def attempt (heading condition success failure : String) : Paragraph :=
  [heading,
    "if (" ++ condition ++ "):",
    indent 1 ("Print(\"" ++ success ++ "\")"),
    "else:",
    indent 1 ("Print(\"" ++ failure ++ "\")")]

/-- The purchase of a class under an heading. -/
def buyLines (heading : String) (name : QualifiedName) : Paragraph :=
  attempt heading ("BuyOffer(Agent, " ++ name.text ++ "\x7b\x7d)?") ("Bought " ++ name.name)
    "Failed to buy the offer"

/-- The lines of a stanza. -/
def Stanza.lines : Stanza → Paragraph
  | note text => [text]
  | buyOffer name price =>
    buyLines ("# Offer: " ++ name ++ " | Price: " ++ price.text) ⟨.offer, name⟩
  | buyBundle name items price =>
    buyLines ("# Bundle: " ++ name ++ " | Items: " ++ toString items ++ " | Price: " ++
      price.text) ⟨.bundle, name⟩
  | consume name quantity =>
    attempt ("# Consume: " ++ name ++ " | Count: " ++ toString quantity)
      ("ConsumeEntitlement(Agent, " ++ QualifiedName.text ⟨.entitlement, name⟩ ++
        ", ?Count := " ++ toString quantity ++ ")?")
      "Successfully consumed entitlement." "Failed to consume entitlement."

/-- A heading over stanzas, and nothing at all without stanzas. -/
def titled (title : String) (stanzas : List Stanza) : List Stanza :=
  match stanzas with
  | [] => []
  | _ => .note title :: stanzas

/-- The stanzas, or a remark in their place. -/
def orElseNote (stanzas : List Stanza) (remark : String) : List Stanza :=
  match stanzas with
  | [] => [.note remark]
  | _ => stanzas

/-- The stanzas that buy the selected offers. -/
def offerStanzas (c : Catalog) (s : Selection) : List Stanza :=
  (c.offers.filter fun o => s.contains o.className).map fun o =>
    .buyOffer o.className o.price

/-- The stanzas that buy the selected bundles. -/
def bundleStanzas (c : Catalog) (s : Selection) : List Stanza :=
  (c.bundles.filter fun b => s.contains b.className).map fun b =>
    .buyBundle b.className b.items.length b.price

/-- The stanzas that consume the selected consumable entitlements. -/
def consumeStanzas (c : Catalog) (s : Selection) (quantity : UInt32) : List Stanza :=
  (c.entitlements.filter fun e => e.consumable && s.contains e.className).map fun e =>
    .consume e.className quantity

/-- The first lines of a purchase document. -/
def purchaseBanner : Paragraph :=
  ["# Auto-generated purchase calls",
    "# Call from a <suspends> context where Agent is the purchasing player"]

/-- The first lines of a consume document. -/
def consumeBanner : Paragraph :=
  ["# Auto-generated consume calls",
    "# Call from a <suspends> context where Agent owns the entitlements"]

/-- The stanzas of the purchase document. -/
def purchaseStanzas (c : Catalog) (s : Selection) : List Stanza :=
  orElseNote
    (titled "# Individual Offers" (offerStanzas c s) ++
      titled "# Bundle Offers" (bundleStanzas c s))
    "# Select at least one offer or bundle to generate purchase calls"

/-- The document that buys the selected offers and bundles. -/
def purchaseCalls (c : Catalog) (s : Selection) : String :=
  documentText (purchaseBanner :: (purchaseStanzas c s).map Stanza.lines)

/-- The document that consumes the selected consumable entitlements. -/
def consumeCalls (c : Catalog) (s : Selection) (quantity : UInt32) : String :=
  documentText (consumeBanner ::
    (orElseNote (consumeStanzas c s quantity)
      "# Select at least one consumable entitlement to generate consume calls").map
        Stanza.lines)

end Storefront.Verse
