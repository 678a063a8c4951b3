import Storefront.Catalog.Error
/-!
# Catalog — the rules of an entry

Entitlements and prices obey rules; info modules obey none. Every rule
is tried, and the broken ones are reported in rule order. `Entry.check`
is the gate that every entry of a catalog has passed.
-/

namespace Storefront

/-- The rules, in the order in which they are tried. -/
inductive Rule where
  | snakeCase
  | countAtLeastOne
  | permanentCountIsOne
  | priceInRange
  | priceOnStep
  deriving DecidableEq, Repr

/-- What a broken rule says. -/
def Rule.message : Rule → String
  | snakeCase => "Class name must be lowercase snake_case"
  | countAtLeastOne => "MaxCount must be at least 1"
  | permanentCountIsOne => "Non-consumable entitlements should have MaxCount = 1"
  | priceInRange => "Price must be between 50 and 5000 V-Bucks"
  | priceOnStep => "Price must be a multiple of 50"

/-- A letter that may start a class name: `a` to `z` or an underscore. -/
def isNameStart (c : Char) : Bool :=
  ('a' ≤ c && c ≤ 'z') || c == '_'

/-- A letter that may follow: one that may start, or a digit. -/
def isNamePart (c : Char) : Bool :=
  isNameStart c || ('0' ≤ c && c ≤ '9')

/-- Whether a text is a lower-case name. -/
def isSnakeCase (s : String) : Bool :=
  match s.toList with
  | [] => false
  | c :: cs => isNameStart c && cs.all isNamePart

/-- The rules of a list whose condition fails. -/
def Rule.broken (rules : List (Rule × Bool)) : List Rule :=
  (rules.filter fun r => !r.2).map (·.1)

/-- The rules that an entitlement breaks. -/
def Entitlement.brokenRules (e : Entitlement) : List Rule :=
  Rule.broken
    [(.snakeCase, isSnakeCase e.className),
      (.countAtLeastOne, 1 ≤ e.maxCount),
      (.permanentCountIsOne, e.consumable || e.maxCount ≤ 1)]

/-- The rules that an amount breaks as a price. -/
def Price.brokenRules (amount : Int64) : List Rule :=
  Rule.broken
    [(.priceInRange, Price.least ≤ amount && amount ≤ Price.greatest),
      (.priceOnStep, amount % Price.step == 0)]

/-- The texts of the rules that an amount breaks as a price. -/
def Price.violations (amount : Int64) : List String :=
  (Price.brokenRules amount).map Rule.message

/-- Refuse a price that breaks a rule. -/
def Price.check (className : String) (amount : Int64) : Except CatalogError Unit :=
  match Price.violations amount with
  | [] => .ok ()
  | vs => .error (.priceRejected className amount vs)

/-- Refuse an entitlement that breaks a rule. -/
def Entitlement.check (e : Entitlement) : Except CatalogError Unit :=
  match e.brokenRules.map Rule.message with
  | [] => .ok ()
  | vs => .error (.entitlementRejected e.className vs)

/-- Refuse an entry that breaks a rule of its kind. -/
def Entry.check : Entry → Except CatalogError Unit
  | info _ => .ok ()
  | entitlement e => e.check
  | offer o => Price.check o.className o.price.amount
  | bundle b => Price.check b.className b.price.amount

end Storefront
