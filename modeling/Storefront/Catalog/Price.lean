/-!
# Catalog — prices

A price is an amount of V-Bucks, the only currency. The amount is a
signed word, so that an amount out of range can be reported instead of
being unwritable. A price is valid between 50 and 5000 in steps of 50;
`nearest` gives the valid amount closest to any amount.
-/

namespace Storefront

/-- The currencies in which prices are written. -/
inductive Currency where
  | vbucks
  deriving DecidableEq, Repr

namespace Currency

/-- The word for a currency in stored catalogs. -/
def name : Currency → String
  | vbucks => "vbucks"

/-- The currency as a reader sees it. -/
def title : Currency → String
  | vbucks => "V-Bucks"

/-- The currency a word stands for. -/
def ofName? (s : String) : Option Currency :=
  if s == vbucks.name then some vbucks else none

end Currency

/-- An amount in a currency. -/
structure Price where
  currency : Currency := .vbucks
  amount : Int64
  deriving DecidableEq, Repr

namespace Price

/-- The least valid amount. -/
def least : Int64 := 50

/-- The greatest valid amount. -/
def greatest : Int64 := 5000

/-- The distance between neighbouring valid amounts. -/
def step : Int64 := 50

/-- An amount of V-Bucks. -/
def vbucks (amount : Int64) : Price := ⟨.vbucks, amount⟩

/-- The price as a reader sees it. -/
def text (p : Price) : String :=
  toString p.amount ++ " " ++ p.currency.title

/-- The amount between the least and the greatest that is closest. -/
def clamp (amount : Int64) : Int64 :=
  if amount < least then least else if greatest < amount then greatest else amount

/-- The valid amount closest to this one; of two that are equally close
it is the larger. -/
def nearest (amount : Int64) : Int64 :=
  clamp ((clamp amount + step / 2) / step * step)

end Price

end Storefront
