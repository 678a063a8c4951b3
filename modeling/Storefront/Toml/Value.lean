import Storefront.Number.Binary64
import Storefront.Toml.Datetime
/-!
# TOML — values

A TOML value. The entries of a table have distinct keys and stand in the
order of their keys.
-/

namespace Storefront

/-- A TOML value. -/
inductive Toml where
  | text (value : String)
  | int (value : Int64)
  | float (value : Binary64)
  | bool (value : Bool)
  | datetime (value : Toml.Datetime)
  | list (items : List Toml)
  | table (entries : List (String × Toml))
  deriving Repr, Inhabited

namespace Toml

/-- Insert an entry behind those with smaller keys. -/
def insertEntry (entry : String × α) : List (String × α) → List (String × α)
  | [] => [entry]
  | x :: xs => if entry.1 < x.1 then entry :: x :: xs else x :: insertEntry entry xs

/-- Entries in the order of their keys. -/
def sortEntries (entries : List (String × α)) : List (String × α) :=
  entries.foldl (fun sorted e => insertEntry e sorted) []

/-- The value of a key in a table. -/
def get? (key : String) : Toml → Option Toml
  | table entries => entries.lookup key
  | _ => none

end Toml

end Storefront
