/-!
# Verse — modes

The generator writes three documents; a mode says which.
-/

namespace Storefront

/-- The documents that can be generated. -/
inductive Mode where
  | definitions
  | purchase
  | consume
  deriving DecidableEq, Repr

namespace Mode

/-- Every mode. -/
def all : List Mode := [definitions, purchase, consume]

/-- The word for a mode. -/
def name : Mode → String
  | definitions => "definitions"
  | purchase => "purchase"
  | consume => "consume"

/-- The mode as a trace shows it. -/
def title : Mode → String
  | definitions => "Definitions"
  | purchase => "Purchase"
  | consume => "Consume"

/-- The mode a word stands for. -/
def ofName? (s : String) : Option Mode :=
  all.find? fun m => m.name == s

/-- A mode is read back from its word. -/
@[simp] theorem ofName?_name (m : Mode) : ofName? m.name = some m := by
  cases m <;> rfl

end Mode

end Storefront
