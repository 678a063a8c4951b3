import Mathlib.Data.List.Lex
import Mathlib.Data.Prod.Lex
import Mathlib.Order.RelIso.Basic
import Storefront.Proofs.Text.ByteOrder
import Storefront.Storage.Path
/-!
# Storage — the order of paths

Components are in order by their kind, and names by their bytes. Paths
are compared by the first component in which they differ, not by their
texts: `a/b` comes before `a-b`, although a hyphen comes before a slash.
Of two paths one precedes the other, unless they have the same components
(`precedes_trichotomy`).
-/

namespace Storefront

namespace Component

variable {a b : Component}

/-- **A component precedes another**: first the root, then a point in
front, then two points, and then the names in the order of their bytes. -/
def Precedes : Component → Component → Prop
  | name s, name t => Text.bytes s < Text.bytes t
  | a, b => a.rank < b.rank

theorem before_iff : a.before b = true ↔ a.Precedes b := by
  cases a <;> cases b <;> simp [before, Precedes, ← Text.lt_iff_bytes_lt]

/-- The kind of a component, and its name. -/
def key : Component → ℕ ×ₗ String
  | name s => toLex (3, s)
  | c => toLex (c.rank, "")

theorem key_injective : Function.Injective key := by
  intro a b h
  cases a <;> cases b <;> simp_all [key, rank]

theorem key_lt_key_iff : a.key < b.key ↔ a.Precedes b := by
  cases a <;> cases b <;>
    simp [key, Precedes, rank, Prod.Lex.toLex_lt_toLex, ← Text.lt_iff_bytes_lt]

/-- Components are in order as their kinds with their names are. -/
instance : IsStrictTotalOrder Component Precedes :=
  RelEmbedding.isStrictTotalOrder (s := (· < · : ℕ ×ₗ String → ℕ ×ₗ String → Prop))
    ⟨⟨key, key_injective⟩, key_lt_key_iff⟩

end Component

namespace Path

variable {p q r : String} {cs ds : List Component}

/-- **A path precedes another**, component by component. -/
def Precedes (p q : String) : Prop :=
  List.Lex Component.Precedes (components p) (components q)

instance : IsStrictTotalOrder (List Component) (List.Lex Component.Precedes) :=
  { isStrictWeakOrder_of_isOrderConnected with }

theorem componentsBefore_iff :
    componentsBefore cs ds = true ↔ List.Lex Component.Precedes cs ds := by
  induction cs generalizing ds with
  | nil => cases ds <;> simp [componentsBefore]
  | cons c cs ih =>
    cases ds with
    | nil => simp [componentsBefore]
    | cons d ds => simp [componentsBefore, List.cons_lex_cons_iff, Component.before_iff, ih]

theorem before_iff : before p q = true ↔ Precedes p q := componentsBefore_iff

theorem Precedes.trans (hpq : Precedes p q) (hqr : Precedes q r) : Precedes p r :=
  trans_of (List.Lex Component.Precedes) hpq hqr

/-- A path does not precede one of the same components. -/
theorem Precedes.ne (h : Precedes p q) : components p ≠ components q := by
  intro heq
  rw [Precedes, heq] at h
  exact irrefl_of (List.Lex Component.Precedes) _ h

/-- **One of two paths precedes the other**, or they name the same place. -/
theorem precedes_trichotomy (p q : String) :
    Precedes p q ∨ components p = components q ∨ Precedes q p :=
  trichotomous_of (List.Lex Component.Precedes) _ _

/-- A slash in a path weighs less than any other character. -/
example : before "a/b" "a-b" = true ∧ "a-b" < "a/b" := by decide

end Path

end Storefront
