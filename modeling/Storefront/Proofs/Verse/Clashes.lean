import Storefront.Proofs.Catalog.Flaws
import Storefront.Proofs.Verse.ReadBack
/-!
# Verse — names that are declared twice

The module of the entitlements declares names from two sources, the base
classes in use and the entitlements themselves, and a clean report knows
the second only. So a catalog without flaws may declare a name twice, and
a class that extends a class of its own name; when it does is told
exactly (`clashes_exact`). In every other module the names are distinct.
-/

namespace Storefront

namespace Verse

/-- The names that a module declares. -/
def Block.names (b : Block) : List String := b.declarations.flatMap Declaration.names

/-- **A module in which a class extends a class of its own name.** -/
def Block.ExtendsItself (b : Block) : Prop :=
  ∃ name fields, .concreteClass name name fields ∈ b.declarations

end Verse

open Verse

/-- The declaration of an entry declares its key. -/
theorem Entry.names_declaration (e : Entry) : e.declaration.names = [e.key] := by
  cases e <;> rfl

namespace Catalog

variable {c : Catalog} {b : Block} {k : Kind}

/-! ## The names of a module -/

/-- What stands in front of the entries of a kind declares the base
classes. -/
theorem names_preamble (c : Catalog) (k : Kind) :
    (c.preamble k).flatMap Declaration.names = if k = .entitlement then c.baseClasses else [] := by
  cases k with
  | entitlement => cases hbases : c.baseClasses <;> simp [preamble, hbases, Declaration.names]
  | info => rfl
  | offer => rfl
  | bundle => rfl

/-- **A module declares base classes, then the keys of its kind.** -/
theorem names_of_mem_blocks (h : b ∈ c.blocks) :
    b.names = (if b.home = .entitlement then c.baseClasses else []) ++ c.keys b.home := by
  obtain ⟨k, rfl, -⟩ := exists_of_mem_blocks h
  simp only [Block.names, List.flatMap_append, names_preamble, List.flatMap_map,
    Entry.names_declaration, keys, ← List.map_eq_flatMap]

theorem keys_entitlement (c : Catalog) :
    c.keys .entitlement = c.entitlements.map (·.className) := by
  simp [keys, entries, Entry.key]

/-- **The names of a module are distinct** when, in the module of the
entitlements, no entitlement is named like a base class. -/
theorem nodup_names_iff (hclean : c.Clean) (h : b ∈ c.blocks) :
    b.names.Nodup ↔
      (b.home = .entitlement → ∀ e ∈ c.entitlements, e.className ∉ c.baseClasses) := by
  rw [names_of_mem_blocks h]
  by_cases hhome : b.home = .entitlement
  · rw [hhome, if_pos rfl, List.nodup_append]
    -- neither part repeats a name, so a name is repeated only between them
    constructor
    · rintro ⟨-, -, hdisjoint⟩ - e he hbase
      refine hdisjoint _ hbase _ ?_ rfl
      rw [keys_entitlement]
      exact List.mem_map_of_mem he
    · refine fun hnames => ⟨nodup_eraseDups _, hclean.key _, fun base hbase name hname heq => ?_⟩
      rw [keys_entitlement] at hname
      obtain ⟨e, he, rfl⟩ := List.mem_map.1 hname
      exact hnames rfl e he (heq ▸ hbase)
  · simp [hhome, hclean.key b.home]

/-- **A class extends a class of its own name** when an entitlement has
its own name as its parent. -/
theorem extendsItself_iff (h : b ∈ c.blocks) (hhome : b.home = .entitlement) :
    b.ExtendsItself ↔ ∃ e ∈ c.entitlements, e.parent.identifier = e.className := by
  obtain ⟨k, rfl, -⟩ := exists_of_mem_blocks h
  obtain rfl : k = .entitlement := hhome
  constructor
  · rintro ⟨name, fields, hd⟩
    rcases List.mem_append.1 hd with hd | hd
    · -- base classes are abstract
      obtain ⟨-, -, habstract⟩ := eq_of_mem_preamble hd
      cases habstract
    · obtain ⟨f, hf, hdeclaration⟩ := List.mem_map.1 hd
      obtain ⟨e, he, rfl⟩ := List.mem_map.1 hf
      obtain ⟨rfl, hparent, -⟩ := Declaration.concreteClass.inj hdeclaration
      exact ⟨e, he, hparent⟩
  · rintro ⟨e, he, hparent⟩
    have hentry : Entry.entitlement e ∈ c.entries .entitlement := List.mem_map_of_mem he
    have hdeclared : e.declaration ∈ (c.entries .entitlement).map Entry.declaration :=
      List.mem_map.2 ⟨_, hentry, rfl⟩
    rw [Entitlement.declaration, hparent] at hdeclared
    exact ⟨_, _, List.mem_append_right _ hdeclared⟩

/-- A shop in which an entitlement has the name of the base class that it
extends. -/
def islandShop : Catalog where
  infos := [⟨"gem_info", .plain "Gem", .plain "", .plain ""⟩]
  entitlements := [{ className := "island_entitlement", infoModule := "gem_info" }]

/-- **A clean catalog can clash.** The entries of this shop pass their
rules and its report is empty, but its document declares a name twice, and
a class that extends a class of its own name. -/
theorem clash_islandShop :
    (∀ e ∈ islandShop.allEntries, e.check = .ok ()) ∧ islandShop.issues = [] ∧
      ∃ bs, readDefinitions? (definitions islandShop) = some bs ∧
        ∃ b ∈ bs, b.home = .entitlement ∧ ¬ b.names.Nodup ∧ b.ExtendsItself := by
  have hread : islandShop.Readable := by decide
  refine ⟨by decide, by decide, _, readDefinitions?_definitions hread, ?_⟩
  refine ⟨_, List.mem_cons_of_mem _ List.mem_cons_self, rfl, by decide, ?_⟩
  exact ⟨"island_entitlement", _, List.mem_cons_of_mem _ List.mem_cons_self⟩

/-- **Where a catalog without flaws clashes.** Its entries pass their
rules and its report is empty. Then the names that a module declares are
distinct, but for the module of the entitlements when one of them is named
like a base class in use. A class extends a class of its own name just
when an entitlement has its own name as its parent, be it a class of the
shop's own or a built-in one. The document of a tidy catalog is read as
these modules. -/
theorem clashes_exact (hrules : ∀ e ∈ c.allEntries, e.check = .ok ()) (hclean : c.issues = []) :
    (∀ b ∈ c.blocks, b.names.Nodup ↔
      (b.home = .entitlement → ∀ e ∈ c.entitlements, e.className ∉ c.baseClasses)) ∧
    (∀ b ∈ c.blocks, b.home = .entitlement →
      (b.ExtendsItself ↔ ∃ e ∈ c.entitlements, e.parent.identifier = e.className)) ∧
    (c.Tidy → readDefinitions? (definitions c) = some c.blocks) := by
  exact ⟨fun b hb => nodup_names_iff (issues_eq_nil_iff.1 hclean) hb,
    fun b hb hhome => extendsItself_iff hb hhome,
    fun htidy => readDefinitions?_definitions (htidy.readable_of_check hrules)⟩

/-- A shop in which an entitlement is its own parent, next to one with a
built-in parent. -/
def mirrorShop : Catalog where
  infos := [⟨"gem_info", .plain "Gem", .plain "", .plain ""⟩]
  entitlements :=
    [{ className := "ruby", infoModule := "gem_info" },
      { className := "mirror", parent := .custom "mirror", infoModule := "gem_info" }]

/-- No name is declared twice in this shop, and yet a class extends
itself. -/
theorem clashes_mirrorShop :
    readDefinitions? (definitions mirrorShop) = some mirrorShop.blocks ∧
      (∀ b ∈ mirrorShop.blocks, b.names.Nodup) ∧
      ∃ b ∈ mirrorShop.blocks, b.home = .entitlement ∧ b.ExtendsItself := by
  obtain ⟨hnames, hextends, hread⟩ := clashes_exact (c := mirrorShop) (by decide) (by decide)
  refine ⟨hread (by decide), fun b hb => (hnames b hb).2 fun _ => by decide, ?_⟩
  refine ⟨_, List.mem_cons_of_mem _ List.mem_cons_self, rfl, ?_⟩
  exact (hextends _ (List.mem_cons_of_mem _ List.mem_cons_self) rfl).2
    ⟨_, List.mem_cons_of_mem _ List.mem_cons_self, rfl⟩

end Catalog

end Storefront
