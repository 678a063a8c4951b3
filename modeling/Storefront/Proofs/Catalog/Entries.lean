import Mathlib.Data.List.Basic
import Storefront.Catalog.Integrity
/-!
# Catalog — the entries of a kind

The four sequences of a catalog are one family, indexed by kind: a
catalog is known by its entries of each kind, and every entry stands in
the sequence of its own. Lists of names are rid of repetitions by
`eraseDups`, which leaves each name once.
-/

namespace Storefront

/-- Each kind stands once in the list of all kinds. -/
theorem Kind.filterMap_all {α : Type} (f : Kind → Option α) (k : Kind) :
    Kind.all.filterMap (fun l => if l = k then f l else none) = (f k).toList := by
  cases k <;> cases hf : f _ <;> simp [Kind.all, hf]

namespace Catalog

variable {c d : Catalog}

/-- Every entry of a kind is an entry of the catalog. -/
theorem mem_allEntries {k : Kind} {e : Entry} (h : e ∈ c.entries k) : e ∈ c.allEntries :=
  List.mem_flatMap.2 ⟨k, by cases k <;> simp [Kind.all], h⟩

/-- The entries of a kind are of that kind. -/
theorem kind_of_mem_entries {k : Kind} {e : Entry} (h : e ∈ c.entries k) : e.kind = k := by
  cases k <;> obtain ⟨x, -, rfl⟩ := List.mem_map.1 h <;> rfl

/-- An entry of the catalog stands in the sequence of its kind. -/
theorem mem_allEntries_iff {e : Entry} : e ∈ c.allEntries ↔ e ∈ c.entries e.kind := by
  refine ⟨fun h => ?_, mem_allEntries⟩
  obtain ⟨k, -, hk⟩ := List.mem_flatMap.1 h
  rwa [kind_of_mem_entries hk]

@[simp] theorem info_mem_allEntries {m : InfoModule} :
    Entry.info m ∈ c.allEntries ↔ m ∈ c.infos := by
  simp [mem_allEntries_iff, Entry.kind, entries]

@[simp] theorem entitlement_mem_allEntries {e : Entitlement} :
    Entry.entitlement e ∈ c.allEntries ↔ e ∈ c.entitlements := by
  simp [mem_allEntries_iff, Entry.kind, entries]

@[simp] theorem bundle_mem_allEntries {b : Bundle} :
    Entry.bundle b ∈ c.allEntries ↔ b ∈ c.bundles := by
  simp [mem_allEntries_iff, Entry.kind, entries]

/-- **A catalog is known by its entries of each kind.** -/
theorem eq_of_entries_eq (h : ∀ k, c.entries k = d.entries k) : c = d := by
  have hinfos : c.infos = d.infos :=
    List.map_injective_iff.2 (fun _ _ h => Entry.info.inj h) (h .info)
  have hentitlements : c.entitlements = d.entitlements :=
    List.map_injective_iff.2 (fun _ _ h => Entry.entitlement.inj h) (h .entitlement)
  have hoffers : c.offers = d.offers :=
    List.map_injective_iff.2 (fun _ _ h => Entry.offer.inj h) (h .offer)
  have hbundles : c.bundles = d.bundles :=
    List.map_injective_iff.2 (fun _ _ h => Entry.bundle.inj h) (h .bundle)
  cases c
  cases d
  simp_all

@[simp] theorem entries_empty (k : Kind) : Catalog.empty.entries k = [] := by
  cases k <;> rfl

theorem length_entries (c : Catalog) (k : Kind) : (c.entries k).length = c.count k := by
  cases k <;> simp [entries, count]

/-! ## Appending entries -/

/-- An appended entry stands at the end of its sequence, and the other
sequences are left alone. -/
theorem entries_store_none (c : Catalog) (e : Entry) (k : Kind) :
    (c.store none e).entries k = c.entries k ++ [e].filter (fun f => f.kind == k) := by
  cases e <;> cases k <;> simp [store, place, entries, Entry.kind]

/-- The catalog with entries appended in turn. -/
def extend (c : Catalog) (es : List Entry) : Catalog :=
  es.foldl (fun c e => c.store none e) c

/-- **Appending in turn keeps the order within each kind**, whatever the
order between the kinds. -/
theorem entries_extend (c : Catalog) (es : List Entry) (k : Kind) :
    (c.extend es).entries k = c.entries k ++ es.filter (fun e => e.kind == k) := by
  induction es generalizing c with
  | nil => simp [extend]
  | cons e es ih =>
    have hstep : c.extend (e :: es) = (c.store none e).extend es := rfl
    rw [hstep, ih, entries_store_none, List.append_assoc, ← List.filter_append]
    rfl

/-- **An interleaving of the four sequences of a catalog**: a list of
entries in which those of each kind stand in the order of the catalog. -/
def Interleaves (c : Catalog) (es : List Entry) : Prop :=
  ∀ k, es.filter (fun e => e.kind == k) = c.entries k

/-- All entries of a catalog, kind after kind, are an interleaving. -/
theorem interleaves_allEntries (c : Catalog) : c.Interleaves c.allEntries := by
  intro k
  have hpart : ∀ l, (c.entries l).filter (fun e => e.kind == k) =
      if l = k then c.entries k else [] := by
    intro l
    split
    · next heq =>
      subst heq
      exact List.filter_eq_self.2 fun e he => beq_iff_eq.2 (kind_of_mem_entries he)
    · next hne =>
      refine List.filter_eq_nil_iff.2 fun e he => ?_
      rw [kind_of_mem_entries he, beq_iff_eq]
      exact hne
  rw [allEntries, List.filter_flatMap]
  simp only [hpart]
  cases k <;> simp [Kind.all]

/-- An interleaving has the entries of the catalog. -/
theorem Interleaves.mem_allEntries {es : List Entry} (h : c.Interleaves es) {e : Entry}
    (he : e ∈ es) : e ∈ c.allEntries := by
  refine Catalog.mem_allEntries (k := e.kind) ?_
  rw [← h e.kind]
  simp [he]

/-- **Every interleaving builds the catalog.** -/
theorem Interleaves.extend_eq {es : List Entry} (h : c.Interleaves es) :
    Catalog.empty.extend es = c := by
  refine eq_of_entries_eq fun k => ?_
  rw [entries_extend, entries_empty, h k, List.nil_append]

/-- An entry that passes its rules is appended. -/
theorem put_none_of_check {e : Entry} (h : e.check = .ok ()) :
    c.put none e = .ok (c.count e.kind, c.store none e) := by
  simp only [put, h]

/-- An entry that breaks a rule is refused, wherever it was to go. -/
theorem put_of_check_error {e : Entry} {reason : CatalogError} (index : Option Nat)
    (h : e.check = .error reason) : c.put index e = .error reason := by
  simp only [put, h]

end Catalog

/-- **No name is left twice** when repetitions are erased. -/
theorem nodup_eraseDups {α : Type} [BEq α] [LawfulBEq α] (xs : List α) :
    xs.eraseDups.Nodup := by
  -- on the length, since what is erased shortens the rest of the list
  induction hn : xs.length using Nat.strongRecOn generalizing xs with
  | _ n ih =>
    cases xs with
    | nil => simp
    | cons x xs =>
      have hlt : (xs.filter fun y => !y == x).length < n := by
        have := List.length_filter_le (fun y => !y == x) xs
        simp only [List.length_cons] at hn
        omega
      rw [List.eraseDups_cons, List.nodup_cons]
      exact ⟨by simp [List.mem_eraseDups], ih _ hlt _ rfl⟩

end Storefront
