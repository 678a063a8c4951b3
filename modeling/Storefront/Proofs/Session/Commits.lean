import Storefront.Proofs.Catalog.Entries
import Storefront.Session.Basic
/-!
# Sessions — commits in a row

Entries are committed one after the other, each at the end of its
sequence, until one is refused. Entries that pass their rules are all
committed, and the catalog afterwards is extended by them.
-/

namespace Storefront.Session

/-- Commit entries in turn; the first one that is refused ends it. -/
def commitAll (s : Session) (es : List Entry) : Except Failure Session :=
  es.foldlM (fun s e => (s.commit none e).result.map fun _ => (s.commit none e).session) s

/-- The session after committing an entry that passes its rules. -/
theorem commit_none_of_check (s : Session) {e : Entry} (h : e.check = .ok ()) :
    (s.commit none e).result = .ok (s.catalog.count e.kind) ∧
      (s.commit none e).session.catalog = s.catalog.store none e := by
  simp [commit, Catalog.put_none_of_check h, sync]

/-- **Entries that pass their rules are all committed.** -/
theorem commitAll_of_check {es : List Entry} (h : ∀ e ∈ es, e.check = .ok ()) (s : Session) :
    ∃ t, s.commitAll es = .ok t ∧ t.catalog = s.catalog.extend es := by
  induction es generalizing s with
  | nil => exact ⟨s, rfl, rfl⟩
  | cons e es ih =>
    obtain ⟨hresult, hcatalog⟩ := commit_none_of_check s (h e List.mem_cons_self)
    obtain ⟨t, ht, htc⟩ := ih (fun f hf => h f (List.mem_cons_of_mem _ hf))
      (s.commit none e).session
    refine ⟨t, ?_, ?_⟩
    · rw [commitAll, List.foldlM_cons, hresult]
      exact ht
    · rw [htc, hcatalog]
      rfl

end Storefront.Session
