import Storefront.Command.Error
import Storefront.Proofs.Catalog.Gate
import Storefront.Proofs.Text.Numeral
import Storefront.Proofs.Text.Styled
/-!
# Commands — what errors say

An error says something about texts that it brings along: a path, a name, a
reason, broken rules. What it says itself holds no escape character, so
its message, its causes and its advice hold none if those texts do not.
And the message of a failure can be read for every rule that is broken.
-/

namespace Storefront

open Text

/-! ## The texts of an error -/

/-- The texts that a refusal is about. -/
def CatalogError.texts : CatalogError → List String
  | entitlementRejected className violations => className :: violations
  | priceRejected className _ violations => className :: violations
  | parentUnnamed className => [className]
  | quantityRejected _ => []
  | invalidCatalog detail => [detail]
  | indexOutOfRange .. => []

/-- The texts that an error in carrying data is about. -/
def TransferError.texts : TransferError → List String
  | catalogNotFound path => [path]
  | catalogUnreadable origin reason => [origin, reason]
  | outputFailed path reason => [path, reason]
  | outputExists path => [path]
  | lockPoisoned => []

/-- The texts that a failure is about. -/
def Failure.texts : Failure → List String
  | catalog e => e.texts
  | transfer e => e.texts

namespace CommandError

/-- The texts that an error brings along. -/
def texts : CommandError → List String
  | invalidInput message => [message]
  | noCatalog => []
  | invalidPrice _ violations => violations
  | integrityFailed _ => []
  | fileExists path => [path]
  | configuration message causes => message :: causes
  | failed failure => failure.texts
  | io message cause deeper => message :: cause :: deeper

end CommandError

/-! ## No escape characters but theirs -/

/-- Fixed words in front of other lines. -/
theorem unescaped_cons {cs : List Char} {lines : List String} (h : escape ∉ cs)
    (hlines : ∀ l ∈ lines, Unescaped l) : ∀ l ∈ String.ofList cs :: lines, Unescaped l :=
  List.forall_mem_cons.2 ⟨unescaped_ofList h, hlines⟩

theorem unescaped_singleton {cs : List Char} (h : escape ∉ cs) :
    ∀ l ∈ [String.ofList cs], Unescaped l :=
  unescaped_cons h (List.forall_mem_nil _)

theorem unescaped_int64 (n : Int64) : Unescaped (toString n) :=
  not_mem_int64 (by decide) (by decide)

theorem unescaped_nat (n : Nat) : Unescaped (toString n) := not_mem_nat (by decide)

theorem unescaped_uint32 (n : UInt32) : Unescaped (toString n) := not_mem_uint32 (by decide)

theorem unescaped_kind (kind : Kind) : Unescaped kind.name := by
  cases kind <;> decide

theorem unescaped_faults {faults : List String} (h : ∀ t ∈ faults, Unescaped t) :
    Unescaped ("; ".intercalate faults) :=
  notMem_intercalate (by decide) h

theorem CatalogError.unescaped_message {e : CatalogError} (h : ∀ t ∈ e.texts, Unescaped t) :
    Unescaped e.message := by
  cases e with
  | entitlementRejected name faults =>
    obtain ⟨hname, hfaults⟩ := List.forall_mem_cons.1 h
    exact (hname.between (by decide) (by decide)).append (unescaped_faults hfaults)
  | priceRejected name amount faults =>
    obtain ⟨hname, hfaults⟩ := List.forall_mem_cons.1 h
    have hamount : Unescaped ("price " ++ toString amount ++ " of '") :=
      (unescaped_int64 amount).between (by decide) (by decide)
    exact ((hamount.append hname).before (by decide)).append (unescaped_faults hfaults)
  | parentUnnamed name =>
    exact (h name List.mem_cons_self).between (by decide) (by decide)
  | quantityRejected value =>
    exact (unescaped_uint32 value).after (by decide)
  | invalidCatalog detail =>
    exact (h detail List.mem_cons_self).after (by decide)
  | indexOutOfRange kind index len =>
    have hkind : Unescaped ("no " ++ kind.name ++ " at index ") :=
      (unescaped_kind kind).between (by decide) (by decide)
    have hindex : Unescaped ("no " ++ kind.name ++ " at index " ++ toString index ++
        " (catalog holds ") :=
      (hkind.append (unescaped_nat index)).before (by decide)
    exact (hindex.append (unescaped_nat len)).before (by decide)

theorem CatalogError.unescaped_suggestions {e : CatalogError} (h : ∀ t ∈ e.texts, Unescaped t) :
    ∀ s ∈ e.suggestions, Unescaped s := by
  cases e with
  | entitlementRejected name faults =>
    exact List.forall_mem_map.2 fun v hv => (h v (List.mem_cons_of_mem name hv)).after (by decide)
  | priceRejected name amount faults =>
    exact List.forall_mem_map.2 fun v hv => (h v (List.mem_cons_of_mem name hv)).after (by decide)
  | parentUnnamed name =>
    have hname := h name List.mem_cons_self
    exact List.forall_mem_cons.2
      ⟨hname.between (by decide) (by decide), unescaped_singleton (by decide)⟩
  | quantityRejected value =>
    exact unescaped_singleton (by decide)
  | invalidCatalog detail =>
    have hdetail : Unescaped ("Details: " ++ detail) :=
      (h detail List.mem_cons_self).after (by decide)
    exact unescaped_cons (by decide)
      (List.forall_mem_cons.2 ⟨hdetail, unescaped_singleton (by decide)⟩)
  | indexOutOfRange kind index len =>
    have hkind : Unescaped ("Valid " ++ kind.name ++ " indices are 0..") :=
      (unescaped_kind kind).between (by decide) (by decide)
    exact List.forall_mem_singleton.2 (hkind.append (unescaped_nat len))

theorem TransferError.unescaped_message {e : TransferError} (h : ∀ t ∈ e.texts, Unescaped t) :
    Unescaped e.message := by
  cases e with
  | catalogNotFound path =>
    exact (h path List.mem_cons_self).after (by decide)
  | catalogUnreadable origin reason =>
    obtain ⟨horigin, hreason⟩ := List.forall_mem_cons.1 h
    exact (horigin.between (by decide) (by decide)).append (hreason reason List.mem_cons_self)
  | outputFailed path reason =>
    obtain ⟨hpath, hreason⟩ := List.forall_mem_cons.1 h
    exact (hpath.between (by decide) (by decide)).append (hreason reason List.mem_cons_self)
  | outputExists path =>
    exact (h path List.mem_cons_self).after (by decide)
  | lockPoisoned =>
    exact unescaped_ofList (by decide)

theorem TransferError.unescaped_suggestions {e : TransferError} (h : ∀ t ∈ e.texts, Unescaped t) :
    ∀ s ∈ e.suggestions, Unescaped s := by
  cases e with
  | catalogNotFound path =>
    exact List.forall_mem_cons.2 ⟨(h path List.mem_cons_self).after (by decide),
      unescaped_cons (by decide) (unescaped_singleton (by decide))⟩
  | catalogUnreadable origin reason =>
    have hreason := h reason (List.mem_cons_of_mem origin List.mem_cons_self)
    exact List.forall_mem_cons.2 ⟨hreason.after (by decide), unescaped_singleton (by decide)⟩
  | outputFailed path reason =>
    exact List.forall_mem_cons.2 ⟨(h path List.mem_cons_self).after (by decide),
      unescaped_singleton (by decide)⟩
  | outputExists path =>
    exact List.forall_mem_cons.2 ⟨(h path List.mem_cons_self).after (by decide),
      unescaped_singleton (by decide)⟩
  | lockPoisoned =>
    exact unescaped_singleton (by decide)

namespace Failure

theorem unescaped_innerMessage {f : Failure} (h : ∀ t ∈ f.texts, Unescaped t) :
    Unescaped f.innerMessage := by
  cases f with
  | catalog e => exact e.unescaped_message h
  | transfer e => exact e.unescaped_message h

theorem unescaped_message {f : Failure} (h : ∀ t ∈ f.texts, Unescaped t) :
    Unescaped f.message := by
  cases f with
  | catalog e =>
    exact (e.unescaped_message h).after (by decide)
  | transfer e =>
    exact (e.unescaped_message h).after (by decide)

theorem unescaped_suggestions {f : Failure} (h : ∀ t ∈ f.texts, Unescaped t) :
    ∀ s ∈ f.suggestions, Unescaped s := by
  cases f with
  | catalog e => exact e.unescaped_suggestions h
  | transfer e => exact e.unescaped_suggestions h

/-- A broken rule can be read in the message. -/
theorem occurs_message {f : Failure} {text : String} (h : text ∈ f.violations) :
    Occurs text f.message := by
  cases f with
  | transfer e => cases h
  | catalog e =>
    have hmessage : Occurs text e.message := by
      cases e with
      | entitlementRejected name faults =>
        rw [CatalogError.message_entitlementRejected]
        exact (occurs_intercalate "; " h).append_left _
      | priceRejected name amount faults =>
        rw [CatalogError.message_priceRejected]
        exact (occurs_intercalate "; " h).append_left _
      | parentUnnamed name => cases h
      | quantityRejected value => cases h
      | invalidCatalog detail => cases h
      | indexOutOfRange kind index len => cases h
    exact hmessage.append_left "Domain error: "

end Failure

namespace CommandError

variable {e : CommandError}

theorem unescaped_message (h : ∀ t ∈ e.texts, Unescaped t) : Unescaped e.message := by
  cases e with
  | invalidInput message =>
    exact (h message List.mem_cons_self).after (by decide)
  | noCatalog =>
    exact unescaped_ofList (by decide)
  | invalidPrice amount violations =>
    exact (unescaped_int64 amount).before (by decide)
  | integrityFailed count =>
    exact (unescaped_nat count).between (by decide) (by decide)
  | fileExists path =>
    exact (h path List.mem_cons_self).after (by decide)
  | configuration message causes =>
    exact (h message List.mem_cons_self).after (by decide)
  | failed failure => exact failure.unescaped_message h
  | io message cause deeper =>
    exact (h message List.mem_cons_self).after (by decide)

theorem unescaped_violations (h : ∀ t ∈ e.texts, Unescaped t) :
    ∀ v ∈ e.violations, Unescaped v := by
  cases e with
  | invalidPrice amount violations => exact h
  | _ => exact List.forall_mem_nil _

theorem unescaped_causes (h : ∀ t ∈ e.texts, Unescaped t) : ∀ c ∈ e.causes, Unescaped c := by
  cases e with
  | configuration message causes => exact (List.forall_mem_cons.1 h).2
  | failed failure => exact List.forall_mem_singleton.2 (failure.unescaped_innerMessage h)
  | io message cause deeper => exact (List.forall_mem_cons.1 h).2
  | _ => exact List.forall_mem_nil _

theorem unescaped_priceAdvice (amount : Int64) : ∀ s ∈ priceAdvice amount, Unescaped s := by
  have hleast : Unescaped ("Prices run from " ++ toString Price.least ++ " to ") :=
    (unescaped_int64 Price.least).between (by decide) (by decide)
  have hgreatest : Unescaped ("Prices run from " ++ toString Price.least ++ " to " ++
      toString Price.greatest ++ " V-Bucks in steps of ") :=
    (hleast.append (unescaped_int64 Price.greatest)).before (by decide)
  have hrange := hgreatest.append (unescaped_int64 Price.step)
  have hnearest : Unescaped ("Nearest valid price: " ++ toString (Price.nearest amount)) :=
    (unescaped_int64 (Price.nearest amount)).after (by decide)
  exact List.forall_mem_cons.2 ⟨hrange, List.forall_mem_singleton.2 hnearest⟩

theorem unescaped_suggestions (h : ∀ t ∈ e.texts, Unescaped t) :
    ∀ s ∈ e.suggestions, Unescaped s := by
  cases e with
  | invalidInput message =>
    exact List.forall_mem_cons.2 ⟨(h message List.mem_cons_self).after (by decide),
      unescaped_singleton (by decide)⟩
  | noCatalog =>
    exact unescaped_cons (by decide) (unescaped_cons (by decide) (unescaped_singleton (by decide)))
  | invalidPrice amount violations => exact unescaped_priceAdvice amount
  | integrityFailed count =>
    exact unescaped_cons (by decide) (unescaped_singleton (by decide))
  | fileExists path =>
    have hpath := h path List.mem_cons_self
    exact List.forall_mem_cons.2
      ⟨hpath.between (by decide) (by decide), unescaped_singleton (by decide)⟩
  | configuration message causes =>
    exact List.forall_mem_cons.2 ⟨(h message List.mem_cons_self).after (by decide),
      unescaped_cons (by decide) (unescaped_singleton (by decide))⟩
  | failed failure => exact failure.unescaped_suggestions h
  | io message cause deeper =>
    exact List.forall_mem_cons.2 ⟨(h message List.mem_cons_self).after (by decide),
      unescaped_cons (by decide) (unescaped_singleton (by decide))⟩

end CommandError

end Storefront
