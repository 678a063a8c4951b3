import Mathlib.Data.Set.List
import Storefront.Manifest.Basic
import Storefront.Proofs.Session.Commits
/-!
# Manifest — loading is a sequence of commits

A manifest loads when each of its records is admitted: its parent can be
told and its entry passes its rules. The catalog then holds the entries
of the records in order, and committing them in a session, in any order
that keeps the order within each kind, leads to the same catalog. A
manifest that does not load fails with the fault of its first record that
is not admitted (`toCatalog_commits`).
-/

namespace Storefront.Manifest

/-- A record of a manifest, of one of the four kinds. -/
inductive Record where
  | info (record : InfoRecord)
  | entitlement (record : EntitlementRecord)
  | offer (record : OfferRecord)
  | bundle (record : BundleRecord)

/-- The records of a manifest: info modules, entitlements, offers, then
bundles. -/
def records (m : Manifest) : List Record :=
  m.infos.map .info ++ m.entitlements.map .entitlement ++ m.offers.map .offer ++
    m.bundles.map .bundle

namespace Record

/-- The entry that a record stands for, if its parent can be told. -/
def entry : Record → Except CatalogError Entry
  | info r => .ok (.info r.value)
  | entitlement r => r.value.map .entitlement
  | offer r => .ok (.offer r.value)
  | bundle r => .ok (.bundle r.value)

/-- **A record that is admitted**: it stands for an entry that passes its
rules. -/
def Admitted (r : Record) : Prop := ∃ e, r.entry = .ok e ∧ e.check = .ok ()

/-- **A record that is refused, and why.** The rules of an entitlement
are looked at only when its parent can be told; broken rules are all
reported. -/
inductive Refused : Record → CatalogError → Prop
  /-- The parent cannot be told. -/
  | parent {r : EntitlementRecord} {reason : CatalogError} :
      Parent.ofParts r.className r.parentClass r.customParent = .error reason →
      Refused (.entitlement r) reason
  /-- The parent can be told, and the entitlement breaks rules. -/
  | rules {r : EntitlementRecord} {e : Entitlement} :
      r.value = .ok e → e.brokenRules ≠ [] →
      Refused (.entitlement r)
        (.entitlementRejected r.className (e.brokenRules.map Rule.message))
  /-- The price of an offer breaks rules. -/
  | offerPrice {r : OfferRecord} : Price.violations r.price ≠ [] →
      Refused (.offer r) (.priceRejected r.className r.price (Price.violations r.price))
  /-- The price of a bundle breaks rules. -/
  | bundlePrice {r : BundleRecord} : Price.violations r.price ≠ [] →
      Refused (.bundle r) (.priceRejected r.className r.price (Price.violations r.price))

end Record

variable {m : Manifest} {r : Record} {rs : List Record} {c : Catalog}

theorem candidates_eq (m : Manifest) : m.candidates = m.records.map Record.entry := by
  simp [candidates, records, Record.entry, Function.comp_def]

/-! ## One record -/

/-- A price is refused when it breaks rules, and with all of them. -/
theorem price_check_eq_error_iff {name : String} {amount : Int64} {reason : CatalogError} :
    Price.check name amount = .error reason ↔
      Price.violations amount ≠ [] ∧
        .priceRejected name amount (Price.violations amount) = reason := by
  rw [Price.check]
  cases Price.violations amount <;> simp

/-- An entitlement is refused when it breaks rules, and with all of
them. -/
theorem entitlement_check_eq_error_iff {e : Entitlement} {reason : CatalogError} :
    e.check = .error reason ↔
      e.brokenRules ≠ [] ∧
        .entitlementRejected e.className (e.brokenRules.map Rule.message) = reason := by
  rw [Entitlement.check]
  cases e.brokenRules <;> simp

/-- An entitlement takes its name from its record. -/
theorem className_of_value {r : EntitlementRecord} {e : Entitlement} (h : r.value = .ok e) :
    e.className = r.className := by
  rw [EntitlementRecord.value] at h
  cases hparent : Parent.ofParts r.className r.parentClass r.customParent with
  | error reason => simp [hparent, Except.map] at h
  | ok p =>
    simp only [hparent, Except.map, Except.ok.injEq] at h
    rw [← h]

/-- The parent of an entitlement is all that can fail to be told. -/
theorem value_eq_error_iff {r : EntitlementRecord} {reason : CatalogError} :
    r.value = .error reason ↔
      Parent.ofParts r.className r.parentClass r.customParent = .error reason := by
  rw [EntitlementRecord.value]
  cases Parent.ofParts r.className r.parentClass r.customParent <;> simp [Except.map]

/-- The value of an entitlement is told with its parent. -/
theorem exists_value_iff {r : EntitlementRecord} :
    (∃ e, r.value = .ok e) ↔
      ∃ p, Parent.ofParts r.className r.parentClass r.customParent = .ok p := by
  rw [EntitlementRecord.value]
  cases Parent.ofParts r.className r.parentClass r.customParent <;> simp [Except.map]

/-- **A record is refused with the error of its gate**: first its parent,
then the rules of its entry. -/
theorem refused_iff {reason : CatalogError} :
    r.Refused reason ↔ r.entry.bind Entry.check = .error reason := by
  cases r with
  | info r => exact ⟨nofun, nofun⟩
  | entitlement r =>
    have hgate : (Record.entitlement r).entry.bind Entry.check =
        r.value.bind Entitlement.check := by
      rw [Record.entry]
      cases r.value <;> rfl
    rw [hgate]
    constructor
    · intro h
      cases h with
      | parent hparent => rw [value_eq_error_iff.2 hparent, Except.bind]
      | rules hvalue hbroken =>
        rw [hvalue]
        refine entitlement_check_eq_error_iff.2 ⟨hbroken, ?_⟩
        rw [className_of_value hvalue]
    · intro h
      cases hvalue : r.value with
      | error fault =>
        rw [hvalue] at h
        obtain rfl : fault = reason := Except.error.inj h
        exact .parent (value_eq_error_iff.1 hvalue)
      | ok e =>
        rw [hvalue] at h
        obtain ⟨hbroken, rfl⟩ := entitlement_check_eq_error_iff.1 h
        rw [className_of_value hvalue]
        exact .rules hvalue hbroken
  | offer r =>
    constructor
    · intro h
      cases h with
      | offerPrice hbroken => exact price_check_eq_error_iff.2 ⟨hbroken, rfl⟩
    · intro h
      obtain ⟨hbroken, rfl⟩ := price_check_eq_error_iff.1 h
      exact .offerPrice hbroken
  | bundle r =>
    constructor
    · intro h
      cases h with
      | bundlePrice hbroken => exact price_check_eq_error_iff.2 ⟨hbroken, rfl⟩
    · intro h
      obtain ⟨hbroken, rfl⟩ := price_check_eq_error_iff.1 h
      exact .bundlePrice hbroken

/-- **Every record is admitted or refused.** -/
theorem admitted_or_refused (r : Record) : r.Admitted ∨ ∃ reason, r.Refused reason := by
  cases hgate : r.entry.bind Entry.check with
  | error reason => exact .inr ⟨reason, refused_iff.2 hgate⟩
  | ok u =>
    cases hentry : r.entry with
    | error reason => simp [hentry, Except.bind] at hgate
    | ok e => exact .inl ⟨e, hentry, by simpa [hentry, Except.bind] using hgate⟩

/-- An admitted record is appended. -/
theorem accept_of_admitted {e : Entry} (c : Catalog) (hentry : r.entry = .ok e)
    (h : e.check = .ok ()) : accept c r.entry = .ok (c.store none e) := by
  simp [accept, hentry, Except.bind, Catalog.append, Catalog.put_none_of_check h, Except.map]

/-- A refused record fails with its fault. -/
theorem accept_of_refused {reason : CatalogError} (c : Catalog) (h : r.Refused reason) :
    accept c r.entry = .error reason := by
  rw [refused_iff] at h
  cases hentry : r.entry with
  | error fault => simpa [accept, hentry, Except.bind] using h
  | ok e =>
    have hcheck : e.check = .error reason := by simpa [hentry, Except.bind] using h
    simp [accept, Except.bind, Catalog.append, Catalog.put_of_check_error none hcheck,
      Except.map]

/-! ## All records -/

/-- **Admitted records extend the catalog by their entries**, by
induction on the records. -/
theorem foldlM_of_admitted {es : List Entry} (c : Catalog) (hes : rs.map Record.entry = es.map .ok)
    (h : ∀ e ∈ es, e.check = .ok ()) :
    (rs.map Record.entry).foldlM accept c = .ok (c.extend es) := by
  induction rs generalizing c es with
  | nil =>
    have hnil : es = [] := by simpa using hes.symm
    subst hnil
    rfl
  | cons r rs ih =>
    cases es with
    | nil => simp at hes
    | cons e es =>
      obtain ⟨hentry, hrest⟩ : r.entry = .ok e ∧ rs.map Record.entry = es.map .ok := by
        simpa using hes
      have hstep := accept_of_admitted c hentry (h e List.mem_cons_self)
      rw [List.map_cons, List.foldlM_cons, hstep]
      exact ih (c.store none e) hrest fun f hf => h f (List.mem_cons_of_mem _ hf)

/-- Results that are all values are the list of these values. -/
theorem exists_map_ok {α β ε : Type} {f : α → Except ε β} {xs : List α}
    (h : ∀ x ∈ xs, ∃ y, f x = .ok y) : ∃ ys : List β, xs.map f = ys.map .ok := by
  have hrange : xs.map f ∈ Set.range (List.map (Except.ok (ε := ε))) := by
    rw [Set.range_list_map]
    intro result hresult
    obtain ⟨x, hx, rfl⟩ := List.mem_map.1 hresult
    obtain ⟨y, hy⟩ := h x hx
    exact ⟨y, hy.symm⟩
  obtain ⟨ys, hys⟩ := hrange
  exact ⟨ys, hys.symm⟩

/-- The entries in such a list are those that some record stands for. -/
theorem mem_iff_of_map_entry {es : List Entry} (hes : rs.map Record.entry = es.map .ok)
    {e : Entry} : e ∈ es ↔ ∃ r ∈ rs, r.entry = .ok e := by
  have hmem : Except.ok e ∈ es.map (Except.ok (ε := CatalogError)) ↔ e ∈ es :=
    List.mem_map_of_injective fun _ _ h => Except.ok.inj h
  rw [← hmem, ← hes, List.mem_map]

/-- The entries that admitted records stand for pass their rules. -/
theorem check_of_map_entry {es : List Entry} (h : ∀ r ∈ rs, r.Admitted)
    (hes : rs.map Record.entry = es.map .ok) : ∀ e ∈ es, e.check = .ok () := by
  intro e he
  obtain ⟨r, hr, hentry⟩ := (mem_iff_of_map_entry hes).1 he
  obtain ⟨f, hf, hcheck⟩ := h r hr
  obtain rfl : e = f := Except.ok.inj (hentry.symm.trans hf)
  exact hcheck

/-- **A refused record ends the loading**, whatever follows it. -/
theorem foldlM_of_refused {before after : List Record} {reason : CatalogError} (c : Catalog)
    (hbefore : ∀ q ∈ before, q.Admitted) (h : r.Refused reason) :
    ((before ++ r :: after).map Record.entry).foldlM accept c = .error reason := by
  obtain ⟨es, hes⟩ := exists_map_ok fun q hq => (hbefore q hq).imp fun _ => And.left
  rw [List.map_append, List.foldlM_append,
    foldlM_of_admitted c hes (check_of_map_entry hbefore hes)]
  change (((r :: after).map Record.entry).foldlM accept (c.extend es)) = _
  rw [List.map_cons, List.foldlM_cons, accept_of_refused _ h]
  rfl

/-- Either every record is admitted, or there is a first one that is
refused. -/
theorem admitted_or_first_refused (rs : List Record) :
    (∀ r ∈ rs, r.Admitted) ∨ ∃ before bad after reason, rs = before ++ bad :: after ∧
      (∀ q ∈ before, q.Admitted) ∧ bad.Refused reason := by
  induction rs with
  | nil => exact .inl (by simp)
  | cons r rs ih =>
    rcases admitted_or_refused r with hr | ⟨reason, hr⟩
    · rcases ih with hall | ⟨before, bad, after, reason, rfl, hbefore, hbad⟩
      · exact .inl (by simpa using ⟨hr, hall⟩)
      · exact .inr ⟨r :: before, bad, after, reason, rfl, by simpa using ⟨hr, hbefore⟩, hbad⟩
    · exact .inr ⟨[], r, rs, reason, rfl, by simp, hr⟩

/-! ## The catalog of a manifest -/

/-- **A catalog converts a manifest** when each of its sequences holds the
values of the records of a kind, in order. -/
structure Converts (m : Manifest) (c : Catalog) : Prop where
  infos : c.infos = m.infos.map InfoRecord.value
  entitlements : m.entitlements.map EntitlementRecord.value = c.entitlements.map .ok
  offers : c.offers = m.offers.map OfferRecord.value
  bundles : c.bundles = m.bundles.map BundleRecord.value

/-- The records stand for the entries of the catalog, in order. -/
theorem Converts.map_entry (h : m.Converts c) :
    m.records.map Record.entry = c.allEntries.map .ok := by
  have hentitlements : m.entitlements.map (fun r => r.value.map Entry.entitlement) =
      (c.entitlements.map .entitlement).map .ok := by
    have hmap := congrArg (List.map (Except.map Entry.entitlement)) h.entitlements
    simpa [Except.map, Function.comp_def] using hmap
  rw [← candidates_eq, candidates, hentitlements]
  simp [Catalog.allEntries, Kind.all, Catalog.entries, h.infos, h.offers, h.bundles,
    Function.comp_def]

/-- The values of the entitlements are told when all records are
admitted. -/
theorem exists_value (h : ∀ r ∈ m.records, r.Admitted) :
    ∀ r ∈ m.entitlements, ∃ e, r.value = .ok e := by
  intro r hr
  obtain ⟨e, hentry, -⟩ := h (.entitlement r) (by simp [records, hr])
  cases hvalue : r.value with
  | error reason => simp [Record.entry, hvalue, Except.map] at hentry
  | ok v => exact ⟨v, rfl⟩

/-- Records whose parents can be told are converted by a catalog. -/
theorem exists_converts (h : ∀ r ∈ m.entitlements, ∃ e, r.value = .ok e) :
    ∃ c, m.Converts c := by
  obtain ⟨es, hes⟩ := exists_map_ok h
  exact
    ⟨{ infos := m.infos.map InfoRecord.value
       entitlements := es
       offers := m.offers.map OfferRecord.value
       bundles := m.bundles.map BundleRecord.value }, rfl, hes, rfl, rfl⟩

/-- A manifest loads as the catalog that converts it, if the entries of
that catalog pass their rules. -/
theorem toCatalog_of_converts (h : m.Converts c) (hcheck : ∀ e ∈ c.allEntries, e.check = .ok ()) :
    m.toCatalog = .ok c := by
  rw [toCatalog, candidates_eq, foldlM_of_admitted .empty h.map_entry hcheck,
    c.interleaves_allEntries.extend_eq]

/-- A manifest with a record that is refused does not load. -/
theorem toCatalog_of_refused {before after : List Record} {bad : Record} {reason : CatalogError}
    (hrs : m.records = before ++ bad :: after) (hbefore : ∀ q ∈ before, q.Admitted)
    (hbad : bad.Refused reason) : m.toCatalog = .error reason := by
  rw [toCatalog, candidates_eq, hrs, foldlM_of_refused .empty hbefore hbad]

/-- **A manifest loads when its records are admitted**, and only then. -/
theorem exists_toCatalog_iff : (∃ c, m.toCatalog = .ok c) ↔ ∀ r ∈ m.records, r.Admitted := by
  constructor
  · rintro ⟨c, hload⟩
    rcases admitted_or_first_refused m.records with
      hall | ⟨before, bad, after, reason, hrs, hbefore, hbad⟩
    · exact hall
    · rw [toCatalog_of_refused hrs hbefore hbad] at hload
      cases hload
  · intro hall
    obtain ⟨c, hc⟩ := exists_converts (exists_value hall)
    exact ⟨c, toCatalog_of_converts hc (check_of_map_entry hall hc.map_entry)⟩

/-- **What a manifest loads as converts it**, and its entries pass their
rules. -/
theorem converts_of_toCatalog (hload : m.toCatalog = .ok c) :
    m.Converts c ∧ ∀ e ∈ c.allEntries, e.check = .ok () := by
  have hall := exists_toCatalog_iff.1 ⟨c, hload⟩
  obtain ⟨d, hd⟩ := exists_converts (exists_value hall)
  have hcheck := check_of_map_entry hall hd.map_entry
  obtain rfl : d = c := Except.ok.inj ((toCatalog_of_converts hd hcheck).symm.trans hload)
  exact ⟨hd, hcheck⟩

/-- Every record is admitted when every parent can be told and every
entry passes its rules. -/
theorem forall_admitted_iff :
    (∀ r ∈ m.records, r.Admitted) ↔
      (∀ r ∈ m.entitlements,
        ∃ p, Parent.ofParts r.className r.parentClass r.customParent = .ok p) ∧
      ∀ r ∈ m.records, ∀ e, r.entry = .ok e → e.check = .ok () := by
  constructor
  · intro hall
    refine ⟨fun r hr => exists_value_iff.1 (exists_value hall r hr), fun r hr e hentry => ?_⟩
    obtain ⟨f, hf, hcheck⟩ := hall r hr
    obtain rfl : e = f := Except.ok.inj (hentry.symm.trans hf)
    exact hcheck
  · rintro ⟨hparents, hrules⟩ r hr
    obtain ⟨c, hc⟩ := exists_converts fun r hr => exists_value_iff.2 (hparents r hr)
    -- a catalog that converts the manifest has an entry for every record
    have hentry : r.entry ∈ c.allEntries.map .ok := hc.map_entry ▸ List.mem_map_of_mem hr
    obtain ⟨e, -, he⟩ := List.mem_map.1 hentry
    exact ⟨e, he.symm, hrules r hr e he.symm⟩

/-- **The catalog of a manifest is built by commits**, in any interleaving
of its four sequences. -/
theorem commitAll_of_toCatalog (hload : m.toCatalog = .ok c) {es : List Entry}
    (hes : c.Interleaves es) :
    ((Session.start .empty).commitAll es).map Session.catalog = .ok c := by
  obtain ⟨-, hcheck⟩ := converts_of_toCatalog hload
  obtain ⟨s, hs, hcatalog⟩ :=
    Session.commitAll_of_check (fun e he => hcheck e (hes.mem_allEntries he)) (.start .empty)
  rw [hs, Except.map, hcatalog, Session.start, hes.extend_eq]

/-- **The fault of a manifest is that of its first record that is not
admitted.** -/
theorem first_refused_of_toCatalog {reason : CatalogError} (hload : m.toCatalog = .error reason) :
    ∃ before bad after, m.records = before ++ bad :: after ∧ (∀ q ∈ before, q.Admitted) ∧
      bad.Refused reason := by
  rcases admitted_or_first_refused m.records with
    hall | ⟨before, bad, after, fault, hrs, hbefore, hbad⟩
  · obtain ⟨c, hc⟩ := exists_toCatalog_iff.2 hall
    rw [hc] at hload
    cases hload
  · rw [toCatalog_of_refused hrs hbefore hbad] at hload
    obtain rfl : fault = reason := Except.error.inj hload
    exact ⟨before, bad, after, hrs, hbefore, hbad⟩

/-- **Loading a manifest is a sequence of commits.** It succeeds exactly if
every parent can be told and every entry passes its rules. The catalog
then converts the manifest, and committing its entries to the empty
catalog, in any interleaving of the four sequences, leads to the same
catalog. Otherwise it fails with the fault of the first record that is
not admitted. -/
theorem toCatalog_commits (m : Manifest) :
    ((∃ c, m.toCatalog = .ok c) ↔
      (∀ r ∈ m.entitlements,
        ∃ p, Parent.ofParts r.className r.parentClass r.customParent = .ok p) ∧
      ∀ r ∈ m.records, ∀ e, r.entry = .ok e → e.check = .ok ()) ∧
    (∀ c, m.toCatalog = .ok c → m.Converts c ∧ ∀ es, c.Interleaves es →
      ((Session.start .empty).commitAll es).map Session.catalog = .ok c) ∧
    ∀ reason, m.toCatalog = .error reason → ∃ before bad after,
      m.records = before ++ bad :: after ∧ (∀ q ∈ before, q.Admitted) ∧ bad.Refused reason := by
  refine ⟨exists_toCatalog_iff.trans forall_admitted_iff, fun c hload => ⟨?_, ?_⟩, ?_⟩
  · exact (converts_of_toCatalog hload).1
  · exact fun es hes => commitAll_of_toCatalog hload hes
  · exact fun reason hload => first_refused_of_toCatalog hload

end Storefront.Manifest
