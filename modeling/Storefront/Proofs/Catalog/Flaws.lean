import Mathlib.Data.List.Forall2
import Mathlib.Data.List.Induction
import Mathlib.Data.List.Nodup
import Storefront.Proofs.Catalog.Entries
/-!
# Catalog — what the integrity report says

A catalog can be flawed at a site: where an entry refers to another,
where a key stands in its sequence, and at a bundle. `FlawAt` says of
each site which flaw is there, if any, from the look-ups and from the
sequences alone. The report names the flaw of every flawed site, in the
order of the sites, and nothing else (`issues_exact`).
-/

namespace Storefront

/-! ## Sites -/

/-- **A site of a catalog**, by positions in its sequences. -/
inductive Site where
  /-- The info module of an entitlement. -/
  | entitlementInfo (i : Nat)
  /-- The info module of an offer. -/
  | offerInfo (i : Nat)
  /-- The entitlement that an offer grants. -/
  | offerEntitlement (i : Nat)
  /-- An item of a bundle. -/
  | bundleItem (i j : Nat)
  /-- The key of an entry. -/
  | key (k : Kind) (i : Nat)
  /-- A bundle as a whole. -/
  | bundle (i : Nat)

/-- Where a site stands in a report: its part, then two positions. -/
def Site.rank : Site → Nat × Nat × Nat
  | entitlementInfo i => (0, i, 0)
  | offerInfo i => (1, i, 0)
  | offerEntitlement i => (1, i, 1)
  | bundleItem i j => (2, i, j)
  | key k i => (3, Kind.all.idxOf k, i)
  | bundle i => (4, i, 0)

/-- **Report order.** The references come first: those of the
entitlements, those of the offers with the info module before the
entitlement, then the items of the bundles. The keys follow, kind after
kind, and the bundles as a whole come last. -/
def Site.Before (s t : Site) : Prop :=
  s.rank.1 < t.rank.1 ∨ s.rank.1 = t.rank.1 ∧
    (s.rank.2.1 < t.rank.2.1 ∨ s.rank.2.1 = t.rank.2.1 ∧ s.rank.2.2 < t.rank.2.2)

namespace Catalog

/-- **The flaw at a site.** A reference is flawed if its look-up fails. A
key is flawed at its first place if it occurs more than once, and the
flaw counts the occurrences. A bundle is flawed if it has no items. -/
inductive FlawAt (c : Catalog) : Site → Issue → Prop
  | entitlementInfo {i : Nat} {e : Entitlement} : c.entitlements[i]? = some e →
      c.findInfo? e.infoModule = none →
      c.FlawAt (.entitlementInfo i)
        (.dangling ⟨.entitlement, e.className, .infoModule, e.infoModule, .info⟩)
  | offerInfo {i : Nat} {o : Offer} : c.offers[i]? = some o →
      c.findInfo? o.infoModule = none →
      c.FlawAt (.offerInfo i) (.dangling ⟨.offer, o.className, .infoModule, o.infoModule, .info⟩)
  | offerEntitlement {i : Nat} {o : Offer} : c.offers[i]? = some o →
      c.findEntitlement? o.entitlementType = none →
      c.FlawAt (.offerEntitlement i)
        (.dangling ⟨.offer, o.className, .entitlementType, o.entitlementType, .entitlement⟩)
  | bundleItem {i j : Nat} {b : Bundle} {item : BundleItem} : c.bundles[i]? = some b →
      b.items[j]? = some item → c.findOffer? item.offer = none →
      c.FlawAt (.bundleItem i j) (.dangling ⟨.bundle, b.className, .offers, item.offer, .offer⟩)
  | key {k : Kind} {i : Nat} {key : String} : (c.keys k)[i]? = some key →
      key ∉ (c.keys k).take i → 2 ≤ (c.keys k).count key →
      c.FlawAt (.key k i) (.duplicate k key ((c.keys k).count key))
  | bundle {i : Nat} {b : Bundle} : c.bundles[i]? = some b → b.items = [] →
      c.FlawAt (.bundle i) (.emptyBundle b.className)

/-- **A clean catalog**: every reference resolves, no key occurs twice
within a kind, and no bundle is empty. -/
structure Clean (c : Catalog) : Prop where
  entitlementInfo : ∀ e ∈ c.entitlements, ∃ m, c.findInfo? e.infoModule = some m
  offerInfo : ∀ o ∈ c.offers, ∃ m, c.findInfo? o.infoModule = some m
  offerEntitlement : ∀ o ∈ c.offers, ∃ e, c.findEntitlement? o.entitlementType = some e
  bundleItem : ∀ b ∈ c.bundles, ∀ i ∈ b.items, ∃ o, c.findOffer? i.offer = some o
  key : ∀ k, (c.keys k).Nodup
  bundle : ∀ b ∈ c.bundles, b.items ≠ []

end Catalog

/-! ## Surveys

A survey goes through a list and writes down findings, each a site and
its flaw. -/

/-- One finding, if there is a flaw. -/
def finding (flawed : Prop) [Decidable flawed] (s : Site) (issue : Issue) : List (Site × Issue) :=
  if flawed then [(s, issue)] else []

theorem mem_finding {flawed : Prop} [Decidable flawed] {s : Site} {issue : Issue}
    {f : Site × Issue} : f ∈ finding flawed s issue ↔ flawed ∧ f = (s, issue) := by
  by_cases h : flawed <;> simp [finding, h]

theorem map_snd_finding {flawed : Prop} [Decidable flawed] {s : Site} {issue : Issue} :
    (finding flawed s issue).map Prod.snd = if flawed then [issue] else [] := by
  by_cases h : flawed <;> simp [finding, h]

/-- A finding is at the site that was looked at. -/
theorem site_of_mem_finding {flawed : Prop} [Decidable flawed] {s : Site} {issue : Issue}
    {f : Site × Issue} (h : f ∈ finding flawed s issue) : f.1 = s :=
  congrArg Prod.fst (mem_finding.1 h).2

/-- The findings at the members of a list, from their positions. -/
def survey {α : Type} (xs : List α) (f : Nat → α → List (Site × Issue)) : List (Site × Issue) :=
  xs.zipIdx.flatMap fun x => f x.2 x.1

section Survey

variable {α : Type} {xs : List α} {f : Nat → α → List (Site × Issue)}

theorem mem_survey {p : Site × Issue} :
    p ∈ survey xs f ↔ ∃ i x, xs[i]? = some x ∧ p ∈ f i x := by
  simp only [survey, List.mem_flatMap, List.mem_zipIdx_iff_getElem?]
  constructor
  · rintro ⟨⟨x, i⟩, hx, hp⟩
    exact ⟨i, x, hx, hp⟩
  · rintro ⟨i, x, hx, hp⟩
    exact ⟨⟨x, i⟩, hx, hp⟩

/-- The flaws of a survey do not depend on positions if those at each
member do not. -/
theorem map_snd_survey {g : α → List Issue} (h : ∀ i x, (f i x).map Prod.snd = g x) :
    (survey xs f).map Prod.snd = xs.flatMap g := by
  have hmembers : (survey xs f).map Prod.snd = (xs.zipIdx.map Prod.fst).flatMap g := by
    simp only [survey, List.map_flatMap, List.flatMap_map, h]
  rw [hmembers, List.zipIdx_map_fst]

end Survey

/-! ## First places -/

/-- **Erasing repetitions keeps the first place of each name.** -/
theorem eraseDups_eq_map_filter (names : List String) :
    names.eraseDups = (names.zipIdx.filter fun p => p.1 ∉ names.take p.2).map Prod.fst := by
  -- on the last name, since the names in front of a place do not change then
  induction names using List.reverseRecOn with
  | nil => rfl
  | append_singleton names name ih =>
    have hfront : names.zipIdx.filter (fun p => p.1 ∉ (names ++ [name]).take p.2) =
        names.zipIdx.filter fun p => p.1 ∉ names.take p.2 := by
      refine List.filter_congr fun p hp => ?_
      obtain ⟨hlt, -⟩ := List.getElem?_eq_some_iff.1 (List.mem_zipIdx_iff_getElem?.1 hp)
      rw [List.take_append_of_le_length (Nat.le_of_lt hlt)]
    rw [List.eraseDups_append, ih, List.zipIdx_append, List.filter_append, hfront,
      List.map_append]
    congr 1
    by_cases hmem : name ∈ names <;> simp [List.removeAll, hmem, List.eraseDups_cons]

theorem map_filter_eq_flatMap {α β : Type} (p : α → Bool) (f : α → β) (xs : List α) :
    (xs.filter p).map f = xs.flatMap fun x => if p x then [f x] else [] := by
  induction xs with
  | nil => rfl
  | cons x xs ih =>
    rw [List.filter_cons, List.flatMap_cons, ← ih]
    split <;> simp

/-! ## Report order -/

/-- **Findings of one part of a report**, in report order. -/
structure InPart (part : Nat) (fs : List (Site × Issue)) : Prop where
  inOrder : fs.Pairwise fun f g => f.1.Before g.1
  rank_eq : ∀ f ∈ fs, f.1.rank.1 = part

namespace InPart

variable {part : Nat} {fs gs : List (Site × Issue)}

theorem finding {flawed : Prop} [Decidable flawed] {s : Site} {issue : Issue}
    (h : s.rank.1 = part) : InPart part (finding flawed s issue) where
  inOrder := by by_cases hflawed : flawed <;> simp [Storefront.finding, hflawed]
  rank_eq := by
    intro f hf
    rw [site_of_mem_finding hf, h]

theorem append (hfs : InPart part fs) (hgs : InPart part gs)
    (h : ∀ f ∈ fs, ∀ g ∈ gs, f.1.Before g.1) : InPart part (fs ++ gs) where
  inOrder := List.pairwise_append.2 ⟨hfs.inOrder, hgs.inOrder, h⟩
  rank_eq := List.forall_mem_append.2 ⟨hfs.rank_eq, hgs.rank_eq⟩

/-- **A survey is in order** if the findings at each member are, and
stand before those at later members. -/
theorem survey {α : Type} {xs : List α} {f : Nat → α → List (Site × Issue)}
    (hat : ∀ i x, InPart part (f i x))
    (hbetween : ∀ i j x y, i < j → ∀ p ∈ f i x, ∀ q ∈ f j y, p.1.Before q.1) :
    InPart part (survey xs f) where
  inOrder := by
    have hpositions : xs.zipIdx.Pairwise fun x y => x.2 < y.2 := by
      rw [← List.pairwise_map (f := Prod.snd) (R := (· < ·)), List.zipIdx_map_snd]
      exact List.pairwise_lt_range'
    rw [Storefront.survey, List.pairwise_flatMap]
    exact ⟨fun x _ => (hat x.2 x.1).inOrder, hpositions.imp fun hlt => hbetween _ _ _ _ hlt⟩
  rank_eq := by
    intro p hp
    obtain ⟨i, x, -, hp⟩ := mem_survey.1 hp
    exact (hat i x).rank_eq p hp

end InPart

/-- **The parts of a report up to one**, in report order. -/
structure UpToPart (part : Nat) (fs : List (Site × Issue)) : Prop where
  inOrder : fs.Pairwise fun f g => f.1.Before g.1
  rank_lt : ∀ f ∈ fs, f.1.rank.1 < part

theorem InPart.upToPart {part : Nat} {fs : List (Site × Issue)} (h : InPart part fs) :
    UpToPart (part + 1) fs where
  inOrder := h.inOrder
  rank_lt := by
    intro f hf
    rw [h.rank_eq f hf]
    exact Nat.lt_succ_self part

/-- **The next part follows the parts before it**: findings of different
parts are told apart by the part alone. -/
theorem UpToPart.append {part : Nat} {fs gs : List (Site × Issue)} (hfs : UpToPart part fs)
    (hgs : InPart part gs) : UpToPart (part + 1) (fs ++ gs) where
  inOrder := by
    refine List.pairwise_append.2 ⟨hfs.inOrder, hgs.inOrder, fun f hf g hg => .inl ?_⟩
    rw [hgs.rank_eq g hg]
    exact hfs.rank_lt f hf
  rank_lt := by
    refine List.forall_mem_append.2 ⟨fun f hf => ?_, hgs.upToPart.rank_lt⟩
    exact Nat.lt_succ_of_lt (hfs.rank_lt f hf)

namespace Catalog

variable {c : Catalog}

/-! ## The findings of a catalog -/

/-- The findings at the references of entitlements. -/
def entitlementFindings (c : Catalog) : List (Site × Issue) :=
  survey c.entitlements fun i e =>
    finding (c.findInfo? e.infoModule = none) (.entitlementInfo i)
      (.dangling ⟨.entitlement, e.className, .infoModule, e.infoModule, .info⟩)

/-- The findings at the references of offers. -/
def offerFindings (c : Catalog) : List (Site × Issue) :=
  survey c.offers fun i o =>
    finding (c.findInfo? o.infoModule = none) (.offerInfo i)
        (.dangling ⟨.offer, o.className, .infoModule, o.infoModule, .info⟩) ++
      finding (c.findEntitlement? o.entitlementType = none) (.offerEntitlement i)
        (.dangling ⟨.offer, o.className, .entitlementType, o.entitlementType, .entitlement⟩)

/-- The findings at the items of bundles. -/
def itemFindings (c : Catalog) : List (Site × Issue) :=
  survey c.bundles fun i b => survey b.items fun j item =>
    finding (c.findOffer? item.offer = none) (.bundleItem i j)
      (.dangling ⟨.bundle, b.className, .offers, item.offer, .offer⟩)

/-- The findings at the keys of a kind. -/
def keyFindings (c : Catalog) (k : Kind) : List (Site × Issue) :=
  survey (c.keys k) fun i key =>
    finding (key ∉ (c.keys k).take i ∧ 2 ≤ (c.keys k).count key) (.key k i)
      (.duplicate k key ((c.keys k).count key))

/-- The findings at the bundles as a whole. -/
def bundleFindings (c : Catalog) : List (Site × Issue) :=
  survey c.bundles fun i b => finding (b.items = []) (.bundle i) (.emptyBundle b.className)

/-- The findings of a catalog, in report order. -/
def findings (c : Catalog) : List (Site × Issue) :=
  c.entitlementFindings ++ c.offerFindings ++ c.itemFindings ++ Kind.all.flatMap c.keyFindings ++
    c.bundleFindings

/-- **The findings are the flaws at the sites.** -/
theorem mem_findings {s : Site} {issue : Issue} :
    (s, issue) ∈ c.findings ↔ c.FlawAt s issue := by
  simp only [findings, entitlementFindings, offerFindings, itemFindings, keyFindings,
    bundleFindings, List.mem_append, List.mem_flatMap, mem_survey, mem_finding, Prod.mk.injEq]
  constructor
  · rintro ((((⟨i, e, he, hnone, rfl, rfl⟩ | ⟨i, o, ho, ⟨hnone, rfl, rfl⟩ | ⟨hnone, rfl, rfl⟩⟩) |
      ⟨i, b, hb, j, item, hitem, hnone, rfl, rfl⟩) |
      ⟨k, -, i, key, hkey, ⟨hfirst, hcount⟩, rfl, rfl⟩) | ⟨i, b, hb, hempty, rfl, rfl⟩)
    · exact .entitlementInfo he hnone
    · exact .offerInfo ho hnone
    · exact .offerEntitlement ho hnone
    · exact .bundleItem hb hitem hnone
    · exact .key hkey hfirst hcount
    · exact .bundle hb hempty
  · intro h
    cases h with
    | entitlementInfo he hnone => exact .inl (.inl (.inl (.inl ⟨_, _, he, hnone, rfl, rfl⟩)))
    | offerInfo ho hnone => exact .inl (.inl (.inl (.inr ⟨_, _, ho, .inl ⟨hnone, rfl, rfl⟩⟩)))
    | offerEntitlement ho hnone =>
      exact .inl (.inl (.inl (.inr ⟨_, _, ho, .inr ⟨hnone, rfl, rfl⟩⟩)))
    | bundleItem hb hitem hnone =>
      exact .inl (.inl (.inr ⟨_, _, hb, _, _, hitem, hnone, rfl, rfl⟩))
    | @key k i key hkey hfirst hcount =>
      have hk : k ∈ Kind.all := by cases k <;> simp [Kind.all]
      exact .inl (.inr ⟨k, hk, i, key, hkey, ⟨hfirst, hcount⟩, rfl, rfl⟩)
    | bundle hb hempty => exact .inr ⟨_, _, hb, hempty, rfl, rfl⟩

/-! Each part of the findings is in order, and the parts follow each
other. -/

theorem inPart_entitlementFindings (c : Catalog) : InPart 0 c.entitlementFindings := by
  refine .survey (fun _ _ => .finding rfl) fun i j e d hij f hf g hg => ?_
  rw [site_of_mem_finding hf, site_of_mem_finding hg]
  exact .inr ⟨rfl, .inl hij⟩

theorem inPart_offerFindings (c : Catalog) : InPart 1 c.offerFindings := by
  refine .survey (fun i o => ?_) fun i j o p hij f hf g hg => ?_
  · refine .append (.finding rfl) (.finding rfl) fun f hf g hg => ?_
    rw [site_of_mem_finding hf, site_of_mem_finding hg]
    exact .inr ⟨rfl, .inr ⟨rfl, Nat.zero_lt_one⟩⟩
  · rcases List.mem_append.1 hf with hf | hf <;> rcases List.mem_append.1 hg with hg | hg <;>
      rw [site_of_mem_finding hf, site_of_mem_finding hg] <;> exact .inr ⟨rfl, .inl hij⟩

theorem inPart_itemFindings (c : Catalog) : InPart 2 c.itemFindings := by
  refine .survey (fun i b => ?_) fun i j b d hij f hf g hg => ?_
  · refine .survey (fun _ _ => .finding rfl) fun m n x y hmn f hf g hg => ?_
    rw [site_of_mem_finding hf, site_of_mem_finding hg]
    exact .inr ⟨rfl, .inr ⟨rfl, hmn⟩⟩
  · obtain ⟨m, x, -, hf⟩ := mem_survey.1 hf
    obtain ⟨n, y, -, hg⟩ := mem_survey.1 hg
    rw [site_of_mem_finding hf, site_of_mem_finding hg]
    exact .inr ⟨rfl, .inl hij⟩

theorem inPart_keyFindings (c : Catalog) : InPart 3 (Kind.all.flatMap c.keyFindings) := by
  have hkind : ∀ k, InPart 3 (c.keyFindings k) := by
    intro k
    refine .survey (fun _ _ => .finding rfl) fun i j x y hij f hf g hg => ?_
    rw [site_of_mem_finding hf, site_of_mem_finding hg]
    exact .inr ⟨rfl, .inr ⟨rfl, hij⟩⟩
  -- within a kind by position, and between kinds by their places among the kinds
  have hkinds : Kind.all.Pairwise fun k l => Kind.all.idxOf k < Kind.all.idxOf l := by decide
  refine ⟨List.pairwise_flatMap.2 ⟨fun k _ => (hkind k).inOrder, hkinds.imp ?_⟩, fun f hf => ?_⟩
  · intro k l hkl f hf g hg
    obtain ⟨i, x, -, hf⟩ := mem_survey.1 hf
    obtain ⟨j, y, -, hg⟩ := mem_survey.1 hg
    rw [site_of_mem_finding hf, site_of_mem_finding hg]
    exact .inr ⟨rfl, .inl hkl⟩
  · obtain ⟨k, -, hf⟩ := List.mem_flatMap.1 hf
    exact (hkind k).rank_eq f hf

theorem inPart_bundleFindings (c : Catalog) : InPart 4 c.bundleFindings := by
  refine .survey (fun _ _ => .finding rfl) fun i j b d hij f hf g hg => ?_
  rw [site_of_mem_finding hf, site_of_mem_finding hg]
  exact .inr ⟨rfl, .inl hij⟩

/-- **The findings stand in report order.** -/
theorem pairwise_findings (c : Catalog) : c.findings.Pairwise fun f g => f.1.Before g.1 := by
  have hentitlements := (inPart_entitlementFindings c).upToPart
  have hoffers := hentitlements.append (inPart_offerFindings c)
  have hitems := hoffers.append (inPart_itemFindings c)
  have hkeys := hitems.append (inPart_keyFindings c)
  have hbundles := hkeys.append (inPart_bundleFindings c)
  exact hbundles.inOrder

/-! ## The report -/

/-! The report asks for the target of a reference among the keys of a
kind, and a look-up goes through its sequence. -/

theorem not_resolves_info {kind : Kind} {owner : String} {field : RefField} {target : String} :
    (!c.resolves ⟨kind, owner, field, target, .info⟩) = true ↔ c.findInfo? target = none := by
  simp [resolves, keys, entries, Entry.key, findInfo?]

theorem not_resolves_entitlement {kind : Kind} {owner : String} {field : RefField}
    {target : String} : (!c.resolves ⟨kind, owner, field, target, .entitlement⟩) = true ↔
      c.findEntitlement? target = none := by
  simp [resolves, keys, entries, Entry.key, findEntitlement?]

theorem not_resolves_offer {kind : Kind} {owner : String} {field : RefField} {target : String} :
    (!c.resolves ⟨kind, owner, field, target, .offer⟩) = true ↔ c.findOffer? target = none := by
  simp [resolves, keys, entries, Entry.key, findOffer?]

/-- The references of a catalog are those of its entitlements, its offers
and its bundles. -/
theorem references_eq (c : Catalog) :
    c.references = c.entitlements.flatMap Entitlement.references ++
      c.offers.flatMap Offer.references ++ c.bundles.flatMap Bundle.references := by
  simp [references, allEntries, Kind.all, entries, List.flatMap_map, Entry.references]

/-- The findings at references are the dangling references. -/
theorem map_snd_dangling (c : Catalog) :
    (c.entitlementFindings ++ c.offerFindings ++ c.itemFindings).map Prod.snd =
      c.danglingIssues := by
  have hentitlements : c.entitlementFindings.map Prod.snd = c.entitlements.flatMap fun e =>
      e.references.flatMap fun r => if !c.resolves r then [.dangling r] else [] := by
    refine map_snd_survey fun i e => ?_
    simp only [map_snd_finding, Entitlement.references, List.flatMap_singleton, not_resolves_info]
  have hoffers : c.offerFindings.map Prod.snd = c.offers.flatMap fun o =>
      o.references.flatMap fun r => if !c.resolves r then [.dangling r] else [] := by
    refine map_snd_survey fun i o => ?_
    simp only [List.map_append, map_snd_finding, Offer.references, List.flatMap_cons,
      List.flatMap_nil, List.append_nil, not_resolves_info, not_resolves_entitlement]
  have hitems : c.itemFindings.map Prod.snd = c.bundles.flatMap fun b =>
      b.references.flatMap fun r => if !c.resolves r then [.dangling r] else [] := by
    refine map_snd_survey fun i b => ?_
    rw [Bundle.references, List.flatMap_map]
    refine map_snd_survey fun j item => ?_
    simp only [map_snd_finding, not_resolves_offer]
  rw [danglingIssues, map_filter_eq_flatMap, references_eq, List.map_append, List.map_append,
    hentitlements, hoffers, hitems]
  simp only [List.flatMap_append, List.flatMap_assoc]

/-- The findings at keys are the duplicates. -/
theorem map_snd_duplicate (c : Catalog) :
    (Kind.all.flatMap c.keyFindings).map Prod.snd = c.duplicateIssues := by
  rw [List.map_flatMap, duplicateIssues]
  congr 1
  funext k
  -- the report keeps the first places and then looks at the counts, the findings do both at once
  rw [repeated, eraseDups_eq_map_filter, List.map_map, List.filter_map, List.map_map,
    List.filter_filter, map_filter_eq_flatMap, keyFindings, survey, List.map_flatMap]
  congr 1
  funext x
  simp [map_snd_finding, Nat.lt_iff_add_one_le, and_comm]

/-- The findings at bundles are the empty bundles. -/
theorem map_snd_emptyBundle (c : Catalog) :
    c.bundleFindings.map Prod.snd = c.emptyBundleIssues := by
  rw [emptyBundleIssues, map_filter_eq_flatMap]
  refine map_snd_survey fun i b => ?_
  simp only [map_snd_finding, List.isEmpty_iff]

/-- **The flaws that are found are those of the report.** -/
theorem map_snd_findings (c : Catalog) : c.findings.map Prod.snd = c.issues := by
  rw [findings, List.map_append, List.map_append, map_snd_dangling, map_snd_duplicate,
    map_snd_emptyBundle, issues]

/-- A name that occurs twice is a flawed key at its first place. -/
theorem flawAt_key_idxOf {k : Kind} {name : String} (h : 2 ≤ (c.keys k).count name) :
    c.FlawAt (.key k ((c.keys k).idxOf name))
      (.duplicate k name ((c.keys k).count name)) := by
  have hmem : name ∈ c.keys k := List.count_pos_iff.1 (by omega)
  refine .key (List.getElem?_idxOf hmem) ?_ h
  rw [List.mem_take_iff_idxOf_lt hmem]
  exact Nat.lt_irrefl _

/-- **A catalog is clean when none of its sites is flawed.** -/
theorem clean_iff : c.Clean ↔ ∀ s issue, ¬ c.FlawAt s issue := by
  constructor
  · intro hclean s issue hflaw
    cases hflaw with
    | entitlementInfo he hnone =>
      obtain ⟨m, hm⟩ := hclean.entitlementInfo _ (List.mem_of_getElem? he)
      simp [hm] at hnone
    | offerInfo ho hnone =>
      obtain ⟨m, hm⟩ := hclean.offerInfo _ (List.mem_of_getElem? ho)
      simp [hm] at hnone
    | offerEntitlement ho hnone =>
      obtain ⟨e, he⟩ := hclean.offerEntitlement _ (List.mem_of_getElem? ho)
      simp [he] at hnone
    | bundleItem hb hitem hnone =>
      obtain ⟨o, ho⟩ := hclean.bundleItem _ (List.mem_of_getElem? hb) _
        (List.mem_of_getElem? hitem)
      simp [ho] at hnone
    | @key k i key hkey hfirst hcount =>
      have := List.nodup_iff_count_le_one.1 (hclean.key k) key
      omega
    | bundle hb hempty => exact hclean.bundle _ (List.mem_of_getElem? hb) hempty
  · intro hflawless
    refine ⟨fun e he => ?_, fun o ho => ?_, fun o ho => ?_, fun b hb item hitem => ?_, fun k => ?_,
      fun b hb hempty => ?_⟩
    · obtain ⟨i, hi⟩ := List.mem_iff_getElem?.1 he
      exact Option.ne_none_iff_exists'.1 fun hnone => hflawless _ _ (.entitlementInfo hi hnone)
    · obtain ⟨i, hi⟩ := List.mem_iff_getElem?.1 ho
      exact Option.ne_none_iff_exists'.1 fun hnone => hflawless _ _ (.offerInfo hi hnone)
    · obtain ⟨i, hi⟩ := List.mem_iff_getElem?.1 ho
      exact Option.ne_none_iff_exists'.1 fun hnone => hflawless _ _ (.offerEntitlement hi hnone)
    · obtain ⟨i, hi⟩ := List.mem_iff_getElem?.1 hb
      obtain ⟨j, hj⟩ := List.mem_iff_getElem?.1 hitem
      exact Option.ne_none_iff_exists'.1 fun hnone => hflawless _ _ (.bundleItem hi hj hnone)
    · refine List.nodup_iff_count_le_one.2 fun name => ?_
      by_contra hcount
      have htwice : 2 ≤ (c.keys k).count name := by omega
      exact hflawless _ _ (flawAt_key_idxOf htwice)
    · obtain ⟨i, hi⟩ := List.mem_iff_getElem?.1 hb
      exact hflawless _ _ (.bundle hi hempty)

/-- **The report is empty just when the catalog is clean.** -/
theorem issues_eq_nil_iff : c.issues = [] ↔ c.Clean := by
  rw [← map_snd_findings, List.map_eq_nil_iff, List.eq_nil_iff_forall_not_mem, clean_iff,
    Prod.forall]
  simp only [mem_findings]

/-- **The report is sound, complete and exact.** Its issues are the flaws
of the flawed sites, one for each such site, in report order. It is empty
just when the catalog is clean. -/
theorem issues_exact (c : Catalog) :
    (∃ sites : List Site, sites.Pairwise Site.Before ∧
      (∀ s, s ∈ sites ↔ ∃ issue, c.FlawAt s issue) ∧ List.Forall₂ c.FlawAt sites c.issues) ∧
    (c.issues = [] ↔ c.Clean) := by
  -- the findings carry the sites, and without their sites they are the report
  refine ⟨⟨c.findings.map Prod.fst, ?_, fun s => ?_, ?_⟩, issues_eq_nil_iff⟩
  · exact List.pairwise_map.2 c.pairwise_findings
  · simp [mem_findings]
  · rw [← map_snd_findings, List.forall₂_map_left_iff, List.forall₂_map_right_iff,
      List.forall₂_same]
    exact fun f hf => mem_findings.1 hf

/-- The report of a shop in which an offer is listed twice, and a bundle
names a lost one twice. -/
example :
    let gem : Offer :=
      { className := "gem", infoModule := "gem_info", entitlementType := "gem",
        price := .vbucks 100 }
    issues
        { infos := [⟨"gem_info", .plain "Gem", .plain "", .plain ""⟩]
          offers := [gem, { gem with infoModule := "ruby_info" }]
          bundles :=
            [{ className := "gem", name := .plain "Gems", items := [⟨"ruby", 1⟩, ⟨"ruby", 2⟩],
               price := .vbucks 50 }] } =
      [.dangling ⟨.offer, "gem", .entitlementType, "gem", .entitlement⟩,
        .dangling ⟨.offer, "gem", .infoModule, "ruby_info", .info⟩,
        .dangling ⟨.offer, "gem", .entitlementType, "gem", .entitlement⟩,
        .dangling ⟨.bundle, "gem", .offers, "ruby", .offer⟩,
        .dangling ⟨.bundle, "gem", .offers, "ruby", .offer⟩,
        .duplicate .offer "gem" 2] := by
  decide

end Catalog

end Storefront
