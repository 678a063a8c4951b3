import Storefront.Proofs.Verse.CallsReader
/-!
# Verse — what the call-site documents tell

A purchase document tells the names and prices of the selected offers
and bundles, and of each bundle how many items it has; a consume
document tells the names of the selected consumable entitlements, and
the quantity if there are any. Both are read back as exactly these
stanzas, so two documents are equal just when they tell the same
(`calls_eq_iff`). Names are compared with repetitions and in catalog
order; entries that are not selected leave no trace.
-/

namespace Storefront

open Verse Text

namespace Catalog

/-- The selected offers: names and amounts, in catalog order. -/
def soldOffers (c : Catalog) (s : Selection) : List (String × Int64) :=
  (c.offers.filter fun o => s.contains o.className).map fun o => (o.className, o.price.amount)

/-- The selected bundles: names, numbers of items and amounts, in catalog
order. -/
def soldBundles (c : Catalog) (s : Selection) : List (String × Nat × Int64) :=
  (c.bundles.filter fun b => s.contains b.className).map fun b =>
    (b.className, b.items.length, b.price.amount)

/-- The selected consumable entitlements: names, in catalog order. -/
def consumed (c : Catalog) (s : Selection) : List String :=
  (c.entitlements.filter fun e => e.consumable && s.contains e.className).map (·.className)

end Catalog

namespace Verse

/-- The remark in an empty purchase document. -/
def nothingSold : String := "# Select at least one offer or bundle to generate purchase calls"

/-- The remark in an empty consume document. -/
def nothingConsumed : String :=
  "# Select at least one consumable entitlement to generate consume calls"

/-- A section with a stanza for each member of a list; there is none for
the empty list. -/
def callSection {α : Type} (title : String) (stanza : α → Stanza) (xs : List α) : List Stanza :=
  if xs = [] then [] else .note title :: xs.map stanza

/-- **What a purchase document says**: a remark if nothing is sold, and
otherwise a section for the offers and one for the bundles. -/
def purchaseDocument (offers : List (String × Int64)) (bundles : List (String × Nat × Int64)) :
    List Stanza :=
  if offers = [] ∧ bundles = [] then [.note nothingSold]
  else
    callSection "# Individual Offers" (fun o => .buyOffer o.1 (.vbucks o.2)) offers ++
      callSection "# Bundle Offers" (fun b => .buyBundle b.1 b.2.1 (.vbucks b.2.2)) bundles

/-- **What a consume document says**: a remark if nothing is consumed,
and otherwise a stanza for each name. -/
def consumeDocument (names : List String) (quantity : UInt32) : List Stanza :=
  if names = [] then [.note nothingConsumed] else names.map fun n => .consume n quantity

/-- The offer that a stanza buys. -/
def Stanza.offer? : Stanza → Option (String × Int64)
  | buyOffer name price => some (name, price.amount)
  | _ => none

/-- The bundle that a stanza buys. -/
def Stanza.bundle? : Stanza → Option (String × Nat × Int64)
  | buyBundle name items price => some (name, items, price.amount)
  | _ => none

/-- The name that a stanza consumes, and how often. -/
def Stanza.consumption? : Stanza → Option (String × UInt32)
  | consume name quantity => some (name, quantity)
  | _ => none

variable {offers offers' : List (String × Int64)} {bundles bundles' : List (String × Nat × Int64)}
variable {names names' : List String} {m n : UInt32}

/-! ## The documents tell the lists -/

/-- What is found in a section is found in its members. -/
theorem filterMap_callSection {α β : Type} {title : String} {stanza : α → Stanza} {xs : List α}
    {f : Stanza → Option β} (hnote : f (.note title) = none) :
    (callSection title stanza xs).filterMap f = xs.filterMap fun x => f (stanza x) := by
  by_cases hxs : xs = []
  · simp [callSection, hxs]
  · rw [callSection, if_neg hxs, List.filterMap_cons_none hnote, List.filterMap_map]
    rfl

/-- What is found in a purchase document is found in its two lists. -/
theorem filterMap_purchaseDocument {β : Type} {f : Stanza → Option β}
    (hnote : ∀ text, f (.note text) = none) :
    (purchaseDocument offers bundles).filterMap f =
      offers.filterMap (fun o => f (.buyOffer o.1 (.vbucks o.2))) ++
        bundles.filterMap fun b => f (.buyBundle b.1 b.2.1 (.vbucks b.2.2)) := by
  by_cases hempty : offers = [] ∧ bundles = []
  · obtain ⟨rfl, rfl⟩ := hempty
    simp [purchaseDocument, hnote]
  · rw [purchaseDocument, if_neg hempty, List.filterMap_append,
      filterMap_callSection (hnote _), filterMap_callSection (hnote _)]

/-- The offers are found again in what the document says. -/
theorem filterMap_offer? : (purchaseDocument offers bundles).filterMap Stanza.offer? = offers := by
  rw [filterMap_purchaseDocument fun _ => rfl]
  simp [Stanza.offer?, Price.vbucks]

/-- The bundles are found again in what the document says. -/
theorem filterMap_bundle? :
    (purchaseDocument offers bundles).filterMap Stanza.bundle? = bundles := by
  rw [filterMap_purchaseDocument fun _ => rfl]
  simp [Stanza.bundle?, Price.vbucks]

/-- The names are found again in what the document says, each with the
quantity. -/
theorem filterMap_consumption? :
    (consumeDocument names m).filterMap Stanza.consumption? = names.map fun name => (name, m) := by
  by_cases hnames : names = [] <;>
    simp [consumeDocument, hnames, List.filterMap_map, Function.comp_def, Stanza.consumption?]

/-- **A purchase document says one thing about each two lists.** -/
theorem purchaseDocument_eq_iff :
    purchaseDocument offers bundles = purchaseDocument offers' bundles' ↔
      offers = offers' ∧ bundles = bundles' := by
  constructor
  · intro h
    have hoffers := congrArg (List.filterMap Stanza.offer?) h
    have hbundles := congrArg (List.filterMap Stanza.bundle?) h
    rw [filterMap_offer?, filterMap_offer?] at hoffers
    rw [filterMap_bundle?, filterMap_bundle?] at hbundles
    exact ⟨hoffers, hbundles⟩
  · rintro ⟨rfl, rfl⟩
    rfl

/-- **A consume document tells the quantity if it names anything.** -/
theorem consumeDocument_eq_iff :
    consumeDocument names m = consumeDocument names' n ↔ names = names' ∧ (names ≠ [] → m = n) := by
  constructor
  · intro h
    have hpairs : names.map (fun name => (name, m)) = names'.map fun name => (name, n) := by
      rw [← filterMap_consumption?, h, filterMap_consumption?]
    have hnames : names = names' := by
      simpa [Function.comp_def] using congrArg (List.map Prod.fst) hpairs
    subst hnames
    refine ⟨rfl, fun hne => ?_⟩
    -- any one stanza tells the quantity
    obtain ⟨name, rest, rfl⟩ := List.exists_cons_of_ne_nil hne
    exact (Prod.mk.inj (List.cons.inj hpairs).1).2
  · rintro ⟨rfl, hquantity⟩
    by_cases hnames : names = []
    · simp [consumeDocument, hnames]
    · rw [hquantity hnames]

/-! ## The stanzas of a document -/

theorem mem_callSection {α : Type} {title : String} {stanza : α → Stanza} {xs : List α}
    {t : Stanza} (h : t ∈ callSection title stanza xs) :
    t = .note title ∨ ∃ x ∈ xs, t = stanza x := by
  by_cases hxs : xs = []
  · simp [callSection, hxs] at h
  · rw [callSection, if_neg hxs] at h
    rcases List.mem_cons.1 h with rfl | h
    · exact .inl rfl
    · obtain ⟨x, hx, rfl⟩ := List.mem_map.1 h
      exact .inr ⟨x, hx, rfl⟩

/-- **A stanza of a purchase document** is a note, or buys a member of one
of the lists. -/
theorem mem_purchaseDocument {t : Stanza} (h : t ∈ purchaseDocument offers bundles) :
    (∃ text, t = .note text ∧ SingleLine text ∧ text ≠ "") ∨
      (∃ o ∈ offers, t = .buyOffer o.1 (.vbucks o.2)) ∨
      ∃ b ∈ bundles, t = .buyBundle b.1 b.2.1 (.vbucks b.2.2) := by
  by_cases hempty : offers = [] ∧ bundles = []
  · rw [purchaseDocument, if_pos hempty] at h
    obtain rfl := List.mem_singleton.1 h
    exact .inl ⟨_, rfl, by decide, by decide⟩
  · rw [purchaseDocument, if_neg hempty] at h
    rcases List.mem_append.1 h with h | h
    · rcases mem_callSection h with rfl | hbuys
      · exact .inl ⟨_, rfl, by decide, by decide⟩
      · exact .inr (.inl hbuys)
    · rcases mem_callSection h with rfl | hbuys
      · exact .inl ⟨_, rfl, by decide, by decide⟩
      · exact .inr (.inr hbuys)

/-- **A stanza of a consume document** is a note, or consumes a member of
the list. -/
theorem mem_consumeDocument {t : Stanza} (h : t ∈ consumeDocument names m) :
    (∃ text, t = .note text ∧ SingleLine text ∧ text ≠ "") ∨
      ∃ name ∈ names, t = .consume name m := by
  by_cases hempty : names = []
  · rw [consumeDocument, if_pos hempty] at h
    obtain rfl := List.mem_singleton.1 h
    exact .inl ⟨_, rfl, by decide, by decide⟩
  · rw [consumeDocument, if_neg hempty] at h
    obtain ⟨name, hname, rfl⟩ := List.mem_map.1 h
    exact .inr ⟨name, hname, rfl⟩

/-! Each member of a list has its stanza. -/

theorem unbroken_purchaseDocument (hoffers : ∀ o ∈ offers, SingleLine o.1)
    (hbundles : ∀ b ∈ bundles, SingleLine b.1) :
    ∀ t ∈ purchaseDocument offers bundles, t.Unbroken := by
  intro t ht
  rcases mem_purchaseDocument ht with ⟨text, rfl, htext⟩ | ⟨o, ho, rfl⟩ | ⟨b, hb, rfl⟩
  · exact htext
  · exact hoffers o ho
  · exact hbundles b hb

theorem unbroken_consumeDocument (h : ∀ name ∈ names, SingleLine name) :
    ∀ t ∈ consumeDocument names m, t.Unbroken := by
  intro t ht
  rcases mem_consumeDocument ht with ⟨text, rfl, htext⟩ | ⟨name, hname, rfl⟩
  · exact htext
  · exact h name hname

theorem singleLine_purchaseBanner : ∀ l ∈ purchaseBanner, SingleLine l ∧ l ≠ "" := by
  decide

theorem singleLine_consumeBanner : ∀ l ∈ consumeBanner, SingleLine l ∧ l ≠ "" := by
  decide

end Verse

namespace Catalog

variable {p q : Catalog}

/-! ## The documents of a catalog -/

theorem offerStanzas_eq (c : Catalog) (s : Selection) :
    offerStanzas c s = (c.soldOffers s).map fun o => .buyOffer o.1 (.vbucks o.2) := by
  simp [offerStanzas, soldOffers, Function.comp_def, Price.vbucks]

theorem bundleStanzas_eq (c : Catalog) (s : Selection) :
    bundleStanzas c s = (c.soldBundles s).map fun b => .buyBundle b.1 b.2.1 (.vbucks b.2.2) := by
  simp [bundleStanzas, soldBundles, Function.comp_def, Price.vbucks]

theorem consumeStanzas_eq (c : Catalog) (s : Selection) (m : UInt32) :
    consumeStanzas c s m = (c.consumed s).map fun name => .consume name m := by
  simp [consumeStanzas, consumed, Function.comp_def]

/-- The purchase document says what is sold. -/
theorem purchaseCalls_eq (c : Catalog) (s : Selection) :
    purchaseCalls c s = documentText (purchaseBanner ::
      (purchaseDocument (c.soldOffers s) (c.soldBundles s)).map Stanza.lines) := by
  have hstanzas : purchaseStanzas c s = purchaseDocument (c.soldOffers s) (c.soldBundles s) := by
    rw [purchaseStanzas, offerStanzas_eq, bundleStanzas_eq, purchaseDocument]
    cases c.soldOffers s <;> cases c.soldBundles s <;>
      simp [orElseNote, titled, nothingSold, callSection]
  rw [purchaseCalls, hstanzas]

/-- The consume document says what is consumed. -/
theorem consumeCalls_eq (c : Catalog) (s : Selection) (m : UInt32) :
    consumeCalls c s m = documentText (consumeBanner ::
      (consumeDocument (c.consumed s) m).map Stanza.lines) := by
  have hstanzas : orElseNote (consumeStanzas c s m) nothingConsumed =
      consumeDocument (c.consumed s) m := by
    rw [consumeStanzas_eq, consumeDocument]
    cases c.consumed s <;> simp [orElseNote]
  rw [consumeCalls, ← nothingConsumed, hstanzas]

section Names

variable {c : Catalog} {s : Selection}

/-- A purchase document of unbroken stanzas is read back. -/
theorem readCalls?_purchaseCalls
    (h : ∀ t ∈ purchaseDocument (c.soldOffers s) (c.soldBundles s), t.Unbroken) :
    readCalls? purchaseBanner (purchaseCalls c s) =
      some (purchaseDocument (c.soldOffers s) (c.soldBundles s)) := by
  rw [purchaseCalls_eq]
  exact readCalls?_documentText singleLine_purchaseBanner h

/-- A consume document of unbroken stanzas is read back. -/
theorem readCalls?_consumeCalls {m : UInt32}
    (h : ∀ t ∈ consumeDocument (c.consumed s) m, t.Unbroken) :
    readCalls? consumeBanner (consumeCalls c s m) = some (consumeDocument (c.consumed s) m) := by
  rw [consumeCalls_eq]
  exact readCalls?_documentText singleLine_consumeBanner h

/-- The stanzas of a purchase document are unbroken if the names of what
is selected are. -/
theorem unbroken_sold
    (hoffers : ∀ o ∈ c.offers, s.contains o.className = true → SingleLine o.className)
    (hbundles : ∀ b ∈ c.bundles, s.contains b.className = true → SingleLine b.className) :
    ∀ t ∈ purchaseDocument (c.soldOffers s) (c.soldBundles s), t.Unbroken := by
  refine unbroken_purchaseDocument (fun o ho => ?_) fun b hb => ?_
  · obtain ⟨o, hmem, rfl⟩ := List.mem_map.1 ho
    obtain ⟨ho, hselected⟩ := List.mem_filter.1 hmem
    exact hoffers o ho hselected
  · obtain ⟨b, hmem, rfl⟩ := List.mem_map.1 hb
    obtain ⟨hb, hselected⟩ := List.mem_filter.1 hmem
    exact hbundles b hb hselected

/-- The stanzas of a consume document are unbroken if the names of what is
selected and consumable are. -/
theorem unbroken_consumed (h : ∀ e ∈ c.entitlements, e.consumable = true →
      s.contains e.className = true → SingleLine e.className) (m : UInt32) :
    ∀ t ∈ consumeDocument (c.consumed s) m, t.Unbroken := by
  refine unbroken_consumeDocument fun name hname => ?_
  obtain ⟨e, hmem, rfl⟩ := List.mem_map.1 hname
  obtain ⟨he, hselected⟩ := List.mem_filter.1 hmem
  obtain ⟨hconsumable, hselected⟩ := Bool.and_eq_true_iff.1 hselected
  exact h e he hconsumable hselected

/-- So they are if all class names are of one line. -/
theorem unbroken_of_classNames (h : ∀ name ∈ c.classNames, SingleLine name) (s : Selection) :
    (∀ t ∈ purchaseDocument (c.soldOffers s) (c.soldBundles s), t.Unbroken) ∧
      ∀ m, ∀ t ∈ consumeDocument (c.consumed s) m, t.Unbroken := by
  refine ⟨unbroken_sold (fun o ho _ => h _ ?_) fun b hb _ => h _ ?_,
    fun m => unbroken_consumed (fun e he _ _ => h _ ?_) m⟩
  · exact List.mem_append_left _ (List.mem_append_right _ (List.mem_map_of_mem ho))
  · exact List.mem_append_right _ (List.mem_map_of_mem hb)
  · exact List.mem_append_left _ (List.mem_append_left _ (List.mem_map_of_mem he))

end Names

/-! ## Equal documents -/

/-- **Two purchase documents are equal when they sell the same.** -/
theorem purchaseCalls_eq_iff (hp : ∀ name ∈ p.classNames, SingleLine name)
    (hq : ∀ name ∈ q.classNames, SingleLine name) (s t : Selection) :
    purchaseCalls p s = purchaseCalls q t ↔
      p.soldOffers s = q.soldOffers t ∧ p.soldBundles s = q.soldBundles t := by
  rw [← purchaseDocument_eq_iff]
  constructor
  · intro h
    have hread := readCalls?_purchaseCalls (unbroken_of_classNames hp s).1
    rw [h, readCalls?_purchaseCalls (unbroken_of_classNames hq t).1] at hread
    exact (Option.some.inj hread).symm
  · intro h
    rw [purchaseCalls_eq, purchaseCalls_eq, h]

/-- **Two consume documents are equal when they consume the same**, and
equally often if there is anything to consume. -/
theorem consumeCalls_eq_iff (hp : ∀ name ∈ p.classNames, SingleLine name)
    (hq : ∀ name ∈ q.classNames, SingleLine name) (s t : Selection) (m n : UInt32) :
    consumeCalls p s m = consumeCalls q t n ↔
      p.consumed s = q.consumed t ∧ (p.consumed s ≠ [] → m = n) := by
  rw [← consumeDocument_eq_iff]
  constructor
  · intro h
    have hread := readCalls?_consumeCalls ((unbroken_of_classNames hp s).2 m)
    rw [h, readCalls?_consumeCalls ((unbroken_of_classNames hq t).2 n)] at hread
    exact (Option.some.inj hread).symm
  · intro h
    rw [consumeCalls_eq, consumeCalls_eq, h]

/-- **The call-site documents tell exactly what was selected.** Two
purchase documents are equal just when the selected offers and the
selected bundles are, by name and price and by name, number of items and
price; two consume documents, when the names of the selected consumable
entitlements are, and the quantities unless there are none. The
paragraphs of either document are its banner and then one for each
selected entry, in catalog order, under the headings of the sections that
are not empty, or else a remark that nothing is selected. -/
theorem calls_eq_iff (hp : ∀ name ∈ p.classNames, SingleLine name)
    (hq : ∀ name ∈ q.classNames, SingleLine name) (s t : Selection) :
    (purchaseCalls p s = purchaseCalls q t ↔
      p.soldOffers s = q.soldOffers t ∧ p.soldBundles s = q.soldBundles t) ∧
    (∀ m n, consumeCalls p s m = consumeCalls q t n ↔
      p.consumed s = q.consumed t ∧ (p.consumed s ≠ [] → m = n)) ∧
    (lines (purchaseCalls p s)).splitOn "" = purchaseBanner ::
      (purchaseDocument (p.soldOffers s) (p.soldBundles s)).map Stanza.lines ∧
    ∀ m, (lines (consumeCalls p s m)).splitOn "" = consumeBanner ::
      (consumeDocument (p.consumed s) m).map Stanza.lines := by
  obtain ⟨hsold, hconsumed⟩ := unbroken_of_classNames hp s
  refine ⟨purchaseCalls_eq_iff hp hq s t, consumeCalls_eq_iff hp hq s t, ?_, fun m => ?_⟩
  · rw [purchaseCalls_eq]
    exact splitOn_lines_calls singleLine_purchaseBanner hsold
  · rw [consumeCalls_eq]
    exact splitOn_lines_calls singleLine_consumeBanner (hconsumed m)

/-- A shop in which an offer is listed twice, its name reads like an
annotation, and a bundle has that name too. -/
def echoShop : Catalog where
  entitlements := [{ className := "gem", infoModule := "gem_info", consumable := true }]
  offers :=
    [{ className := "gem | Price: 50 V-Bucks", infoModule := "gem_info", entitlementType := "gem",
       price := .vbucks 100 },
      { className := "gem | Price: 50 V-Bucks", infoModule := "gem_info", entitlementType := "gem",
        price := .vbucks 100 }]
  bundles :=
    [{ className := "gem | Price: 50 V-Bucks", name := .plain "Gems", items := [⟨"gone", 2⟩],
       price := .vbucks 500 }]

/-- The same shop with another icon and one more entry in front, which is
not selected. -/
def quietShop : Catalog :=
  { echoShop with
    entitlements := { className := "coin", infoModule := "", consumable := true } ::
      echoShop.entitlements.map fun e => { e with icon := "gem_icon" } }

/-- Both shops have the same documents for what is selected, and the
quantity tells their consume documents apart. -/
theorem calls_quietShop :
    (∀ name ∈ echoShop.classNames, SingleLine name) ∧
    (∀ name ∈ quietShop.classNames, SingleLine name) ∧
      purchaseCalls echoShop (.all echoShop) = purchaseCalls quietShop (.all echoShop) ∧
      consumeCalls echoShop (.all echoShop) 3 = consumeCalls quietShop (.all echoShop) 3 ∧
      consumeCalls echoShop (.all echoShop) 3 ≠ consumeCalls quietShop (.all echoShop) 4 := by
  have hecho : ∀ name ∈ echoShop.classNames, SingleLine name := by decide
  have hquiet : ∀ name ∈ quietShop.classNames, SingleLine name := by decide
  obtain ⟨hpurchase, hconsume, -, -⟩ :=
    calls_eq_iff hecho hquiet (.all echoShop) (.all echoShop)
  refine ⟨hecho, hquiet, hpurchase.2 ⟨by decide, by decide⟩,
    (hconsume 3 3).2 ⟨by decide, fun _ => rfl⟩, fun h => ?_⟩
  have hquantity := ((hconsume 3 4).1 h).2 (by decide)
  exact absurd hquantity (by decide)

end Catalog

end Storefront
