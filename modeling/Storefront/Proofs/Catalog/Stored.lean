import Storefront.Catalog.Codec
import Storefront.Proofs.Json.Layout
import Storefront.Proofs.Results
/-!
# Catalog — the stored form loses nothing

What is written for a catalog or an entry reads back as itself. Reading
sees what the layout of a value names and no more: the order of fields,
fields that a structure does not know and a default that is written out
make no difference, at any depth.
-/

namespace Storefront

open Json (Layout Members Agree Step Reads Rewritten agree_of_step reads_whole)

variable {j k : Json} {fs : List (String × Json)}

/-! ## Words -/

@[simp] theorem Json.int64?_toInt (n : Int64) : int64? (.int n.toInt) = some n := by
  have hfits : (Int64.minValue.toInt ≤ n.toInt && n.toInt ≤ Int64.maxValue.toInt) = true :=
    Bool.and_eq_true_iff.2 ⟨decide_eq_true n.minValue_le_toInt, decide_eq_true n.toInt_le⟩
  rw [int64?, if_pos hfits, Int64.ofInt_toInt]

@[simp] theorem Json.uint32?_toNat (n : UInt32) : uint32? (.ofNat n.toNat) = some n := by
  have hfits : n.toNat < 4294967296 := n.toNat_lt
  simp [uint32?, ofNat]
  omega

/-- A list is read back where its items are. -/
theorem Json.list?_map {α : Type} {read : Json → Option α} {write : α → Json}
    (h : ∀ x, read (write x) = some x) (xs : List α) :
    list? read (.list (xs.map write)) = some xs :=
  mapM_map_eq_some fun x _ => h x

@[simp] theorem Currency.ofJson?_name (c : Currency) : ofJson? (.text c.name) = some c := by
  cases c
  simp [ofJson?, Json.word?, ofName?]

/-! ## Messages, parents and prices -/

namespace Message

/-- The fields of a message, of which the key may be missing. -/
def members : Members := [("key", .whole, some (.text "")), ("text", .whole, none)]

theorem ofJson?_congr (h : Agree members ["key", "text"] j k) : ofJson? k = ofJson? j := by
  simp only [ofJson?]
  rw [h.optional "key" (reads_whole Json.text?) rfl rfl,
    h.required "text" (reads_whole Json.text?) rfl]

theorem reads : Reads (.fields members) ofJson? := fun _ _ h => ofJson?_congr (agree_of_step h)

@[simp] theorem ofJson?_toJson (m : Message) : ofJson? m.toJson = some m := by
  simp [ofJson?, toJson, Json.optional, Json.required, Json.member?, Json.lookup, Json.text?]

end Message

@[simp] theorem Parent.ofJson?_toJson (p : Parent) : ofJson? p.toJson = some p := by
  cases p with
  | custom name => rfl
  | island => simp [ofJson?, toJson, Json.word?]
  | cosmetic => simp [ofJson?, toJson, Json.word?, kindName]

/-- **A parent's record has one field.** -/
theorem Parent.ofJson?_record (h : fs.length ≠ 1) : ofJson? (.record fs) = none := by
  match fs with
  | [] => rfl
  | [_] => exact absurd rfl h
  | _ :: _ :: _ => simp [ofJson?, Json.word?]

namespace Price

/-- The fields of a price, of which the currency may be missing. -/
def members : Members := [("type", .whole, some (.text "vbucks")), ("amount", .whole, none)]

theorem ofJson?_congr (h : Agree members ["type", "amount"] j k) : ofJson? k = ofJson? j := by
  simp only [ofJson?]
  rw [h.optional "type" (reads_whole Currency.ofJson?) rfl (Currency.ofJson?_name .vbucks),
    h.required "amount" (reads_whole Json.int64?) rfl]

theorem reads : Reads (.fields members) ofJson? := fun _ _ h => ofJson?_congr (agree_of_step h)

@[simp] theorem ofJson?_toJson (p : Price) : ofJson? p.toJson = some p := by
  simp [ofJson?, toJson, Json.optional, Json.required, Json.member?, Json.lookup]

end Price

/-! ## Entries -/

namespace InfoModule

/-- The fields of an info module. -/
def members : Members :=
  [("module_name", .whole, none),
    ("name", .fields Message.members, none),
    ("description", .fields Message.members, none),
    ("short_description", .fields Message.members, none)]

theorem ofJson?_congr
    (h : Agree members ["module_name", "name", "description", "short_description"] j k) :
    ofJson? k = ofJson? j := by
  simp only [ofJson?]
  rw [h.required "module_name" (reads_whole Json.text?) rfl,
    h.required "name" Message.reads rfl,
    h.required "description" Message.reads rfl,
    h.required "short_description" Message.reads rfl]

theorem reads : Reads (.fields members) ofJson? := fun _ _ h => ofJson?_congr (agree_of_step h)

@[simp] theorem ofJson?_fields (m : InfoModule) : ofJson? (.record m.fields) = some m := by
  simp [ofJson?, fields, Json.required, Json.member?, Json.lookup, Json.text?]

end InfoModule

namespace Entitlement

/-- The fields of an entitlement. -/
def members : Members :=
  [("class_name", .whole, none),
    ("parent", .whole, none),
    ("info_module", .whole, none),
    ("icon", .whole, none),
    ("consequential_to_gameplay", .whole, none),
    ("max_count", .whole, none),
    ("consumable", .whole, none),
    ("paid_random_item", .whole, none),
    ("paid_area", .whole, none)]

theorem ofJson?_congr
    (h : Agree members ["class_name", "parent", "info_module", "icon",
      "consequential_to_gameplay", "max_count", "consumable", "paid_random_item", "paid_area"]
      j k) :
    ofJson? k = ofJson? j := by
  simp only [ofJson?]
  rw [h.required "class_name" (reads_whole Json.text?) rfl,
    h.required "parent" (reads_whole Parent.ofJson?) rfl,
    h.required "info_module" (reads_whole Json.text?) rfl,
    h.required "icon" (reads_whole Json.text?) rfl,
    h.required "consequential_to_gameplay" (reads_whole Json.bool?) rfl,
    h.required "max_count" (reads_whole Json.int64?) rfl,
    h.required "consumable" (reads_whole Json.bool?) rfl,
    h.required "paid_random_item" (reads_whole Json.bool?) rfl,
    h.required "paid_area" (reads_whole Json.bool?) rfl]

theorem reads : Reads (.fields members) ofJson? := fun _ _ h => ofJson?_congr (agree_of_step h)

@[simp] theorem ofJson?_fields (e : Entitlement) : ofJson? (.record e.fields) = some e := by
  simp [ofJson?, fields, Json.required, Json.member?, Json.lookup, Json.text?, Json.bool?]

end Entitlement

namespace Offer

/-- The fields of an offer. -/
def members : Members :=
  [("class_name", .whole, none),
    ("info_module", .whole, none),
    ("icon", .whole, none),
    ("entitlement_type", .whole, none),
    ("price", .fields Price.members, none)]

theorem ofJson?_congr
    (h : Agree members ["class_name", "info_module", "icon", "entitlement_type", "price"] j k) :
    ofJson? k = ofJson? j := by
  simp only [ofJson?]
  rw [h.required "class_name" (reads_whole Json.text?) rfl,
    h.required "info_module" (reads_whole Json.text?) rfl,
    h.required "icon" (reads_whole Json.text?) rfl,
    h.required "entitlement_type" (reads_whole Json.text?) rfl,
    h.required "price" Price.reads rfl]

theorem reads : Reads (.fields members) ofJson? := fun _ _ h => ofJson?_congr (agree_of_step h)

@[simp] theorem ofJson?_fields (o : Offer) : ofJson? (.record o.fields) = some o := by
  simp [ofJson?, fields, Json.required, Json.member?, Json.lookup, Json.text?]

end Offer

namespace BundleItem

/-- The fields of a bundle's item. -/
def members : Members := [("offer_ref", .whole, none), ("quantity", .whole, none)]

theorem ofJson?_congr (h : Agree members ["offer_ref", "quantity"] j k) :
    ofJson? k = ofJson? j := by
  simp only [ofJson?]
  rw [h.required "offer_ref" (reads_whole Json.text?) rfl,
    h.required "quantity" (reads_whole Json.uint32?) rfl]

theorem reads : Reads (.fields members) ofJson? := fun _ _ h => ofJson?_congr (agree_of_step h)

@[simp] theorem ofJson?_toJson (i : BundleItem) : ofJson? i.toJson = some i := by
  have hoffer : Json.member? ["offer_ref", "quantity"] i.toJson "offer_ref" =
      some (.text i.offer) := by simp [toJson, Json.member?, Json.lookup]
  have hquantity : Json.member? ["offer_ref", "quantity"] i.toJson "quantity" =
      some (.ofNat i.quantity.toNat) := by simp [toJson, Json.member?, Json.lookup]
  rw [ofJson?, Json.required, hoffer, Json.required, hquantity, Option.bind_some,
    Option.bind_some, Json.uint32?_toNat]
  rfl

end BundleItem

namespace Bundle

/-- The fields of a bundle. -/
def members : Members :=
  [("class_name", .whole, none),
    ("name", .fields Message.members, none),
    ("description", .fields Message.members, none),
    ("short_description", .fields Message.members, none),
    ("icon", .whole, none),
    ("offers", .items (.fields BundleItem.members), none),
    ("price", .fields Price.members, none)]

theorem ofJson?_congr
    (h : Agree members ["class_name", "name", "description", "short_description", "icon",
      "offers", "price"] j k) :
    ofJson? k = ofJson? j := by
  simp only [ofJson?]
  rw [h.required "class_name" (reads_whole Json.text?) rfl,
    h.required "name" Message.reads rfl,
    h.required "description" Message.reads rfl,
    h.required "short_description" Message.reads rfl,
    h.required "icon" (reads_whole Json.text?) rfl,
    h.required "offers" BundleItem.reads.items rfl,
    h.required "price" Price.reads rfl]

theorem reads : Reads (.fields members) ofJson? := fun _ _ h => ofJson?_congr (agree_of_step h)

@[simp] theorem ofJson?_fields (b : Bundle) : ofJson? (.record b.fields) = some b := by
  simp [ofJson?, fields, Json.required, Json.member?, Json.lookup, Json.text?,
    Json.list?_map BundleItem.ofJson?_toJson]

end Bundle

namespace Entry

variable {kind : Kind}

/-- The fields of an entry of a kind, without the kind. -/
def members : Kind → Members
  | .info => InfoModule.members
  | .entitlement => Entitlement.members
  | .offer => Offer.members
  | .bundle => Bundle.members

/-- The layout of an entry that names a kind: the kind is one field more.
A value that names none has no other field that is read. -/
def layout (named : Option Kind) : Layout :=
  .fields (("kind", .whole, none) :: named.elim [] members)

/-- The kind that a value names. -/
def kind? (j : Json) : Option Kind :=
  (j.get? "kind").bind fun v => v.text?.bind Kind.ofName?

/-- A value read as an entry of a kind. -/
def readAs : Kind → Json → Option Entry
  | .info, j => (InfoModule.ofJson? j).map info
  | .entitlement, j => (Entitlement.ofJson? j).map entitlement
  | .offer, j => (Offer.ofJson? j).map offer
  | .bundle, j => (Bundle.ofJson? j).map bundle

/-- **An entry is read as what its kind says.** -/
theorem ofJson?_eq (j : Json) : ofJson? j = (kind? j).bind (readAs · j) := by
  cases j with
  | record fs =>
    rw [kind?, Json.get?, Option.bind_assoc]
    cases hkind : Json.lookup "kind" fs with
    | none => simp [ofJson?, hkind]
    | some v =>
      cases hword : v.text? with
      | none => simp [ofJson?, hkind, hword]
      | some word =>
        cases hname : Kind.ofName? word with
        | none => simp [ofJson?, hkind, hword, hname]
        | some kind => cases kind <;> simp [ofJson?, hkind, hword, hname, readAs]
  | _ => rfl

theorem readAs_congr (h : Agree (members kind) ((members kind).map (·.1)) j k) :
    readAs kind k = readAs kind j := by
  cases kind with
  | info => rw [readAs, readAs, InfoModule.ofJson?_congr h]
  | entitlement => rw [readAs, readAs, Entitlement.ofJson?_congr h]
  | offer => rw [readAs, readAs, Offer.ofJson?_congr h]
  | bundle => rw [readAs, readAs, Bundle.ofJson?_congr h]

theorem reads_kind? (named : Option Kind) : Reads (layout named) kind? := by
  intro j k hstep
  cases j with
  | record fs =>
    obtain ⟨gs, rfl⟩ := hstep.record
    have hkind : Json.Respelled .whole none (Json.lookup "kind" fs) (Json.lookup "kind" gs) :=
      Json.respelled_record hstep rfl
    exact hkind.bind_eq (reads_whole _)
  | list items => cases hstep; rfl
  | _ => cases hstep

/-- The kind is no field of an entry's value. -/
theorem lookup_members_kind (kind : Kind) : (members kind).lookup "kind" = none := by
  cases kind <;> rfl

theorem readAs_of_step {gs : List (String × Json)}
    (h : Step (layout (some kind)) (.record fs) (.record gs)) :
    readAs kind (.record gs) = readAs kind (.record fs) := by
  refine readAs_congr fun name f d hname => Json.respelled_record h ?_
  have hkind : name ≠ "kind" := by
    rintro rfl
    rw [lookup_members_kind] at hname
    cases hname
  rwa [List.lookup_cons, beq_false_of_ne hkind]

/-- **The kind may stand anywhere**, and the other fields are read
without it. -/
theorem reads (named : Option Kind) :
    Reads (layout named) fun j => if kind? j = named then ofJson? j else none := by
  intro j k hstep
  have hsame : kind? k = kind? j := reads_kind? named j k hstep
  dsimp only
  by_cases hnamed : kind? j = named
  · rw [if_pos hnamed, if_pos (hsame.trans hnamed), ofJson?_eq, ofJson?_eq, hsame, hnamed]
    cases named with
    | none => rfl
    | some kind =>
      cases j with
      | record fs =>
        obtain ⟨gs, rfl⟩ := hstep.record
        exact readAs_of_step hstep
      | _ => cases hnamed
  · rw [if_neg hnamed, if_neg (hsame ▸ hnamed)]

theorem ofJson?_rewritten (h : Rewritten (layout (kind? j)) j k) : ofJson? k = ofJson? j := by
  have hsame : kind? k = kind? j := (reads_kind? _).rewritten h
  have hread := (reads _).rewritten h
  rwa [if_pos rfl, if_pos hsame] at hread

theorem kind?_toJson (e : Entry) : kind? e.toJson = some e.kind := by
  have hfields : Json.lookup "kind" e.fields = none := by
    rw [Json.lookup_eq_none_iff]
    cases e <;> simp [fields, InfoModule.fields, Entitlement.fields, Offer.fields, Bundle.fields]
  rw [kind?, toJson, Json.get?, Json.lookup_cons_self, hfields, Option.none_or, Option.bind_some,
    Json.text?, Option.bind_some, Kind.ofName?_name]

theorem ofJson?_toJson (e : Entry) : ofJson? e.toJson = some e := by
  have hvalue : readAs e.kind e.toJson = readAs e.kind e.valueJson :=
    readAs_congr (agree_of_step (Step.cons (lookup_members_kind e.kind)))
  rw [ofJson?_eq, kind?_toJson, Option.bind_some, hvalue]
  cases e <;> simp [readAs, valueJson, Entry.kind, fields]

end Entry

/-! ## Catalogs -/

namespace Catalog

/-- The fields of a catalog. -/
def members : Members :=
  [("entitlement_infos", .items (.fields InfoModule.members), none),
    ("entitlements", .items (.fields Entitlement.members), none),
    ("offers", .items (.fields Offer.members), none),
    ("bundles", .items (.fields Bundle.members), none)]

theorem reads : Reads (.fields members) ofJson? := by
  intro j k hstep
  have h : Agree members ["entitlement_infos", "entitlements", "offers", "bundles"] j k :=
    agree_of_step hstep
  simp only [ofJson?]
  rw [h.required "entitlement_infos" InfoModule.reads.items rfl,
    h.required "entitlements" Entitlement.reads.items rfl,
    h.required "offers" Offer.reads.items rfl,
    h.required "bundles" Bundle.reads.items rfl]

theorem ofJson?_toJson (c : Catalog) : ofJson? c.toJson = some c := by
  simp [ofJson?, toJson, Json.required, Json.member?, Json.lookup,
    Json.list?_map InfoModule.ofJson?_fields, Json.list?_map Entitlement.ofJson?_fields,
    Json.list?_map Offer.ofJson?_fields, Json.list?_map Bundle.ofJson?_fields]

end Catalog

/-- **The stored form loses nothing.** A catalog and an entry read back as
what was written, and another spelling of a value reads as the value does:
its fields in another order, with fields that are not known, with defaults
left out or written, at any depth. A message without a key and a price
without a currency have the default, and a parent's record has one field
and no more. Reading what was written for a value that has been read gives
the same. -/
theorem stored_lossless :
    (∀ c : Catalog, Catalog.ofJson? c.toJson = some c) ∧
    (∀ e : Entry, Entry.ofJson? e.toJson = some e) ∧
    (∀ j k, Rewritten (.fields Catalog.members) j k → Catalog.ofJson? k = Catalog.ofJson? j) ∧
    (∀ j k, Rewritten (Entry.layout (Entry.kind? j)) j k → Entry.ofJson? k = Entry.ofJson? j) ∧
    (∀ fs text, Json.lookup "key" fs = none → Json.lookup "text" fs = some (.text text) →
      Message.ofJson? (.record fs) = some (.plain text)) ∧
    (∀ fs (amount : Int64), Json.lookup "type" fs = none →
      Json.lookup "amount" fs = some (.int amount.toInt) →
      Price.ofJson? (.record fs) = some (.vbucks amount)) ∧
    (∀ fs, fs.length ≠ 1 → Parent.ofJson? (.record fs) = none) ∧
    (∀ j c, Catalog.ofJson? j = some c → Catalog.ofJson? c.toJson = Catalog.ofJson? j) ∧
    (∀ j e, Entry.ofJson? j = some e → Entry.ofJson? e.toJson = Entry.ofJson? j) := by
  refine ⟨Catalog.ofJson?_toJson, Entry.ofJson?_toJson, fun j k => Catalog.reads.rewritten,
    fun j k => Entry.ofJson?_rewritten, ?_, ?_, fun fs => Parent.ofJson?_record, ?_, ?_⟩
  · intro fs text hkey htext
    simp [Message.ofJson?, Json.optional, Json.required, Json.member?, hkey, htext, Json.text?,
      Message.plain]
  · intro fs amount htype hamount
    simp [Price.ofJson?, Json.optional, Json.required, Json.member?, htype, hamount, Price.vbucks]
  · intro j c hread
    rw [hread, Catalog.ofJson?_toJson]
  · intro j e hread
    rw [hread, Entry.ofJson?_toJson]

/-- An offer is read with its kind at the end, a price without a currency
and a field that offers do not have. -/
theorem stored_lossless_respelled :
    Entry.ofJson? (.record
      [("class_name", .text "sword_offer"), ("info_module", .text "sword_info"),
        ("icon", .text ""), ("entitlement_type", .text "sword"),
        ("price", .record [("amount", .int 50)]), ("note", .null), ("kind", .text "offer")]) =
    some (.offer ⟨"sword_offer", "sword_info", "", "sword", .vbucks 50⟩) := by
  let front : List (String × Json) :=
    [("class_name", .text "sword_offer"), ("info_module", .text "sword_info"),
      ("icon", .text ""), ("entitlement_type", .text "sword")]
  let price : List (String × Json) := [("price", .record [("amount", .int 50)])]
  have hprice : Step (Entry.layout (some .offer))
      (.record (("kind", .text "offer") :: front ++ price))
      (Entry.toJson (.offer ⟨"sword_offer", "sword_info", "", "sword", .vbucks 50⟩)) :=
    .field rfl (@Step.spell _ [] [("amount", .int 50)] "type" .whole (.text "vbucks") rfl (by simp))
  have horder : Step (Entry.layout (some .offer))
      (.record (("kind", .text "offer") :: front ++ price))
      (.record (front ++ price ++ [("kind", .text "offer")])) :=
    .reorder (List.perm_append_singleton _ _).symm (by simp [front, price])
  have hnote : Step (Entry.layout (some .offer))
      (.record (front ++ price ++ [("kind", .text "offer")]))
      (.record (front ++ price ++ [("note", .null), ("kind", .text "offer")])) := .extra rfl
  have hwritten : Rewritten (Entry.layout (some .offer))
      (Entry.toJson (.offer ⟨"sword_offer", "sword_info", "", "sword", .vbucks 50⟩))
      (.record (front ++ price ++ [("note", .null), ("kind", .text "offer")])) :=
    .trans _ _ _ (.symm _ _ (.rel _ _ hprice)) (.trans _ _ _ (.rel _ _ horder) (.rel _ _ hnote))
  exact (stored_lossless.2.2.2.1 _ _ (Entry.kind?_toJson (.offer _) ▸ hwritten)).trans
    (stored_lossless.2.1 _)

end Storefront
