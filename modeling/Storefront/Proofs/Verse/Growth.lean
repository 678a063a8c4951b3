import Storefront.Proofs.Catalog.Edits
import Storefront.Proofs.Verse.Layout
import Storefront.Verse.Definitions
/-!
# Verse — how the definitions grow

The definitions are a banner and the modules of the four kinds, each set
off by an empty line. An edit of one kind leaves the text of the other
modules as it is, and an entry that is appended only adds text: its
declaration at the end of its module, and in front of the classes a base
class that was not in use before (`definitions_edit`). This holds of texts
as they are stored, broken over lines or not.
-/

namespace Storefront

namespace Verse

/-! ## Paragraphs behind others -/

/-- Paragraphs that stand behind others, each after an empty line. -/
def followingText (ps : List Paragraph) : String :=
  unlines (ps.flatMap fun p => "" :: p)

theorem unlines_append (ls ms : List String) : unlines (ls ++ ms) = unlines ls ++ unlines ms := by
  simp [unlines]

theorem unlines_cons (l : String) (ls : List String) :
    unlines (l :: ls) = l ++ "\n" ++ unlines ls := by
  simp [unlines]

theorem followingText_append (ps qs : List Paragraph) :
    followingText (ps ++ qs) = followingText ps ++ followingText qs := by
  rw [followingText, List.flatMap_append, unlines_append]
  rfl

theorem followingText_cons (p : Paragraph) (ps : List Paragraph) :
    followingText (p :: ps) = "\n" ++ unlines p ++ followingText ps := by
  simp [followingText, unlines_append, unlines_cons, String.append_assoc]

theorem followingText_singleton (p : Paragraph) : followingText [p] = "\n" ++ unlines p := by
  simp [followingText, unlines_cons]

theorem followingText_flatMap {α : Type} (f : α → List Paragraph) (xs : List α) :
    followingText (xs.flatMap f) = String.join (xs.map fun x => followingText (f x)) := by
  induction xs with
  | nil => rfl
  | cons x xs ih =>
    rw [List.flatMap_cons, followingText_append, ih, List.map_cons, String.join_cons]

/-- **A document is its first paragraph and what follows it.** -/
theorem documentText_cons (p : Paragraph) (ps : List Paragraph) :
    documentText (p :: ps) = unlines p ++ followingText ps := by
  induction ps generalizing p with
  | nil => simp [documentText, layout_singleton, followingText, unlines]
  | cons q qs ih =>
    rw [followingText_cons, String.append_assoc, ← ih, documentText,
      layout_cons (List.cons_ne_nil q qs), unlines_append, unlines_cons, documentText,
      String.empty_append]

/-- What follows is a document behind an empty line. -/
theorem followingText_eq {ps : List Paragraph} (h : ps ≠ []) :
    followingText ps = "\n" ++ documentText ps := by
  obtain ⟨p, ps, rfl⟩ := List.exists_cons_of_ne_nil h
  rw [followingText_cons, documentText_cons, String.append_assoc]

theorem documentText_append {ps : List Paragraph} (h : ps ≠ []) (qs : List Paragraph) :
    documentText (ps ++ qs) = documentText ps ++ followingText qs := by
  obtain ⟨p, ps, rfl⟩ := List.exists_cons_of_ne_nil h
  rw [List.cons_append, documentText_cons, followingText_append, documentText_cons,
    String.append_assoc]

/-! ## The text of a module -/

/-- The empty line in front of a module and the line that opens it. -/
def openingText (k : Kind) : String := unlines ["", Block.header ⟨k, []⟩]

/-- The lines that declare base classes. -/
def baseText (names : List String) : String := unlines (names.map abstractLine)

/-- The paragraph that declares base classes, if there are any. -/
def baseGroup (names : List String) : List Declaration :=
  match names with
  | [] => []
  | names => [.abstractClasses names]

/-- The inside of a module: base classes, then declarations of entries. -/
def bodyText (names : List String) (ds : List Declaration) : String :=
  documentText ((baseGroup names ++ ds).map Declaration.lines)

theorem Block.paragraphs_ne_nil (b : Block) : b.paragraphs ≠ [] := by
  rw [Block.paragraphs]
  split <;> exact List.cons_ne_nil _ _

/-- **A module is its opening and the document of its declarations.** -/
theorem Block.text_eq {b : Block} (h : b.declarations ≠ []) :
    "\n" ++ documentText b.paragraphs =
      openingText b.home ++ documentText (b.declarations.map Declaration.lines) := by
  obtain ⟨home, ds⟩ := b
  obtain ⟨d, ds, rfl⟩ := List.exists_cons_of_ne_nil h
  simp [Block.paragraphs, documentText_cons, openingText, unlines, Block.header,
    String.append_assoc]

theorem baseText_append (names : List String) (name : String) :
    baseText (names ++ [name]) = baseText names ++ baseText [name] := by
  rw [baseText, List.map_append, unlines_append]
  rfl

theorem bodyText_nil (ds : List Declaration) :
    bodyText [] ds = documentText (ds.map Declaration.lines) := rfl

theorem bodyText_of_ne {names : List String} (h : names ≠ []) (ds : List Declaration) :
    bodyText names ds = baseText names ++ followingText (ds.map Declaration.lines) := by
  obtain ⟨name, names, rfl⟩ := List.exists_cons_of_ne_nil h
  exact documentText_cons _ _

/-- A last declaration stands behind an empty line. -/
theorem bodyText_append (names : List String) {ds : List Declaration} (h : ds ≠ [])
    (d : Declaration) :
    bodyText names (ds ++ [d]) = bodyText names ds ++ ("\n" ++ unlines d.lines) := by
  rw [bodyText, ← List.append_assoc, List.map_append, documentText_append (by simp [h]),
    List.map_singleton, followingText_singleton]
  rfl

end Verse

open Verse

/-! ## What an entry adds -/

namespace Entry

/-- The built-in base class that an entry extends. -/
def base? : Entry → Option String
  | entitlement e => e.parent.builtIn?
  | _ => none

/-- What an entry adds at the end of its module: an empty line and its
declaration. -/
def addition (e : Entry) : String := "\n" ++ unlines e.declaration.lines

/-- The module that holds this entry and no other. -/
def soleModule (e : Entry) : String :=
  openingText e.kind ++
    match e.base? with
    | some base => baseText [base] ++ e.addition
    | none => unlines e.declaration.lines

theorem kind_of_base? {e : Entry} {base : String} (h : e.base? = some base) :
    e.kind = .entitlement := by
  cases e with
  | entitlement e => rfl
  | info m => cases h
  | offer o => cases h
  | bundle b => cases h

theorem soleModule_eq (e : Entry) :
    e.soleModule = openingText e.kind ++ bodyText e.base?.toList [e.declaration] := by
  rw [soleModule]
  cases e.base? with
  | none => simp [bodyText, baseGroup, documentText_cons, followingText, unlines]
  | some base =>
    rw [Option.toList_some, bodyText_of_ne (List.cons_ne_nil _ _), List.map_singleton,
      followingText_singleton]
    rfl

end Entry

namespace Catalog

variable {c d : Catalog} {k : Kind} {e : Entry} {base : String}

/-! ## The definitions, module by module -/

/-- The text of the module of a kind, behind an empty line; nothing at all
without entries of the kind. -/
def moduleText (c : Catalog) (k : Kind) : String :=
  match c.block? k with
  | none => ""
  | some b => "\n" ++ documentText b.paragraphs

/-- The definitions in front of the module of a kind: the banner and the
modules of the kinds before it. -/
def above (c : Catalog) (k : Kind) : String :=
  unlines definitionsBanner ++ String.join ((Kind.all.takeWhile (· != k)).map c.moduleText)

/-- The definitions behind the module of a kind. -/
def below (c : Catalog) (k : Kind) : String :=
  String.join ((Kind.all.dropWhile (· != k)).tail.map c.moduleText)

/-- The base class that an entry would be the first to use. -/
def newBase? (c : Catalog) (e : Entry) : Option String :=
  e.base?.filter fun base => !c.baseClasses.contains base

/-- The base classes that entries of a kind use, in the order of first use. -/
def bases (c : Catalog) (k : Kind) : List String :=
  ((c.entries k).filterMap Entry.base?).eraseDups

theorem definitions_eq_join (c : Catalog) :
    definitions c = unlines definitionsBanner ++ String.join (Kind.all.map c.moduleText) := by
  have hmodule : ∀ k, followingText ((c.block? k).toList.flatMap Block.paragraphs) =
      c.moduleText k := by
    intro k
    rw [moduleText]
    cases c.block? k with
    | none => rfl
    | some b =>
      rw [Option.toList_some, List.flatMap_singleton, followingText_eq b.paragraphs_ne_nil]
  rw [definitions, definitionsParagraphs, documentText_cons, blocks,
    List.filterMap_eq_flatMap_toList, List.flatMap_assoc, followingText_flatMap]
  simp only [hmodule]

/-- **The module of a kind has its place in the definitions.** -/
theorem definitions_eq (c : Catalog) (k : Kind) :
    definitions c = c.above k ++ c.moduleText k ++ c.below k := by
  rw [definitions_eq_join]
  cases k <;> simp [above, below, Kind.all, String.append_assoc]

theorem bases_entitlement (c : Catalog) : c.bases .entitlement = c.baseClasses := by
  simp only [bases, entries, List.filterMap_map]
  rfl

theorem bases_of_ne (hk : k ≠ .entitlement) : c.bases k = [] := by
  have hnone : (c.entries k).filterMap Entry.base? = [] := by
    rw [List.filterMap_eq_nil_iff]
    intro e he
    by_contra hbase
    obtain ⟨base, hbase⟩ := Option.ne_none_iff_exists'.1 hbase
    exact hk (kind_of_mem_entries he ▸ Entry.kind_of_base? hbase)
  rw [bases, hnone, List.eraseDups_nil]

theorem preamble_eq (c : Catalog) (k : Kind) : c.preamble k = baseGroup (c.bases k) := by
  by_cases hk : k = .entitlement
  · subst hk
    rw [bases_entitlement]
    rfl
  · rw [bases_of_ne hk]
    cases k with
    | entitlement => exact absurd rfl hk
    | info => rfl
    | offer => rfl
    | bundle => rfl

theorem moduleText_of_nil (h : c.entries k = []) : c.moduleText k = "" := by
  simp [moduleText, block?, h]

/-- **The module of a kind that has entries.** -/
theorem moduleText_eq (h : c.entries k ≠ []) :
    c.moduleText k =
      openingText k ++ bodyText (c.bases k) ((c.entries k).map Entry.declaration) := by
  have hblock : c.block? k = some ⟨k, c.preamble k ++ (c.entries k).map Entry.declaration⟩ := by
    rw [block?]
    split
    · next hnil => exact absurd hnil h
    · rfl
  have hne : c.preamble k ++ (c.entries k).map Entry.declaration ≠ [] := by simp [h]
  rw [moduleText, hblock, bodyText, ← preamble_eq]
  exact Block.text_eq hne

/-- The text of a module depends on the entries of its kind alone. -/
theorem moduleText_congr (h : c.entries k = d.entries k) : c.moduleText k = d.moduleText k := by
  by_cases hnil : c.entries k = []
  · rw [moduleText_of_nil hnil, moduleText_of_nil (h ▸ hnil)]
  · rw [moduleText_eq hnil, moduleText_eq (h ▸ hnil), bases, bases, h]

/-! ## Edits -/

/-- **An edit that changes one module**: in the definitions, what stands in
front of the module and behind it is kept, and so are the other modules. -/
structure ChangesOnly (c d : Catalog) (k : Kind) : Prop where
  before : definitions c = c.above k ++ c.moduleText k ++ c.below k
  after : definitions d = c.above k ++ d.moduleText k ++ c.below k
  others : ∀ l, l ≠ k → d.moduleText l = c.moduleText l

/-- **How a module grows by an entry.** What it held is kept, and the
entry adds what depends on the entry alone. -/
structure Grows (c d : Catalog) (e : Entry) : Prop where
  /-- The first entry of its kind brings its module with it. -/
  opened : c.entries e.kind = [] →
    c.moduleText e.kind = "" ∧ d.moduleText e.kind = e.soleModule
  /-- Any other entry stands at the end. -/
  extended : c.entries e.kind ≠ [] → c.newBase? e = none →
    d.moduleText e.kind = c.moduleText e.kind ++ e.addition
  /-- A base class that is new is declared behind those in use. -/
  joined : ∀ base, c.entries e.kind ≠ [] → c.newBase? e = some base → c.baseClasses ≠ [] →
    ∃ rest,
      c.moduleText e.kind = openingText e.kind ++ baseText c.baseClasses ++ rest ∧
      d.moduleText e.kind =
        openingText e.kind ++ baseText c.baseClasses ++ baseText [base] ++ rest ++ e.addition
  /-- If none was in use, it is declared at the top, before an empty line. -/
  grouped : ∀ base, c.entries e.kind ≠ [] → c.newBase? e = some base → c.baseClasses = [] →
    ∃ rest,
      c.moduleText e.kind = openingText e.kind ++ rest ∧
      d.moduleText e.kind = openingText e.kind ++ (baseText [base] ++ "\n") ++ rest ++ e.addition

/-- Entries of one kind have their own module. -/
theorem changesOnly_of_entries (h : ∀ l, l ≠ k → d.entries l = c.entries l) :
    ChangesOnly c d k := by
  have hothers : ∀ l, l ≠ k → d.moduleText l = c.moduleText l :=
    fun l hl => moduleText_congr (h l hl)
  have habove : d.above k = c.above k := by
    rw [above, above]
    congr 2
    refine List.map_congr_left fun l hl => hothers l ?_
    revert l
    cases k <;> decide
  have hbelow : d.below k = c.below k := by
    rw [below, below]
    congr 1
    refine List.map_congr_left fun l hl => hothers l ?_
    revert l
    cases k <;> decide
  refine ⟨definitions_eq c k, ?_, hothers⟩
  rw [definitions_eq d k, habove, hbelow]

theorem newBase?_eq (c : Catalog) (e : Entry) :
    c.newBase? e = e.base?.filter fun base => !(c.bases e.kind).contains base := by
  rw [newBase?]
  cases hbase : e.base? with
  | none => rfl
  | some base => rw [← bases_entitlement, ← Entry.kind_of_base? hbase]

theorem bases_of_newBase? (h : c.newBase? e = some base) : c.bases e.kind = c.baseClasses := by
  rw [← bases_entitlement, Entry.kind_of_base? (Option.filter_eq_some_iff.1 h).1]

/-- **An appended entry adds the base class that it is the first to use.** -/
theorem bases_store (c : Catalog) (e : Entry) :
    (c.store none e).bases e.kind = c.bases e.kind ++ (c.newBase? e).toList := by
  rw [newBase?_eq, bases, entries_store, if_pos rfl, place, List.filterMap_append,
    List.eraseDups_append, bases]
  generalize (c.entries e.kind).filterMap Entry.base? = used
  congr 1
  cases hbase : e.base? with
  | none => simp [hbase, List.removeAll]
  | some base =>
    by_cases hused : base ∈ used <;>
      simp [hbase, List.removeAll, hused, Option.filter, List.eraseDups_cons]

theorem moduleText_store (c : Catalog) (e : Entry) :
    (c.store none e).moduleText e.kind =
      openingText e.kind ++ bodyText (c.bases e.kind ++ (c.newBase? e).toList)
        ((c.entries e.kind).map Entry.declaration ++ [e.declaration]) := by
  have hentries : (c.store none e).entries e.kind = c.entries e.kind ++ [e] := by
    rw [entries_store, if_pos rfl, place]
  rw [moduleText_eq (by simp [hentries]), bases_store, hentries, List.map_append,
    List.map_singleton]

/-- **A module grows by every entry that is appended.** -/
theorem grows_store (c : Catalog) (e : Entry) : Grows c (c.store none e) e where
  opened h := by
    have hbases : c.bases e.kind = [] := by rw [bases, h]; rfl
    have hnew : c.newBase? e = e.base? := by
      rw [newBase?_eq, hbases]
      cases e.base? <;> rfl
    refine ⟨moduleText_of_nil h, ?_⟩
    rw [moduleText_store, h, hbases, hnew, Entry.soleModule_eq]
    rfl
  extended h hnew := by
    have hne : (c.entries e.kind).map Entry.declaration ≠ [] := by simpa using h
    rw [moduleText_store, hnew, Option.toList_none, List.append_nil, moduleText_eq h,
      bodyText_append _ hne, String.append_assoc]
    rfl
  joined base h hnew hused := by
    have hne : (c.entries e.kind).map Entry.declaration ≠ [] := by simpa using h
    have hbases := bases_of_newBase? hnew
    refine ⟨followingText (((c.entries e.kind).map Entry.declaration).map Declaration.lines),
      ?_, ?_⟩
    · rw [moduleText_eq h, hbases, bodyText_of_ne hused, String.append_assoc]
    · rw [moduleText_store, hnew, Option.toList_some, hbases, bodyText_append _ hne,
        bodyText_of_ne (by simp), baseText_append]
      simp only [String.append_assoc]
      rfl
  grouped base h hnew hunused := by
    have hne : (c.entries e.kind).map Entry.declaration ≠ [] := by simpa using h
    have hbases := bases_of_newBase? hnew
    refine ⟨documentText (((c.entries e.kind).map Entry.declaration).map Declaration.lines), ?_, ?_⟩
    · rw [moduleText_eq h, hbases, hunused, bodyText_nil]
    · rw [moduleText_store, hnew, Option.toList_some, hbases, hunused, bodyText_append _ hne,
        List.nil_append, bodyText_of_ne (List.cons_ne_nil _ _),
        followingText_eq (by simpa using hne)]
      simp only [String.append_assoc]
      rfl

/-- **What an edit does to the definitions.** An edit that succeeds changes
the module of its kind and nothing else. If it appends an entry, all that
was written stays as it is and in its place: the first entry of a kind
brings a whole module with it, any other stands at the end of its module
behind an empty line, and a base class that it is the first to use is
declared in front of the classes. What is added for an entry depends on
the entry alone. -/
theorem definitions_edit (c : Catalog) :
    (∀ index e i d, c.put index e = .ok (i, d) → ChangesOnly c d e.kind) ∧
    (∀ k i e d, c.remove k i = .ok (e, d) → ChangesOnly c d k) ∧
    ∀ e i d, c.put none e = .ok (i, d) → Grows c d e := by
  refine ⟨fun index e i d hput => ?_, fun k i e d hremove => ?_, fun e i d hput => ?_⟩
  · exact changesOnly_of_entries (stores_of_put hput).others
  · exact changesOnly_of_entries (takesOut_of_remove hremove).others
  · obtain ⟨-, -, -, rfl⟩ := put_eq_ok_iff.1 hput
    exact grows_store c e

/-- A shop with a class of its own as the only parent. -/
def relicShop : Catalog where
  entitlements := [{ className := "relic", parent := .custom "artifact", infoModule := "old_info" }]
  offers :=
    [{ className := "relic_offer", infoModule := "old_info", entitlementType := "relic",
       price := .vbucks 950 }]

/-- An entitlement with a built-in parent. -/
def charm : Entry := .entitlement { className := "charm", infoModule := "old_info" }

/-- The shop with it. -/
def charmShop : Catalog := relicShop.store none charm

/-- The base class of the charm is declared at the top of the module, the
charm at its end, and the offer is left alone; so are both classes when
the offer is taken out. -/
theorem definitions_charmShop :
    relicShop.put none charm = .ok (1, charmShop) ∧
    (∃ rest,
      definitions relicShop = relicShop.above .entitlement ++
        (openingText .entitlement ++ rest) ++ relicShop.below .entitlement ∧
      definitions charmShop = relicShop.above .entitlement ++
        (openingText .entitlement ++
          ("    island_entitlement<public> := class<abstract>(entitlement)\x7b\x7d\n" ++ "\n") ++
          rest ++ charm.addition) ++ relicShop.below .entitlement) ∧
    (charmShop.erase .offer 0).moduleText .entitlement = charmShop.moduleText .entitlement := by
  obtain ⟨hput, -, hgrows⟩ := definitions_edit relicShop
  obtain ⟨-, hremove, -⟩ := definitions_edit charmShop
  have hcharm : relicShop.put none charm = .ok (1, charmShop) := by decide
  have hchanges := hput _ _ _ _ hcharm
  obtain ⟨rest, hbefore, hafter⟩ :=
    (hgrows _ _ _ hcharm).grouped "island_entitlement" (by decide) (by decide) (by decide)
  have hbase : baseText ["island_entitlement"] =
      "    island_entitlement<public> := class<abstract>(entitlement)\x7b\x7d\n" := by decide
  refine ⟨hcharm, ⟨rest, ?_, ?_⟩, ?_⟩
  · exact hbefore ▸ hchanges.before
  · rw [← hbase]
    exact hafter ▸ hchanges.after
  · exact (hremove .offer 0 _ _ (by rfl)).others .entitlement (by decide)

end Catalog

end Storefront
