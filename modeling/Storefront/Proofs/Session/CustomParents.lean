import Storefront.Proofs.Manifest.Expressible
import Storefront.Proofs.Session.Edits
import Storefront.Proofs.Session.Resets
import Storefront.Proofs.Verse.Closed
/-!
# Sessions — the names of custom parents

A manifest refuses a parent of the shop's own whose name is blank. The
gate of the catalog looks at class names, counts and prices, and not at
parents; so an entitlement that is committed keeps whatever parent it
comes with. Every unnamed parent in a session was committed there, and a
class is declared with nothing between its parentheses just when there is
one (`run_parents`).
-/

namespace Storefront

open Verse Text

/-! ## Names and blanks -/

/-- **A blank text**: empty, or nothing but blanks. -/
def Text.Blank (s : String) : Prop := ∀ c ∈ s.toList, isBlank c = true

instance (s : String) : Decidable (Blank s) :=
  inferInstanceAs (Decidable (∀ c ∈ s.toList, _))

/-- **Nothing is left of a blank text** when it is trimmed, and something
of any other. -/
theorem Text.trim_eq_empty_iff {s : String} : trim s = "" ↔ Blank s := by
  have htrim : trim s = "" ↔ ∀ c ∈ s.toList.dropWhile isBlank, isBlank c = true := by
    rw [trim, String.ofList_eq_empty_iff, trimChars, List.reverse_eq_nil_iff,
      List.dropWhile_eq_nil_iff]
    simp only [List.mem_reverse]
  rw [htrim]
  constructor
  · -- a character is among the blanks at the front, or among those left
    intro hrest c hc
    rw [← List.takeWhile_append_dropWhile (p := isBlank) (l := s.toList)] at hc
    exact (List.mem_append.1 hc).elim List.mem_takeWhile_imp (hrest c)
  · exact fun hblank c hc => hblank c ((List.dropWhile_sublist isBlank).subset hc)

theorem Text.not_blank_of_mem {s : String} {c : Char} (hc : c ∈ s.toList)
    (h : isBlank c = false) : ¬ Blank s :=
  fun hblank => Bool.false_ne_true (h ▸ hblank c hc)

namespace Parent

/-- **A named parent**: one of the built-in bases, or a class of the
shop's own whose name is not blank. -/
def Named (p : Parent) : Prop := ∀ name, p = .custom name → ¬ Blank name

variable {p : Parent}

theorem named_custom_iff {name : String} : (custom name).Named ↔ ¬ Blank name :=
  ⟨fun h => h name rfl, fun h _ heq => Parent.custom.inj heq ▸ h⟩

/-- **A parent is refused as unnamed** when it is said to be custom and no
name stands beside the word, or a blank one. -/
theorem ofParts_eq_parentUnnamed_iff {className word : String} {customName : Option String} :
    ofParts className word customName = .error (.parentUnnamed className) ↔
      word.map Char.toLower = "custom" ∧ ∀ name, customName = some name → Blank name := by
  by_cases hword : word.map Char.toLower = "custom"
  · cases customName with
    | none => simp [ofParts, hword, kindName]
    | some name =>
      by_cases hname : trim name = ""
      · simp [ofParts, hword, kindName, hname, trim_eq_empty_iff.1 hname]
      · simp [ofParts, hword, kindName, hname, mt trim_eq_empty_iff.2 hname]
  · simp only [ofParts, hword, false_and, iff_false]
    split <;> simp
    split <;> simp

/-- What a manifest can say is named. -/
theorem Writable.named (h : p.Writable) : p.Named := by
  rintro name rfl hblank
  obtain ⟨hne, htrim⟩ := h name rfl
  exact hne (htrim ▸ trim_eq_empty_iff.2 hblank)

/-- A parent is named when what a class extends for it is not blank. -/
theorem named_iff_identifier : p.Named ↔ ¬ Blank p.identifier := by
  cases p with
  | island => exact iff_of_true nofun (not_blank_of_mem (c := 'i') (by decide) rfl)
  | cosmetic => exact iff_of_true nofun (not_blank_of_mem (c := 'c') (by decide) rfl)
  | custom name => exact named_custom_iff

end Parent

/-! ## What the classes of a document extend -/

/-- What stands between the parentheses of the class lines of a
paragraph. -/
def Verse.Declaration.bases : Declaration → List String
  | .fieldModule _ _ => []
  | .abstractClasses names => names.map fun _ => "entitlement"
  | .concreteClass _ base _ => [base]

namespace Catalog

variable {c : Catalog}

/-- **The classes of a document extend something** when the parents of all
entitlements are named. -/
theorem bases_named_iff :
    (∀ b ∈ c.blocks, ∀ d ∈ b.declarations, ∀ base ∈ d.bases, ¬ Blank base) ↔
      ∀ e ∈ c.entitlements, e.parent.Named := by
  simp only [Parent.named_iff_identifier]
  constructor
  · intro h e he
    have hentry : .entitlement e ∈ c.entries .entitlement := List.mem_map_of_mem he
    obtain ⟨b, hb, -, hd⟩ :=
      mem_blocks_iff.2 ⟨List.ne_nil_of_mem hentry, .inr ⟨_, hentry, rfl⟩⟩
    exact h b hb _ hd _ List.mem_cons_self
  · intro h b hb d hd base hbase
    obtain ⟨-, hpreamble | ⟨e, he, rfl⟩⟩ := mem_blocks_iff.1 ⟨b, hb, rfl, hd⟩
    · -- the abstract classes all extend the same
      obtain ⟨-, -, rfl⟩ := eq_of_mem_preamble hpreamble
      obtain ⟨-, -, rfl⟩ := List.mem_map.1 hbase
      exact not_blank_of_mem (c := 'e') (by decide) rfl
    · cases e with
      | info m => cases hbase
      | entitlement e =>
        rw [List.mem_singleton.1 hbase]
        exact h e (entitlement_mem_allEntries.1 (mem_allEntries he))
      | offer o =>
        rw [List.mem_singleton.1 hbase]
        exact not_blank_of_mem (c := 'e') (by decide) rfl
      | bundle b =>
        rw [List.mem_singleton.1 hbase]
        exact not_blank_of_mem (c := 'b') (by decide) rfl

end Catalog

namespace Session

variable {s : Session} {op : Op} {ops : List Op} {c : Catalog} {f : Entry}

/-! ## Where the entries come from -/

/-- **An entry that was committed**: one of the operations commits it, and
succeeds in its turn. -/
def Commits (s : Session) (ops : List Op) (f : Entry) : Prop :=
  ∃ before index after, ops = before ++ .commit index f :: after ∧
    ((s.run before).perform (.commit index f)).result = .ok ()

/-- **An operation brings in the entry that it commits**, and no other. -/
theorem mem_or_commit_of_perform (h : f ∈ (s.perform op).session.catalog.allEntries) :
    f ∈ s.catalog.allEntries ∨
      (∃ index, op = .commit index f) ∧ (s.perform op).result = .ok () := by
  cases op with
  | commit index e =>
    cases hput : s.catalog.put index e with
    | error reason =>
      rw [perform, commit, hput] at h
      exact .inl h
    | ok r =>
      obtain ⟨i, d⟩ := r
      obtain ⟨hresult, hcatalog⟩ := commit_eq_ok_iff.2 hput
      obtain ⟨-, -, -, rfl⟩ := Catalog.put_eq_ok_iff.1 hput
      change f ∈ (s.commit index e).session.catalog.allEntries at h
      rw [hcatalog] at h
      rcases Catalog.eq_or_mem_of_mem_store h with rfl | hold
      · refine .inr ⟨⟨index, rfl⟩, ?_⟩
        rw [perform, Step.outcome, hresult]
        rfl
      · exact .inl hold
  | remove k i =>
    cases hremove : s.catalog.remove k i with
    | error reason =>
      rw [perform, remove, hremove] at h
      exact .inl h
    | ok r =>
      obtain ⟨e, d⟩ := r
      obtain ⟨-, hcatalog⟩ := remove_eq_ok_iff.2 hremove
      obtain ⟨-, rfl⟩ := Catalog.remove_eq_ok_iff.1 hremove
      change f ∈ (s.remove k i).session.catalog.allEntries at h
      rw [hcatalog] at h
      exact .inl (Catalog.mem_of_mem_erase h)
  | setQuantity q =>
    rw [perform, setQuantity] at h
    split at h <;> exact .inl h
  -- no other operation touches the catalog
  | toggle name => exact .inl h
  | selectOnly names => exact .inl h
  | deselect names => exact .inl h
  | setMode m => exact .inl h
  | render => exact .inl h
  | renderMode m => exact .inl h

/-- **Every entry was there at the start or was committed**, by induction
on the operations. -/
theorem mem_or_commits_of_run (h : f ∈ (s.run ops).catalog.allEntries) :
    f ∈ s.catalog.allEntries ∨ s.Commits ops f := by
  induction ops generalizing s with
  | nil => exact .inl h
  | cons op ops ih =>
    rcases ih h with hstep | ⟨before, index, after, rfl, hresult⟩
    · rcases mem_or_commit_of_perform hstep with hold | ⟨⟨index, rfl⟩, hresult⟩
      · exact .inl hold
      · exact .inr ⟨[], index, ops, rfl, hresult⟩
    · exact .inr ⟨op :: before, index, after, rfl, hresult⟩

/-! ## What the gate looks at -/

theorem result_commit (s : Session) (index : Option Nat) (f : Entry) :
    (s.commit index f).result =
      ((s.catalog.put index f).map Prod.fst).mapError Failure.catalog := by
  cases hput : s.catalog.put index f <;> simp [commit, hput, Except.map, Except.mapError]

/-- **The gate does not look at the parent of an entitlement**: whichever
it is, a commit is answered alike. -/
theorem result_commit_parent (s : Session) (index : Option Nat) (e : Entitlement) (p : Parent) :
    (s.commit index (.entitlement { e with parent := p })).result =
      (s.commit index (.entitlement e)).result := by
  have hcheck : (Entry.entitlement { e with parent := p }).check =
      (Entry.entitlement e).check := rfl
  -- the answer is an index or a fault, and neither is read off the parent
  have hput : (s.catalog.put index (.entitlement { e with parent := p })).map Prod.fst =
      (s.catalog.put index (.entitlement e)).map Prod.fst := by
    simp only [Catalog.put, hcheck, Entry.kind]
    cases (Entry.entitlement e).check with
    | error reason => rfl
    | ok u =>
      cases index with
      | none => rfl
      | some i => by_cases hi : i < s.catalog.count .entitlement <;> simp [hi, Except.map]
  rw [result_commit, result_commit, hput]

/-! ## The parents of a whole run -/

/-- An operation that commits no unnamed parent. -/
def Op.NamesParent : Op → Prop
  | .commit _ (.entitlement e) => e.parent.Named
  | _ => True

/-- **What is known of the parents after operations.** An unnamed one was
committed by one of them, so there is none if they name every parent.
Classes extend nothing just where a parent is unnamed. And the next
commit is answered without a look at the parent that it brings. -/
structure ParentsAfter (s : Session) (ops : List Op) : Prop where
  origin : ∀ e ∈ (s.run ops).catalog.entitlements,
    e.parent.Named ∨ s.Commits ops (.entitlement e)
  named : (∀ op ∈ ops, op.NamesParent) → ∀ e ∈ (s.run ops).catalog.entitlements, e.parent.Named
  bases_iff :
    (∀ b ∈ (s.run ops).catalog.blocks, ∀ d ∈ b.declarations, ∀ base ∈ d.bases, ¬ Blank base) ↔
      ∀ e ∈ (s.run ops).catalog.entitlements, e.parent.Named
  ungated : ∀ index e p, ((s.run ops).commit index (.entitlement { e with parent := p })).result =
    ((s.run ops).commit index (.entitlement e)).result

/-- What was committed by operations that name every parent is named. -/
theorem Commits.named {e : Entitlement} (h : s.Commits ops (.entitlement e))
    (hops : ∀ op ∈ ops, op.NamesParent) : e.parent.Named := by
  obtain ⟨before, index, after, rfl, -⟩ := h
  exact hops (.commit index (.entitlement e)) (by simp)

/-- **Unnamed parents are committed, not loaded.** From a session over no
entries or over those of a manifest, whatever operations are performed
and whether they succeed or fail, each parent in the catalog is named or
was brought in by a commit. -/
theorem run_parents (h : c = .empty ∨ ∃ m : Manifest, m.toCatalog = .ok c) (ops : List Op) :
    (start c).ParentsAfter ops := by
  have hstart : ∀ e ∈ c.entitlements, e.parent.Named := by
    intro e he
    rcases h with rfl | ⟨m, hload⟩
    · cases he
    · exact (Catalog.writable_of_converts (Manifest.converts_of_toCatalog hload).1 e he).named
  have horigin : ∀ e ∈ ((start c).run ops).catalog.entitlements,
      e.parent.Named ∨ (start c).Commits ops (.entitlement e) := fun e he =>
    (mem_or_commits_of_run (Catalog.entitlement_mem_allEntries.2 he)).imp_left fun hold =>
      hstart e (Catalog.entitlement_mem_allEntries.1 hold)
  exact
    { origin := horigin
      named := fun hops e he => (horigin e he).elim id fun hcommits => hcommits.named hops
      bases_iff := Catalog.bases_named_iff
      ungated := fun index e p => result_commit_parent _ index e p }

/-- An entitlement of a named parent. -/
def amulet : Entitlement where
  className := "amulet"
  parent := .custom "jewel"
  infoModule := "amulet_info"

/-- An entitlement of a parent without a name. -/
def relic : Entitlement where
  className := "relic"
  parent := .custom ""
  infoModule := "relic_info"

/-- An editor who replaces the amulet by itself under another parent, and
appends one more. -/
def amuletOps : List Op :=
  [.commit (some 0) (.entitlement { amulet with parent := .custom "stone" }),
    .commit none (.entitlement amulet), .remove .entitlement 2]

/-- A manifest loads as the amulet, and every class in the document of the
editor extends something. -/
theorem parentsAfter_amuletOps :
    (∃ m : Manifest, m.toCatalog = .ok { entitlements := [amulet] }) ∧
    ((start { entitlements := [amulet] }).run amuletOps).catalog.entitlements =
      [{ amulet with parent := .custom "stone" }, amulet] ∧
    ∀ b ∈ ((start { entitlements := [amulet] }).run amuletOps).catalog.blocks,
      ∀ d ∈ b.declarations, ∀ base ∈ d.bases, ¬ Blank base := by
  have hload : ∃ m : Manifest, m.toCatalog = .ok { entitlements := [amulet] } := by
    refine (Catalog.exists_toCatalog_eq_iff _).2 ⟨by decide, fun e he name hname => ?_⟩
    obtain rfl := List.mem_singleton.1 he
    obtain rfl := Parent.custom.inj hname
    decide
  have hparents := run_parents (.inr hload) amuletOps
  refine ⟨hload, by decide +kernel, hparents.bases_iff.2 (hparents.named ?_)⟩
  simp only [amuletOps, amulet, List.forall_mem_cons, List.not_mem_nil, false_implies,
    implies_true, and_true, Op.NamesParent, Parent.named_custom_iff]
  exact ⟨not_blank_of_mem (c := 's') (by decide) rfl, not_blank_of_mem (c := 'j') (by decide) rfl⟩

/-- **A relic of nothing is committed**, though no manifest could say it:
the same parent is refused there. In the document its class extends an
empty list. -/
theorem unnamed_relic :
    ((start .empty).run [.commit none (.entitlement relic)]).catalog.entitlements = [relic] ∧
    ¬ relic.parent.Named ∧
    Parent.ofParts "relic" "custom" (some "") = .error (.parentUnnamed "relic") ∧
    "    relic<public> := class<concrete>():" ∈ (definitionsParagraphs
      ((start .empty).run [.commit none (.entitlement relic)]).catalog).flatten := by
  have hblank : Blank "" := by simp [Blank]
  refine ⟨rfl, Parent.named_custom_iff.not.2 (not_not.2 hblank), ?_, by decide +kernel⟩
  refine Parent.ofParts_eq_parentUnnamed_iff.2 ⟨Parent.map_toLower_kindName (.custom ""), ?_⟩
  rintro name ⟨⟩
  exact hblank

end Session

end Storefront
