import Storefront.Proofs.Catalog.Edits
import Storefront.Session.Basic
/-!
# Sessions — operations are atomic and local

An operation that can fail either does what it was asked for or leaves
the session as it was. An edit of the catalog that succeeds changes one
place of one sequence, and what it does there depends on that sequence
alone (`Edit.Does`), so edits of different kinds can be made in either
order (`operations_atomic`).
-/

namespace Storefront.Session

/-- An edit of the catalog of a session. -/
inductive Edit where
  | commit (index : Option Nat) (e : Entry)
  | remove (k : Kind) (i : Nat)

/-- What is answered to an edit that succeeds: to a commit the place of
the entry, to a removal the entry that was there. -/
inductive Edit.Answer where
  | place (i : Nat)
  | entry (e : Entry)
  deriving DecidableEq

/-- The kind whose sequence an edit changes. -/
def Edit.kind : Edit → Kind
  | commit _ e => e.kind
  | remove k _ => k

/-- A step with its answer put in another form. -/
def Step.map {α β : Type} (f : α → β) (t : Step α) : Step β :=
  { result := t.result.map f, session := t.session, events := t.events }

/-- Make an edit. -/
def edit (s : Session) : Edit → Step Edit.Answer
  | .commit index e => (s.commit index e).map .place
  | .remove k i => (s.remove k i).map .entry

/-- **What an edit does to a sequence**, and what is answered. An entry
that passes its rules is appended or put in the place of another one; an
entry that is there is taken out. -/
inductive Edit.Does : Edit → List Entry → Answer → List Entry → Prop
  | append {xs : List Entry} {e : Entry} : e.check = .ok () →
      Does (.commit none e) xs (.place xs.length) (xs ++ [e])
  | replace {xs : List Entry} {i : Nat} {e : Entry} : e.check = .ok () → i < xs.length →
      Does (.commit (some i) e) xs (.place i) (xs.set i e)
  | remove {xs : List Entry} {k : Kind} {i : Nat} {e : Entry} : xs[i]? = some e →
      Does (.remove k i) xs (.entry e) (xs.eraseIdx i)

/-- **An atomic step**: it fails just when there is a fault, and then the
session is what it was. -/
structure Step.Atomic {α : Type} (t : Step α) (s : Session) (fault : Prop) : Prop where
  fails_iff : (∃ f, t.result = .error f) ↔ fault
  unchanged : ∀ f, t.result = .error f → t.session = s

variable {s : Session} {e : Entry} {k : Kind} {i : Nat} {index : Option Nat} {f : Failure}
variable {d : Catalog} {a b : Edit} {answer answer' : Edit.Answer}

/-! ## Sessions and their catalogs -/

theorem commit_eq_ok_iff : (s.commit index e).result = .ok i ∧
    (s.commit index e).session.catalog = d ↔ s.catalog.put index e = .ok (i, d) := by
  cases hput : s.catalog.put index e with
  | error reason => simp [commit, hput]
  | ok r => simp [commit, hput, sync, Prod.ext_iff]

theorem commit_eq_error_iff : (s.commit index e).result = .error f ↔
    ∃ reason, s.catalog.put index e = .error reason ∧ f = .catalog reason := by
  cases hput : s.catalog.put index e with
  | error reason => simp [commit, hput, eq_comm]
  | ok r => simp [commit, hput]

theorem remove_eq_ok_iff : (s.remove k i).result = .ok e ∧
    (s.remove k i).session.catalog = d ↔ s.catalog.remove k i = .ok (e, d) := by
  cases hremove : s.catalog.remove k i with
  | error reason => simp [remove, hremove]
  | ok r => simp [remove, hremove, sync, Prod.ext_iff]

theorem remove_eq_error_iff : (s.remove k i).result = .error f ↔
    ∃ reason, s.catalog.remove k i = .error reason ∧ f = .catalog reason := by
  cases hremove : s.catalog.remove k i with
  | error reason => simp [remove, hremove, eq_comm]
  | ok r => simp [remove, hremove]

/-! ## Failures -/

/-- A commit fails for the rules of its entry or for its index. -/
theorem atomic_commit (s : Session) (index : Option Nat) (e : Entry) :
    (s.commit index e).Atomic s
      ((∃ reason, e.check = .error reason) ∨
        ∃ i, index = some i ∧ s.catalog.count e.kind ≤ i) where
  fails_iff := by
    simp only [commit_eq_error_iff, Catalog.put_eq_error_iff]
    constructor
    · rintro ⟨-, reason, hrules | ⟨-, j, hj, hrange, -⟩, -⟩
      · exact .inl ⟨reason, hrules⟩
      · exact .inr ⟨j, hj, hrange⟩
    · rintro hfault
      -- the rules are looked at first, whatever the index is
      cases hcheck : e.check with
      | error reason => exact ⟨_, reason, .inl rfl, rfl⟩
      | ok u =>
        obtain ⟨reason, hreason⟩ | ⟨j, hj, hrange⟩ := hfault
        · rw [hcheck] at hreason
          cases hreason
        · exact ⟨_, _, .inr ⟨rfl, j, hj, hrange, rfl⟩, rfl⟩
  unchanged := by
    intro f hf
    obtain ⟨reason, hput, -⟩ := commit_eq_error_iff.1 hf
    rw [commit, hput]

/-- A removal fails for its index. -/
theorem atomic_remove (s : Session) (k : Kind) (i : Nat) :
    (s.remove k i).Atomic s (s.catalog.count k ≤ i) where
  fails_iff := by
    simp only [remove_eq_error_iff, Catalog.remove_eq_error_iff]
    constructor
    · rintro ⟨-, reason, ⟨hrange, -⟩, -⟩
      exact hrange
    · exact fun hrange => ⟨_, _, ⟨hrange, rfl⟩, rfl⟩
  unchanged := by
    intro f hf
    obtain ⟨reason, hremove, -⟩ := remove_eq_error_iff.1 hf
    rw [remove, hremove]

/-- A quantity is refused when it is zero. -/
theorem atomic_setQuantity (s : Session) (q : UInt32) : (s.setQuantity q).Atomic s (q = 0) := by
  by_cases hq : q = 0
  · exact ⟨by simp [setQuantity, hq], by simp [setQuantity, hq]⟩
  · exact ⟨by simp [setQuantity, hq], by simp [setQuantity, hq]⟩

/-! ## Edits of different kinds -/

theorem result_map_eq_ok_iff {α β : Type} {g : α → β} {t : Step α} {y : β} :
    (t.map g).result = .ok y ↔ ∃ x, t.result = .ok x ∧ g x = y := by
  cases h : t.result <;> simp [Step.map, h, Except.map]

/-- What is placed in a sequence that has room for it is what an edit puts
there. -/
theorem does_commit {xs : List Entry} (hcheck : e.check = .ok ())
    (hrange : ∀ j, index = some j → j < xs.length) :
    (Edit.commit index e).Does xs (.place (index.getD xs.length)) (Catalog.place index e xs) := by
  cases index with
  | none => exact .append hcheck
  | some j => exact .replace hcheck (hrange j rfl)

/-- **An edit that succeeds does to the sequence of its kind what it was
asked for**, and nothing to the others. -/
theorem does_of_edit (h : (s.edit a).result = .ok answer) :
    a.Does (s.catalog.entries a.kind) answer ((s.edit a).session.catalog.entries a.kind) ∧
      ∀ k, k ≠ a.kind → (s.edit a).session.catalog.entries k = s.catalog.entries k := by
  cases a with
  | commit index e =>
    obtain ⟨i, hresult, rfl⟩ := result_map_eq_ok_iff.1 h
    obtain ⟨hcheck, hrange, rfl, hcatalog⟩ :=
      Catalog.put_eq_ok_iff.1 (commit_eq_ok_iff.1 ⟨hresult, rfl⟩)
    have hentries : ∀ k, (s.edit (.commit index e)).session.catalog.entries k =
        if e.kind = k then Catalog.place index e (s.catalog.entries k)
          else s.catalog.entries k := by
      intro k
      rw [← Catalog.entries_store, ← hcatalog]
      rfl
    refine ⟨?_, fun k hk => (hentries k).trans (if_neg (Ne.symm hk))⟩
    rw [Edit.kind, hentries, if_pos rfl, ← Catalog.length_entries]
    exact does_commit hcheck fun j hj => Catalog.length_entries _ _ ▸ hrange j hj
  | remove k i =>
    obtain ⟨e, hresult, rfl⟩ := result_map_eq_ok_iff.1 h
    have hout := Catalog.takesOut_of_remove (remove_eq_ok_iff.1 ⟨hresult, rfl⟩)
    have hrest := hout.rest
    refine ⟨?_, hout.others⟩
    rw [Edit.kind]
    exact hrest ▸ .remove hout.there

/-- An entry that passes its rules is committed where there is room. -/
theorem commit_of_check (s : Session) (index : Option Nat) (hcheck : e.check = .ok ())
    (hrange : ∀ j, index = some j → j < s.catalog.count e.kind) :
    (s.commit index e).result = .ok (index.getD (s.catalog.count e.kind)) ∧
      (s.commit index e).session.catalog.entries e.kind =
        Catalog.place index e (s.catalog.entries e.kind) := by
  obtain ⟨hresult, hcatalog⟩ :=
    commit_eq_ok_iff.2 (Catalog.put_eq_ok_iff.2 ⟨hcheck, hrange, rfl, rfl⟩)
  refine ⟨hresult, ?_⟩
  rw [hcatalog, Catalog.entries_store, if_pos rfl]

/-- An entry that is there is removed. -/
theorem remove_of_getElem? (hentry : (s.catalog.entries k)[i]? = some e) :
    (s.remove k i).result = .ok e ∧
      (s.remove k i).session.catalog.entries k = (s.catalog.entries k).eraseIdx i := by
  obtain ⟨hresult, hcatalog⟩ := remove_eq_ok_iff.2 (Catalog.remove_eq_ok_iff.2 ⟨hentry, rfl⟩)
  refine ⟨hresult, ?_⟩
  rw [hcatalog, Catalog.entries_erase, if_pos rfl]

/-- **An edit that can be done succeeds**, and does it. -/
theorem edit_of_does {ys : List Entry} (h : a.Does (s.catalog.entries a.kind) answer ys) :
    (s.edit a).result = .ok answer ∧ (s.edit a).session.catalog.entries a.kind = ys := by
  cases a with
  | commit index e =>
    cases h with
    | append hcheck =>
      obtain ⟨hresult, hentries⟩ := commit_of_check s none hcheck nofun
      refine ⟨result_map_eq_ok_iff.2 ⟨_, hresult, ?_⟩, hentries⟩
      rw [← Catalog.length_entries]
      rfl
    | @replace _ i _ hcheck hlt =>
      rw [Catalog.length_entries] at hlt
      obtain ⟨hresult, hentries⟩ := commit_of_check s (some i) hcheck
        fun j hj => Option.some.inj hj ▸ hlt
      exact ⟨result_map_eq_ok_iff.2 ⟨_, hresult, rfl⟩, hentries⟩
  | remove k i =>
    cases h with
    | remove hentry =>
      obtain ⟨hresult, hentries⟩ := remove_of_getElem? hentry
      exact ⟨result_map_eq_ok_iff.2 ⟨_, hresult, rfl⟩, hentries⟩

/-- **Edits of different kinds can be made in either order.** -/
theorem edit_comm (hab : a.kind ≠ b.kind) (ha : (s.edit a).result = .ok answer)
    (hb : ((s.edit a).session.edit b).result = .ok answer') :
    (s.edit b).result = .ok answer' ∧ ((s.edit b).session.edit a).result = .ok answer ∧
      ((s.edit b).session.edit a).session.catalog =
        ((s.edit a).session.edit b).session.catalog := by
  obtain ⟨hdoes, hothers⟩ := does_of_edit ha
  obtain ⟨hdoes', hothers'⟩ := does_of_edit hb
  -- the second edit finds its sequence as it was at the start, so it can be made there
  rw [hothers b.kind (Ne.symm hab)] at hdoes'
  obtain ⟨hfirst, hown⟩ := edit_of_does hdoes'
  obtain ⟨-, hrest⟩ := does_of_edit hfirst
  rw [← hrest a.kind hab] at hdoes
  obtain ⟨hsecond, hown'⟩ := edit_of_does hdoes
  obtain ⟨-, hrest'⟩ := does_of_edit hsecond
  -- the catalogs are the same in the two sequences that are edited, and in the rest
  refine ⟨hfirst, hsecond, Catalog.eq_of_entries_eq fun k => ?_⟩
  by_cases hka : k = a.kind
  · rw [hka, hown', hothers' a.kind hab]
  · rw [hrest' k hka]
    by_cases hkb : k = b.kind
    · rw [hkb, hown]
    · rw [hrest k hkb, hothers' k hkb, hothers k hka]

/-! ## Every operation that can fail -/

/-- **The operations of a session are atomic and local.** A commit fails
just when its entry breaks a rule or its index is out of range, and broken
rules are what it fails with; a removal, when its index is out of range; a
change of the quantity, when it is zero. A failure leaves the session as
it was. A commit that succeeds answers the place where the entry stands,
which is the end of its sequence if no index is given, and a removal the
entry that stood at the index; no other place and no other sequence is
touched. Two edits of different kinds that succeed one after the other
succeed in the other order too, with the same answers and the same
catalog. -/
theorem operations_atomic (s : Session) :
    (∀ index e,
      (s.commit index e).Atomic s
        ((∃ reason, e.check = .error reason) ∨
          ∃ i, index = some i ∧ s.catalog.count e.kind ≤ i) ∧
      (∀ reason, e.check = .error reason →
        (s.commit index e).result = .error (.catalog reason)) ∧
      ∀ place, (s.commit index e).result = .ok place →
        place = index.getD (s.catalog.count e.kind) ∧
          s.catalog.Stores (s.commit index e).session.catalog place e) ∧
    (∀ k i,
      (s.remove k i).Atomic s (s.catalog.count k ≤ i) ∧
      ∀ e, (s.remove k i).result = .ok e →
        s.catalog.TakesOut (s.remove k i).session.catalog k i e) ∧
    (∀ q,
      (s.setQuantity q).Atomic s (q = 0) ∧
      ((s.setQuantity q).result = .ok () →
        (s.setQuantity q).session = { s with quantity := q })) ∧
    ∀ a b answer answer', a.kind ≠ b.kind → (s.edit a).result = .ok answer →
      ((s.edit a).session.edit b).result = .ok answer' →
      (s.edit b).result = .ok answer' ∧ ((s.edit b).session.edit a).result = .ok answer ∧
        ((s.edit b).session.edit a).session.catalog =
          ((s.edit a).session.edit b).session.catalog := by
  refine ⟨fun index e => ⟨atomic_commit s index e, fun reason hrules => ?_, fun place h => ?_⟩,
    fun k i => ⟨atomic_remove s k i, fun e h => ?_⟩,
    fun q => ⟨atomic_setQuantity s q, fun h => ?_⟩,
    fun a b answer answer' hab ha hb => edit_comm hab ha hb⟩
  · exact commit_eq_error_iff.2 ⟨reason, Catalog.put_eq_error_iff.2 (.inl hrules), rfl⟩
  · have hput := commit_eq_ok_iff.1 ⟨h, rfl⟩
    exact ⟨(Catalog.put_eq_ok_iff.1 hput).2.2.1, Catalog.stores_of_put hput⟩
  · exact Catalog.takesOut_of_remove (remove_eq_ok_iff.1 ⟨h, rfl⟩)
  · by_cases hq : q = 0
    · simp [setQuantity, hq] at h
    · simp [setQuantity, hq]

/-- A session over a shop with two gems and an offer. -/
def gemSession : Session :=
  start
    { entitlements :=
        [{ className := "gem", infoModule := "gem_info" },
          { className := "ruby", infoModule := "gem_info", consumable := true, maxCount := 9 }]
      offers :=
        [{ className := "gem_offer", infoModule := "gem_info", entitlementType := "gem",
           price := .vbucks 100 }] }

/-- An offer whose price is between two steps. -/
def oddOffer : Offer :=
  { className := "odd_offer", infoModule := "gem_info", entitlementType := "gem",
    price := .vbucks 120 }

/-- In this session an odd offer is refused at an index that is out of
range, and for its price; and the first gem is taken out before or after
an offer is put in the place of the other one. -/
theorem operations_gemSession :
    (gemSession.commit (some 7) (.offer oddOffer)).result =
      .error (.catalog (.priceRejected "odd_offer" 120 ["Price must be a multiple of 50"])) ∧
    (gemSession.commit (some 7) (.offer oddOffer)).session = gemSession ∧
    gemSession.catalog.TakesOut (gemSession.remove .entitlement 0).session.catalog .entitlement 0
      (.entitlement { className := "gem", infoModule := "gem_info" }) ∧
    let a := Edit.remove .entitlement 0
    let b := Edit.commit (some 0) (.offer { oddOffer with price := .vbucks 150 })
    ((gemSession.edit b).session.edit a).session.catalog =
      ((gemSession.edit a).session.edit b).session.catalog := by
  obtain ⟨hcommit, hremove, -, hcomm⟩ := operations_atomic gemSession
  obtain ⟨hatomic, hrules, -⟩ := hcommit (some 7) (.offer oddOffer)
  have hrefused :=
    hrules (.priceRejected "odd_offer" 120 ["Price must be a multiple of 50"]) (by decide)
  refine ⟨hrefused, hatomic.unchanged _ hrefused, (hremove .entitlement 0).2 _ (by rfl), ?_⟩
  exact (hcomm _ _ (.entry (.entitlement { className := "gem", infoModule := "gem_info" }))
    (.place 0) (by decide) (by rfl) (by rfl)).2.2

end Storefront.Session
