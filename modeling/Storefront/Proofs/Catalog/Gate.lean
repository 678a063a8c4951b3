import Mathlib.Data.List.Forall2
import Mathlib.Data.List.Nodup
import Storefront.Failure
import Storefront.Proofs.Catalog.Rules
/-!
# Catalog — what the gate accepts and what it reports

The gate accepts a language of names, counts and prices. Of an entry that
is not in it, the refusal says what is wrong and no more: it names the
entry, and carries what each broken rule says, once and in the order of
the rules. The failure around the refusal passes these texts on, and
shows them in its message and its advice (`gate_exact`).
-/

namespace Storefront

open Text

/-! ## The language -/

/-- A price on the grid: fifty V-Bucks, up to a hundred times. -/
def Price.OnGrid (amount : Int64) : Prop := ∃ k : Int, 1 ≤ k ∧ k ≤ 100 ∧ amount.toInt = 50 * k

/-- **An acceptable entry.** An entitlement has a lower-case name and is
held once, or more often if it is consumable; what is sold has a price on
the grid; of an info module nothing is asked. -/
def Entry.Acceptable : Entry → Prop
  | info _ => True
  | entitlement e => IsName e.className ∧
      (e.maxCount.toInt = 1 ∨ e.consumable = true ∧ 1 < e.maxCount.toInt)
  | offer o => Price.OnGrid o.price.amount
  | bundle b => Price.OnGrid b.price.amount

/-- What it is for an entitlement to break a rule. -/
def Entitlement.Breaks (e : Entitlement) : Rule → Prop
  | .snakeCase => ¬ IsName e.className
  | .countAtLeastOne => e.maxCount.toInt < 1
  | .permanentCountIsOne => e.consumable = false ∧ 1 < e.maxCount.toInt
  | .priceInRange => False
  | .priceOnStep => False

/-- What it is for a price to break a rule. -/
def Price.Breaks (amount : Int64) : Rule → Prop
  | .priceInRange => amount.toInt < 50 ∨ 5000 < amount.toInt
  | .priceOnStep => ¬ (50 : Int) ∣ amount.toInt
  | .snakeCase => False
  | .countAtLeastOne => False
  | .permanentCountIsOne => False

/-- What it is for an entry to break a rule. -/
def Entry.Breaks : Entry → Rule → Prop
  | info _, _ => False
  | entitlement e, r => e.Breaks r
  | offer o, r => Price.Breaks o.price.amount r
  | bundle b, r => Price.Breaks b.price.amount r

instance (s : String) : Decidable (IsName s) := decidable_of_iff _ isSnakeCase_iff

instance (e : Entitlement) : DecidablePred e.Breaks
  | .snakeCase => inferInstanceAs (Decidable (¬ IsName e.className))
  | .countAtLeastOne => inferInstanceAs (Decidable (e.maxCount.toInt < 1))
  | .permanentCountIsOne =>
    inferInstanceAs (Decidable (e.consumable = false ∧ 1 < e.maxCount.toInt))
  | .priceInRange => inferInstanceAs (Decidable False)
  | .priceOnStep => inferInstanceAs (Decidable False)

instance (amount : Int64) : DecidablePred (Price.Breaks amount)
  | .priceInRange => inferInstanceAs (Decidable (amount.toInt < 50 ∨ 5000 < amount.toInt))
  | .priceOnStep => inferInstanceAs (Decidable (¬ (50 : Int) ∣ amount.toInt))
  | .snakeCase => inferInstanceAs (Decidable False)
  | .countAtLeastOne => inferInstanceAs (Decidable False)
  | .permanentCountIsOne => inferInstanceAs (Decidable False)

instance (e : Entry) : DecidablePred e.Breaks := fun r =>
  match e with
  | .info _ => inferInstanceAs (Decidable False)
  | .entitlement e => inferInstanceAs (Decidable (e.Breaks r))
  | .offer o => inferInstanceAs (Decidable (Price.Breaks o.price.amount r))
  | .bundle b => inferInstanceAs (Decidable (Price.Breaks b.price.amount r))

/-- The rules of an entitlement, in the order in which they are tried. -/
def Rule.ofEntitlement : List Rule := [snakeCase, countAtLeastOne, permanentCountIsOne]

/-- The rules of a price, in the order in which they are tried. -/
def Rule.ofPrice : List Rule := [priceInRange, priceOnStep]

/-- **Every rule**, in order. -/
def Rule.order : List Rule := ofEntitlement ++ ofPrice

/-- **What is wrong with an entry**: what the rules that it breaks say, in
rule order. -/
def Entry.faults (e : Entry) : List String := (Rule.order.filter (e.Breaks ·)).map Rule.message

/-- **The refusal of an entry**: it names the entry, and the amount if
that is at fault, and carries what is wrong. -/
inductive Entry.RefusedFor : Entry → CatalogError → Prop
  | entitlement (e : Entitlement) :
      RefusedFor (.entitlement e) (.entitlementRejected e.className (Entry.entitlement e).faults)
  | offer (o : Offer) :
      RefusedFor (.offer o) (.priceRejected o.className o.price.amount (Entry.offer o).faults)
  | bundle (b : Bundle) :
      RefusedFor (.bundle b) (.priceRejected b.className b.price.amount (Entry.bundle b).faults)

/-- A text that stands somewhere within another. -/
def Text.Occurs (part whole : String) : Prop := ∃ before after, whole = before ++ part ++ after

/-- **An error that tells what is wrong with an entry**, as violations, in
its message next to the name of the entry, and line by line in its
advice. -/
structure Entry.ToldBy (e : Entry) (violations : List String) (message : String)
    (suggestions : List String) : Prop where
  violations : violations = e.faults
  named : Occurs e.key message
  shown : ∀ text ∈ e.faults, Occurs text message
  advised : List.Forall₂ Occurs e.faults suggestions

/-- **A gate that accepts its language and tells exactly what is wrong**
with whatever is not in it, once for each rule. A name that it accepts is
of ASCII characters, and of one line. -/
structure Entry.GateExact (e : Entry) : Prop where
  accepts_iff : e.check = .ok () ↔ e.Acceptable
  names : ∀ x, e = .entitlement x → e.Acceptable →
    ∀ c ∈ x.className.toList, c.toNat < 128 ∧ c ≠ '\n'
  refuses : ¬ e.Acceptable → ∃ reason, e.check = .error reason ∧ e.RefusedFor reason ∧
    e.ToldBy reason.violations reason.message reason.suggestions ∧
    e.ToldBy (Failure.catalog reason).violations (Failure.catalog reason).message
      (Failure.catalog reason).suggestions
  once : e.faults.Nodup

variable {e : Entry} {amount : Int64} {reason : CatalogError}

/-! ## Rules -/

theorem Rule.mem_order (r : Rule) : r ∈ order := by cases r <;> decide

theorem Rule.message_injective : Function.Injective message := by
  intro r r' h
  cases r <;> cases r' <;> first | rfl | exact absurd h (by decide)

/-- **No fault is told twice.** -/
theorem Entry.nodup_faults (e : Entry) : e.faults.Nodup := by
  have horder : Rule.order.Nodup := by decide
  exact List.Nodup.map Rule.message_injective (horder.filter _)

theorem Entry.faults_eq_nil_iff : e.faults = [] ↔ ∀ r, ¬ e.Breaks r := by
  simp [faults, Rule.mem_order]

/-- The rules of a list that are broken, if each stands beside the test
for it. -/
theorem Rule.broken_eq_filter {tests : List (Rule × Bool)} {p : Rule → Prop} [DecidablePred p]
    (h : ∀ t ∈ tests, t.2 = true ↔ ¬ p t.1) : broken tests = (tests.map (·.1)).filter (p ·) := by
  have htests : ∀ t ∈ tests, (!t.2) = decide (p t.1) := by
    intro t ht
    rw [← Bool.not_inj_iff, Bool.not_not, Bool.eq_iff_iff, h t ht, Bool.not_eq_true',
      decide_eq_false_iff_not]
  rw [broken, List.filter_congr htests, List.filter_map]
  rfl

/-- **The broken rules of an entitlement** are those that it breaks. -/
theorem Entitlement.brokenRules_eq (e : Entitlement) :
    e.brokenRules = Rule.order.filter (e.Breaks ·) := by
  have hone : (1 : Int64).toInt = 1 := rfl
  have hown : e.brokenRules = Rule.ofEntitlement.filter (e.Breaks ·) := by
    refine Rule.broken_eq_filter ?_
    simp only [List.forall_mem_cons, List.not_mem_nil, false_implies, implies_true, and_true]
    refine ⟨?_, ?_, ?_⟩
    · simp [Breaks, isSnakeCase_iff]
    · simp [Breaks, Int64.le_iff_toInt_le, hone]
    · simp [Breaks, Int64.le_iff_toInt_le, hone, or_iff_not_imp_left]
  -- the rules of a price ask nothing of an entitlement
  have hprice : Rule.ofPrice.filter (e.Breaks ·) = [] := rfl
  rw [Rule.order, List.filter_append, hprice, List.append_nil, hown]

/-- **The broken rules of a price** are those that it breaks. -/
theorem Price.brokenRules_eq (amount : Int64) :
    Price.brokenRules amount = Rule.order.filter (Price.Breaks amount ·) := by
  have hleast : Price.least.toInt = 50 := rfl
  have hgreatest : Price.greatest.toInt = 5000 := rfl
  have hown : Price.brokenRules amount = Rule.ofPrice.filter (Price.Breaks amount ·) := by
    refine Rule.broken_eq_filter ?_
    simp only [List.forall_mem_cons, List.not_mem_nil, false_implies, implies_true, and_true]
    refine ⟨?_, ?_⟩
    · simp [Breaks, Int64.le_iff_toInt_le, hleast, hgreatest]
    · simp [Breaks, mod_step_eq_zero_iff]
  have hentitlement : Rule.ofEntitlement.filter (Price.Breaks amount ·) = [] := rfl
  rw [Rule.order, List.filter_append, hentitlement, List.nil_append, hown]

/-- A price is on the grid when it breaks no rule. -/
theorem Price.onGrid_iff : Price.OnGrid amount ↔ ∀ r, ¬ Price.Breaks amount r := by
  constructor
  · rintro ⟨k, hleast, hgreatest, hk⟩ r
    cases r <;> simp only [Breaks, not_false_eq_true] <;> omega
  · intro h
    have hrange := h .priceInRange
    have hstep := h .priceOnStep
    simp only [Breaks, not_or, Int.not_lt, not_not] at hrange hstep
    obtain ⟨k, hk⟩ := hstep
    exact ⟨k, by omega, by omega, hk⟩

/-- An entitlement that breaks no rule has a name and a count that goes
with its use. -/
theorem Entitlement.acceptable_iff (e : Entitlement) :
    (Entry.entitlement e).Acceptable ↔ ∀ r, ¬ e.Breaks r := by
  constructor
  · rintro ⟨hname, hcount⟩ r
    cases r with
    | snakeCase => exact not_not.2 hname
    | countAtLeastOne =>
      change ¬ e.maxCount.toInt < 1
      omega
    | permanentCountIsOne =>
      rintro ⟨hkept, hmore⟩
      rcases hcount with hone | ⟨hused, -⟩
      · omega
      · simp [hkept] at hused
    | priceInRange => exact not_false
    | priceOnStep => exact not_false
  · intro h
    have hcount : ¬ e.maxCount.toInt < 1 := h .countAtLeastOne
    have hkept : ¬ (e.consumable = false ∧ 1 < e.maxCount.toInt) := h .permanentCountIsOne
    refine ⟨not_not.1 (h .snakeCase), ?_⟩
    by_cases hmore : 1 < e.maxCount.toInt
    · exact .inr ⟨by simpa [hmore] using hkept, hmore⟩
    · exact .inl (by omega)

/-- **An entry is acceptable when it breaks no rule.** -/
theorem Entry.acceptable_iff : e.Acceptable ↔ ∀ r, ¬ e.Breaks r := by
  cases e with
  | info m => exact iff_of_true trivial fun _ => not_false
  | entitlement e => exact e.acceptable_iff
  | offer o => exact Price.onGrid_iff
  | bundle b => exact Price.onGrid_iff

/-! ## The gate -/

/-- An entitlement is let through when it breaks no rule, and is else
refused for all that it breaks. -/
theorem Entitlement.check_cases (e : Entitlement) :
    (Entry.entitlement e).faults = [] ∧ e.check = .ok () ∨
      (Entry.entitlement e).faults ≠ [] ∧
        e.check = .error (.entitlementRejected e.className (Entry.entitlement e).faults) := by
  have hfaults : e.brokenRules.map Rule.message = (Entry.entitlement e).faults :=
    congrArg (List.map Rule.message) e.brokenRules_eq
  rw [check, hfaults]
  cases (Entry.entitlement e).faults <;> simp

/-- So is a price, be it of an offer or of a bundle. -/
theorem Price.check_cases (className : String) (amount : Int64) {faults : List String}
    (h : (Rule.order.filter (Price.Breaks amount ·)).map Rule.message = faults) :
    faults = [] ∧ Price.check className amount = .ok () ∨
      faults ≠ [] ∧
        Price.check className amount = .error (.priceRejected className amount faults) := by
  rw [check, violations, brokenRules_eq, h]
  cases faults <;> simp

/-- **The gate refuses an entry that breaks a rule**, for all that it
breaks, and lets every other through. -/
theorem Entry.check_cases (e : Entry) : e.faults = [] ∧ e.check = .ok () ∨
    e.faults ≠ [] ∧ ∃ reason, e.check = .error reason ∧ e.RefusedFor reason := by
  cases e with
  | info m => exact .inl ⟨rfl, rfl⟩
  | entitlement e =>
    exact e.check_cases.imp_right fun ⟨hne, hcheck⟩ => ⟨hne, _, hcheck, .entitlement e⟩
  | offer o =>
    exact (Price.check_cases o.className o.price.amount rfl).imp_right
      fun ⟨hne, hcheck⟩ => ⟨hne, _, hcheck, .offer o⟩
  | bundle b =>
    exact (Price.check_cases b.className b.price.amount rfl).imp_right
      fun ⟨hne, hcheck⟩ => ⟨hne, _, hcheck, .bundle b⟩

/-! ## What a refusal tells -/

namespace Text

variable {part whole : String}

theorem occurs_self (whole : String) : Occurs whole whole := ⟨"", "", by simp⟩

theorem Occurs.append_left (h : Occurs part whole) (more : String) :
    Occurs part (more ++ whole) := by
  obtain ⟨before, after, rfl⟩ := h
  exact ⟨more ++ before, after, by simp [String.append_assoc]⟩

theorem Occurs.append_right (h : Occurs part whole) (more : String) :
    Occurs part (whole ++ more) := by
  obtain ⟨before, after, rfl⟩ := h
  exact ⟨before, after ++ more, by simp [String.append_assoc]⟩

/-- **Each of some texts occurs where they are joined**, by induction on
the texts. -/
theorem occurs_intercalate {parts : List String} (separator : String) (h : part ∈ parts) :
    Occurs part (separator.intercalate parts) := by
  induction parts with
  | nil => cases h
  | cons first rest ih =>
    cases rest with
    | nil =>
      rw [String.intercalate_singleton, List.mem_singleton.1 h]
      exact occurs_self first
    | cons second rest =>
      rw [String.intercalate_cons_cons]
      rcases List.mem_cons.1 h with rfl | h
      · exact ((occurs_self part).append_right separator).append_right _
      · exact (ih h).append_left (first ++ separator)

/-- Each line occurs in itself with a mark in front. -/
theorem forall₂_occurs_append (mark : String) (lines : List String) :
    List.Forall₂ Occurs lines (lines.map (mark ++ ·)) := by
  rw [List.forall₂_map_right_iff, List.forall₂_same]
  exact fun line _ => (occurs_self line).append_left mark

end Text

theorem CatalogError.message_entitlementRejected (name : String) (faults : List String) :
    (entitlementRejected name faults).message =
      "entitlement '" ++ name ++ "' rejected: " ++ "; ".intercalate faults := rfl

theorem CatalogError.message_priceRejected (name : String) (amount : Int64)
    (faults : List String) : (priceRejected name amount faults).message =
      "price " ++ toString amount ++ " of '" ++ name ++ "' rejected: " ++
        "; ".intercalate faults := rfl

/-- **The refusal of a price tells what is wrong**, be it of an offer or of
a bundle. -/
theorem toldBy_priceRejected :
    e.ToldBy e.faults (CatalogError.priceRejected e.key amount e.faults).message
      (CatalogError.priceRejected e.key amount e.faults).suggestions := by
  rw [CatalogError.message_priceRejected]
  exact
    { violations := rfl
      named := (((occurs_self e.key).append_left _).append_right _).append_right _
      shown := fun _ htext => (occurs_intercalate "; " htext).append_left _
      advised := forall₂_occurs_append _ e.faults }

/-- **A refusal tells what is wrong.** -/
theorem Entry.RefusedFor.toldBy (h : e.RefusedFor reason) :
    e.ToldBy reason.violations reason.message reason.suggestions := by
  cases h with
  | entitlement e =>
    rw [CatalogError.message_entitlementRejected]
    exact
      { violations := rfl
        named := (((occurs_self e.className).append_left _).append_right _).append_right _
        shown := fun _ htext => (occurs_intercalate "; " htext).append_left _
        advised := forall₂_occurs_append _ _ }
  | offer o => exact toldBy_priceRejected
  | bundle b => exact toldBy_priceRejected

/-- The failure around a refusal tells it too. -/
theorem Entry.ToldBy.failure (h : e.ToldBy reason.violations reason.message reason.suggestions) :
    e.ToldBy (Failure.catalog reason).violations (Failure.catalog reason).message
      (Failure.catalog reason).suggestions where
  violations := h.violations
  named := h.named.append_left _
  shown := fun text htext => (h.shown text htext).append_left _
  advised := h.advised

/-! ## The whole gate -/

/-- What may stand in a name is an ASCII character other than the end of
a line. -/
theorem NamePart.ascii {c : Char} (h : NamePart c) : c.toNat < 128 ∧ c ≠ '\n' := by
  have hle : ∀ a b : Char, a ≤ b → a.toNat ≤ b.toNat := fun _ _ => UInt32.le_iff_toNat_le.1
  -- between the digit 0 and the letter z, where there is no line feed
  have hbounds : 48 ≤ c.toNat ∧ c.toNat ≤ 122 := by
    rcases h with (⟨hleast, hgreatest⟩ | rfl) | ⟨hleast, hgreatest⟩
    · exact ⟨Nat.le_trans (by decide) (hle _ _ hleast), hle _ _ hgreatest⟩
    · decide
    · exact ⟨hle _ _ hleast, Nat.le_trans (hle _ _ hgreatest) (by decide)⟩
  refine ⟨by omega, ?_⟩
  rintro rfl
  exact absurd hbounds.1 (by decide)

/-- **The gate is exact**: it accepts its language, and of whatever is not
in it tells exactly what is wrong. -/
theorem Entry.gate_exact (e : Entry) : e.GateExact := by
  have hclean : e.faults = [] ↔ e.Acceptable := faults_eq_nil_iff.trans acceptable_iff.symm
  refine ⟨?_, ?_, ?_, e.nodup_faults⟩
  · rcases e.check_cases with ⟨hnil, hcheck⟩ | ⟨hne, reason, hcheck, -⟩
    · exact iff_of_true hcheck (hclean.1 hnil)
    · exact iff_of_false (by simp [hcheck]) (mt hclean.2 hne)
  · rintro x rfl ⟨hname, -⟩ c hc
    exact (hname.part hc).ascii
  · intro hunacceptable
    rcases e.check_cases with ⟨hnil, -⟩ | ⟨-, reason, hcheck, hrefused⟩
    · exact absurd (hclean.1 hnil) hunacceptable
    · exact ⟨reason, hcheck, hrefused, hrefused.toldBy, hrefused.toldBy.failure⟩

/-- A price that is too low and off the grid breaks both its rules. -/
example :
    let gem : Offer :=
      { className := "gem_offer", infoModule := "gem_info", entitlementType := "gem",
        price := .vbucks (-75) }
    (Entry.offer gem).faults =
      ["Price must be between 50 and 5000 V-Bucks", "Price must be a multiple of 50"] := by
  decide

end Storefront
