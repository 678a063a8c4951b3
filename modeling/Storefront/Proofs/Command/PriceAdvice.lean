import Storefront.Proofs.Catalog.NearestPrice
import Storefront.Proofs.Command.Reported
import Storefront.Proofs.Command.Selects
import Storefront.Proofs.CommandLine.Amounts
/-!
# Commands — advice on amounts

When an amount is no valid price, the report of the run names the closest
one. That is the best advice there is, and it can be followed: the same
question about the amount that was named succeeds (`advice_best`).
-/

namespace Storefront

open Text

/-- **A closest price that is good advice**: it is the best one, it is the
amount itself just when that is valid, it follows the amount, and no word
overflows on the way to it. -/
structure Price.Advisable (amount : Int64) : Prop where
  best : Price.Best amount (Price.nearest amount)
  fixed : Price.nearest amount = amount ↔ Price.violations amount = []
  follows : ∀ amount', amount ≤ amount' → Price.nearest amount ≤ Price.nearest amount'
  checked : Price.checkedNearest amount = some (Price.nearest amount)

theorem Price.advisable (amount : Int64) : Price.Advisable amount :=
  { best := Price.best_nearest amount
    fixed := Price.nearest_eq_self_iff
    follows := fun _ => Price.nearest_mono
    checked := Price.checkedNearest_eq amount }

/-- The closest price has nothing wrong with it. -/
theorem PriceCheck.error?_nearest (amount : Int64) :
    PriceCheck.error? (Price.nearest amount) = none := by
  rw [PriceCheck.error?, (Price.best_nearest amount).valid]
  rfl

namespace CommandError

/-- The line that names the closest price. -/
def nearestLine (amount : Int64) : String := "Nearest valid price: " ++ toString amount ++ "\n"

/-- **The report on an amount names the closest price.** -/
theorem occurs_nearestLine (amount : Int64) (violations : List String) (verbose : Bool) :
    Occurs (nearestLine (Price.nearest amount))
      ((invalidPrice amount violations).plainReport verbose) := by
  have hshows := (ErrorReport.ofError (invalidPrice amount violations) verbose).shows_plain
  refine hshows.occurs_line ?_
  have hadvice : "Nearest valid price: " ++ toString (Price.nearest amount) ∈
      advice (priceAdvice amount) :=
    List.mem_cons_of_mem _ (List.mem_cons_of_mem _ List.mem_cons_self)
  exact List.mem_append_left _ (List.mem_append_right _ hadvice)

end CommandError

namespace Run

variable {w : World} {words words' : List String} {i i' : Invocation} {amount : Int64} {r : Run}

/-! ## Runs that ask about an amount -/

/-- With loaded settings the error of a run is that of the amount. -/
theorem error_price (hrequest : i.request = .price amount)
    (hload : Settings.load w.environment w.disk
      (Settings.activePath w.environment i.options.config) = .ok settings) :
    (outcome i w).1.error = PriceCheck.error? amount := by
  rw [outcome_of_load hload, Outcome.inside, perform, hrequest]
  rfl

/-- **A run that finds fault with the amount** has its settings loaded; the
error is that of the amount. -/
theorem load_of_exitCode_price (hrequest : i.request = .price amount)
    (hexit : (ofInvocation i w).exitCode = 2) :
    ∃ settings, Settings.load w.environment w.disk
        (Settings.activePath w.environment i.options.config) = .ok settings ∧
      (outcome i w).1.error = some (.invalidPrice amount (Price.violations amount)) := by
  rw [exitCode_ofInvocation] at hexit
  cases hload : Settings.load w.environment w.disk
      (Settings.activePath w.environment i.options.config) with
  | error e =>
    -- without settings the run ends too, but not with the exit code of a user's mistake
    have hcode : e.toCommandError.exitCode = 4 := rfl
    rw [outcome_of_load_error hload, Outcome.failing, Option.map_some, hcode] at hexit
    cases hexit
  | ok settings =>
    have herror := error_price hrequest hload
    refine ⟨settings, rfl, ?_⟩
    rw [herror] at hexit ⊢
    rw [PriceCheck.error?] at hexit ⊢
    split at hexit
    · cases hexit
    · next hne => rw [if_neg hne]

theorem disk_price (hrequest : i.request = .price amount) :
    (ofInvocation i w).disk = w.disk := by
  refine disk_ofInvocation_of_not_writes fun path doc hwrites => ?_
  obtain ⟨settings, -, haims⟩ := hwrites
  cases haims with
  | generated h => rw [hrequest] at h; cases h
  | sample h => rw [hrequest] at h; cases h
  | settings h => rw [hrequest] at h; cases h

/-- A question about an amount leaves the world as it is. -/
theorem after_price (hparse : CommandLine.parse (settle w).environment words = .ok i)
    (hrequest : i.request = .price amount) : w.after words = w := by
  have hdisk : (ofInvocation i (settle w)).disk = w.disk := disk_price hrequest
  have hafter : w.after words = { w with disk := (ofInvocation i (settle w)).disk } := by
    rw [World.after, invoke_of_parse hparse]
  rw [hafter, hdisk]

/-- **A line that succeeds** in a world, without a report. -/
def Succeeds (w : World) (words : List String) : Prop :=
  ∃ r, invoke w words = .ok r ∧ r.exitCode = 0 ∧ r.report = ""

/-- **The amount that was named is accepted** by any run with the same file
of settings, if these can be loaded. -/
theorem succeeds_nearest (hparse : CommandLine.parse (settle w).environment words = .ok i)
    (hrequest : i.request = .price (Price.nearest amount))
    (hload : Settings.load (settle w).environment (settle w).disk
      (Settings.activePath (settle w).environment i.options.config) = .ok settings) :
    Succeeds w words := by
  have herror : (outcome i (settle w)).1.error = none :=
    (error_price hrequest hload).trans (PriceCheck.error?_nearest amount)
  refine ⟨_, invoke_of_parse hparse, ?_, ?_⟩
  · rw [exitCode_ofInvocation, herror]
    rfl
  · rw [report_ofInvocation, herror]
    rfl

/-- **The advice can be followed**: after a run that finds fault with an
amount, a line that asks about the amount that was named succeeds. -/
theorem succeeds_after (hparse : CommandLine.parse (settle w).environment words = .ok i)
    (hrequest : i.request = .price amount) (hrun : invoke w words = .ok r)
    (hexit : r.exitCode = 2)
    (hparse' : CommandLine.parse (settle w).environment words' = .ok i')
    (hrequest' : i'.request = .price (Price.nearest amount))
    (hconfig : i'.options.config = i.options.config) :
    Succeeds (w.after words) words' := by
  obtain rfl := eq_ofInvocation hparse hrun
  obtain ⟨settings, hload, -⟩ := load_of_exitCode_price hrequest hexit
  rw [after_price hparse hrequest]
  exact succeeds_nearest hparse' hrequest' (hconfig ▸ hload)

/-- **The price that is named is the best one, and it is accepted.** For
every amount the closest price is good advice. A run that finds fault with
an amount names it in its report; whatever line with the same file of
settings then asks about that price succeeds, the line as it was with the
price for the amount among them. -/
theorem advice_best :
    (∀ amount, Price.Advisable amount) ∧
    (∀ w words i amount r, CommandLine.parse (settle w).environment words = .ok i →
      i.request = .price amount → invoke w words = .ok r → r.exitCode = 2 →
      Occurs (CommandError.nearestLine (Price.nearest amount)) r.report ∧
      ∀ words' i', CommandLine.parse (settle w).environment words' = .ok i' →
        i'.request = .price (Price.nearest amount) → i'.options.config = i.options.config →
        Succeeds (w.after words) words') ∧
    ∀ w named, (∀ file ∈ named, file.toList.head? ≠ some '-' ∧ file ≠ "") → ∀ amount : Int64,
      let line (n : Int64) := CommandLine.naming named ++ ["price", toString n]
      ∃ r, invoke w (line amount) = .ok r ∧
        (r.exitCode = 2 → Succeeds (w.after (line amount)) (line (Price.nearest amount))) := by
  refine ⟨Price.advisable, ?_, ?_⟩
  · intro w words i amount r hparse hrequest hrun hexit
    refine ⟨?_, fun words' i' hparse' hrequest' hconfig =>
      succeeds_after hparse hrequest hrun hexit hparse' hrequest' hconfig⟩
    obtain rfl := eq_ofInvocation hparse hrun
    obtain ⟨settings, -, herror⟩ := load_of_exitCode_price hrequest hexit
    rw [report_ofInvocation, herror]
    exact CommandError.occurs_nearestLine amount _ _
  · intro w named hnamed amount line
    obtain ⟨options, -, hline⟩ := CommandLine.parse_price (settle w).environment hnamed
    exact ⟨_, invoke_of_parse (hline amount), fun hexit =>
      succeeds_after (hline amount) rfl (invoke_of_parse (hline amount)) hexit
        (hline (Price.nearest amount)) rfl rfl⟩

/-- An amount above the range is refused, and the greatest price is named
and accepted. -/
theorem advice_shelf :
    ∃ r, invoke { disk := shelf } ["price", "99999"] = .ok r ∧ r.exitCode = 2 ∧
      Occurs (CommandError.nearestLine 5000) r.report ∧
      Succeeds (World.after { disk := shelf } ["price", "99999"]) ["price", "5000"] := by
  let i : Invocation := ⟨{}, .price 99999⟩
  let i' : Invocation := ⟨{}, .price 5000⟩
  have hparse : CommandLine.parse [] ["price", "99999"] = .ok i := by decide +kernel
  have hparse' : CommandLine.parse [] ["price", "5000"] = .ok i' := by decide +kernel
  have hrun : invoke { disk := shelf } ["price", "99999"] =
      .ok (ofInvocation i { disk := shelf }) := rfl
  have hexit : (ofInvocation i { disk := shelf }).exitCode = 2 := by decide +kernel
  have hnearest : Price.nearest 99999 = 5000 := by decide
  obtain ⟨hreport, hfollow⟩ := advice_best.2.1 { disk := shelf } _ i 99999 _ hparse rfl hrun hexit
  rw [hnearest] at hreport hfollow
  exact ⟨_, hrun, hexit, hreport, hfollow _ i' hparse' rfl rfl⟩

end Run

end Storefront
