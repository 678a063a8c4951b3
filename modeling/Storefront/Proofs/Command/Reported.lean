import Storefront.Command.ErrorReport
import Storefront.Proofs.Command.ErrorTexts
import Storefront.Proofs.Text.Itemized
/-!
# Commands — two reports of one error

An error is reported plainly or in colours. Both reports show the same
items in the same order: the message, the rules that an amount breaks, the
causes if more is asked for, the advice under its heading, and the hint
how to ask for more if it is not (`reports_agree`). The colours are
escape sequences that can be taken out again, and a plain report has no
escape character that the error does not bring along.
-/

namespace Storefront

open Text

namespace CommandError

/-! ## What a report has to show -/

/-- Advice under its heading, which stands there once, and not without
advice. -/
def advice : List String → List String
  | [] => []
  | lines => "Suggestions:" :: lines

/-- **The items of a report**, in order. -/
def items (e : CommandError) (verbose : Bool) : List String :=
  [e.message] ++ e.violations ++ (if verbose then e.causes else []) ++ advice e.suggestions ++
    if verbose then [] else ["Use -v / --verbose for more details."]

/-- **An error whose reports tell the same story.** Both show its items;
that in colours does when its styles are taken out, and says the same. The
plain one has no escape character but those of the items. If the error
brings none along, the styles are found in the report itself. The rules
that a refused entry breaks can be read in both. -/
structure ReportedAlike (e : CommandError) (verbose : Bool) : Prop where
  plain : Shows (e.plainReport verbose) (e.items verbose)
  colored : ∃ bare, Bares (e.coloredReport verbose) bare ∧ Shows bare (e.items verbose) ∧
    substance bare = substance (e.plainReport verbose)
  escapes : (e.plainReport verbose).toList.count escape =
    ((e.items verbose).flatMap String.toList).count escape
  unescaped : (∀ text ∈ e.texts, Unescaped text) → Unescaped (e.plainReport verbose) ∧
    substance (withoutStyles (e.coloredReport verbose)) = substance (e.plainReport verbose)
  broken : ∀ f, e = .failed f → ∀ text ∈ f.violations,
    Occurs text (e.plainReport verbose) ∧ Occurs text (e.coloredReport verbose)

end CommandError

namespace ErrorReport

variable {r : ErrorReport} {heading : String}

/-- The items of a report. -/
def items (r : ErrorReport) : List String :=
  [r.headline] ++ r.violations ++ r.causes ++ CommandError.advice r.suggestions ++ r.hint.toList

/-- The report in colours, without the colours. -/
def bare (r : ErrorReport) : String :=
  String.join
    (["\n" ++ "✗" ++ " " ++ "Error:" ++ "\n\n", "  " ++ r.headline ++ "\n"] ++
      r.violations.map (fun v => "    " ++ "-" ++ " " ++ v ++ "\n") ++
      r.causes.map (fun c => "\n  " ++ "→" ++ " " ++ c ++ "\n") ++
      underHeading "Suggestions:" r.suggestions ++
      (r.hint.map fun h => "\n" ++ "ℹ" ++ " " ++ h ++ "\n").toList)

/-! ## Both reports show the items -/

/-- Advice is shown under its heading, behind an empty line. -/
theorem shows_underHeading (lines : List String) :
    Shows (String.join (underHeading "Suggestions:" lines)) (CommandError.advice lines) := by
  cases lines with
  | nil => exact .nil
  | cons l ls =>
    have hheading : Shows ("\n" ++ "Suggestions:" ++ "\n") ["Suggestions:"] :=
      shows_line "\n" ["\n"] (by decide) (by decide) _
    have hlines := shows_map (fun i => shows_line "  " [" ", " "] (by decide)
      (by decide) i) (l :: ls)
    rw [underHeading, String.join_cons]
    · exact hheading.append hlines
    · exact List.cons_ne_nil l ls

/-- A hint is shown behind an empty line. -/
theorem shows_hint (front : String) (ms : List String) (hfront : String.join ms = front)
    (hms : ∀ m ∈ ms, m ∈ marks) (hint : Option String) :
    Shows (String.join (hint.map fun h => front ++ h ++ "\n").toList) hint.toList := by
  cases hint with
  | none => exact .nil
  | some h => simpa using shows_line front ms hfront hms h

theorem shows_plain (r : ErrorReport) : Shows r.plain r.items := by
  have hheadline : Shows (String.join ["\nError: " ++ r.headline ++ "\n"]) [r.headline] := by
    simpa using shows_line "\nError: " ["\n", "Error:", " "] (by decide) (by decide)
      r.headline
  have hviolations := shows_map (fun v => shows_line "    - "
    [" ", " ", " ", " ", "-", " "] (by decide) (by decide) v) r.violations
  have hcauses := shows_map (fun c => shows_line "  Caused by: "
    [" ", " ", "Caused by:", " "] (by decide) (by decide) c) r.causes
  have hhint := shows_hint "\n" ["\n"] (by decide) (by decide) r.hint
  rw [plain, String.join_append, String.join_append, String.join_append, String.join_append]
  exact (((hheadline.append hviolations).append hcauses).append
    (shows_underHeading r.suggestions)).append hhint

theorem shows_bare (r : ErrorReport) : Shows r.bare r.items := by
  have hheadline : Shows (String.join
      ["\n" ++ "✗" ++ " " ++ "Error:" ++ "\n\n", "  " ++ r.headline ++ "\n"]) [r.headline] := by
    have hline := (shows_line "  " [" ", " "] (by decide) (by decide)
      r.headline).marks ["\n", "✗", " ", "Error:", "\n", "\n"] (by decide)
    have hfront : String.join ["\n", "✗", " ", "Error:", "\n", "\n"] =
        "\n" ++ "✗" ++ " " ++ "Error:" ++ "\n\n" := by decide
    rw [hfront] at hline
    simpa only [String.join_cons, String.join_nil, String.append_empty] using hline
  have hviolations := shows_map (fun v => shows_line ("    " ++ "-" ++ " ")
    [" ", " ", " ", " ", "-", " "] (by decide) (by decide) v) r.violations
  have hcauses := shows_map (fun c => shows_line ("\n  " ++ "→" ++ " ")
    ["\n", " ", " ", "→", " "] (by decide) (by decide) c) r.causes
  have hhint := shows_hint ("\n" ++ "ℹ" ++ " ") ["\n", "ℹ", " "] (by decide)
    (by decide) r.hint
  rw [bare, String.join_append, String.join_append, String.join_append, String.join_append]
  exact (((hheadline.append hviolations).append hcauses).append
    (shows_underHeading r.suggestions)).append hhint

/-! ## The styles are taken out -/

theorem bares_map {styled bare : String → String} (h : ∀ i, Bares (styled i) (bare i))
    (items : List String) : Bares (String.join (items.map styled)) (String.join (items.map bare)) :=
  bares_join (List.forall₂_map_left_iff.2 (List.forall₂_map_right_iff.2
    (List.forall₂_same.2 fun i _ => h i)))

theorem bares_underHeading (h : Bares heading "Suggestions:") (lines : List String) :
    Bares (String.join (underHeading heading lines))
      (String.join (underHeading "Suggestions:" lines)) := by
  cases lines with
  | nil => exact .refl _
  | cons l ls =>
    rw [underHeading, underHeading, String.join_cons, String.join_cons]
    · exact (((Bares.refl "\n").append h).append (.refl "\n")).append (.refl _)
    · exact List.cons_ne_nil l ls
    · exact List.cons_ne_nil l ls

/-- **Without its styles a report in colours is the bare one.** -/
theorem bares_colored (r : ErrorReport) : Bares r.colored r.bare := by
  have hcross : Bares (bold (Text.colored .red "✗")) "✗" := bares_bold (Text.bares_colored _ _)
  have hword : Bares (bold (Text.colored .red "Error:")) "Error:" :=
    bares_bold (Text.bares_colored _ _)
  have hheadline := Text.bares_colored .red r.headline
  have hfirst : Bares (String.join
      ["\n" ++ bold (Text.colored .red "✗") ++ " " ++ bold (Text.colored .red "Error:") ++ "\n\n",
        "  " ++ Text.colored .red r.headline ++ "\n"])
      (String.join ["\n" ++ "✗" ++ " " ++ "Error:" ++ "\n\n", "  " ++ r.headline ++ "\n"]) :=
    bares_join (.cons (((((Bares.refl "\n").append hcross).append (.refl " ")).append hword).append
      (.refl "\n\n")) (.cons (((Bares.refl "  ").append hheadline).append (.refl "\n")) .nil))
  have hviolations := bares_map (fun v => ((((Bares.refl "    ").append
    (Text.bares_colored .red "-")).append (.refl " ")).append (.refl v)).append (.refl "\n"))
    r.violations
  have hcauses := bares_map (fun c => ((((Bares.refl "\n  ").append
    (bares_dimmed (.refl "→"))).append (.refl " ")).append (bares_dimmed (.refl c))).append
    (.refl "\n")) r.causes
  have hheading := bares_underHeading (bares_bold (Text.bares_colored .yellow "Suggestions:"))
    r.suggestions
  have hhint : Bares
      (String.join (r.hint.map fun h =>
        "\n" ++ Text.colored .blue "ℹ" ++ " " ++ dimmed h ++ "\n").toList)
      (String.join (r.hint.map fun h => "\n" ++ "ℹ" ++ " " ++ h ++ "\n").toList) := by
    cases r.hint with
    | none => exact .refl _
    | some h =>
      exact bares_join (.cons (((((Bares.refl "\n").append
        (Text.bares_colored .blue "ℹ")).append (.refl " ")).append (bares_dimmed (.refl h))).append
        (.refl "\n")) .nil)
  rw [ErrorReport.colored, bare]
  simp only [String.join_append]
  exact (((hfirst.append hviolations).append hcauses).append hheading).append hhint

end ErrorReport

/-! ## One story -/

namespace CommandError

variable {e : CommandError}

theorem unescaped_advice {lines : List String} (h : ∀ l ∈ lines, Unescaped l) :
    ∀ l ∈ advice lines, Unescaped l := by
  cases lines with
  | nil => exact List.forall_mem_nil _
  | cons l ls => exact List.forall_mem_cons.2 ⟨by decide, h⟩

/-- **A report brings in no escape character**: without one in the texts of
the error there is none in its items. -/
theorem unescaped_items (h : ∀ t ∈ e.texts, Unescaped t) (verbose : Bool) :
    ∀ i ∈ e.items verbose, Unescaped i := by
  have hcauses : ∀ c ∈ (if verbose then e.causes else []), Unescaped c := by
    cases verbose with
    | false => exact List.forall_mem_nil _
    | true => exact unescaped_causes h
  have hhint : ∀ i ∈ (if verbose then [] else ["Use -v / --verbose for more details."]),
      Unescaped i := by
    cases verbose <;> decide
  simp only [items, List.forall_mem_append, List.forall_mem_singleton]
  exact ⟨⟨⟨⟨unescaped_message h, unescaped_violations h⟩, hcauses⟩,
    unescaped_advice (unescaped_suggestions h)⟩, hhint⟩

theorem items_ofError (e : CommandError) (verbose : Bool) :
    (ErrorReport.ofError e verbose).items = e.items verbose := by
  cases verbose <;> rfl

/-- The message stands in the report in colours as it is, the colour around
it. -/
theorem occurs_colored (r : ErrorReport) : Occurs r.headline r.colored := by
  have hstyled : Occurs r.headline ("  " ++ colored .red r.headline ++ "\n") :=
    ((((occurs_self r.headline).append_left _).append_right _).append_left "  ").append_right "\n"
  have hfront : ∀ front : String, Occurs r.headline
      (String.join [front, "  " ++ colored .red r.headline ++ "\n"]) := by
    intro front
    rw [String.join_cons, String.join_cons, String.join_nil, String.append_empty]
    exact hstyled.append_left front
  rw [ErrorReport.colored]
  simp only [String.join_append]
  exact ((((hfront _).append_right _).append_right _).append_right _).append_right _

/-- **Both reports of an error tell the same story**, whatever the error and
however much is asked for. -/
theorem reports_agree (e : CommandError) (verbose : Bool) : e.ReportedAlike verbose := by
  have hplain : Shows (e.plainReport verbose) (e.items verbose) :=
    items_ofError e verbose ▸ (ErrorReport.ofError e verbose).shows_plain
  have hbares : Bares (e.coloredReport verbose) (ErrorReport.ofError e verbose).bare :=
    ErrorReport.bares_colored _
  have hbare : Shows (ErrorReport.ofError e verbose).bare (e.items verbose) :=
    items_ofError e verbose ▸ (ErrorReport.ofError e verbose).shows_bare
  have hsame : substance (ErrorReport.ofError e verbose).bare =
      substance (e.plainReport verbose) := by
    rw [substance_of_shows hbare, substance_of_shows hplain]
  refine
    { plain := hplain
      colored := ⟨_, hbares, hbare, hsame⟩
      escapes := hplain.count_escape
      unescaped := ?_
      broken := ?_ }
  · intro h
    have hitems := unescaped_items h verbose
    refine ⟨hplain.unescaped hitems, ?_⟩
    rw [withoutStyles_of_bares hbares (hbare.unescaped hitems), hsame]
  · -- the message is an item of both reports, so what can be read in it can be read in them
    rintro f rfl text htext
    have hmessage : Occurs text (failed f).message := f.occurs_message htext
    have hheadline : (failed f).message ∈ (failed f).items verbose := List.mem_cons_self
    exact ⟨hmessage.trans (hplain.occurs hheadline), hmessage.trans (occurs_colored _)⟩

end CommandError

end Storefront
