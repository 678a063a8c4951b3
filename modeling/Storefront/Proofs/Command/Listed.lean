import Storefront.Proofs.Catalog.Stored
import Storefront.Proofs.Command.Presented
import Storefront.Proofs.Command.Selects
import Storefront.Proofs.Csv.Reader
import Storefront.Proofs.Json.ReadBack
import Storefront.Proofs.Verse.Layout
/-!
# Commands — listings, read back

A listing tells the entries of a catalog in catalog order, all of them or
those of one kind. What is printed as CSV or as JSON is read back as its
rows, and what is printed as names are the names of these rows, so the
three formats list the same (`listings_faithful`).
-/

namespace Storefront

open Text

namespace Row

/-- The row that a CSV record writes. -/
def ofRecord? : List String → Option Row
  | [kind, name, detail] => (Kind.ofName? kind).map fun k => ⟨k, name, detail⟩
  | _ => none

/-- The row that a JSON record writes. -/
def ofJson? (j : Json) : Option Row := do
  let kind ← (← j.get? "kind").text?
  let name ← (← j.get? "name").text?
  let detail ← (← j.get? "detail").text?
  return ⟨← Kind.ofName? kind, name, detail⟩

/-- **What is printed for rows, in a format**, says these rows. A CSV
document has them as its records, behind one that names the columns. -/
def ToldBy (rows : List Row) : ListFormat → String → Prop
  | .csv, s => Csv.read? s = some (csvHeader :: rows.map toRecord) ∧
      (rows.map toRecord).mapM ofRecord? = some rows
  | .json, s => (Json.parse? s).bind (Json.list? ofJson?) = some rows
  | .list, s => s = String.join (rows.map fun r => r.name ++ "\n") ∧
      ((∀ r ∈ rows, SingleLine r.name) → lines s = rows.map (·.name))
  | .table, _ => True

end Row

/-- **Rows in catalog order**: info modules, entitlements, offers and
bundles. Those of one kind are the ones of that kind among all. The names
of all are those of the info modules and then the class names. -/
structure Catalog.RowsInOrder (c : Catalog) : Prop where
  rows : c.rows none =
    c.infos.map (fun m => ⟨.info, m.moduleName, m.name.text⟩) ++
    c.entitlements.map (fun e => ⟨.entitlement, e.className, e.detail⟩) ++
    c.offers.map (fun o => ⟨.offer, o.className,
      "grants " ++ o.entitlementType ++ " for " ++ o.price.text⟩) ++
    c.bundles.map fun b => ⟨.bundle, b.className,
      toString b.items.length ++ " offer(s) for " ++ b.price.text⟩
  filtered : ∀ k, c.rows (some k) = (c.rows none).filter fun r => r.kind = k
  names : (c.rows none).map (·.name) = c.infos.map (·.moduleName) ++ c.classNames

variable {rows : List Row} {c : Catalog}

/-! ## Rows -/

namespace Catalog

theorem rows_some (c : Catalog) (k : Kind) : c.rows (some k) = (c.entries k).map Entry.row := by
  simp [rows, listedKinds]

theorem kind_of_mem_rows {k : Kind} {r : Row} (h : r ∈ (c.entries k).map Entry.row) :
    r.kind = k := by
  obtain ⟨e, he, rfl⟩ := List.mem_map.1 h
  exact kind_of_mem_entries he

/-- **The rows of one kind** are the ones of that kind among all. -/
theorem rows_some_eq_filter (c : Catalog) (k : Kind) :
    c.rows (some k) = (c.rows none).filter fun r => r.kind = k := by
  have hpart : ∀ l, ((c.entries l).map Entry.row).filter (fun r => r.kind = k) =
      if l = k then (c.entries l).map Entry.row else [] := by
    intro l
    split
    · next hl =>
      refine List.filter_eq_self.2 fun r hr => ?_
      simpa [← hl] using kind_of_mem_rows hr
    · next hl =>
      refine List.filter_eq_nil_iff.2 fun r hr => ?_
      simpa [kind_of_mem_rows hr] using hl
  rw [rows_some, rows, listedKinds, List.filter_flatMap]
  simp only [hpart]
  cases k <;> simp [Kind.all]

theorem rowsInOrder (c : Catalog) : c.RowsInOrder := by
  have hrows : c.rows none = (c.entries .info).map Entry.row ++
      (c.entries .entitlement).map Entry.row ++ (c.entries .offer).map Entry.row ++
      (c.entries .bundle).map Entry.row := by
    simp [rows, listedKinds, Kind.all]
  refine ⟨?_, rows_some_eq_filter c, ?_⟩
  · rw [hrows]
    simp only [entries, List.map_map]
    rfl
  · rw [hrows, classNames]
    simp only [entries, List.map_append, List.map_map, List.append_assoc]
    rfl

end Catalog

/-! ## What is printed -/

namespace Row

theorem ofRecord?_toRecord (r : Row) : ofRecord? r.toRecord = some r := by
  rw [toRecord, ofRecord?, Kind.ofName?_name]
  rfl

theorem ofJson?_toJson (r : Row) : ofJson? r.toJson = some r := by
  have hkind : r.toJson.get? "kind" = some (.text r.kind.name) := rfl
  have hname : r.toJson.get? "name" = some (.text r.name) := rfl
  have hdetail : r.toJson.get? "detail" = some (.text r.detail) := rfl
  simp only [ofJson?, hkind, hname, hdetail, Json.text?, Option.bind_eq_bind, Option.bind_some,
    Kind.ofName?_name]
  rfl

theorem textual_toJson (r : Row) : r.toJson.Textual := by
  refine .record fun f hf => ?_
  simp only [List.mem_cons, List.not_mem_nil, or_false] at hf
  rcases hf with rfl | rfl | rfl
  · exact .text _
  · exact .text _
  · exact .text _

/-- Names of one line are the lines of their listing. -/
theorem lines_namesText (h : ∀ r ∈ rows, SingleLine r.name) :
    lines (namesText rows) = rows.map (·.name) := by
  have hunlines : namesText rows = Verse.unlines (rows.map (·.name)) := by
    rw [namesText, Verse.unlines, List.map_map]
    rfl
  rw [hunlines, Verse.lines_unlines (List.forall_mem_map.2 h)]

/-- **Rows are read back from CSV**, the names of the columns in front. -/
theorem read?_csvText (rows : List Row) :
    Csv.read? (csvText rows) = some (csvHeader :: rows.map toRecord) := by
  refine Csv.read?_text fun record hrecord => ?_
  rcases List.mem_cons.1 hrecord with rfl | hrecord
  · exact List.cons_ne_nil _ _
  · obtain ⟨r, -, rfl⟩ := List.mem_map.1 hrecord
    exact List.cons_ne_nil _ _

/-- **Rows are read back from JSON.** -/
theorem parse?_jsonText (rows : List Row) :
    Json.parse? (jsonText rows) = some (.list (rows.map toJson)) := by
  have hitems : ∀ j ∈ rows.map toJson, j.Textual := List.forall_mem_map.2 fun r _ =>
    textual_toJson r
  exact Json.parse?_pretty (.list hitems) (List.forall_mem_singleton.2 rfl)

/-- **Rows are told by what is printed for them**, wherever they come from
and however answers are shown. -/
theorem toldBy_text (p : Presentation) (source : String) (format : ListFormat)
    (rows : List Row) : ToldBy rows format ((Answer.listing source format rows).text p) := by
  cases format with
  | table => trivial
  | list => exact ⟨rfl, lines_namesText⟩
  | json =>
    change (Json.parse? (jsonText rows)).bind _ = _
    rw [parse?_jsonText, Option.bind_some, Json.list?_map ofJson?_toJson]
  | csv => exact ⟨read?_csvText rows, mapM_map_eq_some fun r _ => ofRecord?_toRecord r⟩

end Row

/-! ## Runs that list -/

/-- The catalog that a command works on, with the settings in a file. -/
def World.catalog? (w : World) (config : Option String) (o : CatalogOptions) : Option Catalog :=
  (Settings.load w.environment w.disk (Settings.activePath w.environment config)).toOption.bind
    fun settings => (Listing.find o settings w).result.toOption.map (·.2)

namespace Run

variable {i : Invocation} {w : World} {o : CatalogOptions} {only : Option Kind}
variable {format : ListFormat} {settings : Settings}

/-- With loaded settings a run that lists is its command. -/
theorem outcome_list (hrequest : i.request = .list o only format)
    (hload : Settings.load w.environment w.disk
      (Settings.activePath w.environment i.options.config) = .ok settings) :
    (outcome i w).1.error = (Listing.run o only format settings w).error ∧
      (ofInvocation i w).output = (((Listing.run o only format settings w).answer).map
        (·.text (.choose i.options settings))).getD "" := by
  have hperform : perform i settings w = Listing.run o only format settings w := by
    rw [perform, hrequest]
  rw [outcome_of_load hload, output_of_load hload, hperform]
  exact ⟨rfl, rfl⟩

/-- A run that lists without an error has a catalog. -/
theorem exists_catalog?_of_error_eq_none (hrequest : i.request = .list o only format)
    (h : (outcome i w).1.error = none) : ∃ c, w.catalog? i.options.config o = some c := by
  cases hload : Settings.load w.environment w.disk
      (Settings.activePath w.environment i.options.config) with
  | error e =>
    rw [outcome_of_load_error hload] at h
    cases h
  | ok settings =>
    rw [(outcome_list hrequest hload).1, Listing.run, Outcome.after] at h
    cases hfind : (Listing.find o settings w).result with
    | error e =>
      rw [hfind] at h
      cases h
    | ok found =>
      refine ⟨found.2, ?_⟩
      rw [World.catalog?, hload, Except.toOption, Option.bind_some, hfind]
      rfl

/-- **A run that has a catalog lists it**: it prints the listing of the
rows, without an error. -/
theorem exists_output_of_catalog? (hrequest : i.request = .list o only format)
    (h : w.catalog? i.options.config o = some c) :
    (outcome i w).1.error = none ∧ ∃ p source, p.quiet = i.options.quiet ∧
      (ofInvocation i w).output = (Answer.listing source format (c.rows only)).text p := by
  cases hload : Settings.load w.environment w.disk
      (Settings.activePath w.environment i.options.config) with
  | error e =>
    rw [World.catalog?, hload] at h
    cases h
  | ok settings =>
    rw [World.catalog?, hload, Except.toOption, Option.bind_some] at h
    cases hfind : (Listing.find o settings w).result with
    | error e =>
      rw [hfind] at h
      cases h
    | ok found =>
      obtain ⟨source, d⟩ := found
      rw [hfind] at h
      obtain rfl : d = c := Option.some.inj h
      have hrun : Listing.run o only format settings w =
          { Outcome.answering w.disk (.listing source.describe format (d.rows only)) with
            events := (Listing.find o settings w).events ++ [] } := by
        rw [Listing.run, Outcome.after, hfind]
        rfl
      obtain ⟨herror, houtput⟩ := outcome_list hrequest hload
      rw [herror, houtput, hrun]
      exact ⟨rfl, .choose i.options settings, source.describe, rfl, rfl⟩

/-- What such a run prints tells the rows. -/
theorem toldBy_of_catalog? (hrequest : i.request = .list o only format)
    (h : w.catalog? i.options.config o = some c) :
    (outcome i w).1.error = none ∧
      Row.ToldBy (c.rows only) format (ofInvocation i w).output := by
  obtain ⟨herror, p, source, -, houtput⟩ := exists_output_of_catalog? hrequest h
  rw [houtput]
  exact ⟨herror, Row.toldBy_text p source format _⟩

/-- **Listings are faithful.** The rows of a catalog are its entries in
catalog order, those of one kind are the ones of that kind among all, and
the names of all are those of the info modules and then the class names.
What is printed for rows is read back as the rows, in whatever format and
whatever characters they hold. A line that lists succeeds just when there
is a catalog, which is the same one for each format, and prints the rows
of that catalog. -/
theorem listings_faithful :
    (∀ c : Catalog, c.RowsInOrder) ∧
    (∀ p source format rows,
      Row.ToldBy rows format ((Answer.listing source format rows).text p)) ∧
    ∀ w words i o only format r, CommandLine.parse (settle w).environment words = .ok i →
      i.request = .list o only format → invoke w words = .ok r →
      (r.exitCode = 0 ↔ ((settle w).catalog? i.options.config o).isSome = true) ∧
        ∀ c, (settle w).catalog? i.options.config o = some c →
          Row.ToldBy (c.rows only) format r.output := by
  refine ⟨Catalog.rowsInOrder, Row.toldBy_text, ?_⟩
  intro w words i o only format r hparse hrequest hrun
  obtain rfl := eq_ofInvocation hparse hrun
  rw [exitCode_ofInvocation, exitCode_eq_zero_iff, Option.isSome_iff_exists]
  refine ⟨⟨exists_catalog?_of_error_eq_none hrequest, ?_⟩, fun c hc => ?_⟩
  · rintro ⟨c, hc⟩
    exact (toldBy_of_catalog? hrequest hc).1
  · exact (toldBy_of_catalog? hrequest hc).2

/-- The entitlements of a small catalog, listed as CSV. -/
theorem listings_stall :
    ∃ r, invoke { disk := stall }
        ["list", "--catalog", "shop.toml", "--kind", "entitlement", "--format", "csv"] = .ok r ∧
      r.exitCode = 0 ∧ Csv.read? r.output =
        some [["kind", "name", "detail"], ["entitlement", "gem", "island_entitlement, max 1"]] := by
  let o : CatalogOptions := { catalog := some "shop.toml" }
  let i : Invocation := ⟨{}, .list o (some .entitlement) .csv⟩
  have hparse : CommandLine.parse (settle { disk := stall }).environment
      ["list", "--catalog", "shop.toml", "--kind", "entitlement", "--format", "csv"] = .ok i := by
    decide +kernel
  have hcatalog : (settle { disk := stall }).catalog? none o = some stallCatalog := by
    decide +kernel
  obtain ⟨hexit, htold⟩ := listings_faithful.2.2 _ _ i o (some .entitlement) .csv _ hparse rfl
    (invoke_of_parse hparse)
  have hrows : (stallCatalog.rows (some .entitlement)).map Row.toRecord =
      [["entitlement", "gem", "island_entitlement, max 1"]] := by decide
  refine ⟨_, invoke_of_parse hparse, hexit.2 (hcatalog ▸ rfl), ?_⟩
  exact (htold _ hcatalog).1.trans (congrArg (fun r => some (Row.csvHeader :: r)) hrows)

end Run

end Storefront
