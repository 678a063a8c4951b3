import Mathlib.Data.String.Basic
import Storefront.Proofs.Command.Listed
/-!
# Commands — tables whose columns line up

The column of names in a table is as wide as the greatest size of a name
in bytes, but a name is filled up by counting its characters. A character
takes at least a byte, so no name is wider than its column, and every
detail starts at one and the same column, whatever characters the names
hold (`tables_line_up`).
-/

namespace Storefront

namespace Text

/-- **A text has at least as many bytes as characters.** -/
theorem length_le_utf8ByteSize (s : String) : s.length ≤ s.utf8ByteSize := by
  have hchars : ∀ cs : List Char, cs.length ≤ String.utf8Len cs := by
    intro cs
    induction cs with
    | nil => simp
    | cons c cs ih =>
      have hpos : 0 < c.utf8Size := c.utf8Size_pos
      rw [List.length_cons, String.utf8Len_cons]
      omega
  have hsize := hchars s.toList
  rwa [String.length_toList, String.utf8Len_toList] at hsize

/-- **A text filled up** to a number of characters, with blanks behind it. -/
def FilledUp (width : Nat) (s filled : String) : Prop :=
  ∃ blanks, filled = s ++ String.ofList (List.replicate blanks ' ') ∧ filled.length = width

end Text

namespace Row

variable {rows : List Row} {r : Row} {width : Nat} {s line : String}

/-- The greatest width that a column can have. -/
def widest : Nat := 65535

/-- **The line of a row**: two blanks, the kind filled up to eleven
characters, a blank, the whole name filled up to a width, two blanks and
the whole detail. -/
def LineOf (width : Nat) (r : Row) (line : String) : Prop :=
  ∃ kind name, Text.FilledUp 11 r.kind.name kind ∧ Text.FilledUp width r.name name ∧
    line = "  " ++ kind ++ " " ++ name ++ "  " ++ r.detail

/-- The detail of a row is what its line has from a column on. -/
def DetailFrom (column : Nat) (r : Row) (line : String) : Prop :=
  ∃ front, line = front ++ r.detail ∧ front.length = column

/-- **A table that lines up.** The width of the column of names is the
greatest size of a name in bytes, and none where there is no row. Each row
has its line, and all details start at one column. -/
structure LinesUp (rows : List Row) (lines : List String) (width : Nat) : Prop where
  width_eq : width = ((rows.map fun r => r.name.utf8ByteSize).max?).getD 0
  width_le : width ≤ widest
  line : List.Forall₂ (LineOf width) rows lines
  detail : List.Forall₂ (DetailFrom (width + 16)) rows lines

/-! ## One line -/

/-- **A text that fits is filled up.** -/
theorem filledUp_padded (h : s.length ≤ width) : Text.FilledUp width s (padded width s) := by
  refine ⟨width - s.length, ?_, ?_⟩
  · rw [padded, String.ofList_append, String.ofList_toList]
  · rw [padded, String.length_ofList, List.length_append, List.length_replicate,
      String.length_toList]
    omega

/-- The name of a kind fits into its column. -/
theorem length_kind_le (k : Kind) : k.name.length ≤ 11 := by
  cases k <;> decide

theorem lineOf_tableLine (h : r.name.length ≤ width) : LineOf width r (tableLine width r) :=
  ⟨padded 11 r.kind.name, padded width r.name, filledUp_padded (length_kind_le r.kind),
    filledUp_padded h, rfl⟩

/-- **Where the detail of a line starts** depends on the width alone. -/
theorem LineOf.detailFrom (h : LineOf width r line) : DetailFrom (width + 16) r line := by
  obtain ⟨kind, name, ⟨-, -, hkind⟩, ⟨-, -, hname⟩, rfl⟩ := h
  refine ⟨"  " ++ kind ++ " " ++ name ++ "  ", rfl, ?_⟩
  have hone : " ".length = 1 := by decide
  have htwo : "  ".length = 2 := by decide
  simp only [String.length_append, hkind, hname, hone, htwo]
  omega

/-! ## All lines -/

/-- The width of the column is the greatest size of a name. -/
theorem nameWidth_eq (rows : List Row) :
    nameWidth rows = ((rows.map fun r => r.name.utf8ByteSize).max?).getD 0 := by
  have hfold : nameWidth rows = (rows.map fun r => r.name.utf8ByteSize).foldl max 0 := by
    rw [nameWidth, List.foldl_map]
  rw [hfold, List.foldl_max, Nat.zero_max]

/-- **The column is wide enough, and no wider.** -/
theorem nameWidth_le_iff :
    nameWidth rows ≤ width ↔ ∀ r ∈ rows, r.name.utf8ByteSize ≤ width := by
  have hfold : ∀ start, rows.foldl (fun w r => max w r.name.utf8ByteSize) start ≤ width ↔
      start ≤ width ∧ ∀ r ∈ rows, r.name.utf8ByteSize ≤ width := by
    induction rows with
    | nil => simp
    | cons r rows ih =>
      intro start
      rw [List.foldl_cons, ih, Nat.max_le, List.forall_mem_cons, and_assoc]
  rw [nameWidth, hfold]
  simp

/-- **Every table lines up** if the greatest size of a name can be a width. -/
theorem linesUp_tableLines (h : ∀ r ∈ rows, r.name.utf8ByteSize ≤ widest) :
    LinesUp rows (tableLines rows) (nameWidth rows) := by
  have hline : List.Forall₂ (LineOf (nameWidth rows)) rows (tableLines rows) := by
    rw [tableLines, List.forall₂_map_right_iff, List.forall₂_same]
    intro r hr
    have hsize : r.name.utf8ByteSize ≤ nameWidth rows := nameWidth_le_iff.1 le_rfl r hr
    exact lineOf_tableLine ((Text.length_le_utf8ByteSize r.name).trans hsize)
  exact ⟨nameWidth_eq rows, nameWidth_le_iff.2 h, hline, hline.imp fun _ _ => LineOf.detailFrom⟩

end Row

/-! ## Runs that list -/

namespace Answer

theorem table_quiet (p : Presentation) (h : p.quiet = true) (source : String)
    (rows : List Row) : table p source rows = "" := by
  have hremark : p.remark = fun _ => "" := by
    funext line
    rw [Presentation.remark, Presentation.statusLine, if_pos h]
  have hjoin : ∀ lines : List String, String.join (lines.map fun _ => "") = "" := by
    intro lines
    induction lines with
    | nil => rfl
    | cons line lines ih => rw [List.map_cons, String.join_cons, ih, String.append_empty]
  rw [table, Presentation.heading, Presentation.statusLine, if_pos h, hremark, hjoin,
    String.append_empty]

/-- **A table is a heading and its lines**, unless the user wants quiet. -/
theorem exists_table (p : Presentation) (h : p.quiet = false) (source : String)
    (rows : List Row) : ∃ heading, table p source rows =
      heading ++ "\n" ++ String.join ((Row.tableLines rows).map (· ++ "\n")) := by
  have hremark : p.remark = (· ++ "\n") := by
    funext line
    rw [Presentation.remark, Presentation.statusLine, h, if_neg Bool.false_ne_true, ite_self]
  rw [table, Presentation.heading, Presentation.statusLine, h, if_neg Bool.false_ne_true, hremark]
  exact ⟨_, rfl⟩

end Answer

namespace Run

variable {i : Invocation} {w : World} {o : CatalogOptions} {only : Option Kind} {c : Catalog}

/-- **A run that lists a table** prints the lines under a heading, or
nothing. -/
theorem exists_heading (hrequest : i.request = .list o only .table)
    (h : w.catalog? i.options.config o = some c) :
    (outcome i w).1.error = none ∧ ∃ heading, (ofInvocation i w).output =
      if i.options.quiet then ""
      else heading ++ "\n" ++ String.join ((Row.tableLines (c.rows only)).map (· ++ "\n")) := by
  obtain ⟨herror, p, source, hquiet, houtput⟩ := exists_output_of_catalog? hrequest h
  refine ⟨herror, ?_⟩
  rw [houtput, ← hquiet]
  cases hp : p.quiet with
  | true => exact ⟨"", Answer.table_quiet p hp source _⟩
  | false => exact Answer.exists_table p hp source _

/-- **Tables line up.** Whatever catalog is listed, and whichever kind of
its entries, the table has a line for each row: two blanks, the kind filled
up to eleven characters, a blank, the whole name filled up with blanks, two
blanks and the whole detail. The width that names are filled up to is the
greatest size of one in bytes, so long as that can be a width, and all
details start at one column. Every run that lists the table prints these
lines under a heading, unless it is a quiet one. -/
theorem tables_line_up (c : Catalog) (only : Option Kind)
    (hnames : ∀ r ∈ c.rows only, r.name.utf8ByteSize ≤ Row.widest) :
    Row.LinesUp (c.rows only) (Row.tableLines (c.rows only)) (Row.nameWidth (c.rows only)) ∧
    ∀ w words i o run, CommandLine.parse (settle w).environment words = .ok i →
      i.request = .list o only .table → invoke w words = .ok run →
      (settle w).catalog? i.options.config o = some c →
      run.exitCode = 0 ∧ ∃ heading, run.output = if i.options.quiet then ""
        else heading ++ "\n" ++ String.join ((Row.tableLines (c.rows only)).map (· ++ "\n")) := by
  refine ⟨Row.linesUp_tableLines hnames, ?_⟩
  intro w words i o run hparse hrequest hrun hcatalog
  obtain rfl := eq_ofInvocation hparse hrun
  obtain ⟨herror, hprinted⟩ := exists_heading hrequest hcatalog
  exact ⟨exitCode_ofInvocation i _ ▸ exitCode_eq_zero_iff.2 herror, hprinted⟩

/-- A disk with a catalog of two modules, one with a name in which a
character takes two bytes. -/
def kiosk : Disk :=
  { current := []
    nodes :=
      [(["shop.toml"], .file (.text ("[[info]]\nmodule_name = \"éclé\"\nname = \"Key\"\n" ++
        "description = \"\"\n[[info]]\nmodule_name = \"coin\"\nname = \"Coin\"\n" ++
        "description = \"\"\n")))] }

/-- The catalog on the disk. -/
def kioskCatalog : Catalog :=
  { Catalog.empty with
    infos :=
      [⟨"éclé", .plain "Key", .plain "", .plain ""⟩,
        ⟨"coin", .plain "Coin", .plain "", .plain ""⟩] }

/-- Both details start at the same column of what is printed. -/
theorem lines_up_kiosk :
    ∃ run lines, invoke { disk := kiosk } ["list", "--catalog", "shop.toml"] = .ok run ∧
      run.exitCode = 0 ∧ List.Forall₂ (Row.DetailFrom 22) (kioskCatalog.rows none) lines ∧
      ∃ heading, run.output = heading ++ "\n" ++ String.join (lines.map (· ++ "\n")) := by
  let o : CatalogOptions := { catalog := some "shop.toml" }
  let i : Invocation := ⟨{}, .list o none .table⟩
  have hparse : CommandLine.parse (settle { disk := kiosk }).environment
      ["list", "--catalog", "shop.toml"] = .ok i := by decide +kernel
  have hcatalog : (settle { disk := kiosk }).catalog? none o = some kioskCatalog := by
    decide +kernel
  obtain ⟨hlines, hprints⟩ := tables_line_up kioskCatalog none (by decide)
  obtain ⟨hexit, hprinted⟩ := hprints _ _ i o _ hparse rfl (invoke_of_parse hparse) hcatalog
  have hwidth : Row.nameWidth (kioskCatalog.rows none) = 6 := hlines.width_eq.trans (by decide)
  have hdetail := hlines.detail
  rw [hwidth] at hdetail
  exact ⟨_, _, invoke_of_parse hparse, hexit, hdetail, hprinted⟩

end Run

end Storefront
