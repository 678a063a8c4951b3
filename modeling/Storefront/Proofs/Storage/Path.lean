import Mathlib.Data.List.DropRight
import Mathlib.Data.List.Induction
import Storefront.Storage.Path
/-!
# Storage — what a path consists of

A path is a text, and all that matters of it are its components. The
parent of a path has its components but the last (`components_parent?`),
so the places above a path are the nonempty initial runs of its
components, and making the parent makes them all.
-/

namespace Storefront.Path

/-! ## Pieces between slashes -/

/-- The pieces between the slashes of some characters. -/
def piecesOf (cs : List Char) : List String := (cs.splitOn '/').map String.ofList

/-- The components of pieces that are not in front. -/
def pieceComponents (pieces : List String) : List Component :=
  (pieces.filter fun p => !isFiller p).map pieceComponent

variable {start path p dir : String} {pieces : List String} {cs ds : List Component}

theorem pieceComponents_append (ps qs : List String) :
    pieceComponents (ps ++ qs) = pieceComponents ps ++ pieceComponents qs := by
  simp [pieceComponents]

theorem components_of_parts (h : parts path = (start, pieces)) :
    components path = startComponents start ++ pieceComponents pieces := by
  rw [components, h]
  rfl

/-- Nothing between two slashes holds a slash. -/
theorem slash_not_mem_of_mem_splitOn {cs l : List Char} (h : l ∈ cs.splitOn '/') : '/' ∉ l := by
  induction cs generalizing l with
  | nil => simp_all
  | cons c cs ih =>
    rw [List.splitOn_cons_eq_if_modifyHead] at h
    split at h
    · rcases List.mem_cons.1 h with rfl | h
      · simp
      · exact ih h
    · next hc =>
      obtain ⟨l', rest, hsplit⟩ := List.exists_cons_of_ne_nil (List.splitOn_ne_nil '/' cs)
      rw [hsplit, List.modifyHead_cons] at h
      rcases List.mem_cons.1 h with rfl | h
      · have hl' : '/' ∉ l' := ih (hsplit ▸ List.mem_cons_self)
        exact List.not_mem_cons_of_ne_of_not_mem (fun heq => hc (beq_iff_eq.2 heq.symm)) hl'
      · exact ih (hsplit ▸ List.mem_cons_of_mem _ h)

theorem slash_not_mem_of_mem_piecesOf {cs : List Char} (h : p ∈ piecesOf cs) :
    '/' ∉ p.toList := by
  obtain ⟨l, hl, rfl⟩ := List.mem_map.1 h
  simpa using slash_not_mem_of_mem_splitOn hl

/-- **Pieces are found again** in the text that joins them. -/
theorem piecesOf_intercalate (hne : pieces ≠ []) (h : ∀ p ∈ pieces, '/' ∉ p.toList) :
    piecesOf ("/".intercalate pieces).toList = pieces := by
  have hsplit : (List.intercalate ['/'] (pieces.map String.toList)).splitOn '/' =
      pieces.map String.toList :=
    List.splitOn_intercalate '/' (by simpa using h) (by simpa using hne)
  rw [piecesOf, String.toList_intercalate, show "/".toList = ['/'] from rfl, hsplit]
  simp [Function.comp_def]

/-! ## Paths taken apart and put together -/

/-- **A path taken apart**: its beginning and the pieces behind it. Behind
a point comes a slash, and a path without a beginning starts with neither. -/
inductive Apart : String → List String → Prop
  | root {pieces : List String} : (∀ p ∈ pieces, '/' ∉ p.toList) → Apart "/" pieces
  | here {pieces : List String} : (∀ p ∈ pieces, '/' ∉ p.toList) →
      (∀ p ∈ pieces.head?, p = "") → Apart "." pieces
  | relative {pieces : List String} : (∀ p ∈ pieces, '/' ∉ p.toList) →
      (∀ p ∈ pieces.head?, p ≠ "." ∧ (p = "" → pieces = [""])) → Apart "" pieces

theorem piecesOf_slash (cs : List Char) : piecesOf ('/' :: cs) = "" :: piecesOf cs := by
  simp [piecesOf, List.splitOn_cons_eq_if_modifyHead]

/-- **How a path is taken apart**, case by case. -/
theorem parts_cases (path : String) :
    (∃ rest, path.toList = '/' :: rest ∧ parts path = ("/", piecesOf rest)) ∨
    (path.toList = ['.'] ∧ parts path = (".", [])) ∨
    (∃ rest, path.toList = '.' :: '/' :: rest ∧ parts path = (".", "" :: piecesOf rest)) ∨
    ((∀ rest, path.toList ≠ '/' :: rest) ∧ path.toList ≠ ['.'] ∧
      (∀ rest, path.toList ≠ '.' :: '/' :: rest) ∧ parts path = ("", piecesOf path.toList)) := by
  rw [parts]
  split
  · next rest heq => exact .inl ⟨rest, heq, rfl⟩
  · next heq => exact .inr (.inl ⟨heq, rfl⟩)
  · next rest heq => exact .inr (.inr (.inl ⟨rest, heq, by rw [← piecesOf_slash]; rfl⟩))
  · next hslash hpoint hhere => exact .inr (.inr (.inr ⟨hslash, hpoint, hhere, rfl⟩))

/-- In front of a text stands its first piece, and a slash if it has
another. -/
theorem eq_or_exists_of_piecesOf {cs : List Char} (h : piecesOf cs = p :: pieces) :
    (pieces = [] ∧ cs = p.toList) ∨ ∃ ds, cs = p.toList ++ '/' :: ds := by
  have hjoin : cs = (['/'] : List Char).intercalate ((p :: pieces).map String.toList) := by
    rw [← h, piecesOf]
    simp [Function.comp_def]
  cases pieces with
  | nil => exact .inl ⟨rfl, by simpa using hjoin⟩
  | cons q rest =>
    rw [List.map_cons, List.intercalate_cons_of_ne_nil (by simp), List.append_assoc] at hjoin
    exact .inr ⟨_, hjoin⟩

/-- Every path is taken apart that way. -/
theorem apart_parts (path : String) : Apart (parts path).1 (parts path).2 := by
  have hslash := @slash_not_mem_of_mem_piecesOf
  rcases parts_cases path with ⟨rest, -, hparts⟩ | ⟨-, hparts⟩ | ⟨rest, -, hparts⟩ |
      ⟨hroot, hpoint, hhere, hparts⟩
  · rw [hparts]
    exact .root fun p => hslash
  · rw [hparts]
    exact .here (by simp) (by simp)
  · rw [hparts]
    refine .here (fun p hp => ?_) (by simp)
    rcases List.mem_cons.1 hp with rfl | hp
    · decide
    · exact hslash hp
  · rw [hparts]
    refine .relative (fun p => hslash) fun p hp => ?_
    obtain ⟨pieces, hpieces⟩ := List.head?_eq_some_iff.1 hp
    -- the first piece is in front, and what is in front is neither a slash nor a point
    rcases eq_or_exists_of_piecesOf hpieces with ⟨rfl, hpath⟩ | ⟨ds, hpath⟩
    · exact ⟨fun h => hpoint (by simp [hpath, h]), fun h => h ▸ hpieces⟩
    · refine ⟨fun h => hhere ds (by simp [hpath, h]), fun h => absurd ?_ (hroot ds)⟩
      simp [hpath, h]

/-- Pieces that are joined have the same components, although no pieces
come back as an empty one. -/
theorem pieceComponents_piecesOf (h : ∀ p ∈ pieces, '/' ∉ p.toList) :
    pieceComponents (piecesOf ("/".intercalate pieces).toList) = pieceComponents pieces := by
  rcases eq_or_ne pieces [] with rfl | hne
  · rfl
  · rw [piecesOf_intercalate hne h]

/-- A path that starts with neither a slash nor a point is all pieces. -/
theorem parts_relative (h : ∀ p ∈ (piecesOf path.toList).head?,
    p ≠ "." ∧ (p = "" → piecesOf path.toList = [""])) :
    parts path = ("", piecesOf path.toList) := by
  rcases parts_cases path with ⟨rest, hpath, -⟩ | ⟨hpath, -⟩ | ⟨rest, hpath, -⟩ | ⟨-, -, -, hparts⟩
  · rw [hpath, piecesOf_slash] at h
    have hrest := (h "" rfl).2 rfl
    simp [piecesOf, List.splitOn_ne_nil] at hrest
  · rw [hpath] at h
    exact absurd rfl (h "." rfl).1
  · have hpieces : piecesOf ('.' :: '/' :: rest) = "." :: piecesOf rest := by
      simp [piecesOf, List.splitOn_cons_eq_if_modifyHead]
    rw [hpath, hpieces] at h
    exact absurd rfl (h "." rfl).1
  · exact hparts

/-- **The components of a path that is put together.** -/
theorem components_append_intercalate (h : Apart start pieces) :
    components (start ++ "/".intercalate pieces) =
      startComponents start ++ pieceComponents pieces := by
  cases h with
  | root hpieces =>
    have hparts : parts ("/" ++ "/".intercalate pieces) =
        ("/", piecesOf ("/".intercalate pieces).toList) := by
      rw [parts, String.toList_append]
      rfl
    rw [components_of_parts hparts, pieceComponents_piecesOf hpieces]
  | here hpieces hhead =>
    match pieces with
    | [] => rfl
    | [p] =>
      obtain rfl : p = "" := hhead p rfl
      rfl
    | p :: q :: rest =>
      obtain rfl : p = "" := hhead p rfl
      have hparts : parts ("." ++ "/".intercalate ("" :: q :: rest)) =
          (".", "" :: piecesOf ("/".intercalate (q :: rest)).toList) := by
        rw [parts, String.intercalate_cons_cons, ← piecesOf_slash]
        simp
        rfl
      have htail := pieceComponents_piecesOf fun p hp => hpieces p (List.mem_cons_of_mem _ hp)
      rw [components_of_parts hparts]
      exact congrArg _ htail
  | relative hpieces hhead =>
    rw [String.empty_append]
    rcases eq_or_ne pieces [] with rfl | hne
    · rfl
    · have hparts := piecesOf_intercalate hne hpieces
      rw [components_of_parts (parts_relative (by rwa [hparts])), hparts]

theorem Apart.start_eq (h : Apart start pieces) : start = "/" ∨ start = "." ∨ start = "" := by
  cases h with
  | root => exact .inl rfl
  | here => exact .inr (.inl rfl)
  | relative => exact .inr (.inr rfl)

/-- Pieces in front of others are still behind the same beginning. -/
theorem Apart.of_isPrefix {qs : List String} (h : Apart start pieces) (hfront : qs <+: pieces) :
    Apart start qs := by
  have hhead : ∀ p ∈ qs.head?, p ∈ pieces.head? := by
    intro p hp
    obtain ⟨rest, rfl⟩ := List.head?_eq_some_iff.1 hp
    obtain ⟨more, rfl⟩ := hfront
    rfl
  cases h with
  | root hpieces => exact .root fun p hp => hpieces p (hfront.subset hp)
  | here hpieces hfirst =>
    exact .here (fun p hp => hpieces p (hfront.subset hp)) fun p hp => hfirst p (hhead p hp)
  | relative hpieces hfirst =>
    refine .relative (fun p hp => hpieces p (hfront.subset hp)) fun p hp => ?_
    refine ⟨(hfirst p (hhead p hp)).1, fun hempty => ?_⟩
    -- one empty piece has no nonempty run of pieces in front but itself
    obtain ⟨rest, rfl⟩ := List.head?_eq_some_iff.1 hp
    rw [(hfirst p (hhead p hp)).2 hempty] at hfront
    exact hfront.eq_of_length_le (by simp)

/-! ## The parent -/

theorem dropFillers_eq (pieces : List String) : dropFillers pieces = pieces.rdropWhile isFiller :=
  rfl

theorem dropFillers_isPrefix (pieces : List String) : dropFillers pieces <+: pieces :=
  List.rdropWhile_prefix isFiller pieces

/-- Fillers at the end are no components. -/
theorem pieceComponents_dropFillers (pieces : List String) :
    pieceComponents (dropFillers pieces) = pieceComponents pieces := by
  induction pieces using List.reverseRecOn with
  | nil => rfl
  | append_singleton ps p ih =>
    rw [dropFillers_eq, List.rdropWhile_concat]
    split
    · next hfiller =>
      rw [← dropFillers_eq, ih, pieceComponents_append]
      simp [pieceComponents, hfiller]
    · rfl

/-- Pieces without fillers at the end, if there are any, end in a
component. -/
theorem pieceComponents_eq_concat (h : dropFillers pieces ≠ []) :
    pieceComponents pieces = pieceComponents (dropFillers pieces).dropLast ++
      [pieceComponent ((dropFillers pieces).getLast h)] := by
  have hlast : isFiller ((dropFillers pieces).getLast h) = false := by
    simpa [dropFillers_eq] using List.rdropWhile_last_not isFiller pieces h
  conv_lhs =>
    rw [← pieceComponents_dropFillers, ← List.dropLast_append_getLast h, pieceComponents_append]
  simp [pieceComponents, hlast]

theorem components_eq (path : String) :
    components path = startComponents (parts path).1 ++ pieceComponents (parts path).2 :=
  components_of_parts rfl

/-- The parent by the pieces of a path: without any, only a point has one. -/
theorem parent?_eq (path : String) :
    parent? path =
      if dropFillers (parts path).2 = [] then if (parts path).1 = "." then some "" else none
      else some ((parts path).1 ++
        "/".intercalate (dropFillers (dropFillers (parts path).2).dropLast)) := by
  rw [parent?]
  obtain ⟨start, pieces⟩ := parts path
  cases hkept : dropFillers pieces with
  | nil => simp [hkept]
  | cons piece kept => simp [hkept]

theorem pieceComponents_eq_nil_iff :
    pieceComponents pieces = [] ↔ dropFillers pieces = [] := by
  refine ⟨fun h => ?_, fun h => ?_⟩
  · by_contra hne
    simp [pieceComponents_eq_concat hne] at h
  · rw [← pieceComponents_dropFillers, h]
    rfl

/-- **A path without a parent** is empty or the root. -/
theorem components_of_parent?_eq_none (h : parent? path = none) :
    components path = [] ∨ components path = [.root] := by
  rw [parent?_eq] at h
  split at h
  · next hnil =>
    rw [components_eq, pieceComponents_eq_nil_iff.2 hnil, List.append_nil]
    rcases (apart_parts path).start_eq with hroot | hhere | hempty
    · exact .inr (hroot ▸ rfl)
    · simp [hhere] at h
    · exact .inl (hempty ▸ rfl)
  · cases h

/-- **The parent of a path** has its components but the last, and is empty
if it has none. -/
theorem components_of_parent?_eq_some (h : parent? path = some dir) :
    (∃ c ≠ Component.root, components path = components dir ++ [c]) ∧
      (components dir = [] → dir = "") := by
  have happart := apart_parts path
  rw [parent?_eq] at h
  split at h
  · next hnil =>
    split at h
    · next hhere =>
      obtain rfl : "" = dir := Option.some.inj h
      refine ⟨⟨.here, by simp, ?_⟩, fun _ => rfl⟩
      rw [components_eq, pieceComponents_eq_nil_iff.2 hnil, hhere]
      rfl
    · cases h
  · next hne =>
    obtain rfl := Option.some.inj h
    have hfront : dropFillers (dropFillers (parts path).2).dropLast <+: (parts path).2 :=
      (dropFillers_isPrefix _).trans (( List.dropLast_prefix _).trans (dropFillers_isPrefix _))
    rw [components_append_intercalate (happart.of_isPrefix hfront), pieceComponents_dropFillers]
    refine ⟨⟨pieceComponent ((dropFillers (parts path).2).getLast hne), ?_, ?_⟩, fun hnil => ?_⟩
    · rw [pieceComponent]
      split <;> simp
    · rw [List.append_assoc, ← pieceComponents_eq_concat hne, ← components_eq]
    · obtain ⟨hstart, hpieces⟩ := List.append_eq_nil_iff.1 hnil
      rcases happart.start_eq with hroot | hhere | hempty
      · simp [hroot, startComponents] at hstart
      · simp [hhere, startComponents] at hstart
      · rw [hempty, pieceComponents_eq_nil_iff.1 hpieces]
        rfl

/-- A path whose parent is not written out has no place above it. -/
theorem dropLast_components_of_properParent?_eq_none (h : properParent? path = none) :
    (components path).dropLast = [] := by
  cases hparent : parent? path with
  | none =>
    rcases components_of_parent?_eq_none hparent with hnil | hroot
    · rw [hnil]
      rfl
    · rw [hroot]
      rfl
  | some dir =>
    obtain rfl : dir = "" := by simpa [properParent?, hparent] using h
    obtain ⟨c, -, hpath⟩ := (components_of_parent?_eq_some hparent).1
    rw [hpath]
    rfl

/-- **A parent that is written out** has the components of the path but
the last, and it has some. -/
theorem components_of_properParent?_eq_some (h : properParent? path = some dir) :
    components dir ≠ [] ∧ ∃ c ≠ Component.root, components path = components dir ++ [c] := by
  obtain ⟨hparent, hdir⟩ := Option.filter_eq_some_iff.1 h
  obtain ⟨hpath, hempty⟩ := components_of_parent?_eq_some hparent
  exact ⟨fun hnil => by simp [hempty hnil] at hdir, hpath⟩

/-! ## Places above a path -/

/-- **A place above a path**: a nonempty initial run of its components that
is not all of them. -/
def Above (cs : List Component) (path : String) : Prop :=
  cs ≠ [] ∧ cs <+: components path ∧ cs ≠ components path

instance (cs : List Component) (path : String) : Decidable (Above cs path) :=
  inferInstanceAs (Decidable (_ ∧ _ ∧ _))

/-- The lineage of a place holds the nonempty initial runs of its
components. -/
theorem mem_lineage : cs ∈ lineage ds ↔ cs ≠ [] ∧ cs <+: ds := by
  induction ds generalizing cs with
  | nil => simp [lineage]
  | cons d ds ih =>
    cases cs with
    | nil => simp [lineage]
    | cons c cs =>
      rcases eq_or_ne cs [] with rfl | hne
      · simp [lineage, eq_comm]
      · simp [lineage, List.cons_prefix_cons, ih, hne, eq_comm, and_comm]

/-- **Above a path is the lineage of its parent.** -/
theorem above_iff_mem_lineage {c : Component} (h : components path = ds ++ [c]) :
    Above cs path ↔ cs ∈ lineage ds := by
  rw [Above, mem_lineage, h, List.prefix_concat_iff]
  refine and_congr_right fun _ => ⟨fun ⟨hfront, hne⟩ => hfront.resolve_left hne, fun hfront => ?_⟩
  refine ⟨.inr hfront, fun heq => ?_⟩
  have hlength := hfront.length_le
  rw [heq, List.length_append, List.length_singleton] at hlength
  omega

theorem not_above_of_properParent?_eq_none (h : properParent? path = none) :
    ¬ Above cs path := by
  rintro ⟨hne, hfront, hwhole⟩
  have hpath := dropLast_components_of_properParent?_eq_none h
  rcases List.eq_nil_or_concat (components path) with hnil | ⟨ds, c, hconcat⟩
  · rw [hnil, List.prefix_nil] at hfront
    exact hne hfront
  · rw [hconcat] at hpath hfront hwhole
    simp_all [List.prefix_concat_iff]

theorem above_iff_of_properParent?_eq_some (h : properParent? path = some dir) :
    Above cs path ↔ cs ∈ lineage (components dir) :=
  have ⟨_, _, _, hpath⟩ := components_of_properParent?_eq_some h
  above_iff_mem_lineage hpath

/-- A path of two pieces and a point has one place above it. -/
example : properParent? "a/./b/" = some "a" ∧ Above [.name "a"] "a/./b/" := by decide

end Storefront.Path
