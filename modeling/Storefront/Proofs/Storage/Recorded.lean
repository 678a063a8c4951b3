import Mathlib.Data.List.Pairwise
import Storefront.Proofs.Storage.MemoryTree
import Storefront.Proofs.Storage.PathOrder
/-!
# Storage — a tree in memory after any acts

Directories are made in a tree and files are written to it, in any order
and at any paths. A write succeeds just when the parent of the file is
there, and leaves the tree alone otherwise. So the tree stays rooted:
every directory and every file has its parent (`Rooted`). What it holds is
told by the acts alone (`Records`): directories at the places that lead to
those that were made, and for every place the text of the last write
there, under a path that is listed once and in order (`run_records`).
-/

namespace Storefront.MemoryTree

/-- What is done to a tree. -/
inductive Act where
  | createDirectories (path : String)
  | writeFile (path content : String)

/-- The directory that an act asks for. -/
def Act.directory? : Act → Option String
  | createDirectories path => some path
  | writeFile _ _ => none

/-- The file that an act asks for. -/
def Act.file? : Act → Option StoredFile
  | createDirectories _ => none
  | writeFile path content => some ⟨path, content⟩

/-- What an act leaves behind. -/
def act (t : MemoryTree) : Act → Written MemoryTree
  | .createDirectories path => Sink.createDirectories t path
  | .writeFile path content => Sink.writeFile t path content

/-- The tree after acts in turn, whether they succeed or fail. -/
def run (t : MemoryTree) (acts : List Act) : MemoryTree :=
  acts.foldl (fun t a => (t.act a).sink) t

/-- The directories that acts ask for. -/
def made (acts : List Act) : List String := acts.filterMap Act.directory?

/-- The file that an act writes, if it succeeds. -/
def written? (t : MemoryTree) (a : Act) : Option StoredFile :=
  if (t.act a).failure = none then a.file? else none

/-- The writes among acts that succeed, in turn. -/
def writes (t : MemoryTree) : List Act → List StoredFile
  | [] => []
  | a :: acts => (t.written? a).toList ++ writes (t.act a).sink acts

/-- The writes to a place, in turn. -/
def writesAt (ws : List StoredFile) (p : String) : List StoredFile :=
  ws.filter fun w => Path.components w.path = Path.components p

/-- A directory stands at a path. -/
def IsDirectory (t : MemoryTree) (p : String) : Prop := Path.components p ∈ t.directories

/-- A path whose parent is absent, empty or a directory of the tree. -/
def Seats (t : MemoryTree) (path : String) : Prop :=
  ∀ dir, Path.parent? path = some dir → dir = "" ∨ t.IsDirectory dir

/-- **A rooted tree**: a directory has its parent, unless that is absent or
empty, and so has a file. -/
structure Rooted (t : MemoryTree) : Prop where
  directories : ∀ p, t.IsDirectory p → t.Seats p
  files : ∀ p ∈ t.paths, t.Seats p

/-- **A tree that keeps a record** of directories that were made and files
that were written in turn.

Directories stand at the nonempty initial runs of those that were made. At
a place that was written to, the last text is read, and one path is listed:
the one of the first write there. At any other place there is no text and
no path. The paths are listed in increasing order. -/
structure Records (t : MemoryTree) (dirs : List String) (ws : List StoredFile) : Prop where
  directories : ∀ cs, cs ∈ t.directories ↔ cs ≠ [] ∧ ∃ dir ∈ dirs, cs <+: Path.components dir
  read : ∀ p, t.read? p = (writesAt ws p).getLast?.map (·.content)
  listed : ∀ p, (t.paths.filter fun q => Path.components q = Path.components p) =
    ((writesAt ws p).head?.map (·.path)).toList
  sorted : t.paths.Pairwise Path.Precedes

variable {t u : MemoryTree} {a : Act} {acts : List Act} {files ws : List StoredFile}
variable {f : StoredFile} {dirs : List String} {path content p q dir : String}

/-! ## One act -/

theorem hasParent_iff : t.hasParent path = true ↔ t.Seats path := by
  rw [hasParent, Seats, Path.properParent?]
  cases hparent : Path.parent? path with
  | none => simp
  | some dir =>
    by_cases hdir : dir = ""
    · simp [Option.filter, hdir]
    · simp [Option.filter, hdir, hasDirectory, IsDirectory]

theorem act_createDirectories (t : MemoryTree) (path : String) :
    t.act (.createDirectories path) = { sink := t.createDirectories path } :=
  rfl

/-- **A file is stored where its parent is there.** -/
theorem act_writeFile (h : t.Seats path) (content : String) :
    t.act (.writeFile path content) =
      { sink := { t with files := storeFile path content t.files } } := by
  have hwrite : t.writeFile path content =
      .ok { t with files := storeFile path content t.files } := if_pos (hasParent_iff.2 h)
  simp only [act, Sink.writeFile, hwrite]

/-- **Everywhere else a write fails**, and nothing happens. -/
theorem act_writeFile_of_not_seats (h : ¬ t.Seats path) (content : String) :
    t.act (.writeFile path content) =
      { sink := t
        failure := some (.transfer (.outputFailed path "Parent directory does not exist")) } := by
  have hwrite : t.writeFile path content =
      .error (.transfer (.outputFailed path "Parent directory does not exist")) :=
    if_neg (mt hasParent_iff.1 h)
  simp only [act, Sink.writeFile, hwrite]

/-! ## Storing a file -/

/-- **How a file is stored among others**: in place of the first one, in
front of it, or behind it. -/
theorem storeFile_cons_cases (path content : String) (f : StoredFile) (files : List StoredFile) :
    (Path.components f.path = Path.components path ∧
      storeFile path content (f :: files) = { f with content } :: files) ∨
    (Path.Precedes path f.path ∧
      storeFile path content (f :: files) = ⟨path, content⟩ :: f :: files) ∨
    (Path.Precedes f.path path ∧
      storeFile path content (f :: files) = f :: storeFile path content files) := by
  rw [storeFile]
  split
  · next hsame => exact .inl ⟨by simpa [Path.same] using hsame, rfl⟩
  · next hother =>
    have hother : Path.components f.path ≠ Path.components path := by
      simpa [Path.same] using hother
    split
    · next hbefore => exact .inr (.inl ⟨Path.before_iff.1 hbefore, rfl⟩)
    · next hbefore =>
      rcases Path.precedes_trichotomy path f.path with hlt | heq | hgt
      · exact absurd (Path.before_iff.2 hlt) hbefore
      · exact absurd heq.symm hother
      · exact .inr (.inr ⟨hgt, rfl⟩)

theorem eq_or_mem_of_mem_storeFile (h : p ∈ (storeFile path content files).map (·.path)) :
    p = path ∨ p ∈ files.map (·.path) := by
  induction files with
  | nil => exact .inl (by simpa [storeFile] using h)
  | cons f files ih =>
    rcases storeFile_cons_cases path content f files with ⟨-, heq⟩ | ⟨-, heq⟩ | ⟨-, heq⟩
    · rw [heq] at h
      exact .inr h
    · rw [heq] at h
      exact List.mem_cons.1 h
    · rw [heq] at h
      rcases List.mem_cons.1 h with rfl | h
      · exact .inr List.mem_cons_self
      · exact (ih h).imp_right (List.mem_cons_of_mem _)

/-- **Files stay in order.** -/
theorem sorted_storeFile (path content : String)
    (h : (files.map (·.path)).Pairwise Path.Precedes) :
    ((storeFile path content files).map (·.path)).Pairwise Path.Precedes := by
  induction files with
  | nil => simp [storeFile]
  | cons f files ih =>
    obtain ⟨hfirst, hrest⟩ := List.pairwise_cons.1 h
    rcases storeFile_cons_cases path content f files with ⟨-, heq⟩ | ⟨hlt, heq⟩ | ⟨hgt, heq⟩
    · rw [heq]
      exact h
    · rw [heq]
      refine List.pairwise_cons.2 ⟨fun q hq => ?_, h⟩
      rcases List.mem_cons.1 hq with rfl | hq
      · exact hlt
      · exact hlt.trans (hfirst q hq)
    · rw [heq]
      refine List.pairwise_cons.2 ⟨fun q hq => ?_, ih hrest⟩
      rcases eq_or_mem_of_mem_storeFile hq with rfl | hq
      · exact hgt
      · exact hfirst q hq

/-- **A file that is stored again keeps its spelling.** -/
theorem paths_storeFile_of_mem (content : String)
    (h : (files.map (·.path)).Pairwise Path.Precedes) (hmem : q ∈ files.map (·.path))
    (hsame : Path.components q = Path.components path) :
    (storeFile path content files).map (·.path) = files.map (·.path) := by
  induction files with
  | nil => exact absurd hmem List.not_mem_nil
  | cons f files ih =>
    obtain ⟨hfirst, hrest⟩ := List.pairwise_cons.1 h
    rcases storeFile_cons_cases path content f files with ⟨-, heq⟩ | ⟨hlt, heq⟩ | ⟨hgt, heq⟩
    · rw [heq]
      rfl
    · -- the path would precede every listed one, its own place included
      have hbefore : Path.Precedes path q := by
        rcases List.mem_cons.1 hmem with rfl | hmem
        · exact hlt
        · exact hlt.trans (hfirst q hmem)
      exact absurd hsame.symm hbefore.ne
    · have hne : q ≠ f.path := by
        rintro rfl
        exact hgt.ne hsame
      rw [heq, List.map_cons, ih hrest ((List.mem_cons.1 hmem).resolve_left hne), List.map_cons]

/-- **A file at a new place is listed once.** -/
theorem perm_paths_storeFile (content : String)
    (h : ∀ q ∈ files.map (·.path), Path.components q ≠ Path.components path) :
    ((storeFile path content files).map (·.path)).Perm (path :: files.map (·.path)) := by
  induction files with
  | nil => simp [storeFile]
  | cons f files ih =>
    obtain ⟨hother, hrest⟩ := List.forall_mem_cons.1 h
    rcases storeFile_cons_cases path content f files with ⟨hsame, -⟩ | ⟨-, heq⟩ | ⟨-, heq⟩
    · exact absurd hsame hother
    · rw [heq]
      exact .refl _
    · rw [heq]
      exact ((ih hrest).cons _).trans (.swap _ _ _)

theorem eq_toList_of_perm {o : Option String} {l : List String} (h : l.Perm o.toList) :
    l = o.toList := by
  cases o with
  | none => exact h.eq_nil
  | some x => exact List.perm_singleton.1 h

/-! ## What acts keep -/

/-- **Directories that are made** are the lineage of their path. -/
theorem mem_directories_createDirectories {cs : List Component} :
    cs ∈ (t.createDirectories path).directories ↔
      cs ∈ t.directories ∨ cs ∈ Path.lineage (Path.components path) :=
  (foldl_addDirectory _ t).1 cs

theorem files_createDirectories (t : MemoryTree) (path : String) :
    (t.createDirectories path).files = t.files :=
  (foldl_addDirectory _ t).2

/-- What has a parent still has one where more directories are. -/
theorem Seats.mono (h : t.Seats p) (hdirs : ∀ q, t.IsDirectory q → u.IsDirectory q) :
    u.Seats p :=
  fun dir hparent => (h dir hparent).imp_right (hdirs dir)

/-- Directories that are made for a path have their parents among them. -/
theorem mem_lineage_of_parent? (h : Path.components p ∈ Path.lineage (Path.components path))
    (hparent : Path.parent? p = some dir) (hdir : dir ≠ "") :
    Path.components dir ∈ Path.lineage (Path.components path) := by
  obtain ⟨⟨c, -, hp⟩, hempty⟩ := Path.components_of_parent?_eq_some hparent
  obtain ⟨-, hfront⟩ := Path.mem_lineage.1 h
  have hbelow : Path.components dir <+: Path.components p := hp ▸ List.prefix_append _ _
  exact Path.mem_lineage.2 ⟨fun hnil => hdir (hempty hnil), hbelow.trans hfront⟩

/-- A tree in which directories are made stays rooted. -/
theorem Rooted.createDirectories (h : t.Rooted) (path : String) :
    (t.createDirectories path).Rooted := by
  have hgrows : ∀ q, t.IsDirectory q → (t.createDirectories path).IsDirectory q :=
    fun q hq => mem_directories_createDirectories.2 (.inl hq)
  refine ⟨fun p hp => ?_, fun p hp => ?_⟩
  · rcases mem_directories_createDirectories.1 hp with hold | hnew
    · exact (h.directories p hold).mono hgrows
    · intro dir hparent
      by_cases hdir : dir = ""
      · exact .inl hdir
      · have hmade := mem_lineage_of_parent? hnew hparent hdir
        exact .inr (mem_directories_createDirectories.2 (.inr hmade))
  · rw [paths, files_createDirectories] at hp
    exact (h.files p hp).mono hgrows

/-- **Every act keeps a tree rooted.** -/
theorem Rooted.act (h : t.Rooted) (a : Act) : (t.act a).sink.Rooted := by
  cases a with
  | createDirectories path => exact h.createDirectories path
  | writeFile path content =>
    by_cases hseats : t.Seats path
    · rw [act_writeFile hseats]
      refine ⟨h.directories, fun p hp => ?_⟩
      rcases eq_or_mem_of_mem_storeFile hp with rfl | hold
      · exact hseats
      · exact h.files p hold
    · rw [act_writeFile_of_not_seats hseats]
      exact h

/-! ## What acts record -/

theorem writesAt_append (ws vs : List StoredFile) (p : String) :
    writesAt (ws ++ vs) p = writesAt ws p ++ writesAt vs p := by
  rw [writesAt, List.filter_append, writesAt, writesAt]

theorem writesAt_congr (h : Path.components p = Path.components q) :
    writesAt ws p = writesAt ws q := by
  rw [writesAt, writesAt, h]

theorem writesAt_singleton (path content p : String) :
    writesAt [⟨path, content⟩] p =
      if Path.components path = Path.components p then [⟨path, content⟩] else [] := by
  simp [writesAt, List.filter_singleton]

theorem ne_nil_writesAt_iff :
    writesAt ws p ≠ [] ↔ ∃ w ∈ ws, Path.components w.path = Path.components p := by
  simp [writesAt]

/-- A directory that is made is recorded. -/
theorem Records.createDirectories (h : t.Records dirs ws) (path : String) :
    (t.createDirectories path).Records (dirs ++ [path]) ws := by
  have hfiles : (t.createDirectories path).files = t.files := files_createDirectories t path
  refine ⟨fun cs => ?_, fun p => ?_, fun p => ?_, ?_⟩
  · rw [mem_directories_createDirectories, h.directories, Path.mem_lineage, ← and_or_left]
    simp [or_and_right, exists_or]
  · rw [← h.read, read?, read?, find?, find?, hfiles]
  · rw [← h.listed, paths, paths, hfiles]
  · rw [paths, hfiles]
    exact h.sorted

/-- **A place is listed just when it was written to.** -/
theorem Records.exists_path_iff (h : t.Records dirs ws) :
    (∃ q ∈ t.paths, Path.components q = Path.components p) ↔ writesAt ws p ≠ [] := by
  have hlisted := h.listed p
  have hnil : (t.paths.filter fun q => Path.components q = Path.components p) = [] ↔
      writesAt ws p = [] := by
    rw [hlisted]
    cases writesAt ws p <;> simp
  rw [Ne, ← hnil, List.filter_eq_nil_iff]
  simp

/-- **What is listed once a file is stored**: its path, if its place is new,
and else what was listed before. -/
theorem Records.listed_storeFile (h : t.Records dirs ws) (path content p : String) :
    (((storeFile path content t.files).map (·.path)).filter
      fun q => Path.components q = Path.components p) =
      ((writesAt (ws ++ [⟨path, content⟩]) p).head?.map (·.path)).toList := by
  have hlisted := h.listed p
  rw [paths] at hlisted
  rw [writesAt_append, writesAt_singleton]
  by_cases hwritten : writesAt ws path = []
  · have hnew : ∀ q ∈ t.paths, Path.components q ≠ Path.components path :=
      fun q hq hplace => h.exists_path_iff.1 ⟨q, hq, hplace⟩ hwritten
    have hperm := (perm_paths_storeFile content hnew).filter
      fun q => Path.components q = Path.components p
    refine eq_toList_of_perm (hperm.trans (.of_eq ?_))
    rw [List.filter_cons, hlisted]
    by_cases hsame : Path.components path = Path.components p
    · rw [writesAt_congr hsame] at hwritten
      simp [hsame, hwritten]
    · simp [hsame]
  · obtain ⟨q, hq, hplace⟩ := h.exists_path_iff.2 hwritten
    rw [paths_storeFile_of_mem content h.sorted hq hplace, hlisted]
    by_cases hsame : Path.components path = Path.components p
    · -- the first write to the place is an earlier one
      rw [writesAt_congr hsame] at hwritten
      obtain ⟨w, ws', hws⟩ := List.exists_cons_of_ne_nil hwritten
      simp [hws]
    · simp [hsame]

/-- **A file that is stored is recorded.** -/
theorem Records.storeFile (h : t.Records dirs ws) (path content : String) :
    ({ t with files := storeFile path content t.files } : MemoryTree).Records dirs
      (ws ++ [⟨path, content⟩]) := by
  refine ⟨h.directories, fun p => ?_, h.listed_storeFile path content,
    sorted_storeFile path content h.sorted⟩
  rw [read?_storeFile, writesAt_append, writesAt_singleton]
  by_cases hsame : Path.components path = Path.components p
  · simp [hsame]
  · simp [hsame, Ne.symm hsame, h.read]

/-- **Every act is recorded**: a directory that is asked for, and a file if
the write succeeds. -/
theorem Records.act (h : t.Records dirs ws) (a : Act) :
    (t.act a).sink.Records (dirs ++ a.directory?.toList) (ws ++ (t.written? a).toList) := by
  cases a with
  | createDirectories path =>
    have hwritten : t.written? (.createDirectories path) = none := by simp [written?, Act.file?]
    rw [act_createDirectories, hwritten, Option.toList_none, List.append_nil]
    exact h.createDirectories path
  | writeFile path content =>
    rw [Act.directory?, Option.toList_none, List.append_nil, written?]
    by_cases hseats : t.Seats path
    · rw [act_writeFile hseats, if_pos rfl]
      exact h.storeFile path content
    · rw [act_writeFile_of_not_seats hseats, if_neg (Option.some_ne_none _), Option.toList_none,
        List.append_nil]
      exact h

/-! ## A whole run -/

/-- **A run keeps a tree rooted**, by induction on the acts. -/
theorem Rooted.run (h : t.Rooted) (acts : List Act) : (t.run acts).Rooted := by
  induction acts generalizing t with
  | nil => exact h
  | cons a acts ih => exact ih (h.act a)

/-- **A run is recorded**, by induction on the acts. -/
theorem Records.run (h : t.Records dirs ws) (acts : List Act) :
    (t.run acts).Records (dirs ++ made acts) (ws ++ t.writes acts) := by
  induction acts generalizing t dirs ws with
  | nil => simpa [MemoryTree.run, made, writes] using h
  | cons a acts ih =>
    have hmade : made (a :: acts) = a.directory?.toList ++ made acts := by
      rw [made, List.filterMap_cons]
      cases a.directory? <;> rfl
    rw [hmade, writes, ← List.append_assoc, ← List.append_assoc]
    exact ih (h.act a)

theorem rooted_empty : ({} : MemoryTree).Rooted :=
  ⟨fun _ hp => absurd hp List.not_mem_nil, fun _ hp => absurd hp List.not_mem_nil⟩

theorem records_empty : ({} : MemoryTree).Records [] [] :=
  ⟨by simp, fun _ => rfl, fun _ => rfl, List.Pairwise.nil⟩

/-- **Taken are the places that were written to and the directories.** -/
theorem Records.isTaken_iff (h : t.Records dirs ws) : t.isTaken p = true ↔
    (∃ w ∈ ws, Path.components w.path = Path.components p) ∨
      Path.components p ≠ [] ∧ ∃ dir ∈ dirs, Path.components p <+: Path.components dir := by
  have hread : (∃ text, t.read? p = some text) ↔ writesAt ws p ≠ [] := by
    rw [h.read, ← Option.isSome_iff_exists, Option.isSome_map, List.getLast?_isSome]
  rw [MemoryTree.isTaken_iff, Taken, hread, ne_nil_writesAt_iff, h.directories]

/-- **A tree in memory after any acts.** Directories can always be made. A
file can be written just when its parent is absent, empty or a directory
that is there, and a write that fails leaves the tree as it is. So any
acts on the empty tree lead to a rooted one, and it holds what was made
and written: directories at the places that lead to those that were made,
and at every place the text that was written there last, or none. The
places that were written to are each listed once, by the path of the first
write, in the order of components. Taken are these places and the ones of
directories. -/
theorem run_records :
    (∀ (t : MemoryTree) path, (t.act (.createDirectories path)).failure = none) ∧
    (∀ (t : MemoryTree) path content,
      ((t.act (.writeFile path content)).failure = none ↔ t.Seats path) ∧
      ((t.act (.writeFile path content)).failure ≠ none →
        (t.act (.writeFile path content)).sink = t)) ∧
    ∀ acts,
      (run {} acts).Rooted ∧ (run {} acts).Records (made acts) (writes {} acts) ∧
      ∀ p, (run {} acts).isTaken p = true ↔
        (∃ w ∈ writes {} acts, Path.components w.path = Path.components p) ∨
        Path.components p ≠ [] ∧ ∃ dir ∈ made acts, Path.components p <+: Path.components dir := by
  refine ⟨fun t path => rfl, fun t path content => ?_, fun acts => ?_⟩
  · by_cases hseats : t.Seats path
    · simp [act_writeFile hseats, hseats]
    · simp [act_writeFile_of_not_seats hseats, hseats]
  · have hrecords := records_empty.run acts
    rw [List.nil_append, List.nil_append] at hrecords
    exact ⟨rooted_empty.run acts, hrecords, fun p => hrecords.isTaken_iff⟩

/-- A file written too early, then twice by different spellings of one
path, beside a directory that is made for nothing. -/
def shopActs : List Act :=
  [.writeFile "gen/shop.verse" "early", .createDirectories "gen//calls/",
    .writeFile "gen/./shop.verse" "first", .writeFile "b.verse" "other",
    .writeFile "gen/shop.verse/" "last"]

/-- The early write fails, the place holds the last text and is listed by
the first path that succeeded. -/
theorem records_shopActs :
    (({} : MemoryTree).act (.writeFile "gen/shop.verse" "early")).failure ≠ none ∧
      (({} : MemoryTree).act (.writeFile "gen/shop.verse" "early")).sink = {} ∧
      (run {} shopActs).read? "gen/shop.verse" = some "last" ∧
      ((run {} shopActs).paths.filter fun q =>
        Path.components q = Path.components "gen/shop.verse") = ["gen/./shop.verse"] ∧
      (run {} shopActs).isTaken "gen/calls" = true := by
  obtain ⟨-, hwrite, hrun⟩ := run_records
  obtain ⟨-, hrecords, htaken⟩ := hrun shopActs
  have hfails : (({} : MemoryTree).act (.writeFile "gen/shop.verse" "early")).failure ≠ none := by
    decide
  refine ⟨hfails, (hwrite {} _ _).2 hfails, (hrecords.read _).trans ?_,
    (hrecords.listed _).trans ?_, (htaken _).2 (.inr ⟨?_, "gen//calls/", ?_, ?_⟩)⟩ <;> decide

end Storefront.MemoryTree
