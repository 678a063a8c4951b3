import Storefront.Proofs.Storage.Path
import Storefront.Storage.MemoryTree
/-!
# Storage — what a tree in memory holds

A tree is read by its files' contents and by its directories. Storing a
file changes what one place holds and no other, and making a directory
adds the places of its lineage, so a file can be stored at any path once
the parent is made (`receives_prepared`).
-/

namespace Storefront.MemoryTree

variable {t u : MemoryTree} {path p q content text : String} {cs : List Component}

/-- **A path that is taken**: a file or a directory stands there. -/
def Taken (t : MemoryTree) (path : String) : Prop :=
  (∃ text, t.read? path = some text) ∨ Path.components path ∈ t.directories

theorem isTaken_iff : t.isTaken path = true ↔ t.Taken path := by
  simp [isTaken, Taken, hasDirectory, read?, Option.isSome_iff_exists]

instance (t : MemoryTree) (path : String) : Decidable (t.Taken path) :=
  decidable_of_iff _ isTaken_iff

/-- **A tree that received a text** at a path, compared with the tree
before: the file holds the text, every other place holds what it held, and
the directories are those from before and those above the path. -/
structure Receives (t u : MemoryTree) (path text : String) : Prop where
  written : u.read? path = some text
  others : ∀ q, Path.components q ≠ Path.components path → u.read? q = t.read? q
  directories : ∀ cs, cs ∈ u.directories ↔ cs ∈ t.directories ∨ Path.Above cs path

/-! ## Files -/

/-- The first file at a place is the one that is read. -/
theorem read?_cons (dirs : List (List Component)) (f : StoredFile) (files : List StoredFile)
    (q : String) :
    ({ directories := dirs, files := f :: files } : MemoryTree).read? q =
      if Path.components q = Path.components f.path then some f.content
      else ({ directories := dirs, files := files } : MemoryTree).read? q := by
  by_cases h : Path.components q = Path.components f.path
  · simp [read?, find?, Path.same, h]
  · simp [read?, find?, Path.same, h, Ne.symm h]

/-- **A stored file is read at every spelling of its path**, and no other
place is touched. -/
theorem read?_storeFile (t : MemoryTree) (path content q : String) :
    ({ t with files := storeFile path content t.files } : MemoryTree).read? q =
      if Path.components q = Path.components path then some content else t.read? q := by
  obtain ⟨dirs, files⟩ := t
  dsimp only
  induction files with
  | nil => rw [storeFile, read?_cons]
  | cons f files ih =>
    rw [storeFile]
    split
    · next hsame =>
      have hsame : Path.components f.path = Path.components path := by simpa [Path.same] using hsame
      rw [read?_cons, read?_cons, hsame]
      split <;> rfl
    · next hother =>
      have hother : Path.components f.path ≠ Path.components path := by
        simpa [Path.same] using hother
      split
      · rw [read?_cons]
      · rw [read?_cons, ih, read?_cons]
        split
        · next hq => rw [if_neg (hq ▸ hother)]
        · rfl

/-- Paths of the same components are read alike. -/
theorem read?_congr (h : Path.components p = Path.components q) : t.read? p = t.read? q := by
  simp [read?, find?, Path.same, h]

/-! ## Directories -/

theorem mem_directories_addDirectory {ds : List Component} :
    cs ∈ (t.addDirectory ds).directories ↔ cs ∈ t.directories ∨ cs = ds := by
  rw [addDirectory]
  split
  · next h =>
    have : ds ∈ t.directories := by simpa [hasDirectory] using h
    refine ⟨.inl, ?_⟩
    rintro (h | rfl) <;> assumption
  · simp

theorem files_addDirectory (t : MemoryTree) (ds : List Component) :
    (t.addDirectory ds).files = t.files := by
  rw [addDirectory]
  split <;> rfl

/-- Made directories are there, and no file is touched. -/
theorem foldl_addDirectory (dirs : List (List Component)) (t : MemoryTree) :
    (∀ cs, cs ∈ (dirs.foldl addDirectory t).directories ↔ cs ∈ t.directories ∨ cs ∈ dirs) ∧
      (dirs.foldl addDirectory t).files = t.files := by
  induction dirs generalizing t with
  | nil => simp
  | cons ds dirs ih =>
    obtain ⟨hdirs, hfiles⟩ := ih (t.addDirectory ds)
    refine ⟨fun cs => ?_, hfiles.trans (files_addDirectory t ds)⟩
    rw [List.foldl_cons, hdirs, mem_directories_addDirectory, List.mem_cons, or_assoc]

/-- **A prepared tree**: the places above the path are made, nothing fails,
and the file finds its directory. -/
theorem exists_prepared (t : MemoryTree) (path : String) :
    ∃ u : MemoryTree, Sink.prepare t (Path.properParent? path) = { sink := u } ∧
      u.files = t.files ∧ u.hasParent path = true ∧
      ∀ cs, cs ∈ u.directories ↔ cs ∈ t.directories ∨ Path.Above cs path := by
  cases hparent : Path.properParent? path with
  | none =>
    refine ⟨t, rfl, rfl, by rw [hasParent, hparent], fun cs => ?_⟩
    simp [Path.not_above_of_properParent?_eq_none hparent]
  | some dir =>
    obtain ⟨hdirs, hfiles⟩ := foldl_addDirectory (Path.lineage (Path.components dir)) t
    refine ⟨t.createDirectories dir, rfl, hfiles, ?_, fun cs => ?_⟩
    · -- the parent has components, so it is in its own lineage
      have hmem : Path.components dir ∈ (t.createDirectories dir).directories :=
        (hdirs _).2 (.inr (Path.mem_lineage.2
          ⟨(Path.components_of_properParent?_eq_some hparent).1, List.prefix_rfl⟩))
      rw [hasParent, hparent]
      simpa [hasDirectory] using hmem
    · rw [Path.above_iff_of_properParent?_eq_some hparent]
      exact hdirs cs

/-- **A tree that is prepared receives the file.** -/
theorem receives_of_prepared (hfiles : u.files = t.files) (hparent : u.hasParent path = true)
    (hdirs : ∀ cs, cs ∈ u.directories ↔ cs ∈ t.directories ∨ Path.Above cs path)
    (content : String) :
    ∃ v, u.writeFile path content = .ok v ∧ t.Receives v path content := by
  have hread : ∀ q, u.read? q = t.read? q := fun q => by rw [read?, read?, find?, find?, hfiles]
  refine ⟨{ u with files := storeFile path content u.files }, if_pos hparent, ?_, fun q hq => ?_,
    hdirs⟩
  · rw [read?_storeFile, if_pos rfl]
  · rw [read?_storeFile, if_neg hq, hread]

end Storefront.MemoryTree
