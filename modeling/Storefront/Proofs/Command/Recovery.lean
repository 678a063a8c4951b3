import Storefront.Proofs.Command.Presented
import Storefront.Proofs.CommandLine.Named
import Storefront.Proofs.Settings.Found
/-!
# Commands — what becomes of settings that cannot be loaded

The settings are loaded before any command is carried out. So a file of
settings that cannot be loaded stops them all, the two included that the
report of the error suggests: `config path` shows nothing, and
`init --force` writes nothing (`invoke_recovers`). No number of command lines
changes the disk then (`World.afterAll_of_load_error`). Where the settings
are loaded, or there is no file, both commands do what they say, and what
`init --force` leaves is loaded after any careful commands that follow
(`World.restored_of_readText`).
-/

namespace Storefront

variable {w : World} {words : List String} {lines : List (List String)} {file path : String}
variable {env : Environment} {settings : Settings} {e : Settings.LoadError} {i : Invocation}

/-! ## Without settings -/

/-- **A run that its settings stop**: it fails with the error of loading
them, shows nothing else and changes nothing. -/
structure Run.Stopped (r : Run) (d : Disk) (e : Settings.LoadError) : Prop where
  exitCode : r.exitCode = 4
  output : r.output = ""
  report : ∃ verbose, r.report = e.toCommandError.plainReport verbose
  disk : r.disk = d

namespace Run

/-- **Every command is stopped** when the settings cannot be loaded. -/
theorem stopped_ofInvocation
    (hpath : Settings.activePath w.environment i.options.config = path)
    (h : Settings.load w.environment w.disk path = .error e) :
    (ofInvocation i w).Stopped w.disk e := by
  subst hpath
  have houtcome := outcome_of_load_error h
  refine ⟨?_, output_of_load_error h, ?_, ?_⟩
  · rw [exitCode_ofInvocation, houtcome]
    rfl
  · rw [ofInvocation]
    dsimp only
    rw [houtcome]
    exact ⟨_, rfl⟩
  · rw [disk_ofInvocation, houtcome]
    rfl

end Run

namespace World

/-- A command line that has its settings at a path, if it is not refused. -/
def Names (w : World) (path : String) (words : List String) : Prop :=
  ∀ i, CommandLine.parse (Run.settle w).environment words = .ok i →
    Settings.activePath (Run.settle w).environment i.options.config = path

theorem after_of_load_error (hwords : w.Names path words)
    (h : Settings.load (Run.settle w).environment w.disk path = .error e) : w.after words = w := by
  rw [after]
  split
  · next r hrun =>
    obtain ⟨i, hparse, rfl⟩ := Run.invoke_eq_ok hrun
    rw [(Run.stopped_ofInvocation (hwords i hparse) h).disk]
    rfl
  · rfl

/-- **Settings that cannot be loaded stay so**: no command lines change
anything, however many there are; by induction on the lines. -/
theorem afterAll_of_load_error (hlines : ∀ words ∈ lines, w.Names path words)
    (h : Settings.load (Run.settle w).environment w.disk path = .error e) :
    w.afterAll lines = w := by
  induction lines with
  | nil => rfl
  | cons words lines ih =>
    rw [List.forall_mem_cons] at hlines
    have hfirst := after_of_load_error hlines.1 h
    rw [afterAll, List.foldl_cons, hfirst]
    exact ih hlines.2

end World

/-! ## With settings -/

namespace Run

variable (hpath : Settings.activePath w.environment i.options.config = path)
variable (hload : Settings.load w.environment w.disk path = .ok settings)

include hpath hload

/-- The path of the settings is shown. -/
theorem ofInvocation_path (hrequest : i.request = .config .path) :
    (ofInvocation i w).exitCode = 0 ∧ (ofInvocation i w).output = path ++ "\n" ∧
      (ofInvocation i w).disk = w.disk := by
  subst hpath
  have hperform : perform i settings w = .answering w.disk
      (.document (Settings.activePath w.environment i.options.config ++ "\n")) := by
    rw [perform, hrequest]
    rfl
  rw [exitCode_ofInvocation, disk_ofInvocation, outcome_of_load hload, output_of_load hload,
    hperform]
  exact ⟨rfl, rfl, rfl⟩

/-- The built-in settings are written, whatever was there. -/
theorem ofInvocation_init (hrequest : i.request = .init true)
    (hwritable : (w.disk.save path (Settings.text {})).2 = none) :
    (ofInvocation i w).exitCode = 0 ∧
      (ofInvocation i w).disk = (w.disk.save path (Settings.text {})).1 := by
  subst hpath
  have hguarded := guarded_outcome ⟨settings, hload, .settings hrequest⟩
  rw [exitCode_ofInvocation, disk_ofInvocation]
  cases hguarded with
  | refused _ hforce =>
    -- the command is forced, so a file that is there does not stop it
    rw [hrequest] at hforce
    cases hforce
  | saved _ hsaves =>
    rw [hsaves.error.2 hwritable]
    exact ⟨rfl, hsaves.disk⟩

end Run

namespace World

theorem current_after (w : World) (words : List String) :
    (w.after words).disk.current = w.disk.current := by
  rw [after]
  split
  · next r hrun =>
    obtain ⟨i, -, rfl⟩ := Run.invoke_eq_ok hrun
    dsimp only
    -- a run leaves a footprint or the disk as it is, and neither moves the directory
    by_cases hwrites : ∃ path doc, i.Writes (Run.settle w) path doc
    · obtain ⟨path, doc, hwrites⟩ := hwrites
      rw [Run.disk_ofInvocation]
      exact (Run.guarded_outcome hwrites).footprint.current
    · rw [Run.disk_ofInvocation_of_not_writes (by simpa using hwrites)]
      rfl
  · rfl

/-- Command lines that are careful, each in the world that it finds. -/
def AllCareful (w : World) (lines : List (List String)) : Prop :=
  ∀ before words, before ++ [words] <+: lines → (w.afterAll before).Careful words

/-- Careful command lines keep everything. -/
theorem keeps_of_allCareful (hroot : w.disk.Rooted) (hlines : w.AllCareful lines) :
    (w.afterAll lines).disk.Keeps w.disk where
  current := by
    rw [afterAll]
    exact List.foldlRecOn lines after (motive := fun u => u.disk.current = w.disk.current) rfl
      fun u hu words _ => (current_after u words).trans hu
  node := (keeps_afterAll hroot hlines).2

/-- **Settings that are restored**: those at a path are loaded as the
built-in ones, also after careful command lines. -/
def Restored (w : World) (path : String) : Prop :=
  ∀ lines, w.AllCareful lines → ∀ env : Environment, env.layer = [] →
    Settings.load env (w.afterAll lines).disk path = .ok {}

theorem Restored.load (h : w.Restored path) (hlayer : env.layer = []) :
    Settings.load env w.disk path = .ok {} :=
  h [] (fun before words hfront => by simp at hfront) env hlayer

/-- **The written form of the built-in settings restores them.** -/
theorem restored_of_readText (hcharted : w.disk.Charted)
    (hread : w.disk.readText path = .ok (Settings.text {})) : w.Restored path := by
  intro lines hlines env hlayer
  have hkeeps := keeps_of_allCareful hcharted.rooted hlines
  have hcharted : (w.afterAll lines).disk.Charted :=
    ⟨(keeps_afterAll hcharted.rooted hlines).1, hkeeps.current ▸ hcharted.names⟩
  exact Settings.load_of_readText hlayer hcharted (hkeeps.readText hread)

end World

namespace Run

/-- **What becomes of the settings in a file** that the command line names.
If they cannot be loaded, both commands that the report of the error
suggests are stopped like all others. If they can, the path is shown; and
where the file can be written, the built-in settings are restored. Without
a file the settings can be loaded. -/
theorem invoke_recovers (w : World) (hfile : file.toList.head? ≠ some '-') (hne : file ≠ "") :
    ∃ shown written, invoke w ["-c", file, "config", "path"] = .ok shown ∧
      invoke w ["-c", file, "init", "--force"] = .ok written ∧
      (∀ e, Settings.load (settle w).environment w.disk file = .error e →
        shown.Stopped w.disk e ∧ written.Stopped w.disk e) ∧
      (∀ settings, Settings.load (settle w).environment w.disk file = .ok settings →
        (shown.exitCode = 0 ∧ shown.output = file ++ "\n" ∧ shown.disk = w.disk) ∧
        ((w.disk.save file (Settings.text {})).2 = none → written.exitCode = 0 ∧
          (w.disk.Charted → World.Restored { w with disk := written.disk } file))) ∧
      ((settle w).environment.layer = [] → Settings.file? w.disk file = none →
        Settings.load (settle w).environment w.disk file = .ok {}) := by
  obtain ⟨options, hparse, hconfig⟩ := CommandLine.parse_path (settle w).environment hfile hne
  obtain ⟨options', hparse', hconfig'⟩ := CommandLine.parse_init (settle w).environment hfile hne
  have hpath : Settings.activePath (settle w).environment options.config = file := by
    rw [hconfig]
    rfl
  have hpath' : Settings.activePath (settle w).environment options'.config = file := by
    rw [hconfig']
    rfl
  refine ⟨ofInvocation ⟨options, .config .path⟩ (settle w),
    ofInvocation ⟨options', .init true⟩ (settle w), invoke_of_parse hparse,
    invoke_of_parse hparse', fun e he => ?_, fun settings hload => ⟨?_, fun hwritable => ?_⟩,
    Settings.load_of_absent⟩
  · exact ⟨stopped_ofInvocation hpath he, stopped_ofInvocation hpath' he⟩
  · exact ofInvocation_path hpath hload rfl
  · obtain ⟨hexit, hdisk⟩ :=
      ofInvocation_init (i := ⟨options', .init true⟩) hpath' hload rfl hwritable
    refine ⟨hexit, fun hcharted => World.restored_of_readText ?_ ?_⟩
    · rw [hdisk]
      exact hcharted.save file _
    · rw [hdisk]
      exact Disk.readText_save hwritable

/-- A disk with settings that can be loaded and settings that cannot. -/
def attic : Disk :=
  { current := ["home"]
    nodes :=
      [(["home", "shop.toml"], .file (.text "[defaults]\nquantity = 3\n")),
        (["home", "bad.toml"], .file (.text "[defaults]\nquantity = 0\n"))] }

theorem charted_attic : attic.Charted := ⟨Disk.rooted_of_nodes (by decide) (by decide), by decide⟩

/-- Settings that can be loaded are shown and written anew, also where there
were none, and those that cannot stay as they are. -/
theorem recovers_attic :
    (∃ shown written, invoke { disk := attic } ["-c", "shop.toml", "config", "path"] = .ok shown ∧
      invoke { disk := attic } ["-c", "shop.toml", "init", "--force"] = .ok written ∧
      shown.exitCode = 0 ∧ shown.output = "shop.toml\n" ∧ written.exitCode = 0 ∧
      Settings.load [] written.disk "shop.toml" = .ok {}) ∧
    (∃ written, invoke { disk := attic } ["-c", "new/shop.toml", "init", "--force"] = .ok written ∧
      written.exitCode = 0 ∧ Settings.load [] written.disk "new/shop.toml" = .ok {}) ∧
    ∃ written, invoke { disk := attic } ["-c", "bad.toml", "init", "--force"] = .ok written ∧
      written.disk = attic := by
  refine ⟨?_, ?_, ?_⟩
  · have hload : Settings.load [] attic "shop.toml" = .ok { quantity := 3 } := by decide +kernel
    obtain ⟨shown, written, hshown, hwritten, -, hloaded, -⟩ :=
      @invoke_recovers "shop.toml" { disk := attic } (by decide) (by decide)
    obtain ⟨⟨hexit, houtput, -⟩, hinit⟩ := hloaded _ hload
    obtain ⟨hexit', hafter⟩ := hinit (by decide +kernel)
    exact ⟨shown, written, hshown, hwritten, hexit, houtput, hexit',
      (hafter charted_attic).load rfl⟩
  · obtain ⟨_, written, -, hwritten, -, hloaded, habsent⟩ :=
      @invoke_recovers "new/shop.toml" { disk := attic } (by decide) (by decide)
    have hload : Settings.load [] attic "new/shop.toml" = .ok {} :=
      habsent rfl (by decide +kernel)
    obtain ⟨hexit, hafter⟩ := (hloaded _ hload).2 (by decide +kernel)
    exact ⟨written, hwritten, hexit, (hafter charted_attic).load rfl⟩
  · have hload : Settings.load [] attic "bad.toml" = .error .zeroQuantity := by decide +kernel
    obtain ⟨_, written, -, hwritten, hstopped, -, -⟩ :=
      @invoke_recovers "bad.toml" { disk := attic } (by decide) (by decide)
    exact ⟨written, hwritten, (hstopped _ hload).2.disk⟩

/-- **Settings that cannot be loaded are not repaired** by the commands that
the report of the error suggests, although the file can be written. -/
theorem unrepaired_attic :
    (attic.save "bad.toml" (Settings.text {})).2 = none ∧
    ["Show the active config file with: shopgen config path",
      "Recreate a default config with: shopgen init --force"] ⊆
        Settings.LoadError.zeroQuantity.toCommandError.suggestions ∧
    ∃ shown written, invoke { disk := attic } ["-c", "bad.toml", "config", "path"] = .ok shown ∧
      invoke { disk := attic } ["-c", "bad.toml", "init", "--force"] = .ok written ∧
      shown.exitCode = 4 ∧ shown.output = "" ∧ written.exitCode = 4 ∧ written.disk = attic ∧
      written.report = Settings.LoadError.zeroQuantity.toCommandError.plainReport false := by
  refine ⟨by decide +kernel, by decide, _, _, rfl, rfl, ?_⟩
  decide +kernel

end Run

end Storefront
