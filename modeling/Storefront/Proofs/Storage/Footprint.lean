import Storefront.Proofs.Storage.Disk
/-!
# Storage — what an attempt to write leaves on a disk

To save a text, the directory of the file is made first, so far as that
works, and then the file is written, if that works. Whatever was there
before stays, unless it is the file that is written to
(`footprint_save`). A path that was not taken is a new place, provided
that the path climbs only out of what is there (`node?_save`): a path
such as `new/../file` leads nowhere before the directory `new` is made,
and to the file beside it afterwards.
-/

namespace Storefront

open Storefront.Path (components pieceComponents Above)

namespace Disk

variable {d u v : Disk} {path text : String} {pieces : List String} {dir p : Place}
variable {cs ds : List Component} {n : DiskNode} {spot : Spot}

/-! ## Saving -/

/-- The disk with the directory for a file, so far as it can be made. -/
def prepared (d : Disk) (path : String) : Disk × Option SystemError :=
  match Path.properParent? path with
  | none => (d, none)
  | some dir => d.makeDirectories dir

/-- **Saving a text**: make the directory for the file, and write it. -/
def save (d : Disk) (path text : String) : Disk × Option SystemError :=
  let u := (d.prepared path).1
  match (d.prepared path).2 with
  | some e => (u, some e)
  | none =>
    match u.writeText path text with
    | .ok v => (v, none)
    | .error e => (u, some e)

/-- **How saving ends**: it is given up with the directories that were
made, or the file is written. -/
theorem save_cases (d : Disk) (path text : String) :
    ((d.save path text).1 = (d.prepared path).1 ∧ (d.save path text).2 ≠ none) ∨
      ((d.prepared path).1.writeText path text = .ok (d.save path text).1 ∧
        (d.save path text).2 = none) := by
  rw [save]
  split
  · exact .inl ⟨rfl, Option.some_ne_none _⟩
  · split
    · next hwrite => exact .inr ⟨hwrite, rfl⟩
    · exact .inl ⟨rfl, Option.some_ne_none _⟩

/-- The directories that are made for a file are above its path. -/
theorem grows_prepared (d : Disk) (path : String) :
    d.Grows (d.prepared path).1 fun p => ∃ cs, Above cs path ∧ p = d.placeOf cs := by
  rw [prepared]
  split
  · exact .refl d _
  · next dir hparent =>
    refine (grows_makeDirectories d dir).mono fun p ⟨cs, hcs, hp⟩ => ?_
    exact ⟨cs, (Path.above_iff_of_properParent?_eq_some hparent).2 hcs, hp⟩

/-- A place that a file can be written to: one of a file, or a vacant one. -/
def Open (d : Disk) (path : String) (p : Place) : Prop :=
  (∃ c, d.locate path = .ok (.file p c)) ∨ d.locate path = .ok (.vacant p false)

theorem Open.eq_placeOf (h : d.Open path p) : p = d.placeOf (components path) := by
  rcases h with ⟨c, hlocate⟩ | hlocate
  · exact (locate_spec hlocate).1
  · exact (locate_spec hlocate).1

theorem Open.ne_directory (h : d.Open path p) : d.node? p ≠ some .directory := by
  rcases h with ⟨c, hlocate⟩ | hlocate
  · have hfile : d.node? p = some (.file c) := (locate_spec hlocate).2
    simp [hfile]
  · have hnone : d.node? p = none := (locate_spec hlocate).2
    simp [hnone]

/-- **Writing sets a place that is open.** -/
theorem writeText_eq_ok (h : d.writeText path text = .ok u) :
    ∃ p, d.Open path p ∧ u = d.set p (.file (.text text)) := by
  rw [writeText] at h
  split at h
  · next p c hlocate => exact ⟨p, .inl ⟨c, hlocate⟩, (Except.ok.inj h).symm⟩
  · next p hlocate => exact ⟨p, .inr hlocate, (Except.ok.inj h).symm⟩
  · cases h
  · cases h

/-! ## What is left on the disk -/

/-- **The footprint of a text** that was to be saved: apart from new
directories above the path, only the place of the path may be another
than before, and then it holds the text. A directory stays one. -/
structure Footprint (d v : Disk) (path text : String) : Prop where
  current : v.current = d.current
  node : ∀ p, v.node? p = d.node? p ∨
    (d.node? p = none ∧ v.node? p = some .directory ∧ ∃ cs, Above cs path ∧ p = d.placeOf cs) ∨
    (d.node? p ≠ some .directory ∧ v.node? p = some (.file (.text text)) ∧
      p = d.placeOf (components path))

theorem Footprint.refl (d : Disk) (path text : String) : d.Footprint d path text :=
  ⟨rfl, fun _ => .inl rfl⟩

/-- **Saving leaves the footprint of the text**, whether it succeeds or
fails. -/
theorem footprint_save (d : Disk) (path text : String) :
    d.Footprint (d.save path text).1 path text := by
  have hgrows := grows_prepared d path
  rcases save_cases d path text with ⟨hdisk, -⟩ | ⟨hwrite, -⟩
  · rw [hdisk]
    exact ⟨hgrows.current, fun p => (hgrows.node p).imp_right .inl⟩
  · obtain ⟨q, hopen, hdisk⟩ := writeText_eq_ok hwrite
    rw [hdisk]
    refine ⟨hgrows.current, fun p => ?_⟩
    rw [node?_set hopen.ne_directory]
    split
    · next hp =>
      refine .inr (.inr ⟨fun hdir => hopen.ne_directory (hp ▸ hgrows.node_eq_some hdir), rfl, ?_⟩)
      rw [hp, hopen.eq_placeOf, hgrows.placeOf_eq]
    · exact (hgrows.node p).imp_right .inl

/-- A walk that ends at a file or at a vacant place ends at the file that
is put there. -/
theorem walk_set {c : Content} (hp : d.node? p ≠ some .directory)
    (h : (∃ c', d.walk dir pieces = .ok (.file p c')) ∨
      d.walk dir pieces = .ok (.vacant p false)) :
    (d.set p (.file c)).walk dir pieces = .ok (.file p c) := by
  -- no directory on the way is the place that is set
  fun_induction walk d dir pieces with
  | case1 dir => simp at h
  | case2 dir piece rest hfiller ih =>
    rw [walk, if_pos hfiller]
    exact ih h
  | case3 dir piece rest hreal hup ih =>
    rw [walk, if_neg hreal, if_pos hup]
    exact ih h
  | case4 dir piece rest hreal hname next hnode ih =>
    have hnext : next ≠ p := fun heq => hp (heq ▸ hnode)
    rw [walk, if_neg hreal, if_neg hname]
    simp only [node?_set hp, next, if_neg hnext, hnode] at ih ⊢
    exact ih h
  | case5 dir piece rest hreal hname next c' hnode hlast =>
    obtain rfl : next = p := by simpa using h
    rw [walk, if_neg hreal, if_neg hname]
    simp [node?_set hp, next, hlast]
  | case6 dir piece rest hreal hname next c' hnode hlast => simp at h
  | case7 dir piece rest hreal hname next hnode hrest =>
    obtain ⟨rfl, hlast⟩ : next = p ∧ rest = [] := by simpa using h
    rw [walk, if_neg hreal, if_neg hname]
    simp [node?_set hp, next, hlast]
  | case8 dir piece rest hreal hname next hnode hrest => simp at h

/-- **A text that was written is read back.** -/
theorem readText_of_writeText (h : d.writeText path text = .ok u) :
    u.readText path = .ok text := by
  obtain ⟨p, hopen, rfl⟩ := writeText_eq_ok h
  have hplace := hopen.ne_directory
  have hne : path ≠ "" := by
    rcases hopen with ⟨c, hlocate⟩ | hlocate <;> exact ne_empty_of_locate hlocate
  have hlocate : (d.set p (.file (.text text))).locate path = .ok (.file p (.text text)) := by
    rw [Open, locate_eq d hne] at hopen
    rw [locate_eq _ hne]
    exact walk_set hplace hopen
  rw [readText, read, hlocate]

/-- **A text that was saved is read back.** -/
theorem readText_save (h : (d.save path text).2 = none) :
    (d.save path text).1.readText path = .ok text := by
  rcases save_cases d path text with ⟨-, hfailed⟩ | ⟨hwrite, -⟩
  · exact absurd h hfailed
  · exact readText_of_writeText hwrite

/-! ## New places -/

/-- A disk on which everything stands in a directory. -/
def Rooted (d : Disk) : Prop :=
  ∀ p name n, d.node? (p ++ [name]) = some n → d.node? p = some .directory

/-- A path that climbs only out of what is there. -/
def Grounded (d : Disk) (path : String) : Prop :=
  ∀ cs, cs ++ [.up] <+: components path → d.node? (d.placeOf cs) ≠ none

/-- A path that does not climb is grounded. -/
theorem grounded_of_up_not_mem (h : Component.up ∉ components path) : d.Grounded path :=
  fun _ hcs => absurd (hcs.subset (by simp)) h

/-- The root is in front of a path or not in it. -/
theorem eq_nil_of_root_isPrefix (h : cs ++ [.root] <+: components path) : cs = [] := by
  have hpieces : Component.root ∉ pieceComponents (Path.parts path).2 := by
    simp only [pieceComponents, List.mem_map, not_exists, not_and]
    intro piece _
    rw [Path.pieceComponent]
    split <;> simp
  have htail : Component.root ∉ (components path).tail := by
    rw [Path.components_eq]
    rcases (Path.apart_parts path).start_eq with hstart | hstart | hstart <;> rw [hstart]
    · exact hpieces
    · exact hpieces
    · exact fun hmem => hpieces (List.mem_of_mem_tail hmem)
  cases cs with
  | nil => rfl
  | cons c cs =>
    obtain ⟨rest, hrest⟩ := h
    rw [← hrest] at htail
    simp at htail

/-- **Below a missing place everything is missing**, along a path that
climbs only out of what is there. -/
theorem node?_eq_none_of_isPrefix (hroot : d.Rooted) (hground : d.Grounded path)
    (hcs : d.node? (d.placeOf cs) = none) (hds : cs <+: ds) (hpath : ds <+: components path) :
    d.node? (d.placeOf ds) = none := by
  induction ds using List.reverseRecOn with
  | nil => rwa [List.prefix_nil.1 hds] at hcs
  | append_singleton ds c ih =>
    rcases List.prefix_concat_iff.1 hds with rfl | hfront
    · exact hcs
    · have hnone := ih hfront ((List.prefix_append _ _).trans hpath)
      have hplace : d.placeOf (ds ++ [c]) = advance (d.placeOf ds) c := by
        rw [placeOf, List.foldl_append]
        rfl
      rw [hplace]
      cases c with
      | root =>
        rw [eq_nil_of_root_isPrefix hpath] at hnone
        simp [placeOf] at hnone
      | here => exact hnone
      | up => exact absurd hnone (hground ds hpath)
      | name name =>
        by_contra hsome
        obtain ⟨n, hn⟩ := Option.ne_none_iff_exists'.1 hsome
        have hdir := hroot (d.placeOf ds) name n hn
        exact absurd (hdir.symm.trans hnone) (Option.some_ne_none _)

/-- **A path that was not taken is a new place**, also after directories
are made for it. -/
theorem vacant_of_writeText {S : Place → Prop} (hroot : d.Rooted) (hground : d.Grounded path)
    (hfree : d.isTaken path = false) (hgrows : d.Grows u S)
    (hwrite : u.writeText path text = .ok v) : d.node? (d.placeOf (components path)) = none := by
  by_cases hsame : ∀ cs, cs <+: components path → d.node? (d.placeOf cs) = u.node? (d.placeOf cs)
  · -- the path leads where it led before, and that was free
    obtain ⟨p, hopen, -⟩ := writeText_eq_ok hwrite
    rw [Open, ← locate_congr hgrows.current hsame] at hopen
    rcases hopen with ⟨c, hfile⟩ | hvacant
    · simp [isTaken, hfile] at hfree
    · obtain ⟨hplace, hnone⟩ := locate_spec hvacant
      exact hplace ▸ hnone
  · -- a directory was made on the way, so nothing below it was there
    simp only [not_forall] at hsame
    obtain ⟨cs, hcs, hchanged⟩ := hsame
    rcases hgrows.node (d.placeOf cs) with heq | ⟨hnone, -⟩
    · exact absurd heq.symm hchanged
    · exact node?_eq_none_of_isPrefix hroot hground hnone hcs List.prefix_rfl

/-- **Saving to a path that is not taken keeps all that is there.** -/
theorem node?_save (hroot : d.Rooted) (hground : d.Grounded path)
    (hfree : d.isTaken path = false) (hp : d.node? p = some n) :
    (d.save path text).1.node? p = some n := by
  have hgrows := grows_prepared d path
  rcases save_cases d path text with ⟨hdisk, -⟩ | ⟨hwrite, -⟩
  · rw [hdisk]
    exact hgrows.node_eq_some hp
  · have hnone := vacant_of_writeText hroot hground hfree hgrows hwrite
    obtain ⟨q, hopen, hdisk⟩ := writeText_eq_ok hwrite
    have hne : p ≠ q := by
      rintro rfl
      rw [hopen.eq_placeOf, hgrows.placeOf_eq, hnone] at hp
      cases hp
    rw [hdisk, node?_set hopen.ne_directory, if_neg hne]
    exact hgrows.node_eq_some hp

/-! ## Everything stays in a directory -/

/-- **A disk is rooted** if the directories of all that it lists are there,
and the one of the current directory is. -/
theorem rooted_of_nodes (h : ∀ e ∈ d.nodes, d.node? e.1.dropLast = some .directory)
    (hcurrent : d.node? d.current.dropLast = some .directory) : d.Rooted := by
  intro p name n hp
  rw [node?] at hp
  split at hp
  · next hplace =>
    obtain heq : p ++ [name] = d.current := by simpa using hplace
    rwa [← heq, List.dropLast_concat] at hcurrent
  · obtain ⟨front, back, hnodes, -⟩ := List.lookup_eq_some_iff.1 hp
    have hlisted := h (p ++ [name], n) (by simp [hnodes])
    rwa [List.dropLast_concat] at hlisted

theorem Rooted.dropLast (h : d.Rooted) (hp : d.node? p = some .directory) :
    d.node? p.dropLast = some .directory := by
  induction p using List.reverseRecOn with
  | nil => exact hp
  | append_singleton p name => exact List.dropLast_concat ▸ h p name _ hp

/-- A walk from a directory ends in one. -/
theorem Rooted.of_walk (h : d.Rooted) {name : String} (hdir : d.node? dir = some .directory)
    (hwalk : d.walk dir pieces = .ok spot) (hp : spotPlace spot = p ++ [name]) :
    d.node? p = some .directory := by
  fun_induction walk d dir pieces with
  | case1 dir =>
    obtain rfl := Except.ok.inj hwalk
    obtain rfl : dir = p ++ [name] := hp
    exact h p name _ hdir
  | case2 dir piece rest hfiller ih => exact ih hdir hwalk
  | case3 dir piece rest hreal hup ih => exact ih (h.dropLast hdir) hwalk
  | case4 dir piece rest hreal hname next hnode ih => exact ih hnode hwalk
  | case5 dir piece rest hreal hname next c' hnode hlast =>
    obtain rfl := Except.ok.inj hwalk
    have hp : dir ++ [piece] = p ++ [name] := hp
    obtain ⟨rfl, -⟩ := List.append_inj' hp rfl
    exact hdir
  | case6 dir piece rest hreal hname next c' hnode hlast => cases hwalk
  | case7 dir piece rest hreal hname next hnode hrest =>
    obtain rfl := Except.ok.inj hwalk
    have hp : dir ++ [piece] = p ++ [name] := hp
    obtain ⟨rfl, -⟩ := List.append_inj' hp rfl
    exact hdir
  | case8 dir piece rest hreal hname next hnode hrest => cases hwalk

theorem Rooted.of_locate (h : d.Rooted) {name : String} (hlocate : d.locate path = .ok spot)
    (hp : spotPlace spot = p ++ [name]) : d.node? p = some .directory := by
  rw [locate_eq d (ne_empty_of_locate hlocate)] at hlocate
  refine h.of_walk ?_ hlocate hp
  rw [origin]
  split <;> simp

/-- Something may be put into a directory, where no directory is. -/
theorem Rooted.set (h : d.Rooted) (hp : d.node? p ≠ some .directory)
    (hparent : ∀ q name, p = q ++ [name] → d.node? q = some .directory) (n : DiskNode) :
    (d.set p n).Rooted := by
  intro q name m hm
  have hdir : d.node? q = some .directory := by
    rw [node?_set hp] at hm
    split at hm
    · next heq => exact hparent q name heq.symm
    · exact h q name m hm
  have hne : q ≠ p := by
    rintro rfl
    exact hp hdir
  rw [node?_set hp, if_neg hne, hdir]

theorem Rooted.makeDirectory (h : d.Rooted) (hmade : d.makeDirectory path = .ok u) : u.Rooted := by
  rw [Disk.makeDirectory] at hmade
  split at hmade
  · next p slash hlocate =>
    have hnone : d.node? p = none := (locate_spec hlocate).2
    obtain rfl := Except.ok.inj hmade
    exact h.set (p := p) (by simp [hnone]) (fun q name hq => h.of_locate hlocate hq) _
  · cases hmade
  · cases hmade

theorem Rooted.prepared (h : d.Rooted) (path : String) : (d.prepared path).1.Rooted := by
  rw [Disk.prepared]
  split
  · exact h
  · next dir _ =>
    exact makeDirectoriesWithin_induction (dir.length + 1)
      (fun q u v _ hu hmade => hu.makeDirectory hmade) h

theorem Rooted.writeText (h : d.Rooted) (hwrite : d.writeText path text = .ok u) : u.Rooted := by
  obtain ⟨p, hopen, rfl⟩ := writeText_eq_ok hwrite
  refine h.set hopen.ne_directory (fun q name hp => ?_) _
  rcases hopen with ⟨c, hlocate⟩ | hlocate <;> exact h.of_locate hlocate hp

/-- **Saving keeps a disk rooted.** -/
theorem Rooted.save (h : d.Rooted) (path text : String) : (d.save path text).1.Rooted := by
  rcases save_cases d path text with ⟨hdisk, -⟩ | ⟨hwrite, -⟩
  · exact hdisk ▸ h.prepared path
  · exact (h.prepared path).writeText hwrite

end Disk

end Storefront
