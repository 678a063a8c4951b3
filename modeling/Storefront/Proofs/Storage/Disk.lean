import Storefront.Proofs.Lookup
import Storefront.Proofs.Storage.Path
import Storefront.Storage.Disk
/-!
# Storage — walks over a disk

A path leads to one place of a disk, whatever stands there. A walk along
it reads the disk only at the places it comes through, so two disks that
agree there are walked alike. Making the directories of a path adds
directories and nothing else (`Grows`), so far as it gets: whatever was
there before stays.
-/

namespace Storefront

open Storefront.Path (components parts pieceComponents)

namespace Disk

variable {d u v : Disk} {path text : String} {pieces : List String} {dir p q : Place}
variable {cs : List Component} {n : DiskNode} {spot : Spot}

/-! ## Where a path leads -/

/-- The directory that a component leads to. -/
def advance (dir : Place) : Component → Place
  | .root => []
  | .here => dir
  | .up => dir.dropLast
  | .name text => dir ++ [text]

/-- **The place that components lead to** from the current directory. -/
def placeOf (d : Disk) (cs : List Component) : Place := cs.foldl advance d.current

/-- The place that a path starts at. -/
def origin (d : Disk) (path : String) : Place := if (parts path).1 = "/" then [] else d.current

/-- **A path is walked from its origin**, piece by piece. -/
theorem locate_eq (d : Disk) (h : path ≠ "") :
    d.locate path = d.walk (d.origin path) (parts path).2 := by
  have hempty : path.toList ≠ [] := by simpa using h
  rcases Path.parts_cases path with ⟨rest, hpath, hparts⟩ | ⟨hpath, hparts⟩ |
      ⟨rest, hpath, hparts⟩ | ⟨hslash, -, -, hparts⟩
  · rw [locate, origin, hparts, hpath]
    rfl
  · rw [locate, origin, hparts, hpath]
    rfl
  · have hpieces : Path.piecesOf ('.' :: '/' :: rest) = "." :: Path.piecesOf rest := by
      simp [Path.piecesOf, List.splitOn_cons_eq_if_modifyHead]
    rw [locate, origin, hparts, hpath]
    change d.walk d.current (Path.piecesOf ('.' :: '/' :: rest)) = _
    rw [hpieces]
    rfl
  · rw [locate, origin, hparts]
    split
    · next heq => exact absurd heq hempty
    · next heq => exact absurd heq (hslash _)
    · rfl

theorem placeOf_components (d : Disk) (path : String) :
    d.placeOf (components path) =
      (pieceComponents (parts path).2).foldl advance (d.origin path) := by
  rw [placeOf, Path.components_eq, List.foldl_append, origin]
  rcases (Path.apart_parts path).start_eq with hstart | hstart | hstart <;> rw [hstart] <;> rfl

/-- A piece that is no filler is a component. -/
theorem pieceComponents_cons {piece : String} (h : ¬ Path.isFiller piece = true) :
    pieceComponents (piece :: pieces) = Path.pieceComponent piece :: pieceComponents pieces := by
  simp [pieceComponents, h]

theorem pieceComponents_cons_filler {piece : String} (h : Path.isFiller piece = true) :
    pieceComponents (piece :: pieces) = pieceComponents pieces := by
  simp [pieceComponents, h]

/-- Two points lead up. -/
theorem foldl_advance_up {piece : String} (hreal : ¬ Path.isFiller piece = true)
    (hup : (piece == "..") = true) :
    (pieceComponents (piece :: pieces)).foldl advance dir =
      (pieceComponents pieces).foldl advance dir.dropLast := by
  rw [pieceComponents_cons hreal, Path.pieceComponent, if_pos hup]
  rfl

/-- Any other piece leads down. -/
theorem foldl_advance_name {piece : String} (hreal : ¬ Path.isFiller piece = true)
    (hname : ¬ (piece == "..") = true) :
    (pieceComponents (piece :: pieces)).foldl advance dir =
      (pieceComponents pieces).foldl advance (dir ++ [piece]) := by
  rw [pieceComponents_cons hreal, Path.pieceComponent, if_neg hname]
  rfl

theorem pieceComponents_of_all_empty (h : pieces.all (· == "") = true) :
    pieceComponents pieces = [] := by
  simp only [pieceComponents, List.map_eq_nil_iff, List.filter_eq_nil_iff]
  intro piece hpiece
  simp [Path.isFiller, List.all_eq_true.1 h piece hpiece]

/-- The place of a spot. -/
def spotPlace : Spot → Place
  | .directory p => p
  | .file p _ => p
  | .vacant p _ => p

/-- **A spot as the disk has it**: the file that the spot names, or
nothing where it names nothing. -/
def Confirms (d : Disk) : Spot → Prop
  | .directory _ => True
  | .file p c => d.node? p = some (.file c)
  | .vacant p _ => d.node? p = none

/-- **What a walk ends at**: the place that its pieces lead to, with what
the disk has there. -/
theorem walk_spec (h : d.walk dir pieces = .ok spot) :
    spotPlace spot = (pieceComponents pieces).foldl advance dir ∧ d.Confirms spot := by
  fun_induction walk d dir pieces with
  | case1 dir =>
    obtain rfl := Except.ok.inj h
    exact ⟨rfl, trivial⟩
  | case2 dir piece rest hfiller ih =>
    rw [pieceComponents_cons_filler hfiller]
    exact ih h
  | case3 dir piece rest hreal hup ih =>
    rw [foldl_advance_up hreal hup]
    exact ih h
  | case4 dir piece rest hreal hname next hnode ih =>
    rw [foldl_advance_name hreal hname]
    exact ih h
  | case5 dir piece rest hreal hname next c hnode hlast =>
    obtain rfl := Except.ok.inj h
    obtain rfl := List.isEmpty_iff.1 hlast
    rw [foldl_advance_name hreal hname]
    exact ⟨rfl, hnode⟩
  | case6 dir piece rest hreal hname next c hnode hlast => cases h
  | case7 dir piece rest hreal hname next hnode hrest =>
    obtain rfl := Except.ok.inj h
    rw [foldl_advance_name hreal hname, pieceComponents_of_all_empty hrest]
    exact ⟨rfl, hnode⟩
  | case8 dir piece rest hreal hname next hnode hrest => cases h

/-- Disks that agree on every place along the way are walked alike. -/
theorem walk_congr (hnodes : ∀ cs, cs ≠ [] → cs <+: pieceComponents pieces →
    d.node? (cs.foldl advance dir) = u.node? (cs.foldl advance dir)) :
    d.walk dir pieces = u.walk dir pieces := by
  -- the first component is a place along the way, and so are those behind it
  induction pieces generalizing dir with
  | nil => rfl
  | cons piece rest ih =>
    rw [walk, walk]
    by_cases hfiller : Path.isFiller piece = true
    · rw [if_pos hfiller, if_pos hfiller]
      exact ih (by rwa [pieceComponents_cons_filler hfiller] at hnodes)
    · rw [if_neg hfiller, if_neg hfiller]
      rw [pieceComponents_cons hfiller] at hnodes
      have htail : ∀ cs, cs ≠ [] → cs <+: pieceComponents rest →
          d.node? (cs.foldl advance (advance dir (Path.pieceComponent piece))) =
            u.node? (cs.foldl advance (advance dir (Path.pieceComponent piece))) :=
        fun cs _ hcs => hnodes (_ :: cs) (by simp) (List.cons_prefix_cons.2 ⟨rfl, hcs⟩)
      have hhead := hnodes [Path.pieceComponent piece] (by simp) (by simp)
      by_cases hup : (piece == "..") = true
      · rw [if_pos hup, if_pos hup]
        rw [Path.pieceComponent, if_pos hup] at htail
        exact ih htail
      · rw [if_neg hup, if_neg hup]
        rw [Path.pieceComponent, if_neg hup] at htail hhead
        have hhead : d.node? (dir ++ [piece]) = u.node? (dir ++ [piece]) := hhead
        dsimp only
        rw [← hhead]
        split
        · exact ih htail
        · rfl
        · rfl

theorem ne_empty_of_locate (h : d.locate path = .ok spot) : path ≠ "" := by
  rintro rfl
  simp [locate] at h

/-- **What a path leads to**: its place, with what the disk has there. -/
theorem locate_spec (h : d.locate path = .ok spot) :
    spotPlace spot = d.placeOf (components path) ∧ d.Confirms spot := by
  rw [locate_eq d (ne_empty_of_locate h)] at h
  rw [placeOf_components]
  exact walk_spec h

/-- Disks that agree along a path lead to the same. -/
theorem locate_congr (hcurrent : u.current = d.current)
    (hnodes : ∀ cs, cs <+: components path → d.node? (d.placeOf cs) = u.node? (d.placeOf cs)) :
    d.locate path = u.locate path := by
  rcases eq_or_ne path "" with rfl | hne
  · rfl
  · have horigin : u.origin path = d.origin path := by rw [origin, origin, hcurrent]
    rw [locate_eq d hne, locate_eq u hne, horigin]
    refine walk_congr fun cs _ hcs => ?_
    -- the same place, from the current directory
    have hplace : (d.placeOf (Path.startComponents (parts path).1 ++ cs)) =
        cs.foldl advance (d.origin path) := by
      rw [placeOf, List.foldl_append, origin]
      rcases (Path.apart_parts path).start_eq with hstart | hstart | hstart <;> rw [hstart] <;> rfl
    rw [← hplace]
    exact hnodes _ (by rw [Path.components_eq]; exact (List.prefix_append_right_inj _).2 hcs)

/-! ## What stands at a place -/

@[simp] theorem node?_current (d : Disk) : d.node? d.current = some .directory := by
  simp [node?]

@[simp] theorem node?_root (d : Disk) : d.node? [] = some .directory := by
  simp [node?]

/-- **A place that is set** has what it is set to, and every other place
what it had. -/
theorem node?_set (h : d.node? p ≠ some .directory) :
    (d.set p n).node? q = if q = p then some n else d.node? q := by
  have hroot : p ≠ [] := by
    rintro rfl
    simp at h
  have hcurrent : p ≠ d.current := by
    rintro rfl
    simp at h
  rw [node?, node?, set]
  dsimp only
  rw [lookup_replace]
  by_cases hq : q = p
  · simp [hq, hroot, hcurrent]
  · simp [hq]

/-! ## Making directories -/

/-- **A disk that grew** by directories at some places: each stands where
nothing stood, and all else is as it was. -/
structure Grows (d u : Disk) (places : Place → Prop) : Prop where
  current : u.current = d.current
  node : ∀ p, u.node? p = d.node? p ∨
    d.node? p = none ∧ u.node? p = some .directory ∧ places p

namespace Grows

variable {S T : Place → Prop}

theorem refl (d : Disk) (S : Place → Prop) : d.Grows d S := ⟨rfl, fun _ => .inl rfl⟩

theorem mono (h : d.Grows u S) (hST : ∀ p, S p → T p) : d.Grows u T :=
  ⟨h.current, fun p => (h.node p).imp_right fun ⟨hnone, hdir, hp⟩ => ⟨hnone, hdir, hST p hp⟩⟩

theorem trans (h : d.Grows u S) (h' : u.Grows v S) : d.Grows v S := by
  refine ⟨h'.current.trans h.current, fun p => ?_⟩
  rcases h'.node p with heq | ⟨hnone, hdir, hp⟩
  · rw [heq]
    exact h.node p
  · rcases h.node p with heq | ⟨-, hdir', -⟩
    · exact .inr ⟨heq ▸ hnone, hdir, hp⟩
    · exact absurd (hdir'.symm.trans hnone) (Option.some_ne_none _)

/-- What stood somewhere still stands there. -/
theorem node_eq_some (h : d.Grows u S) (hp : d.node? p = some n) : u.node? p = some n := by
  rcases h.node p with heq | ⟨hnone, -⟩
  · rw [heq, hp]
  · exact absurd (hp.symm.trans hnone) (Option.some_ne_none _)

theorem placeOf_eq (h : d.Grows u S) (cs : List Component) : u.placeOf cs = d.placeOf cs := by
  rw [placeOf, placeOf, h.current]

end Grows

/-- A directory is made where nothing stands. -/
theorem makeDirectory_eq_ok (h : d.makeDirectory path = .ok u) :
    d.node? (d.placeOf (components path)) = none ∧
      u = d.set (d.placeOf (components path)) .directory := by
  rw [makeDirectory] at h
  split at h
  · next p slash hlocate =>
    obtain ⟨hplace, hnone⟩ := locate_spec hlocate
    rw [← hplace]
    exact ⟨hnone, (Except.ok.inj h).symm⟩
  · cases h
  · cases h

theorem grows_of_makeDirectory (h : d.makeDirectory path = .ok u) :
    d.Grows u fun p => ∃ cs ∈ Path.lineage (components path), p = d.placeOf cs := by
  obtain ⟨hnone, rfl⟩ := makeDirectory_eq_ok h
  -- the current directory is there, so the path is not without components
  have hne : components path ≠ [] := by
    intro hnil
    rw [hnil] at hnone
    exact absurd (d.node?_current.symm.trans hnone) (Option.some_ne_none _)
  refine ⟨rfl, fun p => ?_⟩
  rw [node?_set (by simp [hnone])]
  split
  · next hp => exact .inr ⟨hp ▸ hnone, rfl, _, Path.mem_lineage.2 ⟨hne, List.prefix_rfl⟩, hp⟩
  · exact .inl rfl

/-- **Making directories is making some at paths in front of a path**, one
after another: what each of them keeps, all of them keep, whether they
succeed or fail. By induction on the paths above. -/
theorem makeDirectoriesWithin_induction {P : Disk → Prop} (fuel : Nat)
    (hmake : ∀ q d u, components q <+: components path → P d → d.makeDirectory q = .ok u → P u)
    (hd : P d) : P (makeDirectoriesWithin fuel d path).1 := by
  induction fuel generalizing d path with
  | zero => exact hd
  | succ fuel ih =>
    rw [makeDirectoriesWithin]
    dsimp only
    split
    · exact hd
    · split
      · next u hmade => exact hmake path d u List.prefix_rfl hd hmade
      · split
        · exact hd
        · next dir hparent =>
          obtain ⟨⟨c, -, hpath⟩, -⟩ := Path.components_of_parent?_eq_some hparent
          have hfront : components dir <+: components path := hpath ▸ List.prefix_append _ _
          have habove : P (makeDirectoriesWithin fuel d dir).1 :=
            ih (fun q d u hq => hmake q d u (hq.trans hfront)) hd
          split
          · next u e hrest =>
            rw [hrest] at habove
            exact habove
          · next u hrest =>
            rw [hrest] at habove
            split
            · next v hmade => exact hmake path u v List.prefix_rfl habove hmade
            · split <;> exact habove
      · split <;> exact hd

/-- **Making directories adds places of the lineage** and nothing else. -/
theorem grows_makeDirectories (d : Disk) (path : String) :
    d.Grows (d.makeDirectories path).1
      fun p => ∃ cs ∈ Path.lineage (components path), p = d.placeOf cs := by
  refine makeDirectoriesWithin_induction (P := fun u => d.Grows u _) (path.length + 1)
    (fun q u v hfront hgrows hmade => ?_) (.refl d _)
  refine hgrows.trans ((grows_of_makeDirectory hmade).mono ?_)
  rintro p ⟨cs, hcs, rfl⟩
  obtain ⟨hne, hcs⟩ := Path.mem_lineage.1 hcs
  exact ⟨cs, Path.mem_lineage.2 ⟨hne, hcs.trans hfront⟩, hgrows.placeOf_eq cs⟩

end Disk

end Storefront
