import Storefront.Proofs.Storage.Footprint
/-!
# Storage — the same file from the root

A path leads from the current directory. With the names of that directory
put in front it leads from the root, and to the same spot if the disk is
charted: everything stands in a directory, and the current one has names
that a walk goes down by (`locate_join`). A file that a path leads to is
still there on any disk that keeps everything (`readText_of_keeps`).
-/

namespace Storefront

namespace Path

variable {path : String} {names : List String}

/-- A piece that leads down from a directory, and to one place only. -/
def IsName (piece : String) : Prop :=
  '/' ∉ piece.toList ∧ isFiller piece = false ∧ (piece == "..") = false

instance (piece : String) : Decidable (IsName piece) :=
  inferInstanceAs (Decidable (_ ∧ _ ∧ _))

theorem IsName.ne_empty (h : IsName path) : path ≠ "" := by
  rintro rfl
  exact absurd h (by decide)

/-- The pieces of a path joined again. -/
theorem intercalate_piecesOf (path : String) : "/".intercalate (piecesOf path.toList) = path := by
  rw [← String.toList_inj, String.toList_intercalate, piecesOf, List.map_map]
  simp [Function.comp_def]

theorem endsWith_iff {front : String} : path.endsWith front = true ↔
    front.toList <:+ path.toList := by
  rw [String.endsWith_eq_endsWith_toSlice, String.Slice.endsWith_string_iff, String.copy_toSlice]

/-- What ends in a name does not end in a slash. -/
theorem not_endsWith_slash (hnames : ∀ name ∈ names, IsName name) (hne : names ≠ []) :
    ("/" ++ "/".intercalate names).endsWith "/" = false := by
  obtain ⟨front, name, rfl⟩ := (List.eq_nil_or_concat' names).resolve_left hne
  have hname : IsName name := hnames name (by simp)
  have hend : ∃ before, "/" ++ "/".intercalate (front ++ [name]) = before ++ name := by
    rcases eq_or_ne front [] with rfl | hfront
    · exact ⟨"/", by simp⟩
    · rw [String.intercalate_append_of_ne_nil hfront (by simp)]
      exact ⟨"/" ++ "/".intercalate front ++ "/", by simp [String.append_assoc]⟩
  obtain ⟨before, hend⟩ := hend
  rw [hend, Bool.eq_false_iff, Ne, endsWith_iff, String.toList_append]
  rintro ⟨rest, hrest⟩
  have hlast := congrArg List.getLast? hrest
  rw [List.getLast?_append_of_ne_nil _ (by simp),
    List.getLast?_append_of_ne_nil _ (by simpa using hname.ne_empty)] at hlast
  exact hname.1 (List.mem_of_getLast? hlast.symm)

/-- **A path behind a directory** that is given from the root. -/
theorem join_eq (hnames : ∀ name ∈ names, IsName name) (hrelative : path.startsWith "/" = false) :
    join ("/" ++ "/".intercalate names) path =
      "/" ++ "/".intercalate (names ++ piecesOf path.toList) := by
  rw [join, hrelative, if_neg Bool.false_ne_true]
  rcases eq_or_ne names [] with rfl | hne
  · have hslash : ("/" ++ "/".intercalate []).endsWith "/" = true := by decide +kernel
    rw [hslash, Bool.or_true, if_pos rfl, List.nil_append, intercalate_piecesOf,
      String.intercalate_nil, String.append_empty]
  · have hpieces : piecesOf path.toList ≠ [] := by simp [piecesOf, List.splitOn_ne_nil]
    rw [not_endsWith_slash hnames hne,
      String.intercalate_append_of_ne_nil hne hpieces, intercalate_piecesOf]
    simp [String.append_assoc]

end Path

namespace Disk

variable {d u : Disk} {path text : String} {pieces names : List String} {dir p q : Place}
variable {c : Content}

/-- **A disk with a current directory that is found from the root.** -/
structure Charted (d : Disk) : Prop where
  rooted : d.Rooted
  names : ∀ name ∈ d.current, Path.IsName name

theorem Rooted.of_isPrefix (h : d.Rooted) (hp : d.node? p = some .directory) (hq : q <+: p) :
    d.node? q = some .directory := by
  induction p using List.reverseRecOn with
  | nil => rwa [List.prefix_nil.1 hq]
  | append_singleton p name ih =>
    rcases List.prefix_concat_iff.1 hq with rfl | hfront
    · exact hp
    · exact ih (h p name _ hp) hfront

/-- **Names of directories are walked down.** -/
theorem walk_names (hnames : ∀ name ∈ names, Path.IsName name)
    (hdirs : ∀ front, front <+: names → d.node? (dir ++ front) = some .directory) :
    d.walk dir (names ++ pieces) = d.walk (dir ++ names) pieces := by
  induction names generalizing dir with
  | nil => simp
  | cons name names ih =>
    obtain ⟨-, hreal, hup⟩ := hnames name List.mem_cons_self
    have hnext : d.node? (dir ++ [name]) = some .directory := hdirs [name] (by simp)
    have hrest : d.walk (dir ++ [name]) (names ++ pieces) =
        d.walk (dir ++ [name] ++ names) pieces :=
      ih (fun n hn => hnames n (List.mem_cons_of_mem _ hn)) fun front hfront => by
        simpa using hdirs (name :: front) (List.cons_prefix_cons.2 ⟨rfl, hfront⟩)
    rw [List.cons_append, walk, hreal, hup, if_neg Bool.false_ne_true, if_neg Bool.false_ne_true]
    simp only [hnext, hrest]
    simp

theorem locate_root (d : Disk) (path : String) :
    d.locate ("/" ++ path) = d.walk [] (Path.piecesOf path.toList) := by
  rw [locate, String.toList_append]
  rfl

theorem locate_relative (d : Disk) (hne : path ≠ "") (hrelative : path.startsWith "/" = false) :
    d.locate path = d.walk d.current (Path.piecesOf path.toList) := by
  rw [locate]
  split
  · next heq => exact absurd (String.toList_eq_nil_iff.1 heq) hne
  · next rest heq =>
    rw [String.startsWith_string_eq_false_iff, heq] at hrelative
    exact absurd ⟨rest, rfl⟩ hrelative
  · rfl

/-- **A path leads to the same spot from the root.** -/
theorem Charted.locate_join (h : d.Charted) (hne : path ≠ "") :
    d.locate (Path.join ("/" ++ "/".intercalate d.current) path) = d.locate path := by
  cases hstart : path.startsWith "/" with
  | true => rw [Path.join, if_pos hstart]
  | false =>
    -- the names of the current directory are the first pieces, and they lead to it
    have hslash : ∀ piece ∈ d.current ++ Path.piecesOf path.toList, '/' ∉ piece.toList :=
      fun piece hpiece => (List.mem_append.1 hpiece).elim (fun hname => (h.names piece hname).1)
        Path.slash_not_mem_of_mem_piecesOf
    have hpieces : d.current ++ Path.piecesOf path.toList ≠ [] := by
      simp [Path.piecesOf, List.splitOn_ne_nil]
    have hdirs : ∀ front, front <+: d.current → d.node? ([] ++ front) = some .directory :=
      fun front hfront => h.rooted.of_isPrefix d.node?_current hfront
    rw [Path.join_eq h.names hstart, locate_root, Path.piecesOf_intercalate hpieces hslash,
      walk_names h.names hdirs, List.nil_append, locate_relative d hne hstart]

theorem Charted.save (h : d.Charted) (path text : String) : (d.save path text).1.Charted :=
  ⟨h.rooted.save path text, (footprint_save d path text).current ▸ h.names⟩

/-! ## What is kept -/

/-- **A disk that keeps everything** that another one has. -/
structure Keeps (u d : Disk) : Prop where
  current : u.current = d.current
  node : ∀ p n, d.node? p = some n → u.node? p = some n

/-- A walk that ends at a file still does where everything is kept. -/
theorem Keeps.walk (h : u.Keeps d) (hwalk : d.walk dir pieces = .ok (.file p c)) :
    u.walk dir pieces = .ok (.file p c) := by
  -- every place on the way to a file is there, so the other disk has it too
  fun_induction Disk.walk d dir pieces with
  | case1 dir => cases hwalk
  | case2 dir piece rest hfiller ih =>
    rw [Disk.walk, if_pos hfiller]
    exact ih hwalk
  | case3 dir piece rest hreal hup ih =>
    rw [Disk.walk, if_neg hreal, if_pos hup]
    exact ih hwalk
  | case4 dir piece rest hreal hname next hnode ih =>
    rw [Disk.walk, if_neg hreal, if_neg hname]
    simp only [h.node _ _ hnode, next] at ih ⊢
    exact ih hwalk
  | case5 dir piece rest hreal hname next c' hnode hlast =>
    rw [Disk.walk, if_neg hreal, if_neg hname]
    simp only [h.node _ _ hnode, next, if_pos hlast] at hwalk ⊢
    exact hwalk
  | case6 dir piece rest hreal hname next c' hnode hlast => cases hwalk
  | case7 dir piece rest hreal hname next hnode hrest => cases hwalk
  | case8 dir piece rest hreal hname next hnode hrest => cases hwalk

theorem exists_of_readText (h : d.readText path = .ok text) :
    ∃ p, d.locate path = .ok (.file p (.text text)) := by
  rw [readText, read] at h
  split at h
  · next s hread =>
    obtain rfl := Except.ok.inj h
    split at hread
    · next p c hlocate => exact ⟨p, Except.ok.inj hread ▸ hlocate⟩
    · cases hread
    · cases hread
    · cases hread
  · cases h
  · cases h

/-- **A text that is read is still read** where everything is kept. -/
theorem Keeps.readText (h : u.Keeps d) (hread : d.readText path = .ok text) :
    u.readText path = .ok text := by
  obtain ⟨p, hlocate⟩ := exists_of_readText hread
  have hne := ne_empty_of_locate hlocate
  have horigin : u.origin path = d.origin path := by rw [origin, origin, h.current]
  rw [locate_eq d hne] at hlocate
  rw [Disk.readText, read, locate_eq u hne, horigin, h.walk hlocate]

end Disk

end Storefront
