import Storefront.Proofs.CommandLine.Beside
/-!
# Command lines — words for the presentation

`Reworded` relates command lines that differ in words for the presentation,
wherever these stand. Such words are passed over (`scan_presents`), so the
lines are read side by side, whole lines by induction and inner commands
likewise. They amount to the same request with the same file of settings
(`parse_reworded`).
-/

namespace Storefront

namespace CommandLine

/-- **Words for the presentation**: short options, which may be written
together, a long option, or a format behind one. -/
inductive Presents : List String → Prop
  | shorts {cs : List Char} : cs ≠ [] → (∀ ch ∈ cs, ch ∈ ['q', 'v']) →
      Presents [String.ofList ('-' :: cs)]
  | long {name : String} : name ∈ ["quiet", "verbose", "no-color"] → Presents ["--" ++ name]
  | format (f : OutputFormat) : Presents ["--output-format", f.name]
  | assigned (f : OutputFormat) : Presents ["--output-format=" ++ f.name]

/-- **The same command line** up to words for the presentation, which may
stand anywhere in front of two hyphens. -/
inductive Reworded : List String → List String → Prop
  | same (words : List String) : Reworded words words
  | word {word : String} {words words' : List String} : word ≠ "--" → Reworded words words' →
      Reworded (word :: words) (word :: words')
  | left {flag words words' : List String} : Presents flag → Reworded words words' →
      Reworded (flag ++ words) words'
  | right {flag words words' : List String} : Presents flag → Reworded words words' →
      Reworded words (flag ++ words')

open Progress (settle_eq_ok apply_eq_ok)

variable {c s : Command} {p q p' q' : Progress} {a : Argument} {word id : String}
variable {values words words' : List String} {env : List (String × String)} {g g' k : Givens}

/-! ## Words that only one of the lines has -/

/-- **One line is ahead** by words that leave the values as they are, once
what was pending took effect. -/
theorem Beside.ahead {p₁ : Progress} (h : Beside p q) (hsettle : p.settle = .ok p₁)
    (hoperands : p'.operands = p₁.operands) (honly : p'.onlyOperands = p₁.onlyOperands)
    (hawait : p'.awaiting = false)
    (hsettled : ∀ k, Progress.settled p'.givens p'.pending = .ok k → k.Agree p₁.givens) :
    Beside p' q := by
  have hwait := h.awaiting_of_settle hsettle
  obtain ⟨hp, hp₁⟩ := settle_eq_ok hsettle
  refine ⟨?_, ?_, ?_, fun hp' => ?_, fun _ k k' hk hk' => ?_⟩
  · rw [hoperands, hp₁]
    exact h.operands
  · rw [honly, hp₁]
    exact h.onlyOperands
  · rw [hawait, ← h.awaiting, hwait]
  · exact absurd (hawait.symm.trans hp') Bool.false_ne_true
  · exact (hsettled k hk).trans (h.settled hwait _ _ hp hk')

/-- An option for the presentation takes effect in one line. -/
theorem Beside.react_left (h : Beside p q) (hid : a.id ∈ presentationIds)
    (hp : p.react a values = .ok p') : Beside p' q := by
  obtain ⟨p₁, hsettle, hp⟩ := bind_eq_ok_iff.1 hp
  obtain ⟨p₂, happly, hp⟩ := bind_eq_ok_iff.1 hp
  obtain ⟨vs, -, rfl⟩ := apply_eq_ok happly
  obtain rfl := Except.ok.inj hp
  have hpending : p₁.pending = none := by rw [(settle_eq_ok hsettle).2]
  refine h.ahead hsettle rfl rfl rfl fun k hk => ?_
  simp only [hpending, Progress.settled] at hk
  exact Except.ok.inj hk ▸ Givens.agree_put hid p₁.givens vs

/-- An option for the presentation takes the next word in one line. -/
theorem Beside.takeValue_left (h : Beside p q) (hid : a.id ∈ presentationIds)
    (hp : p.takeValue a none = .ok p') (word : String) :
    p'.awaiting = true ∧ Beside (p'.giveValue word) q := by
  obtain ⟨p₁, hsettle, hp⟩ := bind_eq_ok_iff.1 hp
  obtain rfl := Except.ok.inj hp
  refine ⟨rfl, h.ahead hsettle rfl rfl rfl fun k hk => ?_⟩
  simp only [Progress.giveValue, Option.map_some, Progress.settled] at hk
  cases heffect : Progress.effect a (p₁.givens.lookup a.id) ([] ++ [word]) with
  | error e => simp only [heffect, Except.map, reduceCtorEq] at hk
  | ok vs =>
    simp only [heffect, Except.map, Except.ok.injEq] at hk
    exact hk ▸ Givens.agree_put hid p₁.givens vs

/-! ## Commands that know the options -/

/-- An option for the presentation, with or without a value. -/
def Argument.presents (a : Argument) (withValue : Bool) : Bool :=
  presentationIds.contains a.id && a.action.takesValue == withValue

/-- **A command that knows the options for the presentation**, and whose
inner commands have no names like options. -/
def Command.presents (c : Command) : Bool :=
  ['q', 'v'].all (fun ch => (c.findShort? ch).any (·.presents false)) &&
    ["quiet", "verbose", "no-color"].all (fun name => (c.findLong? name).any (·.presents false)) &&
    (c.findLong? "output-format").any (·.presents true) &&
    c.commands.all fun s => (s.name :: s.aliases).all fun name => name.toList.head? != some '-'

/-- The commands of the program, as they are matched. -/
def reached : List Command :=
  program :: program.commands.map (·.inherit program) ++
    configCommand.commands.map (·.inherit (configCommand.inherit program))

/-- **All commands of the program know the options.** -/
theorem presents_of_mem_reached (h : c ∈ reached) : c.presents = true := by
  have hall : reached.all Command.presents = true := by decide +kernel
  exact List.all_eq_true.1 hall c h

theorem inherit_mem_reached (h : c ∈ reached) (hs : s ∈ c.commands) : s.inherit c ∈ reached := by
  rcases List.mem_append.1 h with hfront | hback
  · rcases List.mem_cons.1 hfront with rfl | hinner
    · exact List.mem_append_left _ (List.mem_cons_of_mem _ (List.mem_map_of_mem hs))
    · obtain ⟨t, ht, rfl⟩ := List.mem_map.1 hinner
      -- of the program's commands only the one about settings has inner commands
      have hleaf : t = configCommand ∨ t.commands = [] := by
        simp only [program, List.mem_cons, List.not_mem_nil, or_false] at ht
        rcases ht with rfl | rfl | rfl | rfl | rfl | rfl | rfl | rfl <;>
          first | exact .inl rfl | exact .inr rfl
      rcases hleaf with rfl | hnone
      · exact List.mem_append_right _ (List.mem_map_of_mem hs)
      · exact absurd hs (by simp [Command.inherit, hnone])
  · obtain ⟨t, ht, rfl⟩ := List.mem_map.1 hback
    have hnone : t.commands = [] := by
      simp only [configCommand, List.mem_cons, List.not_mem_nil, or_false] at ht
      rcases ht with rfl | rfl | rfl <;> rfl
    exact absurd hs (by simp [Command.inherit, hnone])

/-! ## Whole lines -/

section Presents

variable {flag rest : List String} {res : Progress × Option (Command × List String)}
variable {ch : Char} {cs : List Char} {name : String}

theorem findShort?_of_presents (h : c.presents = true) (hch : ch ∈ ['q', 'v']) :
    ∃ a, c.findShort? ch = some a ∧ a.id ∈ presentationIds ∧ a.action.takesValue = false := by
  simp only [Command.presents, Bool.and_eq_true, List.all_eq_true] at h
  obtain ⟨a, hfind, ha⟩ := (Option.any_eq_true _ _).1 (h.1.1.1 ch hch)
  exact ⟨a, hfind, by simpa [Argument.presents] using ha⟩

theorem findLong?_of_presents (h : c.presents = true)
    (hname : name ∈ ["quiet", "verbose", "no-color"]) :
    ∃ a, c.findLong? name = some a ∧ a.id ∈ presentationIds ∧ a.action.takesValue = false := by
  simp only [Command.presents, Bool.and_eq_true, List.all_eq_true] at h
  obtain ⟨a, hfind, ha⟩ := (Option.any_eq_true _ _).1 (h.1.1.2 name hname)
  exact ⟨a, hfind, by simpa [Argument.presents] using ha⟩

theorem findFormat_of_presents (h : c.presents = true) :
    ∃ a, c.findLong? "output-format" = some a ∧ a.id ∈ presentationIds ∧
      a.action.takesValue = true := by
  simp only [Command.presents, Bool.and_eq_true] at h
  obtain ⟨a, hfind, ha⟩ := (Option.any_eq_true _ _).1 h.1.2
  exact ⟨a, hfind, by simpa [Argument.presents] using ha⟩

/-- A word that looks like an option names no inner command. -/
theorem entered?_of_presents (h : c.presents = true) (hword : word.toList.head? = some '-') :
    entered? c p word = none := by
  simp only [Command.presents, Bool.and_eq_true, List.all_eq_true] at h
  have hne : ∀ name : String, (name.toList.head? != some '-') = true → name ≠ word := by
    rintro name hname rfl
    simp [hword] at hname
  have hfind : c.find? word = none := by
    rw [Command.find?]
    split
    · rfl
    · rw [if_neg (by simpa using (hne Command.help.name (by decide)).symm)]
      refine List.find?_eq_none.2 fun s hs hnamed => ?_
      have hnames := fun n hn => hne n (h.2 s hs n hn)
      rcases Bool.or_eq_true_iff.1 hnamed with hname | halias
      · exact hnames s.name List.mem_cons_self (by simpa using hname)
      · exact hnames word (List.mem_cons_of_mem _ (by simpa using halias)) rfl
  rw [entered?, hfind, ite_self]

theorem scan_cons (hentered : entered? c p word = none)
    (hscan : scan c p (word :: rest) = .ok res) :
    ∃ p', takeWord c p word = .ok p' ∧ scan c p' rest = .ok res := by
  rw [scan, hentered] at hscan
  exact bind_eq_ok_iff.1 hscan

/-- A number starts with a digit. -/
theorem isNumber_cons (hch : ch ∈ ['q', 'v']) : isNumber (ch :: cs) = false := by
  rcases List.mem_cons.1 hch with rfl | hch
  · simp [isNumber]
  · obtain rfl := List.mem_singleton.1 hch
    simp [isNumber]

theorem takeShorts_left (hc : c.presents = true) (h : Beside p q)
    (hcs : ∀ ch ∈ cs, ch ∈ ['q', 'v']) (hp : takeShorts c p cs = .ok p') : Beside p' q := by
  induction cs generalizing p with
  | nil => exact Except.ok.inj hp ▸ h
  | cons ch cs ih =>
    obtain ⟨hch, hcs⟩ := List.forall_mem_cons.1 hcs
    obtain ⟨a, hfind, hid, ha⟩ := findShort?_of_presents hc hch
    rw [takeShorts] at hp
    simp only [hfind, ha, if_neg Bool.false_ne_true] at hp
    obtain ⟨p₁, hreact, hp⟩ := bind_eq_ok_iff.1 hp
    exact ih (h.react_left hid hreact) hcs hp

theorem splitLong_of_notMem (h : '=' ∉ cs) : splitLong cs = (String.ofList cs, none) := by
  have hne : ∀ ch ∈ cs, (ch != '=') = true := fun ch hch =>
    bne_iff_ne.2 fun heq => h (heq ▸ hch)
  have htake : cs.takeWhile (· != '=') = cs := by
    simpa using @List.takeWhile_append_of_pos _ _ cs [] hne
  simp [splitLong, htake]

theorem splitLong_append {value : List Char} (h : '=' ∉ cs) :
    splitLong (cs ++ '=' :: value) = (String.ofList cs, some (String.ofList value)) := by
  have hne : ∀ ch ∈ cs, (ch != '=') = true := fun ch hch =>
    bne_iff_ne.2 fun heq => h (heq ▸ hch)
  have htake : (cs ++ '=' :: value).takeWhile (· != '=') = cs := by
    rw [List.takeWhile_append_of_pos hne]
    simp
  simp [splitLong, htake]

theorem takeLong_flag {a : Argument} (hsplit : splitLong cs = (name, none))
    (hfind : c.findLong? name = some a) (ha : a.action.takesValue = false) :
    takeLong c p cs = p.react a [] := by
  simp [takeLong, hsplit, hfind, ha]

theorem takeLong_value {a : Argument} {value : Option String}
    (hsplit : splitLong cs = (name, value)) (hfind : c.findLong? name = some a)
    (ha : a.action.takesValue = true) :
    takeLong c p cs = p.takeValue a value := by
  simp [takeLong, hsplit, hfind, ha]

/-- A word that starts with two hyphens is read as a long option. -/
theorem scan_long (hc : c.presents = true) (honly : p.onlyOperands = false)
    (hname : name.toList ≠ []) (hscan : scan c p (("--" ++ name) :: rest) = .ok res) :
    ∃ p', takeLong c p name.toList = .ok p' ∧ scan c p' rest = .ok res := by
  have hhyphen : ("--" ++ name).toList.head? = some '-' := by
    rw [String.toList_append]
    rfl
  obtain ⟨p', htake, hscan⟩ := scan_cons (entered?_of_presents hc hhyphen) hscan
  exact ⟨p', takeWord_append honly hname ▸ htake, hscan⟩

/-- **Words for the presentation are passed over** in one of the lines. -/
theorem scan_presents (hc : c.presents = true) (hflag : Presents flag) (h : Beside p q)
    (honly : p.onlyOperands = false) (hscan : scan c p (flag ++ rest) = .ok res) :
    ∃ p', Beside p' q ∧ p'.onlyOperands = false ∧ scan c p' rest = .ok res := by
  have hformat : "output-format".toList ≠ [] ∧ '=' ∉ "output-format".toList := by decide
  cases hflag with
  | @shorts cs hne hcs =>
    cases cs with
    | nil => exact absurd rfl hne
    | cons ch cs =>
      have hch := hcs ch List.mem_cons_self
      have hword : (String.ofList ('-' :: ch :: cs)).toList = '-' :: ch :: cs :=
        String.toList_ofList
      obtain ⟨p', htake, hscan⟩ := scan_cons (entered?_of_presents hc (by rw [hword]; rfl)) hscan
      have hhyphen : ch ≠ '-' := by
        rintro rfl
        revert hch
        decide
      rw [takeWord_shorts honly hword hhyphen, isNumber_cons hch, Bool.and_false,
        if_neg Bool.false_ne_true] at htake
      exact ⟨p', takeShorts_left hc h hcs htake, (only_takeShorts htake).trans honly, hscan⟩
  | @long name hname =>
    obtain ⟨a, hfind, hid, ha⟩ := findLong?_of_presents hc hname
    have hnames : ∀ n ∈ ["quiet", "verbose", "no-color"], n.toList ≠ [] ∧ '=' ∉ n.toList := by
      decide
    obtain ⟨hne, hequals⟩ := hnames name hname
    obtain ⟨p', htake, hscan⟩ := scan_long hc honly hne hscan
    have hsplit := splitLong_of_notMem hequals
    rw [String.ofList_toList] at hsplit
    rw [takeLong_flag hsplit hfind ha] at htake
    exact ⟨p', h.react_left hid htake, (only_react htake).trans honly, hscan⟩
  | format f =>
    obtain ⟨a, hfind, hid, ha⟩ := findFormat_of_presents hc
    obtain ⟨p₁, htake, hscan⟩ := scan_long hc honly hformat.1 hscan
    have hsplit := splitLong_of_notMem hformat.2
    rw [String.ofList_toList] at hsplit
    rw [takeLong_value hsplit hfind ha] at htake
    have honly₁ : p₁.onlyOperands = false := (only_takeValue htake).trans honly
    obtain ⟨hawait, hbeside⟩ := h.takeValue_left hid htake f.name
    have hentered : entered? c p₁ f.name = none := by simp [entered?, hawait]
    obtain ⟨p₂, htake, hscan⟩ := scan_cons hentered hscan
    have hname : f.name.toList.head? ≠ some '-' := by cases f <;> decide
    have hplain : takeWord c p₁ f.name = .ok (p₁.giveValue f.name) := by
      rw [takeWord_plain honly₁ hname, takePlain, if_pos hawait]
    obtain rfl := Except.ok.inj (hplain.symm.trans htake)
    exact ⟨_, hbeside, honly₁, hscan⟩
  | assigned f =>
    obtain ⟨a, hfind, hid, ha⟩ := findFormat_of_presents hc
    have hchars : ("output-format=" ++ f.name).toList =
        "output-format".toList ++ '=' :: f.name.toList := by
      rw [String.toList_append]
      rfl
    have hne : ("output-format=" ++ f.name).toList ≠ [] := by
      rw [hchars]
      exact List.append_ne_nil_of_left_ne_nil hformat.1 _
    have hword : "--output-format=" ++ f.name = "--" ++ ("output-format=" ++ f.name) := by
      rw [← String.append_assoc]
      rfl
    rw [hword] at hscan
    obtain ⟨p', htake, hscan⟩ := scan_long hc honly hne hscan
    have hsplit := @splitLong_append _ f.name.toList hformat.2
    rw [String.ofList_toList, String.ofList_toList] at hsplit
    rw [hchars, takeLong_value hsplit hfind ha] at htake
    exact ⟨p', h.react_left hid htake, (only_react htake).trans honly, hscan⟩

end Presents

/-! ## Reworded lines -/

/-- What two lines have named: nothing, or the same inner command with rests
that are reworded. -/
inductive Named : Option (Command × List String) → Option (Command × List String) → Prop
  | none : Named none none
  | some {s : Command} {rest rest' : List String} : Reworded rest rest' →
      Named (some (s, rest)) (some (s, rest'))

variable {named named' : Option (Command × List String)}

/-- **The same first word** is taken in both lines, or names an inner command
in both. -/
theorem scan_word {rest rest' : List String} (h : Beside p q)
    (hp : scan c p (word :: rest) = .ok (p', named))
    (hq : scan c q (word :: rest') = .ok (q', named')) :
    (∃ p₁ q₁, takeWord c p word = .ok p₁ ∧ takeWord c q word = .ok q₁ ∧
        scan c p₁ rest = .ok (p', named) ∧ scan c q₁ rest' = .ok (q', named')) ∨
      ∃ s, p' = p ∧ q' = q ∧ named = some (s, rest) ∧ named' = some (s, rest') := by
  have hentered : entered? c q word = entered? c p word := by
    rw [entered?, entered?, h.onlyOperands, h.awaiting]
  cases hinner : entered? c p word with
  | some inner =>
    rw [scan] at hp hq
    simp only [hentered, hinner] at hp hq
    split at hp
    · cases hp
    · next hhelp =>
      rw [if_neg hhelp] at hq
      obtain ⟨rfl, rfl⟩ := Prod.mk.inj (Except.ok.inj hp)
      obtain ⟨rfl, rfl⟩ := Prod.mk.inj (Except.ok.inj hq)
      exact .inr ⟨inner, rfl, rfl, rfl, rfl⟩
  | none =>
    obtain ⟨p₁, htake, hp⟩ := scan_cons hinner hp
    obtain ⟨q₁, htake', hq⟩ := scan_cons (hentered.trans hinner) hq
    exact .inl ⟨p₁, q₁, htake, htake', hp, hq⟩

/-- **The same words** are read alike, by induction on them. -/
theorem beside_scan_same (h : Beside p q) (hp : scan c p words = .ok (p', named))
    (hq : scan c q words = .ok (q', named')) : Beside p' q' ∧ Named named named' := by
  induction words generalizing p q with
  | nil =>
    obtain ⟨rfl, rfl⟩ := Prod.mk.inj (Except.ok.inj hp)
    obtain ⟨rfl, rfl⟩ := Prod.mk.inj (Except.ok.inj hq)
    exact ⟨h, .none⟩
  | cons word rest ih =>
    rcases scan_word h hp hq with ⟨p₁, q₁, htake, htake', hp, hq⟩ | ⟨s, rfl, rfl, rfl, rfl⟩
    · exact ih (beside_takeWord h htake htake') hp hq
    · exact ⟨h, .some (.same rest)⟩

/-- **Reworded lines** are read alike, by induction on how they differ. -/
theorem beside_scan (hc : c.presents = true) (hwords : Reworded words words') (h : Beside p q)
    (honly : p.onlyOperands = false) (hp : scan c p words = .ok (p', named))
    (hq : scan c q words' = .ok (q', named')) : Beside p' q' ∧ Named named named' := by
  induction hwords generalizing p q with
  | same words => exact beside_scan_same h hp hq
  | left hflag _ ih =>
    obtain ⟨p₁, hbeside, honly', hscan⟩ := scan_presents hc hflag h honly hp
    exact ih hbeside honly' hscan hq
  | right hflag _ ih =>
    obtain ⟨q₁, hbeside, -, hscan⟩ := scan_presents hc hflag h.symm (h.onlyOperands ▸ honly) hq
    exact ih hbeside.symm honly hp hscan
  | @word word rest rest' hword hrest ih =>
    rcases scan_word h hp hq with ⟨p₁, q₁, htake, htake', hp, hq⟩ | ⟨s, rfl, rfl, rfl, rfl⟩
    · exact ih (beside_takeWord h htake htake') (only_takeWord honly hword htake) hp hq
    · exact ⟨h, .some hrest⟩

/-! ## What the lines amount to -/

namespace Matches

/-- **Matches that are alike**: the same commands with values that agree. -/
inductive Like : Matches → Matches → Prop
  | leaf {name : String} {g g' : Givens} : g.Agree g' → Like ⟨name, g, none⟩ ⟨name, g', none⟩
  | inner {name : String} {g g' : Givens} {m m' : Matches} : g.Agree g' → Like m m' →
      Like ⟨name, g, some m⟩ ⟨name, g', some m'⟩

variable {m m' : Matches}

theorem Like.path_eq (h : Like m m') : m.path = m'.path := by
  induction h with
  | leaf => rfl
  | inner _ _ ih => rw [path, path, ih]

theorem Like.innermost (h : Like m m') : m.innermost.givens.Agree m'.innermost.givens := by
  induction h with
  | leaf hg => exact hg
  | inner _ _ ih => exact ih

/-- A shared option that is not for the presentation has one value. -/
theorem Like.shared?_eq (h : Like m m') (hid : id ∉ presentationIds) :
    shared? id m = shared? id m' := by
  induction h with
  | leaf hg => exact hg id hid
  | inner hg _ ih => rw [shared?, shared?, hg id hid, ih]

/-- **Alike matches are the same request.** -/
theorem Like.request_eq (h : Like m m') : m.request = m'.request := by
  have hget : ∀ id ∉ presentationIds, m.innermost.get? id = m'.innermost.get? id := h.innermost
  have hvalue : ∀ id ∉ presentationIds, m.innermost.value? id = m'.innermost.value? id :=
    fun id hid => by rw [value?, value?, hget id hid]
  have hflag : ∀ id ∉ presentationIds, m.innermost.flag id = m'.innermost.flag id :=
    fun id hid => by rw [flag, flag, hget id hid]
  have hvalues : ∀ id ∉ presentationIds, m.innermost.values id = m'.innermost.values id :=
    fun id hid => by rw [values, values, hget id hid]
  have hsource : m.innermost.catalogOptions = m'.innermost.catalogOptions := by
    rw [catalogOptions, catalogOptions, hvalue "catalog" (by decide), hflag "sample" (by decide)]
  have hgenerate : m.innermost.generateOptions = m'.innermost.generateOptions := by
    rw [generateOptions, generateOptions, hsource, hvalue "mode" (by decide),
      hvalues "select" (by decide), hvalues "exclude" (by decide), hvalue "quantity" (by decide),
      hvalue "output" (by decide), hflag "force" (by decide)]
  rw [request, request, h.path_eq]
  rw [hgenerate, hsource, hflag "strict" (by decide), hvalue "amount" (by decide),
    hvalue "kind" (by decide), hvalue "format" (by decide), hvalue "output" (by decide),
    hflag "force" (by decide), hvalue "key" (by decide), hvalue "shell" (by decide)]

end Matches

theorem fst_of_supplied? {x : String × Given} (h : supplied? env a = some x) : x.1 = a.id := by
  rw [supplied?] at h
  split at h
  · exact Option.some.inj h ▸ rfl
  · obtain ⟨v, -, rfl⟩ := Option.map_eq_some_iff.1 h
    rfl

/-- What is supplied for an argument without values does not depend on the
values of others. -/
theorem lookup_supplied (hid : g.lookup id = none) (as : List Argument) :
    ((as.filter fun a => (g.lookup a.id).isNone).filterMap (supplied? env)).lookup id =
      (as.filterMap (supplied? env)).lookup id := by
  induction as with
  | nil => rfl
  | cons a as ih =>
    have hskip : ∀ xs : Givens, a.id ≠ id →
        ((supplied? env a).toList ++ xs).lookup id = xs.lookup id := by
      intro xs hne
      cases hsupplied : supplied? env a with
      | none => rfl
      | some x =>
        obtain ⟨n, given⟩ := x
        obtain rfl : n = a.id := fst_of_supplied? hsupplied
        simp [List.lookup_cons, beq_false_of_ne hne.symm]
    have hcons : ∀ as : List Argument, (a :: as).filterMap (supplied? env) =
        (supplied? env a).toList ++ as.filterMap (supplied? env) := by
      intro as
      rw [List.filterMap_cons]
      cases supplied? env a <;> rfl
    by_cases hne : a.id = id
    · rw [List.filter_cons_of_pos (by simp [hne, hid]), hcons, hcons, List.lookup_append, ih,
        ← List.lookup_append]
    · rw [hcons, hskip _ hne, ← ih, List.filter_cons]
      split
      · rw [hcons, hskip _ hne]
      · rfl

theorem agree_supply (h : g.Agree g') (c : Command) (env : List (String × String)) :
    (supply c env g).Agree (supply c env g') := by
  intro id hid
  rw [supply, supply, List.lookup_append, List.lookup_append, h id hid]
  cases hid' : g'.lookup id with
  | some given => rfl
  | none => rw [lookup_supplied ((h id hid).trans hid'), lookup_supplied hid']

/-- **Reworded lines match alike**, by induction on the commands inside each
other. -/
theorem like_of_matchWithin {fuel fuel' : Nat} {m m' : Matches} (hc : c ∈ reached)
    (hwords : Reworded words words') (hm : matchWithin env fuel c words = .ok m)
    (hm' : matchWithin env fuel' c words' = .ok m') : m.Like m' := by
  induction fuel generalizing fuel' c words words' m m' with
  | zero => cases hm
  | succ fuel ih =>
    cases fuel' with
    | zero => cases hm'
    | succ fuel' =>
      obtain ⟨p, p', named, inner, hscan, hinner, hsettle, rfl⟩ := matchWithin_eq_ok hm
      obtain ⟨q, q', named', inner', hscan', hinner', hsettle', rfl⟩ := matchWithin_eq_ok hm'
      have hstart : Beside {} {} := Level.beside ⟨rfl, rfl, ⟨rfl, rfl⟩, ⟨rfl, rfl⟩, .refl _⟩
      obtain ⟨hbeside, hnamed⟩ :=
        beside_scan (presents_of_mem_reached hc) hwords hstart rfl hscan hscan'
      have hgivens := agree_supply (hbeside.settle hsettle hsettle').givens c env
      cases hnamed with
      | none =>
        obtain rfl := Except.ok.inj hinner
        obtain rfl := Except.ok.inj hinner'
        exact .leaf hgivens
      | @some s rest rest' hrest =>
        have hs : s ∈ c.commands := (checked_scan ⟨by simp, by simp⟩ hscan).2 _ rfl
        rw [innerWithin] at hinner hinner'
        cases hinside : matchWithin env fuel (s.inherit c) rest with
        | error e => simp [hinside, Except.map] at hinner
        | ok n =>
          cases hinside' : matchWithin env fuel' (s.inherit c) rest' with
          | error e => simp [hinside', Except.map] at hinner'
          | ok n' =>
            obtain rfl : some n = inner := by simpa [hinside, Except.map] using hinner
            obtain rfl : some n' = inner' := by simpa [hinside', Except.map] using hinner'
            exact .inner hgivens (ih (inherit_mem_reached hc hs) hrest hinside hinside')

/-- **Words for the presentation change neither the request nor the file of
settings**, wherever they stand. -/
theorem parse_reworded {i i' : Invocation} (hwords : Reworded words words')
    (h : parse env words = .ok i) (h' : parse env words' = .ok i') :
    i.request = i'.request ∧ i.options.config = i'.options.config := by
  obtain ⟨m, hm, hi⟩ := bind_eq_ok_iff.1 h
  obtain ⟨m', hm', hi'⟩ := bind_eq_ok_iff.1 h'
  obtain rfl := Except.ok.inj hi
  obtain rfl := Except.ok.inj hi'
  have hlike := like_of_matchWithin List.mem_cons_self hwords hm hm'
  have hconfig := hlike.shared?_eq (show "config" ∉ presentationIds by decide)
  exact ⟨hlike.request_eq, congrArg (·.bind fun given => given.values.head?) hconfig⟩

end CommandLine

end Storefront
