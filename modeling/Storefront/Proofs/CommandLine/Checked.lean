import Storefront.CommandLine.Interface
import Storefront.Proofs.Results
/-!
# Command lines — every value is checked

A value stands in the matches of a command only after an argument of the
command has accepted it, or because the environment or a fallback supplies
it. Each way to take a word keeps to that (`Progress.Checked`), so a whole
line does (`checked_scan`), and so do all the commands that it names
(`given_of_matchWithin`). What follows for the program is that a quantity
on the command line is never zero (`quantity_of_parse`).
-/

namespace Storefront

namespace CommandLine

variable {c s : Command} {p q : Progress} {a : Argument} {word : String}
variable {values words : List String} {env : List (String × String)}

/-- **A value that an action accepts**: one of its kind, if it takes values,
and else only the word for being given. -/
def Action.Accepts : Action → String → Prop
  | .single kind, v => kind.check v = .ok ()
  | .several kind, v => kind.check v = .ok ()
  | _, v => v = "true"

/-- A value that an argument of a command accepts under a name. -/
def Command.Accepts (c : Command) (id v : String) : Prop :=
  ∃ a ∈ c.arguments, a.id = id ∧ a.action.Accepts v

namespace Progress

/-- **A progress that is checked**: every value was accepted, and what is
pending is an argument of the command. -/
structure Checked (c : Command) (p : Progress) : Prop where
  givens : ∀ e ∈ p.givens, ∀ v ∈ e.2.values, c.Accepts e.1 v
  pending : ∀ x ∈ p.pending, x.1 ∈ c.arguments

/-! ## One word -/

theorem Checked.accepts_valuesOf (h : p.Checked c) {id v : String} (hv : v ∈ p.valuesOf id) :
    c.Accepts id v := by
  rw [valuesOf] at hv
  cases hlookup : p.givens.lookup id with
  | none => simp [hlookup] at hv
  | some g =>
    obtain ⟨front, back, hgivens, -⟩ := List.lookup_eq_some_iff.1 hlookup
    exact h.givens (id, g) (by simp [hgivens]) v (by simpa [hlookup] using hv)

theorem Checked.record (h : p.Checked c) {id : String} (hvalues : ∀ v ∈ values, c.Accepts id v) :
    (p.record id values).Checked c := by
  refine ⟨fun e he => ?_, h.pending⟩
  rcases List.mem_append.1 he with hold | hnew
  · exact h.givens e ((List.mem_filter.1 hold).1)
  · obtain rfl := List.mem_singleton.1 hnew
    exact hvalues

/-- **An argument takes effect** with values that it accepts. -/
theorem Checked.apply (h : p.Checked c) (ha : a ∈ c.arguments)
    (happly : p.apply a values = .ok q) : q.Checked c := by
  have haccepts : ∀ v, a.action.Accepts v → c.Accepts a.id v := fun v hv => ⟨a, ha, rfl, hv⟩
  rw [Progress.apply] at happly
  cases haction : a.action with
  | help => simp [haction] at happly
  | version => simp [haction] at happly
  | count =>
    rw [haction] at happly haccepts
    obtain rfl := Except.ok.inj happly
    refine h.record fun v hv => ?_
    rcases List.mem_append.1 hv with hold | hnew
    · exact h.accepts_valuesOf hold
    · exact haccepts v (List.mem_singleton.1 hnew)
  | flag =>
    simp only [haction] at happly
    split at happly
    · cases happly
    · obtain rfl := Except.ok.inj happly
      exact h.record fun v hv => haccepts v (haction ▸ List.mem_singleton.1 hv)
  | single kind =>
    simp only [haction] at happly
    split at happly
    · cases happly
    · split at happly
      · cases happly
      · obtain ⟨⟨⟩, hchecks, hrecord⟩ := bind_eq_ok_iff.1 happly
        obtain rfl := Except.ok.inj hrecord
        exact h.record fun v hv => haccepts v (haction ▸ forM_eq_ok_iff.1 hchecks v hv)
  | several kind =>
    simp only [haction] at happly
    split at happly
    · cases happly
    · obtain ⟨⟨⟩, hchecks, hrecord⟩ := bind_eq_ok_iff.1 happly
      obtain rfl := Except.ok.inj hrecord
      refine h.record fun v hv => ?_
      rcases List.mem_append.1 hv with hold | hnew
      · exact h.accepts_valuesOf hold
      · exact haccepts v (haction ▸ forM_eq_ok_iff.1 hchecks v hnew)

theorem Checked.settle (h : p.Checked c) (hsettle : p.settle = .ok q) : q.Checked c := by
  rw [Progress.settle] at hsettle
  split at hsettle
  · exact Except.ok.inj hsettle ▸ h
  · next a values hpending =>
    have hcleared : Checked c { p with pending := none, awaiting := false } :=
      ⟨h.givens, by simp⟩
    exact hcleared.apply (h.pending (a, values) hpending) hsettle

theorem Checked.react (h : p.Checked c) (ha : a ∈ c.arguments)
    (hreact : p.react a values = .ok q) : q.Checked c := by
  rw [Progress.react] at hreact
  obtain ⟨p₁, hsettle, hreact⟩ := bind_eq_ok_iff.1 hreact
  obtain ⟨p₂, happly, hreact⟩ := bind_eq_ok_iff.1 hreact
  obtain rfl := Except.ok.inj hreact
  have hchecked := (h.settle hsettle).apply ha happly
  exact ⟨hchecked.givens, hchecked.pending⟩

theorem Checked.takeValue (h : p.Checked c) (ha : a ∈ c.arguments) {attached : Option String}
    (htake : p.takeValue a attached = .ok q) : q.Checked c := by
  cases attached with
  | some v => exact h.react ha htake
  | none =>
    rw [Progress.takeValue] at htake
    obtain ⟨p₁, hsettle, htake⟩ := bind_eq_ok_iff.1 htake
    obtain rfl := Except.ok.inj htake
    exact ⟨(h.settle hsettle).givens, fun x hx => Option.mem_some.1 hx ▸ ha⟩

theorem Checked.giveValue (h : p.Checked c) (word : String) : (p.giveValue word).Checked c := by
  refine ⟨h.givens, fun x hx => ?_⟩
  obtain ⟨y, hy, rfl⟩ := Option.map_eq_some_iff.1 hx
  exact h.pending y hy

end Progress

open Progress (Checked)

theorem mem_arguments_of_findLong? {name : String} (h : c.findLong? name = some a) :
    a ∈ c.arguments :=
  List.mem_append_left _ (List.mem_of_find?_eq_some h)

theorem mem_arguments_of_findShort? {name : Char} (h : c.findShort? name = some a) :
    a ∈ c.arguments :=
  List.mem_append_left _ (List.mem_of_find?_eq_some h)

theorem checked_takeOperand (h : p.Checked c) (htake : takeOperand c p word = .ok q) :
    q.Checked c := by
  rw [takeOperand] at htake
  split at htake
  · cases htake
  · next a ha =>
    obtain ⟨p₁, hsettle, htake⟩ := bind_eq_ok_iff.1 htake
    obtain rfl := Except.ok.inj htake
    have hmem : a ∈ c.arguments := List.mem_append_right _ (List.mem_of_getElem? ha)
    exact ⟨(h.settle hsettle).givens, fun x hx => Option.mem_some.1 hx ▸ hmem⟩

theorem checked_takePlain (h : p.Checked c) (htake : takePlain c p word = .ok q) :
    q.Checked c := by
  rw [takePlain] at htake
  split at htake
  · exact Except.ok.inj htake ▸ h.giveValue word
  · exact checked_takeOperand h htake

/-- Short options are taken one by one. -/
theorem checked_takeShorts {cs : List Char} (h : p.Checked c)
    (htake : takeShorts c p cs = .ok q) : q.Checked c := by
  induction cs generalizing p with
  | nil => exact Except.ok.inj htake ▸ h
  | cons ch cs ih =>
    rw [takeShorts] at htake
    split at htake
    · cases htake
    · next a ha =>
      have hmem := mem_arguments_of_findShort? ha
      split at htake
      · split at htake <;> exact h.takeValue hmem htake
      · obtain ⟨p₁, hreact, htake⟩ := bind_eq_ok_iff.1 htake
        exact ih (h.react hmem hreact) htake

theorem checked_takeLong {cs : List Char} (h : p.Checked c) (htake : takeLong c p cs = .ok q) :
    q.Checked c := by
  rw [takeLong] at htake
  dsimp only at htake
  split at htake
  · cases htake
  · next a ha =>
    have hmem := mem_arguments_of_findLong? ha
    split at htake
    · exact h.takeValue hmem htake
    · split at htake
      · cases htake
      · exact h.react hmem htake

/-- **Taking a word keeps a progress checked.** -/
theorem checked_takeWord (h : p.Checked c) (htake : takeWord c p word = .ok q) :
    q.Checked c := by
  rw [takeWord] at htake
  split at htake
  · exact checked_takeOperand h htake
  · split at htake
    · obtain rfl := Except.ok.inj htake
      exact ⟨h.givens, h.pending⟩
    · exact checked_takeLong h htake
    · exact checked_takePlain h htake
    · split at htake
      · exact checked_takePlain h htake
      · exact checked_takeShorts h htake
    · exact checked_takePlain h htake

/-! ## A whole line -/

theorem mem_commands_of_find? (h : c.find? word = some s) : s = .help ∨ s ∈ c.commands := by
  rw [Command.find?] at h
  split at h
  · cases h
  · split at h
    · exact .inl (Option.some.inj h).symm
    · exact .inr (List.mem_of_find?_eq_some h)

/-- **Reading words keeps a progress checked**, and stops at a command
that is inside; by induction on the words. -/
theorem checked_scan {named : Option (Command × List String)} (h : p.Checked c)
    (hscan : scan c p words = .ok (q, named)) :
    q.Checked c ∧ ∀ x ∈ named, x.1 ∈ c.commands := by
  induction words generalizing p with
  | nil =>
    obtain ⟨rfl, rfl⟩ := Prod.mk.inj (Except.ok.inj hscan)
    exact ⟨h, nofun⟩
  | cons word rest ih =>
    rw [scan] at hscan
    split at hscan
    · next inner hentered =>
      split at hscan
      · cases hscan
      · next hhelp =>
        obtain ⟨rfl, rfl⟩ := Prod.mk.inj (Except.ok.inj hscan)
        refine ⟨h, fun x hx => ?_⟩
        obtain rfl := Option.mem_some.1 hx
        have hfind : c.find? word = some inner := by
          rw [entered?] at hentered
          split at hentered
          · cases hentered
          · exact hentered
        rcases mem_commands_of_find? hfind with rfl | hmem
        · exact absurd rfl hhelp
        · exact hmem
    · obtain ⟨p₁, htake, hscan⟩ := bind_eq_ok_iff.1 hscan
      exact ih (checked_takeWord h htake) hscan

/-- **A value of a command's argument**: the argument accepted it, or the
environment or a fallback supplies it. -/
def Command.Gives (c : Command) (env : List (String × String)) (id v : String) : Prop :=
  c.Accepts id v ∨ ∃ a ∈ c.arguments, a.id = id ∧
    (a.variableName.bind (env.lookup ·) = some v ∨ a.fallback = some v)

theorem gives_of_mem_supply {g : Givens}
    (h : ∀ e ∈ g, ∀ v ∈ e.2.values, c.Accepts e.1 v) :
    ∀ e ∈ supply c env g, ∀ v ∈ e.2.values, c.Gives env e.1 v := by
  intro e he v hv
  rcases List.mem_append.1 he with hgiven | hsupplied
  · exact .inl (h e hgiven v hv)
  · obtain ⟨a, ha, hsupplied⟩ := List.mem_filterMap.1 hsupplied
    have hmem : a ∈ c.arguments := (List.mem_filter.1 ha).1
    rw [supplied?] at hsupplied
    split at hsupplied
    · next v' hvariable =>
      obtain rfl := Option.some.inj hsupplied
      obtain rfl := List.mem_singleton.1 hv
      exact .inr ⟨a, hmem, rfl, .inl hvariable⟩
    · obtain ⟨v', hfallback, rfl⟩ := Option.map_eq_some_iff.1 hsupplied
      obtain rfl := List.mem_singleton.1 hv
      exact .inr ⟨a, hmem, rfl, .inr hfallback⟩

/-- The inner command of a command line, if one was named. -/
def innerWithin (env : List (String × String)) (fuel : Nat) (c : Command) :
    Option (Command × List String) → Except Refusal (Option Matches)
  | none => .ok none
  | some (s, rest) => (matchWithin env fuel (s.inherit c) rest).map some

/-- **Matching in steps**: the words are read, the inner command is
matched, and then what is pending takes effect. -/
theorem matchWithin_succ (env : List (String × String)) (fuel : Nat) (c : Command)
    (words : List String) :
    matchWithin env (fuel + 1) c words =
      (scan c {} words).bind fun x => (innerWithin env fuel c x.2).bind fun inner =>
        x.1.settle.bind fun p => (validate c (supply c env p.givens) inner.isSome).bind fun _ =>
          .ok ⟨c.name, supply c env p.givens, inner⟩ := by
  rw [matchWithin]
  refine congrArg (scan c {} words).bind (funext fun ⟨p, named⟩ => ?_)
  cases named <;> rfl

/-- The steps of words that are matched. -/
theorem matchWithin_eq_ok {fuel : Nat} {m : Matches}
    (h : matchWithin env (fuel + 1) c words = .ok m) :
    ∃ p q named inner, scan c {} words = .ok (p, named) ∧
      innerWithin env fuel c named = .ok inner ∧ p.settle = .ok q ∧
      m = ⟨c.name, supply c env q.givens, inner⟩ := by
  rw [matchWithin_succ] at h
  obtain ⟨⟨p, named⟩, hscan, h⟩ := bind_eq_ok_iff.1 h
  obtain ⟨inner, hinner, h⟩ := bind_eq_ok_iff.1 h
  obtain ⟨q, hsettle, h⟩ := bind_eq_ok_iff.1 h
  obtain ⟨⟨⟩, -, h⟩ := bind_eq_ok_iff.1 h
  exact ⟨p, q, named, inner, hscan, hinner, hsettle, (Except.ok.inj h).symm⟩

/-- **What a command line matches**: values that are given for the
arguments of the command, and a command inside it that is matched
likewise. -/
theorem given_of_matchWithin {fuel : Nat} {m : Matches}
    (h : matchWithin env fuel c words = .ok m) :
    m.name = c.name ∧ (∀ e ∈ m.givens, ∀ v ∈ e.2.values, c.Gives env e.1 v) ∧
      ∀ n, m.inner = some n → ∃ s ∈ c.commands, ∃ fuel rest,
        matchWithin env fuel (s.inherit c) rest = .ok n := by
  cases fuel with
  | zero => cases h
  | succ fuel =>
    obtain ⟨p, q, named, inner, hscan, hinner, hsettle, rfl⟩ := matchWithin_eq_ok h
    obtain ⟨hchecked, hnamed⟩ := checked_scan ⟨by simp, by simp⟩ hscan
    refine ⟨rfl, gives_of_mem_supply (hchecked.settle hsettle).givens, fun n hn => ?_⟩
    obtain rfl : inner = some n := hn
    cases named with
    | none => cases hinner
    | some x =>
      obtain ⟨s, rest⟩ := x
      refine ⟨s, hnamed _ rfl, fuel, rest, ?_⟩
      obtain ⟨n', hrest, hn'⟩ := map_eq_ok_iff.1 hinner
      exact Option.some.inj hn' ▸ hrest

/-! ## The commands of the program -/

/-- A command line of one inner command. -/
theorem inner_of_path {m : Matches} {name : String} (h : m.path.drop 1 = [name]) :
    ∃ n : Matches, m.inner = some n ∧ n.name = name ∧ m.innermost = n := by
  obtain ⟨outer, givens, inner⟩ := m
  cases inner with
  | none => simp [Matches.path] at h
  | some n =>
    obtain ⟨inside, givens', inner'⟩ := n
    cases inner' with
    | none => exact ⟨_, rfl, by simpa [Matches.path] using h, rfl⟩
    | some k =>
      have hnonempty : k.path ≠ [] := by
        obtain ⟨deep, _, rest⟩ := k
        cases rest <;> simp [Matches.path]
      simp [Matches.path, hnonempty] at h

/-- **A command that generates** was matched as the generate command. -/
theorem exists_generate_of_request {m : Matches} {o : GenerateOptions}
    (h : m.request = .generate o) :
    ∃ n : Matches, m.inner = some n ∧ n.name = generateCommand.name ∧ o = n.generateOptions := by
  rw [Matches.request] at h
  split at h <;> try cases h
  next hpath =>
    obtain ⟨n, hinner, hname, hleaf⟩ := inner_of_path hpath
    exact ⟨n, hinner, hname, hleaf ▸ rfl⟩

/-- The argument that gives a quantity. -/
def quantityArgument : Argument :=
  { id := "quantity", short := some 'n', long := some "quantity"
    action := .single (.integer 1 4294967295) }

/-- One argument of the generate command gives a quantity. -/
theorem eq_quantityArgument (h : a ∈ (generateCommand.inherit program).arguments)
    (hid : a.id = "quantity") : a = quantityArgument := by
  have hfilter : ((generateCommand.inherit program).arguments.filter fun a => a.id == "quantity") =
      [quantityArgument] := rfl
  exact List.mem_singleton.1 (hfilter ▸ List.mem_filter.2 ⟨h, by simp [hid]⟩)

/-- One command of the program has the name of the generate command. -/
theorem eq_generateCommand (h : s ∈ program.commands) (hname : s.name = generateCommand.name) :
    s = generateCommand := by
  have hfilter : (program.commands.filter fun s => s.name == generateCommand.name) =
      [generateCommand] := rfl
  exact List.mem_singleton.1 (hfilter ▸ List.mem_filter.2 ⟨h, by simp [hname]⟩)

/-- A text within the bounds of a quantity stands for no zero. -/
theorem quantityOf_ne_zero {v : String}
    (h : (ValueKind.integer 1 4294967295).check v = .ok ()) : Matches.quantityOf v ≠ 0 := by
  rw [ValueKind.check] at h
  split at h
  · next n hn =>
    split at h
    · next hbounds =>
      obtain ⟨hleast, hgreatest⟩ : 1 ≤ n ∧ n ≤ 4294967295 := by simpa using hbounds
      rw [Matches.quantityOf, hn, Option.getD_some]
      intro hzero
      have hmod := congrArg UInt32.toNat hzero
      rw [UInt32.toNat_ofNat'] at hmod
      change n.toNat % 2 ^ 32 = 0 at hmod
      omega
    · cases h
  · cases h

/-- **A quantity on the command line is not zero.** -/
theorem quantity_of_parse {i : Invocation} {o : GenerateOptions}
    (h : parse env words = .ok i) (hrequest : i.request = .generate o) : o.quantity ≠ some 0 := by
  rw [parse] at h
  obtain ⟨m, hmatch, hi⟩ := bind_eq_ok_iff.1 h
  obtain rfl := Except.ok.inj hi
  obtain ⟨n, hinner, hname, rfl⟩ := exists_generate_of_request hrequest
  obtain ⟨-, -, hinside⟩ := given_of_matchWithin hmatch
  obtain ⟨s, hs, fuel, rest, hn⟩ := hinside n hinner
  obtain ⟨hsame, hgiven, -⟩ := given_of_matchWithin hn
  obtain rfl := eq_generateCommand hs (hsame.symm.trans hname)
  intro hzero
  obtain ⟨v, hv, hquantity⟩ := Option.map_eq_some_iff.1 hzero
  obtain ⟨g, hg, hhead⟩ := Option.bind_eq_some_iff.1 hv
  obtain ⟨front, back, hgivens, -⟩ := List.lookup_eq_some_iff.1 hg
  have hmem : v ∈ g.values := List.mem_of_mem_head? hhead
  rcases hgiven ("quantity", g) (by simp [hgivens]) v hmem with
    ⟨a, ha, hid, haccepts⟩ | ⟨a, ha, hid, hsupplied⟩
  · obtain rfl := eq_quantityArgument ha hid
    exact quantityOf_ne_zero haccepts hquantity
  · obtain rfl := eq_quantityArgument ha hid
    simp [quantityArgument] at hsupplied

end CommandLine

end Storefront
