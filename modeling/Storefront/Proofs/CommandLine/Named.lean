import Storefront.Proofs.CommandLine.Reworded
/-!
# Command lines — a file that is named in front

Of the environment a command line reads one variable (`parse_congr`). An
option that names the file of the settings may stand in front of any
command: the rest is matched as it is without it, and the file is the value
of the option (`match?_named`). So the lines that show the place of the
settings and that write them anew amount to what they say, in any
environment (`parse_path`, `parse_init`).
-/

namespace Storefront

namespace CommandLine

variable {c : Command} {file word : String} {words rest : List String} {m : Matches}
variable {env env' : List (String × String)}

/-! ## The variable that counts -/

/-- **One variable gives values** to the arguments of the program. -/
theorem eq_of_mem_variableName (h : c ∈ reached) {a : Argument} {name : String}
    (ha : a ∈ c.arguments) (hname : name ∈ a.variableName) : name = "NO_COLOR" := by
  have hall : (reached.all fun c => c.arguments.all fun a =>
      a.variableName.all (· == "NO_COLOR")) = true := by decide
  have harguments := List.all_eq_true.1 (List.all_eq_true.1 hall c h) a ha
  rw [hname] at harguments
  exact beq_iff_eq.1 harguments

variable (henv : env.lookup "NO_COLOR" = env'.lookup "NO_COLOR")

include henv

theorem supply_congr (hc : c ∈ reached) (g : Givens) : supply c env g = supply c env' g := by
  refine congrArg (g ++ ·) (List.filterMap_congr fun a ha => ?_)
  have hvalue : (a.variableName.bind fun name => env.lookup name) =
      a.variableName.bind fun name => env'.lookup name := by
    cases hvariable : a.variableName with
    | none => rfl
    | some name =>
      obtain rfl := eq_of_mem_variableName hc (List.mem_filter.1 ha).1 hvariable
      exact henv
  rw [supplied?, supplied?, hvalue]

/-- Environments that agree on the variable match alike; by induction on
the commands inside. -/
theorem matchWithin_congr (fuel : Nat) (hc : c ∈ reached) (words : List String) :
    matchWithin env fuel c words = matchWithin env' fuel c words := by
  induction fuel generalizing c words with
  | zero => rfl
  | succ fuel ih =>
    rw [matchWithin_succ, matchWithin_succ]
    cases hscan : scan c {} words with
    | error refusal => rfl
    | ok x =>
      obtain ⟨p, named⟩ := x
      have hinner : innerWithin env fuel c named = innerWithin env' fuel c named := by
        cases named with
        | none => rfl
        | some x =>
          have hx : x.1 ∈ c.commands := (checked_scan ⟨by simp, by simp⟩ hscan).2 x rfl
          rw [innerWithin, innerWithin, ih (inherit_mem_reached hc hx)]
      simp only [Except.bind, hinner, supply_congr henv hc]

/-- **One variable of the environment counts** for a command line. -/
theorem parse_congr (words : List String) : parse env words = parse env' words := by
  rw [parse, parse, Command.match?, Command.match?,
    matchWithin_congr henv _ (List.mem_append_left _ List.mem_cons_self)]

omit henv

/-- The environment with the variable that counts alone. -/
def colorVariable (env : List (String × String)) : List (String × String) :=
  ((env.lookup "NO_COLOR").map fun v => ("NO_COLOR", v)).toList

theorem lookup_colorVariable (env : List (String × String)) :
    env.lookup "NO_COLOR" = (colorVariable env).lookup "NO_COLOR" := by
  rw [colorVariable]
  cases env.lookup "NO_COLOR" with
  | none => rfl
  | some v => simp

/-! ## A file in front -/

/-- More fuel changes nothing about words that are matched. -/
theorem matchWithin_add_one {fuel : Nat} (h : matchWithin env fuel c words = .ok m) :
    matchWithin env (fuel + 1) c words = .ok m := by
  induction fuel generalizing c words m with
  | zero => cases h
  | succ fuel ih =>
    rw [matchWithin_succ] at h ⊢
    obtain ⟨⟨p, named⟩, hscan, h⟩ := bind_eq_ok_iff.1 h
    obtain ⟨inner, hinner, h⟩ := bind_eq_ok_iff.1 h
    have hmore : innerWithin env (fuel + 1) c named = .ok inner := by
      cases named with
      | none => exact hinner
      | some x =>
        obtain ⟨n, hn, rfl⟩ := map_eq_ok_iff.1 hinner
        rw [innerWithin, ih hn]
        rfl
    rw [hscan, Except.bind, hmore]
    exact h

/-- A word that names a command inside ends the reading. -/
theorem scan_command {s : Command} {p : Progress} (hs : c.find? word = some s)
    (hp : (p.onlyOperands || p.awaiting) = false) (rest : List String) :
    scan c p (word :: rest) =
      if s.name == Command.help.name then .error (explain c rest) else .ok (p, some (s, rest)) := by
  rw [scan, entered?, hp, if_neg Bool.false_ne_true, hs]

/-- The option that names the file of the settings. -/
def configArgument : Argument :=
  { id := "config", short := some 'c', long := some "config", action := .single .path,
    shared := true }

/-- The file that an option names. -/
def namedFile (file : String) : String × Given := ("config", ⟨.line, [file]⟩)

/-- A file that is named in front waits for what comes next. -/
theorem scan_named (hfile : file.toList.head? ≠ some '-') (words : List String) :
    scan program {} ("-c" :: file :: words) =
      scan program { pending := some (configArgument, [file]) } words := by
  have hvalue : takeWord program { pending := some (configArgument, []), awaiting := true } file =
      .ok { pending := some (configArgument, [file]) } := takeWord_plain rfl hfile
  change (takeWord program { pending := some (configArgument, []), awaiting := true } file).bind
    (scan program · words) = _
  rw [hvalue]
  rfl

theorem settle_named (hne : file ≠ "") :
    Progress.settle { pending := some (configArgument, [file]) } =
      .ok { givens := [namedFile file] } := by
  have hcheck : [file].forM (ValueKind.path).check = .ok () := by
    simp [ValueKind.check, hne]
  change ([file].forM (ValueKind.path).check).bind _ = _
  rw [hcheck]
  rfl

/-- The program has no fault once a command inside it is named. -/
theorem validate_named (env : List (String × String)) (file : String) :
    validate program (supply program env [namedFile file]) true = .ok () := by
  rw [supply_congr (lookup_colorVariable env) (List.mem_append_left _ List.mem_cons_self),
    colorVariable]
  cases env.lookup "NO_COLOR" <;> rfl

/-- **A file may be named in front of any command**: the command is matched
as it is without it, and the file is one more value. -/
theorem match?_named (hfile : file.toList.head? ≠ some '-') (hne : file ≠ "")
    (hword : (program.find? word).isSome = true)
    (h : program.match? env (word :: rest) = .ok m) :
    program.match? env ("-c" :: file :: word :: rest) =
      .ok { m with givens := namedFile file :: m.givens } := by
  -- the word ends the reading either way, so the file is all that is left to take effect
  obtain ⟨s, hs⟩ := Option.isSome_iff_exists.1 hword
  obtain ⟨p, q, named, inner, hscan, hinner, hsettle, rfl⟩ := matchWithin_eq_ok h
  rw [scan_command hs rfl] at hscan
  split at hscan
  · cases hscan
  · next hhelp =>
    obtain ⟨rfl, rfl⟩ := Prod.mk.inj (Except.ok.inj hscan)
    obtain rfl : {} = q := Except.ok.inj hsettle
    obtain ⟨n, hn, rfl⟩ := map_eq_ok_iff.1 hinner
    have hmore : innerWithin env ("-c" :: file :: word :: rest).length program
        (some (s, rest)) = .ok (some n) :=
      congrArg (Except.map some) (matchWithin_add_one (matchWithin_add_one hn))
    rw [Command.match?, matchWithin_succ, scan_named hfile, scan_command hs rfl, if_neg hhelp]
    simp only [Except.bind, hmore, settle_named hne, Option.isSome_some, validate_named]
    rfl

/-- The line that shows where the settings are. -/
theorem parse_path (env : List (String × String)) (hfile : file.toList.head? ≠ some '-')
    (hne : file ≠ "") :
    ∃ options, parse env ["-c", file, "config", "path"] = .ok ⟨options, .config .path⟩ ∧
      options.config = some file := by
  rw [parse_congr (lookup_colorVariable env), parse, colorVariable]
  cases env.lookup "NO_COLOR" <;> rw [match?_named hfile hne rfl rfl] <;> exact ⟨_, rfl, rfl⟩

/-- The line that writes the settings anew. -/
theorem parse_init (env : List (String × String)) (hfile : file.toList.head? ≠ some '-')
    (hne : file ≠ "") :
    ∃ options, parse env ["-c", file, "init", "--force"] = .ok ⟨options, .init true⟩ ∧
      options.config = some file := by
  rw [parse_congr (lookup_colorVariable env), parse, colorVariable]
  cases env.lookup "NO_COLOR" <;> rw [match?_named hfile hne rfl rfl] <;> exact ⟨_, rfl, rfl⟩

end CommandLine

end Storefront
