import Storefront.Proofs.CommandLine.Checked
import Storefront.Proofs.Lookup
/-!
# Command lines — two lines side by side

Four options of the program say only how it shows what it does: how much
it tells, whether it is quiet, whether in colours, and in which format.
Two lines that are read side by side may differ in these options: what
matters is that the values of all others agree (`Givens.Agree`), once what
is pending took effect (`Beside`). A word that stands in both lines keeps
them side by side (`beside_takeWord`).
-/

namespace Storefront

namespace CommandLine

/-- The names of the options for the presentation. -/
def presentationIds : List String := ["verbose", "quiet", "no_color", "output_format"]

variable {c s : Command} {p q p' q' : Progress} {a : Argument} {word id : String}
variable {values vs vs' : List String} {g g' k k' : Givens}

/-! ## Values that agree -/

namespace Givens

/-- **Values that agree** on all options but those for the presentation. -/
def Agree (g g' : Givens) : Prop := ∀ id ∉ presentationIds, g.lookup id = g'.lookup id

/-- The values with those of one argument. -/
def put (g : Givens) (id : String) (vs : List String) : Givens :=
  (g.filter fun x => x.1 != id) ++ [(id, ⟨.line, vs⟩)]

theorem Agree.refl (g : Givens) : g.Agree g := fun _ _ => rfl

theorem Agree.symm (h : g.Agree g') : g'.Agree g := fun id hid => (h id hid).symm

theorem Agree.trans (h : g.Agree g') (h' : g'.Agree k) : g.Agree k := fun id hid =>
  (h id hid).trans (h' id hid)

theorem Agree.put (h : g.Agree g') (id : String) (vs : List String) :
    (g.put id vs).Agree (g'.put id vs) := by
  intro n hn
  rw [Givens.put, Givens.put, lookup_replace, lookup_replace, h n hn]

/-- A value for the presentation does not matter. -/
theorem agree_put (hid : id ∈ presentationIds) (g : Givens) (vs : List String) :
    (g.put id vs).Agree g := by
  intro n hn
  have hne : n ≠ id := by
    rintro rfl
    exact hn hid
  rw [Givens.put, lookup_replace, if_neg hne]

end Givens

namespace Progress

/-- What an argument records when it takes effect. -/
def effect (a : Argument) (given : Option Given) (values : List String) :
    Except Refusal (List String) :=
  match a.action with
  | .help => .error .displayHelp
  | .version => .error .displayVersion
  | .count => .ok ((given.map (·.values)).getD [] ++ ["true"])
  | .flag => if given.isSome then .error .argumentConflict else .ok ["true"]
  | .single kind =>
    if values.isEmpty then .error .invalidValue
    else if given.isSome then .error .argumentConflict
    else (values.forM kind.check).map fun _ => values
  | .several kind =>
    if values.isEmpty then .error .invalidValue
    else ((values.flatMap splitCommas).forM kind.check).map fun _ =>
      (given.map (·.values)).getD [] ++ values.flatMap splitCommas

/-- **An argument sees only its own values** when it takes effect. -/
theorem apply_eq (p : Progress) (a : Argument) (values : List String) :
    p.apply a values = (effect a (p.givens.lookup a.id) values).map (p.record a.id) := by
  rw [apply, effect]
  cases a.action with
  | help => rfl
  | version => rfl
  | count => rfl
  | flag => cases hgiven : (p.givens.lookup a.id).isSome <;> simp [isGiven, hgiven, Except.map]
  | single kind =>
    by_cases hvalues : values.isEmpty
    · simp [hvalues, Except.map]
    · cases hgiven : (p.givens.lookup a.id).isSome
      · cases hcheck : values.forM kind.check <;>
          simp [isGiven, hvalues, hgiven, hcheck, Except.map, bind, Except.bind, pure, Except.pure]
      · simp [isGiven, hvalues, hgiven, Except.map]
  | several kind =>
    by_cases hvalues : values.isEmpty
    · simp [hvalues, Except.map]
    · cases hcheck : (values.flatMap splitCommas).forM kind.check <;>
        simp [valuesOf, hvalues, hcheck, Except.map, bind, Except.bind, pure, Except.pure]

theorem apply_eq_ok (h : p.apply a values = .ok q) :
    ∃ vs, effect a (p.givens.lookup a.id) values = .ok vs ∧
      q = { p with givens := p.givens.put a.id vs } := by
  rw [apply_eq] at h
  obtain ⟨vs, heffect, hq⟩ := map_eq_ok_iff.1 h
  exact ⟨vs, heffect, hq.symm⟩

/-- An option without its value does not take effect. -/
theorem effect_nil (h : a.action.takesValue = true) (given : Option Given) :
    effect a given [] = .error .invalidValue := by
  rw [effect]
  cases haction : a.action <;> simp_all [Action.takesValue]

/-- The same words have effects that agree. -/
theorem agree_effect (h : g.Agree g') (hvs : effect a (g.lookup a.id) values = .ok vs)
    (hvs' : effect a (g'.lookup a.id) values = .ok vs') :
    (g.put a.id vs).Agree (g'.put a.id vs') := by
  by_cases hid : a.id ∈ presentationIds
  · exact ((Givens.agree_put hid g vs).trans h).trans (Givens.agree_put hid g' vs').symm
  · rw [h a.id hid, hvs'] at hvs
    obtain rfl := Except.ok.inj hvs
    exact h.put a.id vs'

/-- The values once what is pending took effect. -/
def settled (g : Givens) : Option (Argument × List String) → Except Refusal Givens
  | none => .ok g
  | some (a, values) => (effect a (g.lookup a.id) values).map (g.put a.id)

theorem settle_eq_ok (h : p.settle = .ok q) :
    settled p.givens p.pending = .ok q.givens ∧
      q = { p with givens := q.givens, pending := none
                   awaiting := p.pending.isNone && p.awaiting } := by
  rw [settle] at h
  cases hpending : p.pending with
  | none =>
    simp only [hpending] at h
    obtain rfl := Except.ok.inj h
    refine ⟨rfl, ?_⟩
    cases p
    simp_all
  | some x =>
    obtain ⟨a, values⟩ := x
    simp only [hpending] at h
    obtain ⟨vs, heffect, rfl⟩ := apply_eq_ok h
    refine ⟨?_, by simp⟩
    rw [settled, heffect]
    rfl

theorem agree_settled (h : g.Agree g') {pending : Option (Argument × List String)}
    (hk : settled g pending = .ok k) (hk' : settled g' pending = .ok k') : k.Agree k' := by
  cases pending with
  | none => exact Except.ok.inj hk ▸ Except.ok.inj hk' ▸ h
  | some x =>
    obtain ⟨a, values⟩ := x
    rw [settled] at hk hk'
    obtain ⟨vs, hvs, rfl⟩ := map_eq_ok_iff.1 hk
    obtain ⟨vs', hvs', rfl⟩ := map_eq_ok_iff.1 hk'
    exact agree_effect h hvs hvs'

end Progress

open Progress (settled settle_eq_ok agree_settled apply_eq_ok agree_effect effect_nil)

/-! ## Two lines side by side -/

/-- **Two lines side by side.** They are at the same place; if they wait for
a value, it is that of the same option; and otherwise their values agree
once what is pending took effect, which may be earlier in one of them. -/
structure Beside (p q : Progress) : Prop where
  operands : p.operands = q.operands
  onlyOperands : p.onlyOperands = q.onlyOperands
  awaiting : p.awaiting = q.awaiting
  waits : p.awaiting = true → p.givens.Agree q.givens ∧ p.pending = q.pending ∧
    ∃ a, p.pending = some (a, []) ∧ a.action.takesValue = true
  settled : p.awaiting = false → ∀ k k', settled p.givens p.pending = .ok k →
    settled q.givens q.pending = .ok k' → k.Agree k'

/-- **Two lines side by side with nothing pending.** -/
structure Level (p q : Progress) : Prop where
  operands : p.operands = q.operands
  onlyOperands : p.onlyOperands = q.onlyOperands
  pending : p.pending = none ∧ q.pending = none
  awaiting : p.awaiting = false ∧ q.awaiting = false
  givens : p.givens.Agree q.givens

theorem Beside.symm (h : Beside p q) : Beside q p := by
  refine ⟨h.operands.symm, h.onlyOperands.symm, h.awaiting.symm, fun hq => ?_, fun hq k k' hk hk' =>
    (h.settled (h.awaiting.trans hq) k' k hk' hk).symm⟩
  obtain ⟨hgivens, hpending, ha⟩ := h.waits (h.awaiting.trans hq)
  exact ⟨hgivens.symm, hpending.symm, hpending ▸ ha⟩

theorem Level.beside (h : Level p q) : Beside p q := by
  refine ⟨h.operands, h.onlyOperands, h.awaiting.1.trans h.awaiting.2.symm, fun hp => ?_,
    fun _ k k' hk hk' => ?_⟩
  · exact absurd (h.awaiting.1.symm.trans hp) Bool.false_ne_true
  · rw [h.pending.1] at hk
    rw [h.pending.2] at hk'
    exact agree_settled h.givens hk hk'

/-- An option that waits for its value cannot take effect. -/
theorem Beside.awaiting_of_settle (h : Beside p q) (hp : p.settle = .ok p') :
    p.awaiting = false := by
  rw [← Bool.not_eq_true]
  intro hwait
  obtain ⟨-, -, a, hpending, ha⟩ := h.waits hwait
  obtain ⟨hsettled, -⟩ := settle_eq_ok hp
  rw [hpending, Progress.settled, effect_nil ha] at hsettled
  cases hsettled

/-- **What is pending takes effect** in both lines. -/
theorem Beside.settle (h : Beside p q) (hp : p.settle = .ok p') (hq : q.settle = .ok q') :
    Level p' q' := by
  have hawait := h.awaiting_of_settle hp
  obtain ⟨hsettled, hp'⟩ := settle_eq_ok hp
  obtain ⟨hsettled', hq'⟩ := settle_eq_ok hq
  refine ⟨?_, ?_, ?_, ?_, h.settled hawait _ _ hsettled hsettled'⟩
  · rw [hp', hq']
    exact h.operands
  · rw [hp', hq']
    exact h.onlyOperands
  · rw [hp', hq']
    exact ⟨rfl, rfl⟩
  · rw [hp', hq']
    simp [← h.awaiting, hawait]

theorem Level.pend (h : Level p q) (x : Argument × List String) :
    Beside { p with pending := some x, awaiting := false, operands := p.operands + 1 }
      { q with pending := some x, awaiting := false, operands := q.operands + 1 } :=
  ⟨congrArg (· + 1) h.operands, h.onlyOperands, rfl, nofun, fun _ _ _ => agree_settled h.givens⟩

theorem Level.wait (h : Level p q) (ha : a.action.takesValue = true) :
    Beside { p with pending := some (a, []), awaiting := true }
      { q with pending := some (a, []), awaiting := true } :=
  ⟨h.operands, h.onlyOperands, rfl, fun _ => ⟨h.givens, rfl, a, rfl, ha⟩, nofun⟩

/-! ## How a word is taken -/

/-- **The shapes of words**: two hyphens, a long option, one hyphen, short
options, or a word that is no option. -/
inductive Shape : List Char → Prop
  | dashes : Shape ['-', '-']
  | long (ch : Char) (cs : List Char) : Shape ('-' :: '-' :: ch :: cs)
  | hyphen : Shape ['-']
  | shorts {ch : Char} (cs : List Char) : ch ≠ '-' → Shape ('-' :: ch :: cs)
  | plain {cs : List Char} : cs.head? ≠ some '-' → Shape cs

theorem shape (cs : List Char) : Shape cs := by
  by_cases hfirst : cs.head? = some '-'
  · obtain ⟨rest, rfl⟩ := List.head?_eq_some_iff.1 hfirst
    cases rest with
    | nil => exact .hyphen
    | cons ch rest =>
      by_cases hch : ch = '-'
      · subst hch
        cases rest with
        | nil => exact .dashes
        | cons ch rest => exact .long ch rest
      · exact .shorts rest hch
  · exact .plain hfirst

section Words

variable {ch : Char} {cs : List Char} (honly : p.onlyOperands = false)
include honly

theorem takeWord_long (hword : word.toList = '-' :: '-' :: ch :: cs) :
    takeWord c p word = takeLong c p (ch :: cs) := by
  simp [takeWord, honly, hword]

theorem takeWord_append {name : String} (hname : name.toList ≠ []) :
    takeWord c p ("--" ++ name) = takeLong c p name.toList := by
  obtain ⟨ch, cs, hcs⟩ := List.exists_cons_of_ne_nil hname
  rw [hcs]
  refine takeWord_long honly ?_
  rw [String.toList_append, hcs]
  rfl

theorem takeWord_shorts (hword : word.toList = '-' :: ch :: cs) (hch : ch ≠ '-') :
    takeWord c p word =
      if takesNegative c p && isNumber (ch :: cs) then takePlain c p word
      else takeShorts c p (ch :: cs) := by
  simp [takeWord, honly, hword, hch]

theorem takeWord_plain (hword : word.toList.head? ≠ some '-') :
    takeWord c p word = takePlain c p word := by
  rw [takeWord, honly, if_neg Bool.false_ne_true]
  split <;> simp_all

end Words

/-- A short option that takes a value takes the rest of its word, or waits
for the next one. -/
theorem takeShorts_value {ch : Char} (hfind : c.findShort? ch = some a)
    (ha : a.action.takesValue = true) (cs : List Char) :
    ∃ attached, ∀ p, takeShorts c p (ch :: cs) = p.takeValue a attached := by
  cases cs with
  | nil => exact ⟨none, fun p => by simp [takeShorts, hfind, ha]⟩
  | cons x cs =>
    by_cases hx : x = '='
    · exact ⟨some (String.ofList cs), fun p => by simp [takeShorts, hfind, ha, hx]⟩
    · exact ⟨some (String.ofList (x :: cs)), fun p => by simp [takeShorts, hfind, ha, hx]⟩

/-! ## The same word in both lines -/

theorem Beside.react (h : Beside p q) (hp : p.react a values = .ok p')
    (hq : q.react a values = .ok q') : Beside p' q' := by
  obtain ⟨p₁, hsettle, hp⟩ := bind_eq_ok_iff.1 hp
  obtain ⟨p₂, happly, hp⟩ := bind_eq_ok_iff.1 hp
  obtain ⟨q₁, hsettle', hq⟩ := bind_eq_ok_iff.1 hq
  obtain ⟨q₂, happly', hq⟩ := bind_eq_ok_iff.1 hq
  have hlevel := h.settle hsettle hsettle'
  obtain ⟨vs, hvs, rfl⟩ := apply_eq_ok happly
  obtain ⟨vs', hvs', rfl⟩ := apply_eq_ok happly'
  obtain rfl := Except.ok.inj hp
  obtain rfl := Except.ok.inj hq
  exact Level.beside ⟨hlevel.operands, hlevel.onlyOperands, hlevel.pending, ⟨rfl, rfl⟩,
    agree_effect hlevel.givens hvs hvs'⟩

theorem Beside.takeValue (h : Beside p q) (ha : a.action.takesValue = true)
    {attached : Option String} (hp : p.takeValue a attached = .ok p')
    (hq : q.takeValue a attached = .ok q') : Beside p' q' := by
  cases attached with
  | some v => exact h.react hp hq
  | none =>
    obtain ⟨p₁, hsettle, hp⟩ := bind_eq_ok_iff.1 hp
    obtain ⟨q₁, hsettle', hq⟩ := bind_eq_ok_iff.1 hq
    obtain rfl := Except.ok.inj hp
    obtain rfl := Except.ok.inj hq
    exact (h.settle hsettle hsettle').wait ha

theorem Beside.giveValue (h : Beside p q) (hwait : p.awaiting = true) (word : String) :
    Beside (p.giveValue word) (q.giveValue word) := by
  obtain ⟨hgivens, hpending, -⟩ := h.waits hwait
  refine ⟨h.operands, h.onlyOperands, rfl, nofun, fun _ k k' hk hk' => ?_⟩
  rw [Progress.giveValue, hpending] at hk
  exact agree_settled hgivens hk hk'

theorem beside_takeOperand (h : Beside p q) (hp : takeOperand c p word = .ok p')
    (hq : takeOperand c q word = .ok q') : Beside p' q' := by
  rw [takeOperand] at hp hq
  rw [h.operands] at hp
  split at hp
  · cases hp
  · next a ha =>
    simp only [ha] at hq
    obtain ⟨p₁, hsettle, hp⟩ := bind_eq_ok_iff.1 hp
    obtain ⟨q₁, hsettle', hq⟩ := bind_eq_ok_iff.1 hq
    obtain rfl := Except.ok.inj hp
    obtain rfl := Except.ok.inj hq
    exact (h.settle hsettle hsettle').pend (a, [word])

theorem beside_takePlain (h : Beside p q) (hp : takePlain c p word = .ok p')
    (hq : takePlain c q word = .ok q') : Beside p' q' := by
  rw [takePlain] at hp hq
  rw [← h.awaiting] at hq
  split at hp
  · next hwait =>
    rw [if_pos hwait] at hq
    exact Except.ok.inj hp ▸ Except.ok.inj hq ▸ h.giveValue hwait word
  · next hwait =>
    rw [if_neg hwait] at hq
    exact beside_takeOperand h hp hq

theorem beside_takeShorts {cs : List Char} (h : Beside p q) (hp : takeShorts c p cs = .ok p')
    (hq : takeShorts c q cs = .ok q') : Beside p' q' := by
  induction cs generalizing p q with
  | nil => exact Except.ok.inj hp ▸ Except.ok.inj hq ▸ h
  | cons ch cs ih =>
    cases hfind : c.findShort? ch with
    | none => simp [takeShorts, hfind] at hp
    | some a =>
      by_cases ha : a.action.takesValue = true
      · obtain ⟨attached, htake⟩ := takeShorts_value hfind ha cs
        rw [htake] at hp hq
        exact h.takeValue ha hp hq
      · rw [takeShorts] at hp hq
        simp only [hfind, if_neg ha] at hp hq
        obtain ⟨p₁, hreact, hp⟩ := bind_eq_ok_iff.1 hp
        obtain ⟨q₁, hreact', hq⟩ := bind_eq_ok_iff.1 hq
        exact ih (h.react hreact hreact') hp hq

theorem beside_takeLong {cs : List Char} (h : Beside p q) (hp : takeLong c p cs = .ok p')
    (hq : takeLong c q cs = .ok q') : Beside p' q' := by
  rw [takeLong] at hp hq
  dsimp only at hp hq
  cases hfind : c.findLong? (splitLong cs).1 with
  | none => simp [hfind] at hp
  | some a =>
    simp only [hfind] at hp hq
    by_cases ha : a.action.takesValue = true
    · rw [if_pos ha] at hp hq
      exact h.takeValue ha hp hq
    · rw [if_neg ha] at hp hq
      split at hp
      · cases hp
      · next hvalue =>
        rw [if_neg hvalue] at hq
        exact h.react hp hq

/-- **The same word** is taken alike in both lines. -/
theorem beside_takeWord (h : Beside p q) (hp : takeWord c p word = .ok p')
    (hq : takeWord c q word = .ok q') : Beside p' q' := by
  cases honly : p.onlyOperands with
  | true =>
    rw [takeWord, honly, if_pos rfl] at hp
    rw [takeWord, ← h.onlyOperands, honly, if_pos rfl] at hq
    exact beside_takeOperand h hp hq
  | false =>
    have honly' : q.onlyOperands = false := h.onlyOperands ▸ honly
    generalize hword : word.toList = cs
    cases shape cs with
    | dashes =>
      simp only [takeWord, honly, honly', hword, if_neg Bool.false_ne_true] at hp hq
      obtain rfl := Except.ok.inj hp
      obtain rfl := Except.ok.inj hq
      exact ⟨h.operands, rfl, h.awaiting, h.waits, h.settled⟩
    | long ch cs =>
      rw [takeWord_long honly hword] at hp
      rw [takeWord_long honly' hword] at hq
      exact beside_takeLong h hp hq
    | hyphen =>
      simp only [takeWord, honly, honly', hword, if_neg Bool.false_ne_true] at hp hq
      exact beside_takePlain h hp hq
    | shorts cs hch =>
      rw [takeWord_shorts honly hword hch] at hp
      rw [takeWord_shorts honly' hword hch, takesNegative, ← h.operands, ← takesNegative] at hq
      split at hp
      · next hnegative =>
        rw [if_pos hnegative] at hq
        exact beside_takePlain h hp hq
      · next hnegative =>
        rw [if_neg hnegative] at hq
        exact beside_takeShorts h hp hq
    | plain hplain =>
      rw [takeWord_plain honly (hword ▸ hplain)] at hp
      rw [takeWord_plain honly' (hword ▸ hplain)] at hq
      exact beside_takePlain h hp hq

/-! ## Words behind two hyphens -/

theorem only_settle (h : p.settle = .ok p') : p'.onlyOperands = p.onlyOperands := by
  rw [(settle_eq_ok h).2]

theorem only_react (h : p.react a values = .ok p') : p'.onlyOperands = p.onlyOperands := by
  obtain ⟨p₁, hsettle, h⟩ := bind_eq_ok_iff.1 h
  obtain ⟨p₂, happly, h⟩ := bind_eq_ok_iff.1 h
  obtain ⟨vs, -, rfl⟩ := apply_eq_ok happly
  obtain rfl := Except.ok.inj h
  exact (only_settle hsettle :)

theorem only_takeValue {attached : Option String} (h : p.takeValue a attached = .ok p') :
    p'.onlyOperands = p.onlyOperands := by
  cases attached with
  | some v => exact only_react h
  | none =>
    obtain ⟨p₁, hsettle, h⟩ := bind_eq_ok_iff.1 h
    obtain rfl := Except.ok.inj h
    exact (only_settle hsettle :)

theorem only_takePlain (h : takePlain c p word = .ok p') : p'.onlyOperands = p.onlyOperands := by
  rw [takePlain] at h
  split at h
  · exact Except.ok.inj h ▸ rfl
  · rw [takeOperand] at h
    split at h
    · cases h
    · obtain ⟨p₁, hsettle, h⟩ := bind_eq_ok_iff.1 h
      obtain rfl := Except.ok.inj h
      exact (only_settle hsettle :)

theorem only_takeShorts {cs : List Char} (h : takeShorts c p cs = .ok p') :
    p'.onlyOperands = p.onlyOperands := by
  induction cs generalizing p with
  | nil => exact Except.ok.inj h ▸ rfl
  | cons ch cs ih =>
    rw [takeShorts] at h
    split at h
    · cases h
    · split at h
      · split at h <;> exact only_takeValue h
      · obtain ⟨p₁, hreact, h⟩ := bind_eq_ok_iff.1 h
        exact (ih h).trans (only_react hreact)

theorem only_takeLong {cs : List Char} (h : takeLong c p cs = .ok p') :
    p'.onlyOperands = p.onlyOperands := by
  rw [takeLong] at h
  dsimp only at h
  split at h
  · cases h
  · split at h
    · exact only_takeValue h
    · split at h
      · cases h
      · exact only_react h

theorem only_takeWord (honly : p.onlyOperands = false) (hword : word ≠ "--")
    (h : takeWord c p word = .ok p') : p'.onlyOperands = false := by
  rw [takeWord, honly, if_neg Bool.false_ne_true] at h
  rw [← honly]
  split at h
  · next hdashes => exact absurd (String.toList_inj.1 hdashes) hword
  · exact only_takeLong h
  · exact only_takePlain h
  · split at h
    · exact only_takePlain h
    · exact only_takeShorts h
  · exact only_takePlain h

end CommandLine

end Storefront
