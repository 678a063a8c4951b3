import Storefront.Proofs.CommandLine.Named
import Storefront.Proofs.Text.Numeral
/-!
# Command lines — amounts

An amount is given to the price command as a numeral, with a minus sign in
front if it is negative. Every numeral is read as the amount that it was
written for (`Decimal.int?_repr`), so a line that asks about an amount
amounts to the question about it, with the same options for each
(`parse_price`).
-/

namespace Storefront

namespace Decimal

variable {n : Nat}

theorem toList_repr_ne_nil (n : Nat) : n.repr.toList ≠ [] := by
  rw [Nat.toList_repr]
  exact Nat.toDigits_ne_nil

theorem unsigned?_repr (n : Nat) : unsigned? n.repr.toList = some n := by
  have hdigits : n.repr.toList.all Char.isDigit = true :=
    List.all_eq_true.2 fun c hc => Text.isDigit_of_mem_repr hc
  have hvalue : ofDigits n.repr.toList = n := by
    rw [Nat.toList_repr]
    exact Nat.ofDigitChars_ten_toDigits
  rw [unsigned?, hdigits, List.isEmpty_eq_false_iff.2 (toList_repr_ne_nil n), hvalue]
  rfl

/-- A numeral without a sign starts with a digit. -/
theorem isDigit_of_head? {ch : Char} (h : n.repr.toList.head? = some ch) : ch.isDigit = true :=
  Text.isDigit_of_mem_repr (List.mem_of_mem_head? h)

/-- A text without a sign is read as a number without one. -/
theorem int?_of_head? {s : String} (hminus : s.toList.head? ≠ some '-')
    (hplus : s.toList.head? ≠ some '+') :
    int? s = (unsigned? s.toList).map fun n => (n : Int) := by
  rw [int?]
  split
  · next cs hcs => simp [hcs] at hminus
  · next cs hcs => simp [hcs] at hplus
  · rfl

theorem int?_minus (s : String) :
    int? ("-" ++ s) = (unsigned? s.toList).map fun n => -(n : Int) := by
  have hchars : ("-" ++ s).toList = '-' :: s.toList := by simp
  rw [int?, hchars]
  rfl

/-- **A numeral is read as the integer that it was written for.** -/
theorem int?_repr (n : Int) : int? n.repr = some n := by
  cases n with
  | ofNat m =>
    have hsign : ∀ ch : Char, ch.isDigit = false → m.repr.toList.head? ≠ some ch := by
      intro ch hch hhead
      rw [isDigit_of_head? hhead] at hch
      cases hch
    change int? m.repr = _
    rw [int?_of_head? (hsign '-' rfl) (hsign '+' rfl), unsigned?_repr]
    rfl
  | negSucc m =>
    change int? ("-" ++ m.succ.repr) = _
    rw [int?_minus, unsigned?_repr]
    rfl

end Decimal

namespace CommandLine

/-- A numeral without a sign is a number to the reader of words. -/
theorem isNumber_repr (n : Nat) : isNumber n.repr.toList = true := by
  have hdigits : ∀ c ∈ n.repr.toList, c.isDigit = true := fun c hc => Text.isDigit_of_mem_repr hc
  have hwhole : ∀ ch : Char, ch.isDigit = false →
      n.repr.toList.takeWhile (· != ch) = n.repr.toList := by
    intro ch hch
    refine List.takeWhile_eq_self_iff.2 fun c hc => ?_
    have hc := hdigits c hc
    rw [bne_iff_ne]
    rintro rfl
    rw [hc] at hch
    cases hch
  have hall : n.repr.toList.all Char.isDigit = true := List.all_eq_true.2 hdigits
  rw [isNumber, hwhole 'e' rfl, List.drop_length, hwhole '.' rfl, List.drop_length, hall]
  rfl

/-- The operand of the price command. -/
def amountArgument : Argument :=
  { id := "amount", negative := true, required := true
    action := .single (.integer Int64.minValue.toInt Int64.maxValue.toInt) }

variable {env : List (String × String)}

/-- **A numeral is taken as the operand.** -/
theorem takeWord_amount (n : Int64) :
    takeWord (priceCommand.inherit program) {} (toString n) =
      .ok { pending := some (amountArgument, [toString n]), operands := 1 } := by
  have hplain : takePlain (priceCommand.inherit program) {} (toString n) =
      .ok { pending := some (amountArgument, [toString n]), operands := 1 } := rfl
  have hnumeral : toString n = n.toInt.repr := rfl
  rw [← hplain]
  cases hn : n.toInt with
  | ofNat m =>
    have hchars : toString n = m.repr := by rw [hnumeral, hn]; rfl
    refine takeWord_plain rfl fun hhead => ?_
    rw [hchars] at hhead
    exact absurd (Decimal.isDigit_of_head? hhead) (by decide)
  | negSucc m =>
    have hchars : (toString n).toList = '-' :: m.succ.repr.toList := by
      rw [hnumeral, hn]
      change ("-" ++ m.succ.repr).toList = _
      simp
    obtain ⟨ch, cs, hcs⟩ := List.exists_cons_of_ne_nil (Decimal.toList_repr_ne_nil m.succ)
    have hch : ch ≠ '-' := by
      rintro rfl
      have hhead : m.succ.repr.toList.head? = some '-' := by rw [hcs]; rfl
      exact absurd (Decimal.isDigit_of_head? hhead) (by decide)
    -- after a minus sign letters would be options, but these are digits
    rw [takeWord_shorts rfl (hcs ▸ hchars) hch, ← hcs, isNumber_repr]
    rfl

/-- An amount is a word, so it passes the check of the operand. -/
theorem settle_amount (n : Int64) :
    Progress.settle { pending := some (amountArgument, [toString n]), operands := 1 } =
      .ok { givens := [("amount", ⟨.line, [toString n]⟩)], operands := 1 } := by
  have hnumeral : Decimal.int? (toString n) = some n.toInt := Decimal.int?_repr n.toInt
  have hleast := n.le_toInt
  have hgreatest := n.toInt_lt
  have hmin : Int64.minValue.toInt = -2 ^ 63 := rfl
  have hmax : Int64.maxValue.toInt = 2 ^ 63 - 1 := rfl
  have hrange : (Int64.minValue.toInt ≤ n.toInt && n.toInt ≤ Int64.maxValue.toInt) = true := by
    rw [Bool.and_eq_true, decide_eq_true_iff, decide_eq_true_iff]
    omega
  have hcheck : (ValueKind.integer Int64.minValue.toInt Int64.maxValue.toInt).check
      (toString n) = .ok () := by
    rw [ValueKind.check, hnumeral]
    exact if_pos hrange
  change (((ValueKind.integer Int64.minValue.toInt Int64.maxValue.toInt).check
    (toString n)).bind fun _ => .ok ()).bind _ = _
  rw [hcheck]
  rfl

theorem scan_amount (n : Int64) :
    scan (priceCommand.inherit program) {} [toString n] =
      .ok ({ pending := some (amountArgument, [toString n]), operands := 1 }, none) := by
  have hentered : entered? (priceCommand.inherit program) {} (toString n) = none := rfl
  rw [scan, hentered, takeWord_amount]
  rfl

/-- The words in front of a command that name the file of the settings. -/
def naming : Option String → List String
  | some file => ["-c", file]
  | none => []

/-- What a line that asks about an amount gives. -/
def amountMatches (env : List (String × String)) (named : Option String) (n : Int64) : Matches :=
  ⟨"shopgen", (named.map namedFile).toList ++ supply program env [],
    some ⟨"price", supply (priceCommand.inherit program) env
      [("amount", ⟨.line, [toString n]⟩)], none⟩⟩

theorem match?_amount (env : List (String × String)) (n : Int64) :
    program.match? (colorVariable env) ["price", toString n] =
      .ok (amountMatches (colorVariable env) none n) := by
  have hprice : program.find? "price" = some priceCommand := rfl
  rw [Command.match?, matchWithin_succ, scan_command hprice rfl, if_neg (by decide)]
  simp only [Except.bind, innerWithin, List.length_cons, matchWithin_succ, scan_amount,
    settle_amount]
  rw [colorVariable]
  cases env.lookup "NO_COLOR" <;> rfl

/-- The question is about the amount of the numeral. -/
theorem request_amountMatches (env : List (String × String)) (named : Option String) (n : Int64) :
    (amountMatches (colorVariable env) named n).request = .price n := by
  have hnumeral : Decimal.int? (toString n) = some n.toInt := Decimal.int?_repr n.toInt
  have hrequest : (amountMatches (colorVariable env) named n).request =
      .price (Int64.ofInt ((Decimal.int? (toString n)).getD 0)) := by
    rw [colorVariable]
    cases env.lookup "NO_COLOR" <;> rfl
  rw [hrequest, hnumeral, Option.getD_some, Int64.ofInt_toInt]

/-- **A line that asks about an amount** amounts to the question, with the
same options whatever the amount is. -/
theorem parse_price (env : List (String × String)) {named : Option String}
    (h : ∀ file ∈ named, file.toList.head? ≠ some '-' ∧ file ≠ "") :
    ∃ options, options.config = named ∧
      ∀ n : Int64, parse env (naming named ++ ["price", toString n]) = .ok ⟨options, .price n⟩ := by
  have hmatch : ∀ n : Int64, program.match? (colorVariable env)
      (naming named ++ ["price", toString n]) =
        .ok (amountMatches (colorVariable env) named n) := by
    intro n
    cases named with
    | none => exact match?_amount env n
    | some file =>
      obtain ⟨hfile, hne⟩ := h file rfl
      exact match?_named hfile hne rfl (match?_amount env n)
  refine ⟨(amountMatches (colorVariable env) named 0).globals, ?_, fun n => ?_⟩
  · rw [colorVariable]
    cases named <;> cases env.lookup "NO_COLOR" <;> rfl
  · have hglobals : (amountMatches (colorVariable env) named n).globals =
        (amountMatches (colorVariable env) named 0).globals := by
      rw [colorVariable]
      cases named <;> cases env.lookup "NO_COLOR" <;> rfl
    rw [parse_congr (lookup_colorVariable env), parse, hmatch, ← hglobals,
      ← request_amountMatches env named n]
    rfl

end CommandLine

end Storefront
