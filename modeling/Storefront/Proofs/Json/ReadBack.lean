import Mathlib.Data.List.Basic
import Storefront.Json.Printer
import Storefront.Json.Reader
/-!
# JSON — reading what was written

A report is written over several lines and read back as the value that it
was written for (`parse?_pretty`), whatever characters its texts hold: an
escape stands for one character, blanks between the parts count for
nothing, and the fuel of the reader is enough for the characters that it
has in front of it. The reports in question hold texts, in lists and
records; each of these is read back wherever it stands (`ReadsBack`).
-/

namespace Storefront.Json

variable {c : Char} {cs rest blanks : List Char} {fuel : Nat}

/-! ## Texts -/

theorem hexValue?_digitChar : ∀ d < 16, hexValue? (Nat.digitChar d) = some d := by decide

/-- The number of a control has two digits behind two zeros. -/
theorem hexPadded_control : ∀ n < 0x20, Text.hexPadded 4 n =
    ['0', '0', Nat.digitChar (n / 16), Nat.digitChar (n % 16)] := by decide

theorem readUnit_hexPadded {n : Nat} (h : n < 0x20) (rest : List Char) :
    readUnit (Text.hexPadded 4 n ++ rest) = some (n, rest) := by
  have hzero : hexValue? '0' = some 0 := rfl
  have hhigh := hexValue?_digitChar (n / 16) (by omega)
  have hlow := hexValue?_digitChar (n % 16) (by omega)
  have hsum : 0 * 4096 + 0 * 256 + n / 16 * 16 + n % 16 = n := by omega
  rw [hexPadded_control n h]
  simp only [List.cons_append, List.nil_append, readUnit, hzero, hhigh, hlow, Option.bind_eq_bind,
    Option.bind_some, hsum]
  rfl

/-- The number of a control is read back as the control. -/
theorem readCodePoint_hexPadded (h : c.toNat < 0x20) (rest : List Char) :
    readCodePoint (Text.hexPadded 4 c.toNat ++ rest) = some (c, rest) := by
  have hhigh : (decide (0xd800 ≤ c.toNat) && decide (c.toNat < 0xdc00)) = false := by
    rw [decide_eq_false (by omega), Bool.false_and]
  have hlow : (decide (0xdc00 ≤ c.toNat) && decide (c.toNat < 0xe000)) = false := by
    rw [decide_eq_false (by omega), Bool.false_and]
  simp only [readCodePoint, readUnit_hexPadded h, Option.bind_eq_bind, Option.bind_some, hhigh,
    hlow, Bool.false_eq_true, if_false, Char.ofNat_toNat]
  rfl

/-- A character that stands for itself. -/
theorem readText_self (hquote : c ≠ '"') (hslash : c ≠ '\\') (hcontrol : ¬ c.toNat < 0x20)
    (acc rest : List Char) :
    readText (fuel + 1) acc (c :: rest) = readText fuel (c :: acc) rest := by
  simp [readText, hslash, hcontrol]

/-- **One character is read back** from what stands for it. -/
theorem readText_escapeChar (acc : List Char) (c : Char) (rest : List Char) :
    readText (fuel + 1) acc (escapeChar c ++ rest) = readText fuel (c :: acc) rest := by
  unfold escapeChar
  split
  · rfl
  · rfl
  · rfl
  · rfl
  · rfl
  · rfl
  · rfl
  · next hquote hslash _ _ _ _ _ =>
    split
    · next hcontrol =>
      rw [List.append_assoc, List.cons_append, List.cons_append, List.nil_append, readText,
        readCodePoint_hexPadded hcontrol]
      rfl
    · next hcontrol => exact readText_self hquote hslash hcontrol acc rest

/-- No character is left out. -/
theorem length_le_flatMap_escapeChar (cs : List Char) :
    cs.length ≤ (cs.flatMap escapeChar).length := by
  induction cs with
  | nil => exact Nat.le_refl _
  | cons c cs ih =>
    have hone : 1 ≤ (escapeChar c).length := by
      unfold escapeChar
      split <;> try split
      all_goals simp
    rw [List.flatMap_cons, List.length_append, List.length_cons]
    omega

/-- **A text is read back**, by induction on its characters. -/
theorem readText_escaped (acc : List Char) (h : cs.length < fuel) (rest : List Char) :
    readText fuel acc (cs.flatMap escapeChar ++ '"' :: rest) =
      some (String.ofList (acc.reverse ++ cs), rest) := by
  induction cs generalizing fuel acc with
  | nil =>
    obtain ⟨fuel, rfl⟩ := Nat.exists_eq_add_of_lt h
    rw [List.flatMap_nil, List.nil_append, List.append_nil]
    rfl
  | cons c cs ih =>
    cases fuel with
    | zero => exact absurd h (Nat.not_lt_zero _)
    | succ fuel =>
      rw [List.length_cons, Nat.add_lt_add_iff_right] at h
      rw [List.flatMap_cons, List.append_assoc, readText_escapeChar, ih _ h, List.reverse_cons,
        List.append_assoc]
      rfl

/-- What stands between the quotes of a text. -/
def inner (s : String) : List Char := s.toList.flatMap escapeChar

theorem toList_quote (s : String) : (quote s).toList = '"' :: (inner s ++ ['"']) := by
  simp [quote, inner]

/-- A text is read back after its opening quote. -/
theorem readText_inner (s : String) (rest : List Char) :
    readText ((inner s ++ '"' :: rest).length + 1) [] (inner s ++ '"' :: rest) =
      some (s, rest) := by
  have hlength := length_le_flatMap_escapeChar s.toList
  have hfuel : s.toList.length < (inner s ++ '"' :: rest).length + 1 := by
    rw [inner, List.length_append]
    omega
  rw [inner] at hfuel ⊢
  rw [readText_escaped [] hfuel, List.reverse_nil, List.nil_append, String.ofList_toList]

/-! ## Blanks -/

/-- Blanks that may stand between the parts of a value. -/
def Blank (cs : List Char) : Prop := ∀ c ∈ cs, isSpace c = true

theorem skip_append (h : Blank blanks) (cs : List Char) : skip (blanks ++ cs) = skip cs :=
  List.dropWhile_append_of_pos h

theorem skip_cons (h : isSpace c = false) (cs : List Char) : skip (c :: cs) = c :: cs := by
  rw [skip, List.dropWhile_cons, h]
  rfl

/-- What stands in front of a line at a depth. -/
def margin (depth : Nat) : List Char := ("\n" ++ indentation depth).toList

theorem blank_margin (depth : Nat) : Blank (margin depth) := by
  intro c hc
  simp only [margin, indentation, String.toList_append, String.toList_ofList, List.mem_append,
    List.mem_replicate] at hc
  rcases hc with hc | ⟨-, rfl⟩
  · obtain rfl : c = '\n' := by simpa using hc
    rfl
  · rfl

theorem readValue_append (h : Blank blanks) (fuel : Nat) (cs : List Char) :
    readValue fuel (blanks ++ cs) = readValue fuel cs := by
  cases fuel with
  | zero => rfl
  | succ fuel => rw [readValue, readValue, skip_append h]

/-! ## Values -/

/-- **A value that holds texts and nothing but texts**, in lists and
records. -/
inductive Textual : Json → Prop
  | text (s : String) : Textual (.text s)
  | list {items : List Json} (h : ∀ j ∈ items, Textual j) : Textual (.list items)
  | record {fields : List (String × Json)} (h : ∀ f ∈ fields, Textual f.2) :
      Textual (.record fields)

/-- **A value that is read back** wherever it stands: it starts with
something that is neither blank nor a closing bracket, and fuel for its
characters is enough. -/
structure ReadsBack (j : Json) : Prop where
  starts : ∀ depth, ∃ c cs, (prettyAt depth j).toList = c :: cs ∧ isSpace c = false ∧ c ≠ ']'
  reads : ∀ depth fuel rest, 2 * (prettyAt depth j).toList.length ≤ fuel →
    readValue fuel ((prettyAt depth j).toList ++ rest) = some (j, rest)

/-- A text is read after its opening quote. -/
theorem readValue_text {s : String} (h : readText (cs.length + 1) [] cs = some (s, rest)) :
    readValue (fuel + 1) ('"' :: cs) = some (.text s, rest) := by
  rw [readValue, skip_cons rfl]
  simp [h]

theorem readsBack_text (s : String) : ReadsBack (.text s) := by
  refine ⟨fun depth => ⟨'"', inner s ++ ['"'], toList_quote s, rfl, by decide⟩, ?_⟩
  intro depth fuel rest hfuel
  have hchars : (prettyAt depth (.text s)).toList = '"' :: (inner s ++ ['"']) := toList_quote s
  rw [hchars] at hfuel ⊢
  cases fuel with
  | zero => cases hfuel
  | succ fuel =>
    rw [List.cons_append, List.append_assoc, List.cons_append, List.nil_append]
    exact readValue_text (readText_inner s rest)

/-! ## Lists -/

variable {depth : Nat} {x v : Json} {xs : List Json} {fs : List (String × Json)} {k : String}
variable {tail tail' : List Char}

/-- Parts behind each other, each from the second on on a line of its own. -/
def joined (depth : Nat) (parts : List String) : List Char :=
  (("," ++ ("\n" ++ indentation depth)).intercalate parts).toList

theorem joined_singleton (depth : Nat) (p : String) : joined depth [p] = p.toList := by
  rw [joined, String.intercalate_singleton]

theorem joined_cons_cons (depth : Nat) (p q : String) (ps : List String) :
    joined depth (p :: q :: ps) = p.toList ++ ',' :: (margin depth ++ joined depth (q :: ps)) := by
  rw [joined, String.intercalate_cons_cons]
  simp [joined, margin]

theorem toList_bracketed (opening closing : String) (depth : Nat) {parts : List String}
    (h : parts ≠ []) :
    (bracketed opening closing depth parts).toList = opening.toList ++ (margin (depth + 1) ++
      (joined (depth + 1) parts ++ (margin depth ++ closing.toList))) := by
  have hparts : parts.isEmpty = false := List.isEmpty_eq_false_iff.2 h
  rw [bracketed, hparts, if_neg Bool.false_ne_true]
  simp [joined, margin]

theorem readItems_last (h : readValue fuel cs = some (x, tail)) (htail : skip tail = ']' :: rest) :
    readItems (fuel + 1) cs = some ([x], rest) := by
  simp only [readItems, h, Option.bind_eq_bind, Option.bind_some, htail]
  rfl

theorem readItems_more (h : readValue fuel cs = some (x, tail)) (htail : skip tail = ',' :: tail')
    (hmore : readItems fuel tail' = some (xs, rest)) :
    readItems (fuel + 1) cs = some (x :: xs, rest) := by
  simp only [readItems, h, Option.bind_eq_bind, Option.bind_some, htail, hmore]
  rfl

theorem readItems_append (h : Blank blanks) (fuel : Nat) (cs : List Char) :
    readItems fuel (blanks ++ cs) = readItems fuel cs := by
  cases fuel with
  | zero => rfl
  | succ fuel => rw [readItems, readItems, readValue_append h]

/-- A value takes up room. -/
theorem ReadsBack.length_pos (h : ReadsBack x) (depth : Nat) :
    0 < (prettyAt depth x).toList.length := by
  obtain ⟨c, cs, hchars, -⟩ := h.starts depth
  rw [hchars]
  exact Nat.succ_pos _

/-- Parts start with the first of them. -/
theorem exists_joined_eq (depth : Nat) (p : String) (ps : List String) :
    ∃ more, joined depth (p :: ps) = p.toList ++ more := by
  cases ps with
  | nil => exact ⟨[], by rw [joined_singleton, List.append_nil]⟩
  | cons q ps => exact ⟨_, joined_cons_cons depth p q ps⟩

/-- **Items are read back**, by induction on them. -/
theorem readItems_joined (depth : Nat) (h : ∀ j ∈ x :: xs, ReadsBack j)
    (hfuel : 2 * (joined depth ((x :: xs).map (prettyAt depth))).length < fuel)
    (hblanks : Blank blanks) (rest : List Char) :
    readItems fuel (joined depth ((x :: xs).map (prettyAt depth)) ++ (blanks ++ ']' :: rest)) =
      some (x :: xs, rest) := by
  induction xs generalizing x fuel with
  | nil =>
    have hx := h x List.mem_cons_self
    cases fuel with
    | zero => exact absurd hfuel (Nat.not_lt_zero _)
    | succ fuel =>
      rw [List.map_singleton, joined_singleton] at hfuel ⊢
      refine readItems_last (hx.reads depth fuel _ (by omega)) ?_
      rw [skip_append hblanks, skip_cons rfl]
  | cons y ys ih =>
    have hx := h x List.mem_cons_self
    have hpos := hx.length_pos depth
    cases fuel with
    | zero => exact absurd hfuel (Nat.not_lt_zero _)
    | succ fuel =>
      rw [List.map_cons, List.map_cons, joined_cons_cons] at hfuel ⊢
      rw [List.length_append, List.length_cons, List.length_append] at hfuel
      rw [List.append_assoc, List.cons_append, List.append_assoc]
      -- the first item takes one unit of fuel, and at least one character is gone with it
      refine readItems_more (hx.reads depth fuel _ (by omega)) (skip_cons rfl _) ?_
      rw [readItems_append (blank_margin depth)]
      refine ih (fun j hj => h j (List.mem_cons_of_mem x hj)) ?_
      rw [List.map_cons]
      omega

theorem prettyItems_eq_map (depth : Nat) (xs : List Json) :
    prettyItems depth xs = xs.map (prettyAt depth) := by
  induction xs with
  | nil => rfl
  | cons x xs ih => rw [prettyItems, ih, List.map_cons]

/-- A list whose first item does not end it is read item by item. -/
theorem readValue_list (hskip : skip cs = c :: tail) (hc : c ≠ ']')
    (h : readItems fuel (c :: tail) = some (xs, rest)) :
    readValue (fuel + 1) ('[' :: cs) = some (.list xs, rest) := by
  rw [readValue, skip_cons rfl]
  simp [hskip, hc, h]

theorem toList_prettyAt_list (depth : Nat) (x : Json) (xs : List Json) :
    (prettyAt depth (.list (x :: xs))).toList = '[' ::
      (margin (depth + 1) ++ (joined (depth + 1) ((x :: xs).map (prettyAt (depth + 1))) ++
        (margin depth ++ [']']))) := by
  have hne : (x :: xs).map (prettyAt (depth + 1)) ≠ [] := by simp
  rw [prettyAt, prettyItems_eq_map, toList_bracketed _ _ _ hne]
  rfl

/-- **A list is read back** if its items are. -/
theorem readsBack_list (h : ∀ j ∈ xs, ReadsBack j) : ReadsBack (.list xs) := by
  cases xs with
  | nil =>
    have hchars : ∀ depth, (prettyAt depth (.list [])).toList = ['[', ']'] := by
      intro depth
      change ("[" ++ "]").toList = _
      decide
    refine ⟨fun depth => ⟨'[', [']'], hchars depth, rfl, by decide⟩, ?_⟩
    intro depth fuel rest hfuel
    rw [hchars] at hfuel ⊢
    cases fuel with
    | zero => cases hfuel
    | succ fuel => rfl
  | cons x xs =>
    refine ⟨fun depth => ⟨'[', _, toList_prettyAt_list depth x xs, rfl, by decide⟩, ?_⟩
    intro depth fuel rest hfuel
    rw [toList_prettyAt_list] at hfuel ⊢
    rw [List.length_cons, List.length_append, List.length_append] at hfuel
    cases fuel with
    | zero => exact absurd hfuel (by omega)
    | succ fuel =>
      have hroom : 2 * (joined (depth + 1) ((x :: xs).map (prettyAt (depth + 1)))).length <
          fuel := by omega
      have hitems := readItems_joined (depth + 1) h hroom (blank_margin depth) rest
      obtain ⟨c, cs, hstart, hspace, hc⟩ := (h x List.mem_cons_self).starts (depth + 1)
      obtain ⟨more, hmore⟩ := exists_joined_eq (depth + 1) (prettyAt (depth + 1) x)
        (xs.map (prettyAt (depth + 1)))
      rw [List.map_cons, hmore, hstart, List.cons_append, List.cons_append] at hitems ⊢
      simp only [List.cons_append, List.append_assoc, List.nil_append] at hitems ⊢
      -- the first item starts with no closing bracket, so the list is not taken to be empty
      refine readValue_list ?_ hc hitems
      rw [skip_append (blank_margin _), skip_cons hspace]

/-! ## Records -/

/-- A field in its written form. -/
def prettyField (depth : Nat) (f : String × Json) : String :=
  quote f.1 ++ ": " ++ prettyAt depth f.2

theorem prettyFields_eq_map (depth : Nat) (fs : List (String × Json)) :
    prettyFields depth fs = fs.map (prettyField depth) := by
  induction fs with
  | nil => rfl
  | cons f fs ih => rw [prettyFields, ih, List.map_cons, prettyField]

theorem toList_prettyField (depth : Nat) (k : String) (v : Json) :
    (prettyField depth (k, v)).toList =
      '"' :: (inner k ++ '"' :: ':' :: ' ' :: (prettyAt depth v).toList) := by
  simp [prettyField, toList_quote]

/-- The name of a field is read, and then its value. -/
theorem readFields_field (hv : readValue fuel cs = some (v, tail)) :
    readFields (fuel + 1) ('"' :: (inner k ++ '"' :: ':' :: ' ' :: cs)) =
      match skip tail with
      | ',' :: rest => (readFields fuel rest).bind fun (fs, rest) => some ((k, v) :: fs, rest)
      | '\x7d' :: rest => some ([(k, v)], rest)
      | _ => none := by
  have hblank : Blank [' '] := List.forall_mem_singleton.2 rfl
  have hvalue : readValue fuel (' ' :: cs) = some (v, tail) :=
    (readValue_append hblank fuel cs).trans hv
  rw [readFields, skip_cons rfl]
  simp only [readText_inner, Option.bind_eq_bind, Option.bind_some, skip_cons (c := ':') rfl,
    hvalue]
  rfl

theorem readFields_append (h : Blank blanks) (fuel : Nat) (cs : List Char) :
    readFields fuel (blanks ++ cs) = readFields fuel cs := by
  cases fuel with
  | zero => rfl
  | succ fuel => rw [readFields, readFields, skip_append h]

/-- **Fields are read back**, by induction on them. -/
theorem readFields_joined (depth : Nat) {f : String × Json} (h : ∀ g ∈ f :: fs, ReadsBack g.2)
    (hfuel : 2 * (joined depth ((f :: fs).map (prettyField depth))).length < fuel)
    (hblanks : Blank blanks) (rest : List Char) :
    readFields fuel (joined depth ((f :: fs).map (prettyField depth)) ++
      (blanks ++ '\x7d' :: rest)) = some (f :: fs, rest) := by
  induction fs generalizing f fuel with
  | nil =>
    obtain ⟨k, v⟩ := f
    have hv : ReadsBack v := h (k, v) List.mem_cons_self
    cases fuel with
    | zero => exact absurd hfuel (Nat.not_lt_zero _)
    | succ fuel =>
      rw [List.map_singleton, joined_singleton, toList_prettyField] at hfuel ⊢
      simp only [List.length_cons, List.length_append] at hfuel
      simp only [List.cons_append, List.append_assoc]
      rw [readFields_field (hv.reads depth fuel _ (by omega)), skip_append hblanks, skip_cons rfl]
      rfl
  | cons g gs ih =>
    obtain ⟨k, v⟩ := f
    have hv : ReadsBack v := h (k, v) List.mem_cons_self
    cases fuel with
    | zero => exact absurd hfuel (Nat.not_lt_zero _)
    | succ fuel =>
      rw [List.map_cons, List.map_cons, joined_cons_cons, toList_prettyField] at hfuel ⊢
      simp only [List.length_cons, List.length_append] at hfuel
      have hroom : 2 * (joined depth ((g :: gs).map (prettyField depth))).length < fuel := by
        rw [List.map_cons]
        omega
      have hmore := ih (fun j hj => h j (List.mem_cons_of_mem _ hj)) hroom
      rw [List.map_cons] at hmore
      simp only [List.cons_append, List.append_assoc]
      rw [readFields_field (hv.reads depth fuel _ (by omega)), skip_cons rfl]
      simp only [readFields_append (blank_margin depth), hmore, Option.bind_some]

theorem toList_prettyAt_record (depth : Nat) (f : String × Json) (fs : List (String × Json)) :
    (prettyAt depth (.record (f :: fs))).toList = '\x7b' ::
      (margin (depth + 1) ++ (joined (depth + 1) ((f :: fs).map (prettyField (depth + 1))) ++
        (margin depth ++ ['\x7d']))) := by
  have hne : (f :: fs).map (prettyField (depth + 1)) ≠ [] := by simp
  rw [prettyAt, prettyFields_eq_map, toList_bracketed _ _ _ hne]
  rfl

/-- A record whose first field has a name is read field by field. -/
theorem readValue_record (hskip : skip cs = '"' :: tail)
    (h : readFields fuel ('"' :: tail) = some (fs, rest)) :
    readValue (fuel + 1) ('\x7b' :: cs) = some (.record fs, rest) := by
  rw [readValue, skip_cons rfl]
  simp [hskip, h]

/-- **A record is read back** if its values are. -/
theorem readsBack_record (h : ∀ f ∈ fs, ReadsBack f.2) : ReadsBack (.record fs) := by
  cases fs with
  | nil =>
    have hchars : ∀ depth, (prettyAt depth (.record [])).toList = ['\x7b', '\x7d'] := by
      intro depth
      change ("\x7b" ++ "\x7d").toList = _
      decide
    refine ⟨fun depth => ⟨'\x7b', ['\x7d'], hchars depth, rfl, by decide⟩, ?_⟩
    intro depth fuel rest hfuel
    rw [hchars] at hfuel ⊢
    cases fuel with
    | zero => cases hfuel
    | succ fuel => rfl
  | cons f fs =>
    refine ⟨fun depth => ⟨'\x7b', _, toList_prettyAt_record depth f fs, rfl, by decide⟩, ?_⟩
    intro depth fuel rest hfuel
    rw [toList_prettyAt_record] at hfuel ⊢
    rw [List.length_cons, List.length_append, List.length_append] at hfuel
    cases fuel with
    | zero => exact absurd hfuel (by omega)
    | succ fuel =>
      have hroom : 2 * (joined (depth + 1) ((f :: fs).map (prettyField (depth + 1)))).length <
          fuel := by omega
      have hfields := readFields_joined (depth + 1) h hroom (blank_margin depth) rest
      obtain ⟨more, hmore⟩ := exists_joined_eq (depth + 1) (prettyField (depth + 1) f)
        (fs.map (prettyField (depth + 1)))
      rw [List.map_cons, hmore, toList_prettyField] at hfields ⊢
      simp only [List.cons_append, List.append_assoc, List.nil_append] at hfields ⊢
      refine readValue_record ?_ hfields
      rw [skip_append (blank_margin _), skip_cons rfl]

/-! ## Documents -/

/-- **A value of texts is read back**, by induction on it. -/
theorem readsBack_of_textual {j : Json} (h : j.Textual) : ReadsBack j := by
  induction h with
  | text s => exact readsBack_text s
  | list _ ih => exact readsBack_list ih
  | record _ ih => exact readsBack_record ih

/-- **A document of texts is read back** as the value that it was written
for, with blanks behind it. -/
theorem parse?_pretty {j : Json} (h : j.Textual) {behind : String} (hbehind : Blank behind.toList) :
    parse? (j.pretty ++ behind) = some j := by
  have hroom : 2 * (prettyAt 0 j).toList.length ≤ 2 * (prettyAt 0 j ++ behind).length + 2 := by
    rw [← String.length_toList, String.toList_append, List.length_append]
    omega
  have hblank : skip behind.toList = [] := by
    rw [← List.append_nil behind.toList, skip_append hbehind]
    rfl
  rw [parse?, pretty, String.toList_append, (readsBack_of_textual h).reads 0 _ _ hroom]
  simp only [hblank, List.isEmpty_nil, if_true]

end Storefront.Json
