import Mathlib.Data.List.DropRight
import Storefront.Proofs.Verse.DeclarationReader
import Storefront.Verse.Calls
/-!
# Verse — reading a call-site document

A reader for the two call-site documents. The condition of a purchase
names the class that is bought, and so the name is known when the remark
above it is read; the remark above a consumption ends in the quantity,
so its last digits are cut off first. A document of stanzas whose names
are of one line is read back (`readCalls?_documentText`), whatever else
the names hold.
-/

namespace Storefront.Verse

open Text

/-- What stands in a line between an opening and a closing. -/
def between? (opening closing line : String) : Option String := do
  let part ← before? closing (← after? opening line.toList)
  return String.ofList part

/-- The class that a condition buys. -/
def bought? (condition : String) : Option QualifiedName := do
  let name ← between? "if (BuyOffer(Agent, " "\x7b\x7d)?):" condition
  QualifiedName.read? name.toList

/-- The purchase of an offer under a remark. -/
def buyOffer? (name remark : String) : Option Stanza := do
  let amount ← between? ("# Offer: " ++ name ++ " | Price: ") " V-Bucks" remark
  return .buyOffer name (.vbucks (← int64? amount.toList))

/-- The purchase of a bundle under a remark. -/
def buyBundle? (name remark : String) : Option Stanza := do
  let counts ← after? ("# Bundle: " ++ name ++ " | Items: ") remark.toList
  let (items, rest) := upTo ' ' counts
  let items ← (String.ofList items).toNat?
  let amount ← between? " | Price: " " V-Bucks" (String.ofList rest)
  return .buyBundle name items (.vbucks (← int64? amount.toList))

/-- The use of an entitlement under a remark. -/
def consume? (remark : String) : Option Stanza := do
  let quantity := remark.toList.rtakeWhile Char.isDigit
  let name ← between? "# Consume: " (" | Count: " ++ String.ofList quantity) remark
  return .consume name (← uint32? quantity)

/-- The stanza that a paragraph writes. -/
def Stanza.read? (lines : Paragraph) : Option Stanza :=
  match lines with
  | [text] => some (.note text)
  | [remark, condition, _, _, _] =>
    match bought? condition with
    | some ⟨.offer, name⟩ => buyOffer? name remark
    | some ⟨.bundle, name⟩ => buyBundle? name remark
    | some _ => none
    | none => consume? remark
  | _ => none

/-- The stanzas that a call-site document writes under its banner. -/
def readCalls? (banner : Paragraph) (text : String) : Option (List Stanza) :=
  match (lines text).splitOn "" with
  | [] => none
  | first :: rest => if first = banner then rest.mapM Stanza.read? else none

/-! ## Reading back what was written -/

@[simp] theorem between?_append (opening part closing : String) :
    between? opening closing (opening ++ part ++ closing) = some part := by
  have hline : (opening ++ part ++ closing).toList =
      opening.toList ++ (part.toList ++ closing.toList) := by
    simp
  rw [between?, hline, after?_append]
  simp only [Option.bind_eq_bind, Option.bind_some, before?_append, String.ofList_toList,
    Option.pure_def]

/-- The condition of a purchase. -/
def buyCondition (name : QualifiedName) : String :=
  "if (" ++ ("BuyOffer(Agent, " ++ name.text ++ "\x7b\x7d)?") ++ "):"

theorem bought?_buyCondition (name : QualifiedName) : bought? (buyCondition name) = some name := by
  have hline : buyCondition name = "if (BuyOffer(Agent, " ++ name.text ++ "\x7b\x7d)?):" := by
    simp [buyCondition, ← String.toList_inj]
  rw [bought?, hline, between?_append]
  exact QualifiedName.read?_text name

/-- The condition of a consumption. -/
def consumeCondition (name : String) (quantity : UInt32) : String :=
  "if (" ++ ("ConsumeEntitlement(Agent, " ++ QualifiedName.text ⟨.entitlement, name⟩ ++
    ", ?Count := " ++ toString quantity ++ ")?") ++ "):"

/-- A consumption buys nothing. -/
theorem bought?_consumeCondition (name : String) (quantity : UInt32) :
    bought? (consumeCondition name quantity) = none := by
  have hopen : after? "if (BuyOffer(Agent, " (consumeCondition name quantity).toList = none := by
    simp [consumeCondition, after?, List.dropPrefix?]
  simp [bought?, between?, hopen]

/-- A price is annotated with its amount. -/
theorem price_text (p : Price) : p.text = toString p.amount ++ " V-Bucks" := by
  simp [Price.text, Currency.title, ← String.toList_inj]

theorem buyOffer?_remark (name : String) (p : Price) :
    buyOffer? name ("# Offer: " ++ name ++ " | Price: " ++ p.text) = some (.buyOffer name p) := by
  have hline : "# Offer: " ++ name ++ " | Price: " ++ p.text =
      "# Offer: " ++ name ++ " | Price: " ++ toString p.amount ++ " V-Bucks" := by
    rw [price_text]
    simp [← String.toList_inj]
  rw [hline, buyOffer?, between?_append]
  simp [Price.vbucks]

/-- The number of items ends at the blank behind it. -/
theorem buyBundle?_remark (name : String) (items : Nat) (p : Price) :
    buyBundle? name ("# Bundle: " ++ name ++ " | Items: " ++ toString items ++ " | Price: " ++
      p.text) = some (.buyBundle name items p) := by
  have hopen : after? ("# Bundle: " ++ name ++ " | Items: ") ("# Bundle: " ++ name ++
      " | Items: " ++ toString items ++ " | Price: " ++ p.text).toList =
        some ((toString items).toList ++ ' ' :: ("| Price: " ++ p.text).toList) := by
    have hline : ("# Bundle: " ++ name ++ " | Items: " ++ toString items ++ " | Price: " ++
        p.text).toList = ("# Bundle: " ++ name ++ " | Items: ").toList ++
          ((toString items).toList ++ ' ' :: ("| Price: " ++ p.text).toList) := by
      simp
    rw [hline, after?_append]
  have hblank : ' ' ∉ (toString items).toList := not_mem_nat (by decide)
  have hprice : String.ofList (' ' :: ("| Price: " ++ p.text).toList) =
      " | Price: " ++ toString p.amount ++ " V-Bucks" := by
    rw [price_text]
    simp [← String.toList_inj]
  have hitems : (toString items).toNat? = some items := Nat.toNat?_repr items
  simp only [buyBundle?, hopen, upTo_append hblank, hprice, between?_append, Option.bind_eq_bind,
    Option.bind_some, String.ofList_toList, hitems, int64?_toString]
  simp [Price.vbucks]

/-- The quantity is the numeral at the end. -/
theorem consume?_remark (name : String) (quantity : UInt32) :
    consume? ("# Consume: " ++ name ++ " | Count: " ++ toString quantity) =
      some (.consume name quantity) := by
  have hnumeral : ("# Consume: " ++ name ++ " | Count: " ++
      toString quantity).toList.rtakeWhile Char.isDigit = (toString quantity).toList := by
    have hline : ("# Consume: " ++ name ++ " | Count: " ++ toString quantity).toList =
        ("# Consume: " ++ name ++ " | Count:").toList ++ ' ' :: (toString quantity).toList := by
      simp
    have hdigits : ∀ c ∈ (toString quantity).toList.reverse, c.isDigit = true := by
      intro c hc
      exact isDigit_of_mem_repr (n := quantity.toNat) (List.mem_reverse.1 hc)
    -- the blank in front of the numeral is no digit, so a name that ends in digits is not cut
    rw [hline, List.rtakeWhile, List.reverse_append, List.reverse_cons, List.append_assoc,
      List.takeWhile_append_of_pos hdigits]
    simp
  have hline : "# Consume: " ++ name ++ " | Count: " ++ toString quantity =
      "# Consume: " ++ name ++ (" | Count: " ++ toString quantity) := by
    simp [← String.toList_inj]
  rw [consume?, hnumeral, String.ofList_toList, hline, between?_append, uint32?_toString]
  rfl

/-- **A stanza is read back from its lines.** -/
theorem Stanza.read?_lines (s : Stanza) : Stanza.read? s.lines = some s := by
  cases s with
  | note text => rfl
  | buyOffer name price =>
    have hcondition := bought?_buyCondition ⟨.offer, name⟩
    simp only [Stanza.lines, buyLines, attempt, Stanza.read?]
    rw [← buyCondition, hcondition]
    exact buyOffer?_remark name price
  | buyBundle name items price =>
    have hcondition := bought?_buyCondition ⟨.bundle, name⟩
    simp only [Stanza.lines, buyLines, attempt, Stanza.read?]
    rw [← buyCondition, hcondition]
    exact buyBundle?_remark name items price
  | consume name quantity =>
    have hcondition := bought?_consumeCondition name quantity
    simp only [Stanza.lines, attempt, Stanza.read?]
    rw [← consumeCondition, hcondition]
    exact consume?_remark name quantity

/-! ## Whole documents -/

/-- **A stanza of unbroken lines**: its name holds no newline, and a note
is a line of its own. -/
def Stanza.Unbroken : Stanza → Prop
  | note text => SingleLine text ∧ text ≠ ""
  | buyOffer name _ => SingleLine name
  | buyBundle name _ _ => SingleLine name
  | consume name _ => SingleLine name

/-- The lines of a call are unbroken, and none is empty. -/
theorem singleLine_attempt {heading condition success failure : String}
    (hheading : SingleLine heading ∧ heading ≠ "") (hcondition : SingleLine condition)
    (hsuccess : SingleLine success) (hfailure : SingleLine failure) :
    ∀ l ∈ attempt heading condition success failure, SingleLine l ∧ l ≠ "" := by
  have hprint : ∀ text, SingleLine text →
      SingleLine (indent 1 ("Print(\"" ++ text ++ "\")")) ∧
        indent 1 ("Print(\"" ++ text ++ "\")") ≠ "" := by
    intro text htext
    refine ⟨?_, ?_⟩
    · simp only [singleLine_indent, singleLine_append]
      exact ⟨⟨by decide, htext⟩, by decide⟩
    · simp [indent, ← String.toList_inj]
  have hif : SingleLine ("if (" ++ condition ++ "):") ∧ "if (" ++ condition ++ "):" ≠ "" := by
    refine ⟨?_, by simp [← String.toList_inj]⟩
    simp only [singleLine_append]
    exact ⟨⟨by decide, hcondition⟩, by decide⟩
  simp only [attempt, List.forall_mem_cons, List.not_mem_nil, false_implies, implies_true,
    and_true]
  exact ⟨hheading, hif, hprint success hsuccess, by decide, hprint failure hfailure⟩

theorem singleLine_price (p : Price) : SingleLine p.text := by
  rw [price_text, singleLine_append]
  exact ⟨singleLine_int64 p.amount, by decide⟩

/-- The lines of a purchase are unbroken if its remark and its name are. -/
theorem singleLine_buyLines {heading : String} {name : QualifiedName}
    (hheading : SingleLine heading ∧ heading ≠ "") (hname : SingleLine name.name) :
    ∀ l ∈ buyLines heading name, SingleLine l ∧ l ≠ "" := by
  have hhome : SingleLine (moduleName name.home) := by
    cases name.home <;> decide
  refine singleLine_attempt hheading ?_ ?_ (by decide)
  · simp only [QualifiedName.text, singleLine_append]
    exact ⟨⟨by decide, ⟨hhome, by decide⟩, hname⟩, by decide⟩
  · exact singleLine_append.2 ⟨by decide, hname⟩

/-- **The lines of an unbroken stanza are unbroken, and none is empty.** -/
theorem Stanza.singleLine_lines {s : Stanza} (h : s.Unbroken) :
    ∀ l ∈ s.lines, SingleLine l ∧ l ≠ "" := by
  cases s with
  | note text => simpa [Stanza.lines, Stanza.Unbroken] using h
  | buyOffer name price =>
    refine singleLine_buyLines ⟨?_, by simp [← String.toList_inj]⟩ h
    simp only [singleLine_append]
    exact ⟨⟨⟨by decide, h⟩, by decide⟩, singleLine_price price⟩
  | buyBundle name items price =>
    have hitems : SingleLine (toString items) := not_mem_nat (by decide)
    refine singleLine_buyLines ⟨?_, by simp [← String.toList_inj]⟩ h
    simp only [singleLine_append]
    exact ⟨⟨⟨⟨⟨by decide, h⟩, by decide⟩, hitems⟩, by decide⟩, singleLine_price price⟩
  | consume name quantity =>
    have hquantity : SingleLine (toString quantity) := not_mem_uint32 (by decide)
    refine singleLine_attempt ⟨?_, by simp [← String.toList_inj]⟩ ?_ (by decide) (by decide)
    · simp only [singleLine_append]
      exact ⟨⟨⟨by decide, h⟩, by decide⟩, hquantity⟩
    · simp only [QualifiedName.text, singleLine_append]
      exact ⟨⟨⟨⟨by decide, ⟨by decide, by decide⟩, h⟩, by decide⟩, hquantity⟩, by decide⟩

/-- **The paragraphs of a call-site document** are its banner and its
stanzas. -/
theorem splitOn_lines_calls {banner : Paragraph} {stanzas : List Stanza}
    (hbanner : ∀ l ∈ banner, SingleLine l ∧ l ≠ "") (h : ∀ s ∈ stanzas, s.Unbroken) :
    (lines (documentText (banner :: stanzas.map Stanza.lines))).splitOn "" =
      banner :: stanzas.map Stanza.lines := by
  have hlines : ∀ p ∈ banner :: stanzas.map Stanza.lines, ∀ l ∈ p, SingleLine l ∧ l ≠ "" := by
    intro p hp
    rcases List.mem_cons.1 hp with rfl | hp
    · exact hbanner
    · obtain ⟨s, hs, rfl⟩ := List.mem_map.1 hp
      exact s.singleLine_lines (h s hs)
  exact splitOn_lines_documentText (by simp) (fun p hp l hl => (hlines p hp l hl).1)
    fun p hp hempty => (hlines p hp _ hempty).2 rfl

/-- **A call-site document is read back** as the stanzas it was written
from. -/
theorem readCalls?_documentText {banner : Paragraph} {stanzas : List Stanza}
    (hbanner : ∀ l ∈ banner, SingleLine l ∧ l ≠ "") (h : ∀ s ∈ stanzas, s.Unbroken) :
    readCalls? banner (documentText (banner :: stanzas.map Stanza.lines)) = some stanzas := by
  have hread : (stanzas.map Stanza.lines).mapM Stanza.read? = some stanzas :=
    mapM_map_eq_some fun s _ => s.read?_lines
  simp only [readCalls?, splitOn_lines_calls hbanner h, ↓reduceIte, hread]

end Storefront.Verse
