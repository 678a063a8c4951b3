import Storefront.Proofs.Text.Numeral
import Storefront.Proofs.Verse.Layout
import Storefront.Verse.Declaration
/-!
# Verse — reading a field

A reader for the lines inside a declaration. A field names itself, its
specifiers and its type before its value, so the value is read by the
type: a message between quotes is a text, one without them a delegation
to an info module. Every value is read back from its text as long as the
names in a list of tuples hold no brace (`tuples?_tail`); a field is read
back when its value is (`Field.read?_line`).
-/

namespace Storefront.Verse

open Text

/-- The kind whose module has a name. -/
def homeOf? (cs : List Char) : Option Kind :=
  Kind.all.find? fun k => moduleName k == String.ofList cs

@[simp] theorem homeOf?_moduleName (k : Kind) :
    homeOf? (moduleName k).toList = some k := by
  cases k <;> simp [homeOf?, Kind.all, moduleName]

/-- The name of a module holds no dot. -/
theorem dot_not_mem_moduleName (k : Kind) : '.' ∉ (moduleName k).toList := by
  cases k <;> simp [moduleName]

/-- The qualified name that a text writes. -/
def QualifiedName.read? (cs : List Char) : Option QualifiedName := do
  let (home, rest) := upTo '.' cs
  let home ← homeOf? home
  let name ← after? "." rest
  return ⟨home, String.ofList name⟩

@[simp] theorem QualifiedName.read?_text (q : QualifiedName) :
    QualifiedName.read? q.text.toList = some q := by
  have hcut : upTo '.' q.text.toList = ((moduleName q.home).toList, '.' :: q.name.toList) := by
    have h : q.text.toList = (moduleName q.home).toList ++ '.' :: q.name.toList := by
      simp [QualifiedName.text]
    rw [h, upTo_append (dot_not_mem_moduleName q.home)]
  have hname : after? "." ('.' :: q.name.toList) = some q.name.toList :=
    after?_append "." _
  simp [QualifiedName.read?, hcut, hname]

/-! ## Lists of tuples

A list of tuples is cut at its opening braces: what stands between two of
them closes one tuple and opens the next. -/

/-- The tuples whose first name is at hand, from the pieces behind their
opening braces. -/
def tuplesFrom? (name : List Char) : List (List Char) → Option (List (QualifiedName × UInt32))
  | [] => none
  | piece :: pieces => do
    let name ← QualifiedName.read? name
    let (count, rest) := upTo ')' (← after? "\x7d, " piece)
    let count ← uint32? count
    match pieces with
    | [] => if rest = [')'] then some [(name, count)] else none
    | _ :: _ => return (name, count) :: (← tuplesFrom? (← after? "), (" rest) pieces)

/-- The tuples that a text lists. -/
def tuples? (cs : List Char) : Option (List (QualifiedName × UInt32)) :=
  match cs.splitOn '\x7b' with
  | [] => none
  | first :: pieces =>
    if first = [] then some [] else do tuplesFrom? (← after? "(" first) pieces

/-- What follows the first opening brace of a list of tuples. -/
def tupleTail (count : UInt32) : List (QualifiedName × UInt32) → String
  | [] => "\x7d, " ++ toString count ++ ")"
  | (name, next) :: items =>
    "\x7d, " ++ toString count ++ "), (" ++ name.text ++ "\x7b" ++ tupleTail next items

/-- A list of tuples is a name, its opening brace, and the rest. -/
theorem intercalate_tupleText (name : QualifiedName) (count : UInt32)
    (items : List (QualifiedName × UInt32)) :
    ", ".intercalate (((name, count) :: items).map tupleText) =
      "(" ++ name.text ++ "\x7b" ++ tupleTail count items := by
  induction items generalizing name count with
  | nil => simp [tupleText, tupleTail, ← String.toList_inj]
  | cons item items ih =>
    obtain ⟨next, n⟩ := item
    rw [List.map_cons, List.map_cons, String.intercalate_cons_cons, ← List.map_cons, ih]
    simp [tupleText, tupleTail, ← String.toList_inj]

/-- The number of copies ends at the bracket behind it. -/
theorem upTo_count (count : UInt32) (rest : List Char) :
    upTo ')' ((toString count).toList ++ ')' :: rest) =
      ((toString count).toList, ')' :: rest) :=
  upTo_append (not_mem_uint32 (by decide))

/-- A qualified name holds an opening brace only where its name does. -/
theorem brace_not_mem_text {q : QualifiedName} (h : '\x7b' ∉ q.name.toList) :
    '\x7b' ∉ q.text.toList := by
  have hhome : '\x7b' ∉ (moduleName q.home).toList := by
    cases q.home <;> simp [moduleName]
  simp [QualifiedName.text, hhome, h]

/-- **The rest of a list of tuples is read back**, by induction on the
tuples it holds. -/
theorem tuplesFrom?_tail (name : QualifiedName) (count : UInt32)
    {items : List (QualifiedName × UInt32)} (h : ∀ i ∈ items, '\x7b' ∉ i.1.name.toList) :
    tuplesFrom? name.text.toList ((tupleTail count items).toList.splitOn '\x7b') =
      some ((name, count) :: items) := by
  induction items generalizing name count with
  | nil =>
    have hsplit : (tupleTail count []).toList.splitOn '\x7b' = [(tupleTail count []).toList] := by
      refine List.splitOn_eq_singleton ?_
      simp [tupleTail, not_mem_uint32 (n := count) (c := '\x7b') (by decide)]
    have hopen : after? "\x7d, " (tupleTail count []).toList =
        some ((toString count).toList ++ [')']) := by
      rw [tupleTail, String.append_assoc, String.toList_append, after?_append]
      simp
    rw [hsplit]
    simp [tuplesFrom?, hopen, upTo_count]
  | cons item items ih =>
    obtain ⟨next, n⟩ := item
    have hnext : '\x7b' ∉ next.text.toList :=
      brace_not_mem_text (h (next, n) List.mem_cons_self)
    have ih := ih next n fun i hi => h i (List.mem_cons_of_mem _ hi)
    -- the piece up to the next opening brace
    obtain ⟨piece, hpiece⟩ : ∃ piece, piece =
      "\x7d, ".toList ++ ((toString count).toList ++ ("), (".toList ++ next.text.toList)) :=
      ⟨_, rfl⟩
    have hsplit : (tupleTail count ((next, n) :: items)).toList.splitOn '\x7b' =
        piece :: (tupleTail n items).toList.splitOn '\x7b' := by
      have htail : (tupleTail count ((next, n) :: items)).toList =
          piece ++ '\x7b' :: (tupleTail n items).toList := by
        simp [tupleTail, hpiece]
      rw [htail]
      refine List.splitOn_append_cons_self_of_not_mem ?_ _
      simp [hpiece, hnext, not_mem_uint32 (n := count) (c := '\x7b') (by decide)]
    have hopen : after? "\x7d, " piece =
        some ((toString count).toList ++ ("), (".toList ++ next.text.toList)) := by
      rw [hpiece, after?_append]
    have hcut : upTo ')' ((toString count).toList ++ ("), (".toList ++ next.text.toList)) =
        ((toString count).toList, "), (".toList ++ next.text.toList) := by
      simpa using upTo_count count (", (".toList ++ next.text.toList)
    rw [hsplit]
    obtain ⟨p, ps, hps⟩ : ∃ p ps, (tupleTail n items).toList.splitOn '\x7b' = p :: ps :=
      List.exists_cons_of_ne_nil (List.splitOn_ne_nil _ _)
    rw [hps] at ih ⊢
    rw [tuplesFrom?]
    simp only [QualifiedName.read?_text, hopen, hcut, uint32?_toString, after?_append, ih,
      Option.bind_eq_bind, Option.bind_some, Option.pure_def]

/-- **A list of tuples is read back.** -/
theorem tuples?_intercalate {items : List (QualifiedName × UInt32)}
    (h : ∀ i ∈ items, '\x7b' ∉ i.1.name.toList) :
    tuples? (", ".intercalate (items.map tupleText)).toList = some items := by
  cases items with
  | nil => rfl
  | cons item items =>
    obtain ⟨name, count⟩ := item
    have hname : '\x7b' ∉ name.text.toList :=
      brace_not_mem_text (h (name, count) List.mem_cons_self)
    have hopen : after? "(" ('(' :: name.text.toList) = some name.text.toList :=
      after?_append "(" _
    have hsplit : (", ".intercalate (((name, count) :: items).map tupleText)).toList.splitOn
        '\x7b' = ('(' :: name.text.toList) :: (tupleTail count items).toList.splitOn '\x7b' := by
      rw [intercalate_tupleText]
      have htext : ("(" ++ name.text ++ "\x7b" ++ tupleTail count items).toList =
          ('(' :: name.text.toList) ++ '\x7b' :: (tupleTail count items).toList := by
        simp
      rw [htext]
      refine List.splitOn_append_cons_self_of_not_mem ?_ _
      simp [hname]
    have htail := tuplesFrom?_tail name count
      fun i hi => h i (List.mem_cons_of_mem _ hi)
    rw [tuples?, hsplit]
    simp [hopen, htail]

/-! ## Values and fields -/

/-- The text between the quotes of a message. -/
def literal? (cs : List Char) : Option Value := do
  let text ← before? "\"" (← after? "\"" cs)
  return .literal (String.ofList text)

/-- The delegation of a message to the field of the same name of an info
module. -/
def displayText? (field : String) (cs : List Char) : Option Value := do
  let infoModule ← before? ("." ++ field) (← after? (moduleName .info ++ ".") cs)
  return .displayText (String.ofList infoModule) field

/-- The truth value that a word stands for. -/
def logic? (word : String) : Option Value :=
  if word = "true" then some (.logic true)
  else if word = "false" then some (.logic false)
  else none

/-- The items of an array. -/
def array? (cs : List Char) : Option Value := do
  let items ← before? "\x7d" (← after? "array\x7b" cs)
  return .tuples (← tuples? items)

/-- The amount in a price. -/
def price? (cs : List Char) : Option Value := do
  let amount ← before? ".0)" (← after? "MakeVBucksPriceDimension(" cs)
  return .price (← int64? amount)

/-- The value that a text writes for a field of a type. -/
def Value.read? (field type : String) (cs : List Char) : Option Value :=
  if type = "message" then (literal? cs).or (displayText? field cs)
  else if type = "texture" then some (.verbatim (String.ofList cs))
  else if type = "logic" then logic? (String.ofList cs)
  else if type = "int" then (int64? cs).map .int
  else if type = "castable_subtype(entitlement)" then (QualifiedName.read? cs).map .classRef
  else if type = "[]tuple(offer, int)" then array? cs
  else if type = "price_dimension" then price? cs
  else none

@[simp] theorem literal?_text (text : String) :
    literal? (Value.literal text).text.toList = some (.literal text) := by
  have htext : (Value.literal text).text.toList =
      "\"".toList ++ (text.toList ++ "\"".toList) := by
    simp
  rw [htext, literal?, after?_append]
  simp only [Option.bind_eq_bind, Option.bind_some, before?_append, String.ofList_toList,
    Option.pure_def]

/-- A delegation is not a text between quotes. -/
theorem literal?_displayText (infoModule field : String) :
    literal? (Value.displayText infoModule field).text.toList = none := by
  have h : ∀ cs, after? "\"" ('E' :: cs) = none := by simp [after?, List.dropPrefix?]
  simp [literal?, moduleName, h]

@[simp] theorem displayText?_text (infoModule field : String) :
    displayText? field (Value.displayText infoModule field).text.toList =
      some (.displayText infoModule field) := by
  have htext : (Value.displayText infoModule field).text.toList =
      (moduleName .info ++ ".").toList ++ (infoModule.toList ++ ("." ++ field).toList) := by
    simp
  rw [htext, displayText?, after?_append]
  simp only [Option.bind_eq_bind, Option.bind_some, before?_append, String.ofList_toList,
    Option.pure_def]

theorem array?_text {items : List (QualifiedName × UInt32)}
    (h : ∀ i ∈ items, '\x7b' ∉ i.1.name.toList) :
    array? (Value.tuples items).text.toList = some (.tuples items) := by
  have htext : (Value.tuples items).text.toList = "array\x7b".toList ++
      ((", ".intercalate (items.map tupleText)).toList ++ "\x7d".toList) := by
    simp
  rw [htext, array?, after?_append]
  simp only [Option.bind_eq_bind, Option.bind_some, before?_append, tuples?_intercalate h,
    Option.pure_def]

@[simp] theorem price?_text (n : Int64) :
    price? (Value.price n).text.toList = some (.price n) := by
  have htext : (Value.price n).text.toList =
      "MakeVBucksPriceDimension(".toList ++ ((toString n).toList ++ ".0)".toList) := by
    simp
  rw [htext, price?, after?_append]
  simp only [Option.bind_eq_bind, Option.bind_some, before?_append, int64?_toString,
    Option.pure_def]

/-! Each value is read back under the type of the fields it stands in. -/

theorem Value.read?_literal (field text : String) :
    Value.read? field "message" (Value.literal text).text.toList = some (.literal text) := by
  simp only [Value.read?, ↓reduceIte, literal?_text, Option.some_or]

theorem Value.read?_displayText (infoModule field : String) :
    Value.read? field "message" (Value.displayText infoModule field).text.toList =
      some (.displayText infoModule field) := by
  simp only [Value.read?, ↓reduceIte, literal?_displayText, displayText?_text, Option.none_or]

theorem Value.read?_verbatim (field text : String) :
    Value.read? field "texture" (Value.verbatim text).text.toList = some (.verbatim text) := by
  simp [Value.read?]

theorem Value.read?_logic (field : String) (b : Bool) :
    Value.read? field "logic" (Value.logic b).text.toList = some (.logic b) := by
  cases b <;> simp [Value.read?, logic?]

theorem Value.read?_int (field : String) (n : Int64) :
    Value.read? field "int" (Value.int n).text.toList = some (.int n) := by
  simp [Value.read?]

theorem Value.read?_classRef (field : String) (q : QualifiedName) :
    Value.read? field "castable_subtype(entitlement)" (Value.classRef q).text.toList =
      some (.classRef q) := by
  simp [Value.read?]

theorem Value.read?_tuples {items : List (QualifiedName × UInt32)} (field : String)
    (h : ∀ i ∈ items, '\x7b' ∉ i.1.name.toList) :
    Value.read? field "[]tuple(offer, int)" (Value.tuples items).text.toList =
      some (.tuples items) := by
  simp only [Value.read?, String.reduceEq, ↓reduceIte, array?_text h]

theorem Value.read?_price (field : String) (n : Int64) :
    Value.read? field "price_dimension" (Value.price n).text.toList = some (.price n) := by
  simp only [Value.read?, String.reduceEq, ↓reduceIte, price?_text]

/-- The field that a line writes. -/
def Field.read? (line : String) : Option Field := do
  let (name, rest) := upTo '<' (← after? (indent 2 "") line.toList)
  let (specifiers, rest) := upTo ':' rest
  let (type, rest) := upTo '=' (← after? ":" rest)
  let type ← before? " " type
  let value ← Value.read? (String.ofList name) (String.ofList type) (← after? "= " rest)
  return ⟨String.ofList name, String.ofList specifiers, String.ofList type, value⟩

/-- A field of one line whose value is written the way its type is read. -/
structure Field.Legible (f : Field) : Prop where
  singleLine : SingleLine f.line
  name : '<' ∉ f.name.toList
  specifiers : ∃ s, f.specifiers.toList = '<' :: s ∧ ':' ∉ s
  type : '=' ∉ f.type.toList
  value : Value.read? f.name f.type f.value.text.toList = some f.value

/-- **A legible field is read back from its line.** -/
theorem Field.read?_line {f : Field} (h : f.Legible) : Field.read? f.line = some f := by
  obtain ⟨s, hs, hcolon⟩ := h.specifiers
  have hspecifiers : String.ofList ('<' :: s) = f.specifiers := by
    rw [← hs, String.ofList_toList]
  -- the line behind its indentation, cut at the three signs in turn
  have hopen : after? (indent 2 "") f.line.toList =
      some (f.name.toList ++ '<' :: (s ++ ':' :: ((f.type.toList ++ [' ']) ++
        '=' :: ' ' :: f.value.text.toList))) := by
    have hline : f.line.toList = (indent 2 "").toList ++ (f.name.toList ++ '<' :: (s ++ ':' ::
        ((f.type.toList ++ [' ']) ++ '=' :: ' ' :: f.value.text.toList))) := by
      simp [Field.line, indent, hs]
    rw [hline, after?_append]
  have hcolon' : ':' ∉ '<' :: s := by simp [hcolon]
  have htype : '=' ∉ f.type.toList ++ [' '] := by simp [h.type]
  have hbehind : ∀ cs, after? ":" (':' :: cs) = some cs := fun cs =>
    after?_append ":" _
  have hblank : before? " " (f.type.toList ++ [' ']) = some f.type.toList :=
    before?_append " " _
  have hvalue : after? "= " ('=' :: ' ' :: f.value.text.toList) = some f.value.text.toList :=
    after?_append "= " _
  have hcut : upTo ':' ('<' :: (s ++ ':' :: ((f.type.toList ++ [' ']) ++
      '=' :: ' ' :: f.value.text.toList))) = ('<' :: s, ':' :: ((f.type.toList ++ [' ']) ++
        '=' :: ' ' :: f.value.text.toList)) := upTo_append hcolon'
  simp only [Field.read?, hopen, Option.bind_eq_bind, Option.bind_some, upTo_append h.name, hcut,
    hbehind, upTo_append htype, hblank, hvalue, String.ofList_toList, h.value, hspecifiers,
    Option.pure_def]

end Storefront.Verse
