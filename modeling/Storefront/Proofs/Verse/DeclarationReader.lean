import Storefront.Proofs.Results
import Storefront.Proofs.Verse.FieldReader
/-!
# Verse — reading a declaration

A reader for the paragraphs of a module. An info module, and a class
whose base is known from the kind it stands for, is read between a fixed
opening and a fixed closing; an entitlement has a base of its own, so its
name ends at the first angle bracket. A declaration is legible when the
reader of its module finds it again and its lines are indented.
-/

namespace Storefront.Verse

open Text

/-- The fields of a declaration. -/
def Declaration.fields : Declaration → List Field
  | fieldModule _ fields => fields
  | abstractClasses _ => []
  | concreteClass _ _ fields => fields

/-- The values that a declaration gives to the fields of a name. -/
def Declaration.valuesOf (d : Declaration) (field : String) : List Value :=
  (d.fields.filter fun f => f.name == field).map Field.value

/-- The name in the line of a module, or of a class with a known base,
up to `closing`. -/
def readName? (closing line : String) : Option String := do
  let name ← before? closing (← after? (indent 1 "") line.toList)
  return String.ofList name

/-- What follows the name of a concrete class with a base. -/
def classClosing (base : String) : String := "<public> := class<concrete>(" ++ base ++ "):"

theorem toList_classClosing (base : String) : (classClosing base).toList =
    "<public> := class<concrete>(".toList ++ (base.toList ++ "):".toList) := by
  have h : classClosing base = "<public> := class<concrete>(" ++ base ++ "):" := rfl
  simp [h]

/-- The name in the line of a class, up to the first angle bracket, and
what follows it. -/
def cutName? (line : String) : Option (String × String) := do
  let (name, rest) := upTo '<' (← after? (indent 1 "") line.toList)
  return (String.ofList name, String.ofList rest)

/-- The name in the line of an abstract class. -/
def readAbstract? (line : String) : Option String := do
  let (name, rest) ← cutName? line
  if rest = "<public> := class<abstract>(entitlement)\x7b\x7d" then some name else none

/-- The name and the base in the line of a concrete class whose name
holds no angle bracket. -/
def readClass? (line : String) : Option (String × String) := do
  let (name, rest) ← cutName? line
  let base ← before? "):" (← after? "<public> := class<concrete>(" rest.toList)
  return (name, String.ofList base)

/-- The declaration that a paragraph of a module writes. The bases of
offers and bundles are fixed, so their names may hold anything. -/
def Declaration.read? (home : Kind) (lines : Paragraph) : Option Declaration :=
  match lines with
  | [] => none
  | first :: rest =>
    match home with
    | .info => do
      let name ← readName? "<public> := module:" first
      return .fieldModule name (← rest.mapM Field.read?)
    | .entitlement =>
      match lines.mapM readAbstract? with
      | some names => some (.abstractClasses names)
      | none => do
        let (name, base) ← readClass? first
        return .concreteClass name base (← rest.mapM Field.read?)
    | .offer => do
      let name ← readName? (classClosing "entitlement_offer") first
      return .concreteClass name "entitlement_offer" (← rest.mapM Field.read?)
    | .bundle => do
      let name ← readName? (classClosing "bundle_offer") first
      return .concreteClass name "bundle_offer" (← rest.mapM Field.read?)

/-! ## Reading back what was written -/

@[simp] theorem readName?_append (name closing : String) :
    readName? closing (indent 1 (name ++ closing)) = some name := by
  have hline : (indent 1 (name ++ closing)).toList =
      (indent 1 "").toList ++ (name.toList ++ closing.toList) := by
    simp [indent]
  rw [readName?, hline, after?_append]
  simp only [Option.bind_eq_bind, Option.bind_some, before?_append, String.ofList_toList,
    Option.pure_def]

/-- The name of a class ends at its specifier. -/
theorem cutName?_indent {name : String} (rest : String) (h : '<' ∉ name.toList)
    (hrest : rest.toList.head? = some '<') :
    cutName? (indent 1 (name ++ rest)) = some (name, rest) := by
  obtain ⟨cs, hcs⟩ := List.head?_eq_some_iff.1 hrest
  have hline : (indent 1 (name ++ rest)).toList =
      (indent 1 "").toList ++ (name.toList ++ '<' :: cs) := by
    simp [indent, hcs]
  have hback : String.ofList ('<' :: cs) = rest := by rw [← hcs, String.ofList_toList]
  rw [cutName?, hline, after?_append]
  simp only [Option.bind_eq_bind, Option.bind_some, upTo_append h, hback, String.ofList_toList,
    Option.pure_def]

@[simp] theorem readAbstract?_line {name : String} (h : '<' ∉ name.toList) :
    readAbstract? (abstractLine name) = some name := by
  have hcut := cutName?_indent "<public> := class<abstract>(entitlement)\x7b\x7d" h
    (by simp)
  have hline : abstractLine name =
      indent 1 (name ++ "<public> := class<abstract>(entitlement)\x7b\x7d") := rfl
  simp [readAbstract?, hline, hcut]

/-- A concrete class is no abstract one. -/
theorem readAbstract?_class {name base : String} (h : '<' ∉ name.toList) :
    readAbstract? (indent 1 (name ++ classClosing base)) = none := by
  have hcut := cutName?_indent (classClosing base) h (by simp [toList_classClosing])
  have hne : classClosing base ≠ "<public> := class<abstract>(entitlement)\x7b\x7d" := by
    simp [toList_classClosing, ← String.toList_inj]
  simp [readAbstract?, hcut, hne]

theorem readClass?_class {name base : String} (h : '<' ∉ name.toList) :
    readClass? (indent 1 (name ++ classClosing base)) = some (name, base) := by
  have hcut := cutName?_indent (classClosing base) h (by simp [toList_classClosing])
  simp only [readClass?, hcut, toList_classClosing, Option.bind_eq_bind, Option.bind_some,
    after?_append, before?_append, String.ofList_toList, Option.pure_def]

/-! ## Legible declarations -/

theorem lines_fieldModule (name : String) (fields : List Field) :
    (Declaration.fieldModule name fields).lines =
      indent 1 (name ++ "<public> := module:") :: fields.map Field.line := rfl

theorem lines_abstractClasses (names : List String) :
    (Declaration.abstractClasses names).lines = names.map abstractLine := rfl

theorem lines_concreteClass (name base : String) (fields : List Field) :
    (Declaration.concreteClass name base fields).lines =
      indent 1 (name ++ classClosing base) :: fields.map Field.line := by
  have hlines : (Declaration.concreteClass name base fields).lines =
      indent 1 (name ++ "<public> := class<concrete>(" ++ base ++ "):") ::
        fields.map Field.line := rfl
  have hhead : name ++ "<public> := class<concrete>(" ++ base ++ "):" =
      name ++ classClosing base := by
    simp [toList_classClosing, ← String.toList_inj]
  rw [hlines, hhead]

/-- **A declaration that a reader of its module understands.** Its lines
are indented, so that none of them is empty or opens a module. -/
structure Declaration.Legible (home : Kind) (d : Declaration) : Prop where
  read : Declaration.read? home d.lines = some d
  singleLine : ∀ l ∈ d.lines, SingleLine l
  indented : ∀ l ∈ d.lines, l.toList.head? = some ' '

theorem mapM_read?_line {fields : List Field} (h : ∀ f ∈ fields, f.Legible) :
    (fields.map Field.line).mapM Field.read? = some fields :=
  mapM_map_eq_some fun f hf => Field.read?_line (h f hf)

/-- What a first line and fields of one line have in common. -/
theorem lines_cons_fields {first : String} {fields : List Field} (hfirst : SingleLine first)
    (h : ∀ f ∈ fields, SingleLine f.line) :
    ∀ l ∈ indent 1 first :: fields.map Field.line,
      SingleLine l ∧ l.toList.head? = some ' ' := by
  intro l hl
  rcases List.mem_cons.1 hl with rfl | hl
  · exact ⟨singleLine_indent.2 hfirst, head?_indent_succ 0 first⟩
  · obtain ⟨f, hf, rfl⟩ := List.mem_map.1 hl
    exact ⟨h f hf, head?_indent_succ 1 _⟩

theorem singleLine_classClosing {base : String} (h : SingleLine base) :
    SingleLine (classClosing base) := by
  simp only [SingleLine] at h
  simp [SingleLine, toList_classClosing, h]

theorem legible_fieldModule {name : String} {fields : List Field} (hname : SingleLine name)
    (h : ∀ f ∈ fields, f.Legible) :
    (Declaration.fieldModule name fields).Legible .info := by
  have hclosing : SingleLine "<public> := module:" := by decide
  have hlines := lines_cons_fields (singleLine_append.2 ⟨hname, hclosing⟩)
    fun f hf => (h f hf).singleLine
  refine ⟨?_, fun l hl => (hlines l hl).1, fun l hl => (hlines l hl).2⟩
  simp [lines_fieldModule, Declaration.read?, mapM_read?_line h]

theorem legible_abstractClasses {names : List String} (hne : names ≠ [])
    (hname : ∀ n ∈ names, '<' ∉ n.toList ∧ SingleLine n) :
    (Declaration.abstractClasses names).Legible .entitlement := by
  have hline : ∀ n, abstractLine n =
      indent 1 (n ++ "<public> := class<abstract>(entitlement)\x7b\x7d") := fun _ => rfl
  refine ⟨?_, fun l hl => ?_, fun l hl => ?_⟩
  · have hread : (names.map abstractLine).mapM readAbstract? = some names :=
      mapM_map_eq_some fun n hn => readAbstract?_line (hname n hn).1
    obtain ⟨n, ns, rfl⟩ := List.exists_cons_of_ne_nil hne
    rw [lines_abstractClasses]
    rw [List.map_cons] at hread ⊢
    simp only [Declaration.read?, hread]
  · obtain ⟨n, hn, rfl⟩ := List.mem_map.1 hl
    rw [hline, singleLine_indent, singleLine_append]
    exact ⟨(hname n hn).2, by decide⟩
  · obtain ⟨n, -, rfl⟩ := List.mem_map.1 hl
    rw [hline]
    exact head?_indent_succ 0 _

theorem legible_entitlementClass {name base : String} {fields : List Field}
    (hname : '<' ∉ name.toList) (hline : SingleLine name) (hbase : SingleLine base)
    (h : ∀ f ∈ fields, f.Legible) :
    (Declaration.concreteClass name base fields).Legible .entitlement := by
  have hlines := lines_cons_fields
    (singleLine_append.2 ⟨hline, singleLine_classClosing hbase⟩) fun f hf => (h f hf).singleLine
  rw [← lines_concreteClass] at hlines
  refine ⟨?_, fun l hl => (hlines l hl).1, fun l hl => (hlines l hl).2⟩
  simp [lines_concreteClass, Declaration.read?, List.mapM_cons, readAbstract?_class hname,
    readClass?_class hname, mapM_read?_line h]

/-- The class that every entry of a kind extends, where there is one. -/
def fixedBase? : Kind → Option String
  | .offer => some "entitlement_offer"
  | .bundle => some "bundle_offer"
  | _ => none

theorem legible_class {home : Kind} {name base : String} {fields : List Field}
    (hbase : fixedBase? home = some base) (hline : SingleLine name)
    (h : ∀ f ∈ fields, f.Legible) :
    (Declaration.concreteClass name base fields).Legible home := by
  have hbase' : SingleLine base := by
    cases home <;> simp [fixedBase?] at hbase <;> subst hbase <;> decide
  have hlines := lines_cons_fields
    (singleLine_append.2 ⟨hline, singleLine_classClosing hbase'⟩) fun f hf => (h f hf).singleLine
  rw [← lines_concreteClass] at hlines
  refine ⟨?_, fun l hl => (hlines l hl).1, fun l hl => (hlines l hl).2⟩
  cases home <;> simp [fixedBase?] at hbase <;> subst hbase <;>
    simp [lines_concreteClass, Declaration.read?, mapM_read?_line h]

end Storefront.Verse
