import Storefront.Catalog.Entry
import Storefront.Verse.Layout
/-!
# Verse — declarations

The declarations of a definitions document: modules of display texts,
abstract base classes, and concrete classes whose fields are overridden
by values. Declarations stand in four modules, one for each kind of
entry. Text is written as it is stored, without escapes, and a name is
written whether or not something declares it.
-/

namespace Storefront.Verse

/-- The module that holds the declarations of a kind. -/
def moduleName : Kind → String
  | .info => "EntitlementInfo"
  | .entitlement => "Entitlements"
  | .offer => "ExampleOffers"
  | .bundle => "BundleOffers"

/-- A name inside the module of a kind. -/
structure QualifiedName where
  home : Kind
  name : String
  deriving DecidableEq, Repr

/-- A qualified name as it is written. -/
def QualifiedName.text (q : QualifiedName) : String :=
  moduleName q.home ++ "." ++ q.name

/-- The value given to a field. -/
inductive Value where
  /-- A text between quotes. -/
  | literal (text : String)
  /-- A display text of an info module. -/
  | displayText (infoModule field : String)
  /-- An expression that is written as stored. -/
  | verbatim (text : String)
  | logic (value : Bool)
  | int (value : Int64)
  /-- A class by its qualified name. -/
  | classRef (name : QualifiedName)
  /-- Instances of classes, each with a number of copies. -/
  | tuples (items : List (QualifiedName × UInt32))
  /-- A price in V-Bucks. -/
  | price (amount : Int64)
  deriving DecidableEq, Repr

/-- One instance and its number of copies. -/
def tupleText (item : QualifiedName × UInt32) : String :=
  "(" ++ item.1.text ++ "\x7b\x7d, " ++ toString item.2 ++ ")"

/-- A value as it is written. -/
def Value.text : Value → String
  | literal text => "\"" ++ text ++ "\""
  | displayText infoModule field => moduleName .info ++ "." ++ infoModule ++ "." ++ field
  | verbatim text => text
  | logic value => if value then "true" else "false"
  | int value => toString value
  | classRef name => name.text
  | tuples items => "array\x7b" ++ ", ".intercalate (items.map tupleText) ++ "\x7d"
  | price amount => "MakeVBucksPriceDimension(" ++ toString amount ++ ".0)"

/-! The text of a value, constructor by constructor. -/

@[simp] theorem Value.text_literal (text : String) :
    (literal text).text = "\"" ++ text ++ "\"" := rfl

@[simp] theorem Value.text_displayText (infoModule field : String) :
    (displayText infoModule field).text =
      moduleName .info ++ "." ++ infoModule ++ "." ++ field := rfl

@[simp] theorem Value.text_verbatim (text : String) : (verbatim text).text = text := rfl

@[simp] theorem Value.text_logic (value : Bool) :
    (logic value).text = if value then "true" else "false" := rfl

@[simp] theorem Value.text_int (value : Int64) : (int value).text = toString value := rfl

@[simp] theorem Value.text_classRef (name : QualifiedName) :
    (classRef name).text = name.text := rfl

@[simp] theorem Value.text_tuples (items : List (QualifiedName × UInt32)) :
    (tuples items).text =
      "array\x7b" ++ ", ".intercalate (items.map tupleText) ++ "\x7d" := rfl

@[simp] theorem Value.text_price (amount : Int64) :
    (price amount).text = "MakeVBucksPriceDimension(" ++ toString amount ++ ".0)" := rfl

/-- A field with its specifiers, its type and its value. -/
structure Field where
  name : String
  specifiers : String
  type : String
  value : Value
  deriving DecidableEq, Repr

/-- A field as one line. -/
def Field.line (f : Field) : String :=
  indent 2 (f.name ++ f.specifiers ++ ":" ++ f.type ++ " = " ++ f.value.text)

/-- A field that overrides one of the base class. -/
def Field.overriding (name type : String) (value : Value) : Field :=
  ⟨name, "<override>", type, value⟩

/-- A field with a text that can be translated. -/
def Field.localized (name text : String) : Field :=
  ⟨name, "<public><localizes>", "message", .literal text⟩

/-- One paragraph of declarations. -/
inductive Declaration where
  /-- A module of fields. -/
  | fieldModule (name : String) (fields : List Field)
  /-- A group of abstract classes, one line each. -/
  | abstractClasses (names : List String)
  /-- A concrete class, with its base class and its fields. -/
  | concreteClass (name base : String) (fields : List Field)
  deriving DecidableEq, Repr

/-- The names that a paragraph declares. -/
def Declaration.names : Declaration → List String
  | fieldModule name _ => [name]
  | abstractClasses names => names
  | concreteClass name _ _ => [name]

/-- The line that declares an abstract base class. -/
def abstractLine (name : String) : String :=
  indent 1 (name ++ "<public> := class<abstract>(entitlement)\x7b\x7d")

/-- The lines of a paragraph of declarations. -/
def Declaration.lines : Declaration → Paragraph
  | fieldModule name fields =>
    indent 1 (name ++ "<public> := module:") :: fields.map Field.line
  | abstractClasses names => names.map abstractLine
  | concreteClass name base fields =>
    indent 1 (name ++ "<public> := class<concrete>(" ++ base ++ "):") ::
      fields.map Field.line

/-- The module of a kind with its declarations. -/
structure Block where
  home : Kind
  declarations : List Declaration
  deriving DecidableEq, Repr

/-- The line that opens a module. -/
def Block.header (b : Block) : String :=
  moduleName b.home ++ "<public> := module:"

/-- The paragraphs of a module; its opening line belongs to the first. -/
def Block.paragraphs (b : Block) : List Paragraph :=
  match b.declarations.map Declaration.lines with
  | [] => [[b.header]]
  | first :: rest => (b.header :: first) :: rest

end Storefront.Verse
