import Storefront.Command.Error
import Storefront.Settings.Basic
import Storefront.Settings.Layer
import Storefront.Settings.Location
import Storefront.Text.Utf8
import Storefront.Toml.Reader
/-!
# Settings — loading

Loading puts the file on top of the built-in settings and the
environment on top of both, and reads the result. Keys that mean nothing
are ignored. A file that is not TOML, a value that cannot be read and a
quantity of zero are errors.
-/

namespace Storefront.Settings

/-- Why settings cannot be loaded. -/
inductive LoadError where
  | notToml
  | unreadable (key : String)
  | zeroQuantity
  deriving DecidableEq, Repr

/-- The sentence that reports an error. -/
def LoadError.message : LoadError → String
  | notToml => "the file is not a TOML document"
  | unreadable key => s!"the value of {key} cannot be read"
  | zeroQuantity => "defaults.quantity must be at least 1"

/-- Built-in settings as a layer. -/
def toSetting (s : Settings) : Setting :=
  .table
    [("defaults",
        .table [("mode", .text s.mode.name),
          ("quantity", .int (Int64.ofNat s.quantity.toNat))]),
      ("catalog", .table ((s.catalogPath.map fun p => ("path", Setting.text p)).toList)),
      ("output",
        .table [("no_color", .bool s.noColor), ("format", .text s.format)])]

/-- Bytes without a byte order mark at their start. -/
def skipMark (bytes : List UInt8) : List UInt8 :=
  match bytes with
  | 0xef :: 0xbb :: 0xbf :: rest => rest
  | bytes => bytes

/-- The text of a file of settings; bytes that are no text are
replaced. -/
def fileText : Content → String
  | .text s => String.ofList (Toml.skipMark s.toList)
  | .binary bytes => Text.lossyText (skipMark bytes)

/-- The layer of a file. -/
def fileLayer (content : Content) : Except LoadError (List (String × Setting)) :=
  match Toml.parse? (fileText content) with
  | some v => .ok (Setting.ofToml v).entries
  | none => .error .notToml

/-- A value that has to be there to be read; a missing one has a
default. -/
def readOr (key : String) (default : α) (read : Setting → Option α) :
    Option Setting → Except LoadError α
  | none => .ok default
  | some v =>
    match read v with
    | some x => .ok x
    | none => .error (.unreadable key)

/-- The entries of a section. -/
def sectionOf (name : String) (keys : List String) (root : List (String × Setting)) :
    Except LoadError (List (String × Setting)) :=
  readOr name [] (Setting.entries? keys) (root.lookup name)

/-- A path, which may be set to nothing. -/
def readPath : Setting → Option (Option String)
  | .absent => some none
  | v => v.text?.map some

/-- The settings that a table writes. -/
def ofEntries (root : List (String × Setting)) : Except LoadError Settings := do
  let defaults ← sectionOf "defaults" ["mode", "quantity"] root
  let catalog ← sectionOf "catalog" ["path"] root
  let output ← sectionOf "output" ["no_color", "format"] root
  let builtIn : Settings := {}
  let mode ← readOr "defaults.mode" builtIn.mode Setting.mode? (defaults.lookup "mode")
  let quantity ←
    readOr "defaults.quantity" builtIn.quantity
      (fun v => v.count?.map fun n => UInt32.ofNat n) (defaults.lookup "quantity")
  let catalogPath ← readOr "catalog.path" none readPath (catalog.lookup "path")
  let noColor ←
    readOr "output.no_color" builtIn.noColor Setting.bool? (output.lookup "no_color")
  let format ← readOr "output.format" builtIn.format Setting.text? (output.lookup "format")
  if quantity == 0 then .error .zeroQuantity
  else return { mode, quantity, catalogPath, noColor, format }

/-- The layer of the file at a path; without a file nothing is set. -/
def fileLayerAt (disk : Disk) (path : String) :
    Except LoadError (List (String × Setting)) :=
  match (file? disk path).bind fun file => (disk.read file).toOption with
  | some content => fileLayer content
  | none => .ok []

/-- The settings of a user. -/
def load (env : Environment) (disk : Disk) (path : String) :
    Except LoadError Settings := do
  let file ← fileLayerAt disk path
  let below := Setting.putAll file (toSetting {})
  ofEntries (Setting.putAll env.layer below).entries

/-- What is told before the settings are loaded. -/
def loadEvents (path : String) : List Event :=
  [{ level := .debug, target := "shopgen::config", message := "loading configuration",
     fields := [("path", .shown path)] }]

/-- An error of loading as the error of a command. -/
def LoadError.toCommandError (e : LoadError) : CommandError :=
  .configuration e.message [e.message]

end Storefront.Settings
