import Storefront.Catalog.Kind
import Storefront.CommandLine.Matches
import Storefront.Verse.Mode
/-!
# Command lines — the commands of the program

The commands of `shopgen` with their arguments, and the typed invocation
that a command line amounts to.
-/

namespace Storefront

/-- How reports and status lines are written. -/
inductive OutputFormat where
  | auto
  | human
  | plain
  | json
  deriving DecidableEq, Repr

namespace OutputFormat

/-- Every format. -/
def all : List OutputFormat := [auto, human, plain, json]

/-- The word for a format. -/
def name : OutputFormat → String
  | auto => "auto"
  | human => "human"
  | plain => "plain"
  | json => "json"

/-- The format a word stands for. -/
def ofName? (s : String) : Option OutputFormat := all.find? fun f => f.name == s

end OutputFormat

/-- How a listing is written. -/
inductive ListFormat where
  | table
  | list
  | json
  | csv
  deriving DecidableEq, Repr

/-- The options that every command has. -/
structure GlobalOptions where
  verbosity : Nat := 0
  quiet : Bool := false
  noColor : Bool := false
  config : Option String := none
  format : OutputFormat := .auto
  deriving DecidableEq, Repr

/-- Where a command is told to find its catalog. -/
structure CatalogOptions where
  catalog : Option String := none
  sample : Bool := false
  deriving DecidableEq, Repr

/-- What the generate command is told. -/
structure GenerateOptions where
  mode : Option Mode := none
  source : CatalogOptions := {}
  select : List String := []
  exclude : List String := []
  quantity : Option UInt32 := none
  output : Option String := none
  force : Bool := false
  deriving DecidableEq, Repr

/-- What the command about settings is told. -/
inductive ConfigQuery where
  | get (key : String)
  | list
  | path
  deriving DecidableEq, Repr

/-- A command with its arguments. -/
inductive Request where
  | generate (options : GenerateOptions)
  | validate (source : CatalogOptions) (strict : Bool)
  | price (amount : Int64)
  | list (source : CatalogOptions) (kind : Option Kind) (format : ListFormat)
  | sample (output : Option String) (force : Bool)
  | init (force : Bool)
  | config (query : ConfigQuery)
  | completions (shell : String)
  deriving DecidableEq, Repr

/-- A whole command line. -/
structure Invocation where
  options : GlobalOptions
  request : Request
  deriving DecidableEq, Repr

namespace CommandLine

/-- The options that every command has. -/
def globalOptions : List Argument :=
  [{ id := "verbose", short := some 'v', long := some "verbose", action := .count,
     shared := true },
    { id := "quiet", short := some 'q', long := some "quiet", action := .flag,
      shared := true, excludes := some "verbose" },
    { id := "no_color", long := some "no-color", action := .flag, shared := true,
      variableName := some "NO_COLOR" },
    { id := "config", short := some 'c', long := some "config", action := .single .path,
      shared := true },
    { id := "output_format", long := some "output-format",
      action := .single (.choice (OutputFormat.all.map fun f => (f.name, []))),
      shared := true, fallback := some "auto" },
    { id := "help", short := some 'h', long := some "help", action := .help, shared := true }]

/-- The options that say where a catalog is. -/
def catalogOptions : List Argument :=
  [{ id := "catalog", long := some "catalog", action := .single .path,
     excludes := some "sample" },
    { id := "sample", long := some "sample", action := .flag }]

/-- The options that say where a document goes. -/
def outputOptions : List Argument :=
  [{ id := "output", short := some 'o', long := some "output", action := .single .path },
    { id := "force", long := some "force", action := .flag, needs := some "output" }]

/-- The generate command. -/
def generateCommand : Command :=
  { name := "generate"
    aliases := ["gen"]
    options :=
      catalogOptions ++
        [{ id := "select", long := some "select", action := .several .text },
          { id := "exclude", long := some "exclude", action := .several .text },
          { id := "quantity", short := some 'n', long := some "quantity",
            action := .single (.integer 1 4294967295) }] ++
        outputOptions
    operands :=
      [{ id := "mode",
         action := .single (.choice
           [("definitions", ["defs"]), ("purchase", ["buy"]), ("consume", [])]) }] }

/-- The validate command. -/
def validateCommand : Command :=
  { name := "validate"
    options := catalogOptions ++ [{ id := "strict", long := some "strict", action := .flag }] }

/-- The price command. -/
def priceCommand : Command :=
  { name := "price"
    operands :=
      [{ id := "amount", negative := true, required := true
         action := .single (.integer Int64.minValue.toInt Int64.maxValue.toInt) }] }

/-- The list command. -/
def listCommand : Command :=
  { name := "list"
    aliases := ["ls"]
    options :=
      catalogOptions ++
        [{ id := "kind", short := some 'k', long := some "kind",
           action := .single (.choice
             [("info", []), ("entitlement", ["entitlements"]), ("offer", ["offers"]),
               ("bundle", ["bundles"])]) },
          { id := "format", long := some "format", fallback := some "table"
            action := .single (.choice
              [("table", []), ("list", []), ("json", []), ("csv", [])]) }] }

/-- The sample command. -/
def sampleCommand : Command :=
  { name := "sample", options := outputOptions }

/-- The init command. -/
def initCommand : Command :=
  { name := "init"
    options := [{ id := "force", short := some 'f', long := some "force", action := .flag }] }

/-- The config command. -/
def configCommand : Command :=
  { name := "config"
    commands :=
      [{ name := "get"
         operands := [{ id := "key", action := .single .text, required := true }] },
        { name := "list" },
        { name := "path" }] }

/-- The completions command. -/
def completionsCommand : Command :=
  { name := "completions"
    operands :=
      [{ id := "shell", required := true
         action := .single (.choice
           [("bash", []), ("zsh", []), ("fish", []), ("power-shell", []), ("elvish", [])]) }] }

/-- The program. -/
def program : Command :=
  { name := "shopgen"
    options :=
      globalOptions ++
        [{ id := "version", short := some 'V', long := some "version", action := .version }]
    commands :=
      [generateCommand, validateCommand, priceCommand, listCommand, sampleCommand,
        initCommand, configCommand, completionsCommand] }

/-- What asking for the version shows. -/
def versionText : String := "shopgen 0.1.0\n"

/-- Whether a variable that switches something on does so. -/
def isTruthy (value : String) : Bool :=
  value != "" &&
    !(["n", "no", "f", "false", "off", "0"].contains (value.map Char.toLower))

namespace Matches

/-- The first value of an argument. -/
def value? (m : Matches) (id : String) : Option String :=
  (m.get? id).bind fun g => g.values.head?

/-- Whether a flag is given. -/
def flag (m : Matches) (id : String) : Bool := (m.get? id).isSome

/-- The values of an argument. -/
def values (m : Matches) (id : String) : List String :=
  ((m.get? id).map (·.values)).getD []

/-- The options that every command has. -/
def globals (m : Matches) : GlobalOptions :=
  let value? := fun id => (m.shared? id).bind fun g => g.values.head?
  { verbosity := min 255 (((m.shared? "verbose").map (·.values)).getD []).length
    quiet := (m.shared? "quiet").isSome
    noColor := (value? "no_color").any isTruthy
    config := value? "config"
    format := ((value? "output_format").bind OutputFormat.ofName?).getD .auto }

/-- Where a command is told to find its catalog. -/
def catalogOptions (m : Matches) : CatalogOptions :=
  { catalog := m.value? "catalog", sample := m.flag "sample" }

/-- The mode that a word stands for. -/
def modeOf? : String → Option Mode
  | "definitions" => some .definitions
  | "defs" => some .definitions
  | "purchase" => some .purchase
  | "buy" => some .purchase
  | "consume" => some .consume
  | _ => none

/-- The kind that a word stands for. -/
def kindOf? : String → Option Kind
  | "info" => some .info
  | "entitlement" => some .entitlement
  | "entitlements" => some .entitlement
  | "offer" => some .offer
  | "offers" => some .offer
  | "bundle" => some .bundle
  | "bundles" => some .bundle
  | _ => none

/-- The format of a listing that a word stands for. -/
def listFormatOf : String → ListFormat
  | "list" => .list
  | "json" => .json
  | "csv" => .csv
  | _ => .table

/-- The quantity that a text stands for. -/
def quantityOf (value : String) : UInt32 :=
  UInt32.ofNat ((Decimal.int? value).getD 1).toNat

/-- What the generate command is told. -/
def generateOptions (m : Matches) : GenerateOptions :=
  { mode := (m.value? "mode").bind modeOf?
    source := m.catalogOptions
    select := m.values "select"
    exclude := m.values "exclude"
    quantity := (m.value? "quantity").map quantityOf
    output := m.value? "output"
    force := m.flag "force" }

/-- The command that the words amount to. -/
def request (m : Matches) : Request :=
  let leaf := m.innermost
  match m.path.drop 1 with
  | ["generate"] => .generate leaf.generateOptions
  | ["validate"] => .validate leaf.catalogOptions (leaf.flag "strict")
  | ["price"] => .price (Int64.ofInt (((leaf.value? "amount").bind Decimal.int?).getD 0))
  | ["list"] =>
    .list leaf.catalogOptions ((leaf.value? "kind").bind kindOf?)
      (listFormatOf ((leaf.value? "format").getD ""))
  | ["sample"] => .sample (leaf.value? "output") (leaf.flag "force")
  | ["init"] => .init (leaf.flag "force")
  | ["config", "get"] => .config (.get ((leaf.value? "key").getD ""))
  | ["config", "list"] => .config .list
  | ["config", "path"] => .config .path
  | _ => .completions ((leaf.value? "shell").getD "")

end Matches

/-- The invocation that the words of a command line amount to. -/
def parse (env : List (String × String)) (words : List String) :
    Except Refusal Invocation := do
  let m ← program.match? env words
  return ⟨m.globals, m.request⟩

end CommandLine

end Storefront
