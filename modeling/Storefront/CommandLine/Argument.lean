import Storefront.Number.Decimal
/-!
# Command lines — what a command accepts

A command has options, which are named, and operands, which are told by
their place; it may have commands of its own. Every argument says what
it does when it is given and what its value has to look like. A command
line that does not fit is refused, and each refusal has its exit code.
-/

namespace Storefront.CommandLine

/-- Why a command line is not carried out. -/
inductive Refusal where
  | displayHelp
  | displayVersion
  | displayHelpOnMissing
  | missingSubcommand
  | invalidValue
  | valueValidation
  | unknownArgument
  | missingRequiredArgument
  | argumentConflict
  | invalidSubcommand
  | tooManyValues
  deriving DecidableEq, Repr

/-- The exit code of a refusal; asking for help or the version is no
mistake. -/
def Refusal.exitCode : Refusal → Nat
  | displayHelp => 0
  | displayVersion => 0
  | _ => 2

/-- What the value of an argument has to look like. -/
inductive ValueKind where
  /-- Any text. -/
  | text
  /-- A text that is not empty. -/
  | path
  /-- An integer within two bounds. -/
  | integer (least greatest : Int)
  /-- One of some words, each with its aliases. -/
  | choice (words : List (String × List String))
  deriving Repr

/-- The word that a value or one of its aliases stands for. -/
def chosen? (words : List (String × List String)) (value : String) : Option String :=
  (words.find? fun w => w.1 == value || w.2.contains value).map (·.1)

/-- Refuse a value that does not fit. -/
def ValueKind.check : ValueKind → String → Except Refusal Unit
  | text, _ => .ok ()
  | path, v => if v == "" then .error .invalidValue else .ok ()
  | integer least greatest, v =>
    match Decimal.int? v with
    | some n => if least ≤ n && n ≤ greatest then .ok () else .error .valueValidation
    | none => .error .valueValidation
  | choice words, v => if (chosen? words v).isSome then .ok () else .error .invalidValue

/-- What an argument does when it is given. -/
inductive Action where
  | help
  | version
  /-- Count how often it is given. -/
  | count
  /-- Note that it is given, which may happen once. -/
  | flag
  /-- Take one value, once. -/
  | single (kind : ValueKind)
  /-- Take values, with commas between them. -/
  | several (kind : ValueKind)
  deriving Repr

/-- Whether an argument takes a value. -/
def Action.takesValue : Action → Bool
  | single _ => true
  | several _ => true
  | _ => false

/-- An option or an operand. -/
structure Argument where
  id : String
  short : Option Char := none
  long : Option String := none
  action : Action
  /-- Whether a negative number is a value here. -/
  negative : Bool := false
  required : Bool := false
  /-- Whether the commands inside a command have the option too. -/
  shared : Bool := false
  /-- The variable that gives the value if the command line does not. -/
  variableName : Option String := none
  /-- The value if nothing gives one. -/
  fallback : Option String := none
  /-- An argument that must not be given beside this one. -/
  excludes : Option String := none
  /-- An argument that has to be given beside this one. -/
  needs : Option String := none
  deriving Repr

/-- A command with its arguments and the commands inside it. -/
structure Command where
  name : String
  aliases : List String := []
  options : List Argument := []
  operands : List Argument := []
  commands : List Command := []

namespace Command

/-- The command that explains the others. It stands beside them, and
has none inside. -/
def help : Command := { name := "help" }

/-- The command inside this one that a word names. -/
def find? (c : Command) (word : String) : Option Command :=
  if c.commands.isEmpty then none
  else if word == help.name then some help
  else c.commands.find? fun s => s.name == word || s.aliases.contains word

/-- The command with the shared options of the one around it. -/
def inherit (c outer : Command) : Command :=
  { c with options := c.options ++ outer.options.filter (·.shared) }

/-- Every argument of a command. -/
def arguments (c : Command) : List Argument := c.options ++ c.operands

/-- The option with a long name. -/
def findLong? (c : Command) (name : String) : Option Argument :=
  c.options.find? fun a => a.long == some name

/-- The option with a short name. -/
def findShort? (c : Command) (name : Char) : Option Argument :=
  c.options.find? fun a => a.short == some name

end Command

end Storefront.CommandLine
