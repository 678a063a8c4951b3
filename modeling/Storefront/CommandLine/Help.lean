import Storefront.CommandLine.Interface
/-!
# Command lines — help

What is said to a user whose command line is not carried out: how the
program is used, or what is wrong.
-/

namespace Storefront.CommandLine

/-- A command as a line of the overview. -/
def Command.overviewLine (c : Command) : String :=
  let others := if c.aliases.isEmpty then "" else " (" ++ ", ".intercalate c.aliases ++ ")"
  "  " ++ c.name ++ others ++ "\n"

/-- How a program with commands is used. -/
def Command.usageText (c : Command) : String :=
  "Usage: " ++ c.name ++ " [OPTIONS] <COMMAND>\n\nCommands:\n" ++
    String.join (c.commands.map Command.overviewLine)

namespace Refusal

/-- What is wrong with a command line, if anything is. -/
def complaint? : Refusal → Option String
  | invalidValue => some "a value is missing or not one of the possible values"
  | valueValidation => some "a value is out of range or not a number"
  | unknownArgument => some "an argument is unknown here"
  | missingRequiredArgument => some "a required argument is missing"
  | argumentConflict => some "two arguments cannot be used together"
  | invalidSubcommand => some "the command is unknown"
  | missingSubcommand => some "a command is missing"
  | tooManyValues => some "an argument has too many values"
  | _ => none

/-- What is said about a refusal. -/
def text (r : Refusal) : String :=
  match r, r.complaint? with
  | displayVersion, _ => versionText
  | _, some complaint =>
    "error: " ++ complaint ++ "\n\nFor more information, try '--help'.\n"
  | _, none => program.usageText

/-- Whether the refusal is an answer that was asked for. -/
def isAnswer (r : Refusal) : Bool := r.exitCode == 0

end Refusal

end Storefront.CommandLine
