import Storefront.CommandLine.Interface
/-!
# Commands — completion

A small script that makes a shell offer the names of the commands.
-/

namespace Storefront.Completion

/-- The names of the commands. -/
def commandNames : List String := CommandLine.program.commands.map (·.name)

/-- The names of the commands with blanks between them. -/
def words : String := " ".intercalate commandNames

/-- The script for a shell. -/
def script (shell : String) : String :=
  let name := CommandLine.program.name
  if shell == "zsh" then "#compdef " ++ name ++ "\n_arguments '1:command:(" ++ words ++ ")'\n"
  else if shell == "fish" then
    "complete -c " ++ name ++ " -f -n __fish_use_subcommand -a \"" ++ words ++ "\"\n"
  else if shell == "power-shell" then
    "Register-ArgumentCompleter -Native -CommandName " ++ name ++
      " -ScriptBlock \x7b \"" ++ words ++ "\".Split() \x7d\n"
  else if shell == "elvish" then
    "set edit:completion:arg-completer[" ++ name ++ "] = \x7b|@_| put " ++ words ++ " \x7d\n"
  else "complete -W \"" ++ words ++ "\" " ++ name ++ "\n"

end Storefront.Completion
