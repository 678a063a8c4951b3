import Storefront.Settings.Environment
import Storefront.Storage.Disk
/-!
# Settings — where they are

The settings are in the file that the command line names, and else in
`shopgen/config.toml` in the user's directory for configuration. If no
file stands at a path, the path with `.toml` at its end is tried.
-/

namespace Storefront.Settings

/-- The file of the settings inside the directory for configuration. -/
def fileName : String := "shopgen/config.toml"

/-- The file of the settings if the user has no directory. -/
def localFileName : String := ".shopgen.toml"

/-- The user's directory for configuration. -/
def configDirectory? (env : Environment) : Option String :=
  match (env.get? "XDG_CONFIG_HOME").filter fun d => d.startsWith "/" with
  | some d => some d
  | none =>
    ((env.get? "HOME").filter fun d => d != "").map fun home => Path.join home ".config"

/-- The path of the settings if the command line names none. -/
def defaultPath (env : Environment) : String :=
  match configDirectory? env with
  | some d => Path.join d fileName
  | none => localFileName

/-- The path of the settings. -/
def activePath (env : Environment) (named : Option String) : String :=
  named.getD (defaultPath env)

/-- A path with `.toml` at the end of its last component, if that is a
name. -/
def withSuffix? (path : String) : Option String :=
  let (start, pieces) := Path.parts path
  let kept := Path.dropFillers pieces
  match kept.getLast? with
  | none => none
  | some last =>
    if last == ".." then none
    else some (start ++ "/".intercalate (kept.dropLast ++ [last ++ ".toml"]))

/-- The file that holds the settings at a path, if there is one. -/
def file? (disk : Disk) (path : String) : Option String :=
  let whole := Path.join ("/" ++ "/".intercalate disk.current) path
  if disk.isFile whole then some whole else (withSuffix? whole).filter disk.isFile

end Storefront.Settings
