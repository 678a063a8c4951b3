import Storefront.Command.Outcome
import Storefront.Manifest.Sample
import Storefront.Settings.Location
/-!
# Commands — starting out

A user starts with a sample of a catalog and with a file of settings.
Neither command overwrites what is there unless it is forced to.
-/

namespace Storefront

namespace SampleCommand

/-- What is said about a written sample. -/
def doneText (path : String) : String := "Sample catalog written to " ++ path

/-- Write the sample to a path. -/
def write (disk : Disk) (path : String) : Outcome :=
  .ofWritten
    ((Sink.prepare disk (Path.properParent? path)).andThen fun disk =>
      Sink.writeFile disk path Manifest.sample)
    (.done (doneText path)) []

/-- Show the sample or write it. -/
def run (output : Option String) (force : Bool) (w : World) : Outcome :=
  match output with
  | none => .answering w.disk (.document Manifest.sample)
  | some path =>
    if w.disk.isTaken path && !force then .failing w.disk (.fileExists path)
    else write w.disk path

end SampleCommand

namespace InitCommand

/-- Where the events of the command come from. -/
def target : String := "shopgen::commands::init"

/-- What is told about written settings. -/
def createdEvent (path : String) : Event :=
  { level := .info, target, message := "configuration created"
    fields := [("path", .shown path)] }

/-- What is said about written settings. -/
def doneText (path : String) : String := "Configuration created at " ++ path

/-- The error of a directory that cannot be made. -/
def directoryError (path : String) (e : SystemError) : CommandError :=
  .ofSystem ("Failed to create config directory '" ++ path ++ "'") e.message

/-- The error of a file that cannot be written. -/
def fileError (path : String) (e : SystemError) : CommandError :=
  .ofSystem ("Failed to write config to '" ++ path ++ "'") e.message

/-- Make the directory for a file, if it needs one. -/
def prepare (disk : Disk) (path : String) : Disk × Option CommandError :=
  match Path.properParent? path with
  | none => (disk, none)
  | some parent =>
    let (disk, e) := disk.makeDirectories parent
    (disk, e.map (directoryError parent))

/-- Write the built-in settings to a path. -/
def write (disk : Disk) (path : String) : Outcome :=
  match prepare disk path with
  | (disk, some e) => .failing disk e
  | (disk, none) =>
    match disk.writeText path (Settings.text {}) with
    | .error e => .failing disk (fileError path e)
    | .ok disk =>
      { disk, answer := some (.done (doneText path)), events := [createdEvent path] }

/-- Create the file of the settings. -/
def run (named : Option String) (force : Bool) (w : World) : Outcome :=
  let path := Settings.activePath w.environment named
  if w.disk.isTaken path && !force then .failing w.disk (.fileExists path)
  else write w.disk path

end InitCommand

end Storefront
