import Storefront.Command.Run
import Storefront.CommandLine.Help
/-!
# The program

The program reads the environment and those places of the disk that a
run may look at, computes the run, prints its output, log and report,
and makes the changes to the disk that the run asks for.
-/

namespace Storefront.Program

/-- The variables that matter, where the environment cannot be listed. -/
def knownVariables : List String :=
  ["HOME", "XDG_CONFIG_HOME", "NO_COLOR", "RUST_LOG", "SHOPGEN_CATALOG"]

/-- A variable with its value. -/
def variableOf (entry : List UInt8) : Option (String × String) := do
  let name := entry.takeWhile (· != 61)
  let value := entry.drop (name.length + 1)
  if name.isEmpty then none
  else return (← Text.strictText? name, ← Text.strictText? value)

/-- The variables of the system. -/
def readEnvironment : IO Environment := do
  try
    let bytes ← IO.FS.readBinFile "/proc/self/environ"
    return (bytes.data.toList.splitOn 0).filterMap variableOf
  catch _ =>
    knownVariables.filterMapM fun name => do
      return (← IO.getEnv name).map fun value => (name, value)

/-- The path of a place. -/
def pathOf (place : Place) : String := "/" ++ "/".intercalate place

/-- The place of a path from the root. -/
def placeOf (path : String) : Place :=
  ((path.toList.splitOn '/').map String.ofList).filter fun p => !Path.isFiller p

/-- The content that bytes are. -/
def contentOf (bytes : List UInt8) : Content :=
  match Text.strictText? bytes with
  | some s => .text s
  | none => .binary bytes

/-- What stands at a place of the system's disk. -/
def readNode (place : Place) : IO (Option DiskNode) := do
  try
    let real ← IO.FS.realPath (pathOf place)
    if ← real.isDir then return some .directory
    else if ← real.pathExists then
      return some (.file (contentOf (← IO.FS.readBinFile real).data.toList))
    else return none
  catch _ => return none

/-- The disk with what stands along a path. -/
def look (disk : Disk) (place : Place) : List String → IO Disk
  | [] => return disk
  | piece :: rest => do
    if Path.isFiller piece then look disk place rest
    else if piece == ".." then look disk place.dropLast rest
    else
      let next := place ++ [piece]
      match ← readNode next with
      | some .directory => look (disk.set next .directory) next rest
      | some node => return disk.set next node
      | none => return disk

/-- The disk with what stands along a path, which may start at the
current directory. -/
def lookAt (disk : Disk) (path : String) : IO Disk :=
  let pieces := (path.toList.splitOn '/').map String.ofList
  look disk (if path.startsWith "/" then [] else disk.current) pieces

/-- The disk with what stands along some paths. -/
def lookAtAll (disk : Disk) (paths : List String) : IO Disk := paths.foldlM lookAt disk

/-- The paths of the files with variables. -/
def variableFiles (disk : Disk) : List String :=
  (List.range (disk.current.length + 1)).map fun depth =>
    pathOf (disk.current.take depth ++ [Dotenv.fileName])

/-- The paths of the files with settings. -/
def settingsFiles (w : World) (o : GlobalOptions) : List String :=
  let path := Settings.activePath w.environment o.config
  path :: (Settings.withSuffix? (Path.join (pathOf w.disk.current) path)).toList

/-- The path that a request writes to. -/
def outputOf : Request → Option String
  | .generate o => o.output
  | .sample output _ => output
  | _ => none

/-- The path of the catalog that a request names. -/
def catalogOf : Request → Option String
  | .generate o => o.source.catalog
  | .validate source _ => source.catalog
  | .list source _ _ => source.catalog
  | _ => none

/-- The path of the catalog that the settings name. -/
def settingsCatalog (w : World) (o : GlobalOptions) : Option String :=
  let path := Settings.activePath w.environment o.config
  (Settings.load w.environment w.disk path).toOption.bind (·.catalogPath)

/-- The world with everything that an invocation may look at. -/
def explore (w : World) (i : Invocation) : IO World := do
  let w := { w with disk := ← lookAtAll w.disk (settingsFiles w i.options) }
  let paths :=
    (settingsCatalog w i.options).toList ++ (catalogOf i.request).toList ++
      (outputOf i.request).toList ++ w.catalogCandidates
  return { w with disk := ← lookAtAll w.disk paths }

/-- Make what is new on a disk. -/
def store (before after : Disk) : IO Unit :=
  after.nodes.forM fun (place, node) => do
    if before.node? place != some node then
      match node with
      | .directory => IO.FS.createDirAll (pathOf place)
      | .file (.text s) => IO.FS.writeFile (pathOf place) s
      | .file (.binary bytes) => IO.FS.writeBinFile (pathOf place) ⟨bytes.toArray⟩

/-- Print a refusal. -/
def refuse (r : CommandLine.Refusal) : IO UInt32 := do
  if r.isAnswer then IO.print r.text else IO.eprint r.text
  return UInt32.ofNat r.exitCode

/-- What stands where a log has the time. A run is computed before it is
shown, so its events have none. -/
def timeMark : String := "-"

/-- Print a run and make its changes. -/
def carryOut (w : World) (i : Invocation) : IO UInt32 := do
  let run := Run.ofInvocation i w
  store w.disk run.disk
  IO.print run.output
  for line in Run.logLines timeMark w.environment i.options run.events do
    IO.eprintln line
  IO.eprint run.report
  return UInt32.ofNat run.exitCode

/-- The world that the program starts in. -/
def start : IO World := do
  let directory := (← IO.currentDir).toString
  let disk : Disk := { current := placeOf directory, nodes := [] }
  let disk ← lookAt disk directory
  let disk ← lookAtAll disk (variableFiles disk)
  let programDirectory := (← IO.appPath).parent.map (·.toString)
  return Run.settle { environment := ← readEnvironment, disk, programDirectory }

end Storefront.Program

/-- Run the program on the words of a command line. -/
def main (words : List String) : IO UInt32 := do
  let w ← Storefront.Program.start
  match Storefront.CommandLine.parse w.environment words with
  | .error r => Storefront.Program.refuse r
  | .ok i => do
    let w ← Storefront.Program.explore w i
    Storefront.Program.carryOut w i
