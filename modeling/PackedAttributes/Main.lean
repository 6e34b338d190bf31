import PackedAttributes.CommandLine.Program
import Std.Time

/-!
The program itself. It looks at the directories that a log file may go to, lets the library decide
what a run comes to, and then makes the files and prints the lines that came out.
-/
namespace PackedAttributes

/-- A place as a path from the root. -/
def locationText (location : Files.Location) : String :=
  "/" ++ Text.joined "/" (location.map Utf8.decodeLossy)

/-- What is at a place, if anything is. -/
def observeNode (location : Files.Location) : IO (Option (Files.Node Logging.Line)) :=
  try
    let real ← IO.FS.realPath (locationText location)
    return some (if ← real.isDir then .directory else .file [])
  catch _ => return none

/-- The places that a path passes. -/
def passedLocations (workingDirectory : Files.Location) (path : Files.Path) :
    List Files.Location :=
  let start := if path.isAbsolute then [] else workingDirectory
  path.steps.foldl
    (fun passed step => passed ++ [Files.Tree.next (passed.getLastD start) step]) [start]

/-- The files and directories on the way to a log file. -/
def observeTree (logFile : Option String) : IO (Files.Tree Logging.Line) := do
  let here := Files.Path.ofBytes (Utf8.encode (← IO.currentDir).toString)
  let workingDirectory := (passedLocations [] here).getLastD []
  let places := match logFile with
    | some text => passedLocations workingDirectory (Files.Path.ofBytes (Utf8.encode text))
    | none => []
  let nodes ← places.eraseDups.filterMapM (fun place => do
    return (← observeNode place).map (fun node => (place, node)))
  return ⟨workingDirectory, nodes⟩

/-- Makes what a run added to the files. -/
def makeAdditions (before after : Files.Tree Logging.Line) : IO Unit :=
  for (place, node) in after.nodes do
    match node with
    | .directory =>
      if (before.node? place).isNone then IO.FS.createDirAll (locationText place)
    | .file lines =>
      if (before.node? place).isNone || !lines.isEmpty then
        IO.FS.withFile (locationText place) .append (fun handle =>
          lines.forM (fun line => handle.putStrLn line.text))

/-- The day in universal time. -/
def today : IO String := do
  let now ← Std.Time.Timestamp.now
  return (Std.Time.DateTime.ofTimestamp now .UTC).format "uuuu-MM-dd"

/-- A run of the program on the real environment and files. -/
def runProgram (args : List String) : IO UInt32 := do
  let logFile ← IO.getEnv "FSATTR_LOG_FILE"
  let session : Logging.Session := {
    environment := ⟨← IO.getEnv "RUST_LOG", ← IO.getEnv "FSATTR_LOG_FORMAT", logFile⟩
    day := ← today
    files := ← observeTree logFile
    installed := none }
  let (outcome, after) := CommandLine.run args session
  makeAdditions session.files after.files
  IO.print outcome.output
  IO.eprint outcome.errors
  return outcome.exitCode.toUInt32

end PackedAttributes

/-- Runs the program on the arguments of the process. -/
def main (args : List String) : IO UInt32 :=
  PackedAttributes.runProgram args
