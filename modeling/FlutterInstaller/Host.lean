import FlutterInstaller.Error
import FlutterInstaller.FileSystem.Edit
import FlutterInstaller.Launch

/-!
What a run sees and changes: the files, the working directory, the variables it reads, the programs
it starts and the lines it logs. An action is a step of a run; when it fails, what it changed stays
changed.
-/
namespace FlutterInstaller

inductive LogLevel
  | debug
  | info
  | warn
  deriving DecidableEq, Repr

def LogLevel.label : LogLevel → String
  | .debug => "DEBUG"
  | .info => "INFO"
  | .warn => "WARN"

structure LogLine where
  level : LogLevel
  message : String
  deriving DecidableEq, Repr

inductive Tool
  | flutter
  | compiler
  deriving DecidableEq, Repr

inductive ToolResult
  | missing
  | refused (cause : OsError)
  | ended (launch : Launch) (code : Option Nat)
  deriving DecidableEq, Repr

structure ToolRun where
  tool : Tool
  arguments : List String
  directory : Option String
  result : ToolResult
  deriving DecidableEq, Repr

/-- What a run finds around it. What programs do is up to the host: it tells the exit code with which
a started one ends, if it is not killed, and the files that it leaves. -/
structure Host where
  files : FileSystem
  workingDirectory : Standpoint
  temporaryDirectory : String
  systemRoot : Option String
  searchPath : List String
  entropy : List UInt8
  exitCode : FileSystem → Launch → Option Nat
  leaves : FileSystem → Launch → FileSystem := fun files _ => files
  log : List LogLine
  runs : List ToolRun

abbrev Action (α : Type) := ExceptT Error (StateM Host) α

namespace Host

/-- The host with other files. A working directory that is not among them is lost for good, also
when one is made in its place later. -/
def withFiles (h : Host) (files : FileSystem) : Host :=
  { h with files, workingDirectory := h.workingDirectory.settle files }

def currentDirectory (h : Host) : Except OsError Location :=
  (h.workingDirectory.settle h.files).location?.elim (.error .notFound) .ok

def isFile (h : Host) (p : String) : Bool := h.files.isFile h.workingDirectory p

def isDirectory (h : Host) (p : String) : Bool := h.files.isDirectory h.workingDirectory p

def isProgram (h : Host) (p : String) : Bool :=
  match h.files.find? h.workingDirectory p with
  | .ok (_, .file _ executable) => executable
  | _ => false

def findProgram? (h : Host) (name : String) : Option String :=
  (h.searchPath.map fun dir => Path.join dir name).find? h.isProgram

/-- Tries to start one path after the other; that one may not be run is remembered while others are
tried. -/
def tryAll (h : Host) (directory : Standpoint) (arguments : List String) :
    OsError → List String → Except OsError Launch
  | e, [] => .error e
  | e, p :: ps =>
    match Launch.ofPath h.files directory p arguments with
    | .ok launch => .ok launch
    | .error .permissionDenied => h.tryAll directory arguments .permissionDenied ps
    | .error .notFound | .error .notDirectory => h.tryAll directory arguments e ps
    | .error other => .error other

def startDirectory (h : Host) : Option String → Except OsError Standpoint
  | none => .ok h.workingDirectory
  | some d => h.files.standpoint h.workingDirectory d

def start (h : Host) (command : String) (arguments : List String) (directory : Option String) :
    Except OsError Launch :=
  match h.startDirectory directory with
  | .error e => .error e
  | .ok d =>
    if command.toList.contains '/' then Launch.ofPath h.files d command arguments
    else h.tryAll d arguments .notFound (h.searchPath.map fun dir => Path.join dir command)

def attempt (h : Host) (command : String) (arguments : List String) (directory : Option String) :
    ToolResult :=
  match h.start command arguments directory with
  | .error e => .refused e
  | .ok launch => .ended launch (h.exitCode h.files launch)

/-- The host after an attempt: a program that was started leaves its files, however it ended. -/
def leftBy (h : Host) : ToolResult → Host
  | .missing | .refused _ => h
  | .ended launch _ => h.withFiles (h.leaves h.files launch)

end Host

namespace Action

def log (level : LogLevel) (message : String) : Action Unit :=
  modify fun h => { h with log := h.log ++ [⟨level, message⟩] }

def debug (message : String) : Action Unit := log .debug message

def info (message : String) : Action Unit := log .info message

def warn (message : String) : Action Unit := log .warn message

def ofFile {α : Type} (action : FileAction) (path : String) : Except OsError α → Action α
  | .ok a => pure a
  | .error e => throw (.file action path e)

def edit {α : Type} (action : FileAction) (path : String) (change : Standpoint → FileSystem.Edit α) :
    Action α := do
  let h ← get
  let (result, files) := (change h.workingDirectory).run.run h.files
  set (h.withFiles files)
  ofFile action path result

def locate (action : FileAction) (path : String) : Action Location := do
  let cwd ← ofFile action path (← get).currentDirectory
  return Path.locate cwd path

def runTool (tool : Tool) (command : Option String) (arguments : List String)
    (directory : Option String) : Action ToolResult := do
  let h ← get
  let result := match command with
    | some c => h.attempt c arguments directory
    | none => .missing
  set { h.leftBy result with runs := h.runs ++ [{ tool, arguments, directory, result : ToolRun }] }
  return result

def makeDirectories (path : String) (erase : Bool) : Action Unit := do
  if erase then edit .removingDirectory path fun cwd => FileSystem.removeDirectories cwd path
  edit .creatingDirectory path fun cwd => FileSystem.makeDirectories cwd path

def removeDirectories (path : String) : Action Unit :=
  edit .removingDirectory path fun cwd => FileSystem.removeDirectories cwd path

def makeParent (path : String) : Action Unit :=
  match Path.parent? path with
  | some p => edit .creatingDirectory p fun cwd => FileSystem.makeDirectories cwd p
  | none => pure ()

def writeFile (path : String) (content : ByteArray) : Action Unit := do
  makeParent path
  edit .creatingFile path fun cwd => FileSystem.write cwd path content

def copyFile (source target : String) : Action Unit := do
  if (← get).isFile source then
    makeParent target
    edit .copyingFile target fun cwd => FileSystem.copy cwd source target
  else throw (.notAFile source)

end Action

end FlutterInstaller
