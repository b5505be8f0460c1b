import FlutterInstaller.Host
import FlutterInstaller.Script.DefaultIcon
import FlutterInstaller.Script.Layout
import FlutterInstaller.Script.Sections

/-!
Generating a script: what it refers to is staged on the way, and the script itself is written last,
so that a failure before that leaves an earlier script as it was.
-/
namespace FlutterInstaller.Script

/-- What to generate a script for. Directories that are not given take their usual place. -/
structure Request where
  config : Config
  appDirectory : String
  workDirectory : Option String := none
  systemDirectory : Option String := none
  stagingDirectory : Option String := none

structure Places where
  app : String
  output : String
  staging : String
  system : String
  deriving DecidableEq

namespace Request

def project (r : Request) : Action Location := do
  match r.workDirectory with
  | some dir => Action.locate .resolvingPath dir
  | none => Action.ofFile .readingWorkingDirectory "." (← get).currentDirectory

def places (r : Request) : Action Places := do
  let project ← r.project
  let staging ← match r.stagingDirectory with
    | some dir => Path.text <$> Action.locate .resolvingPath dir
    | none => pure (Layout.stagingDirectory (← get).temporaryDirectory r.config.id.text)
  return {
    app := Path.absolute project r.appDirectory
    output := Layout.outputDirectory (Path.text project) r.config.buildMode
    staging
    system := r.systemDirectory.getD (Layout.systemDirectory (← get).systemRoot) }

/-- The icon to refer to; the standard one is written to the staging directory first. -/
def stageIcon (r : Request) (staging : String) : Action String :=
  match r.config.icon with
  | .custom place => return Path.text place
  | .standard => do
    let path := Layout.iconPath staging
    Action.writeFile path DefaultIcon.content
    Action.debug ("Materialized default installer icon at " ++ path)
    return path

def FileItem.message : FileItem → String
  | .directory path _ => "Staging directory " ++ path
  | .renamed path target => "Staging " ++ path ++ " as " ++ target
  | .plain path => "Staging file " ++ path

def childItem (r : Request) (app name : String) : Action FileItem := do
  let path := Path.join app name
  let item := FileItem.ofChild r.config path name ((← get).isDirectory path)
  Action.debug (FileItem.message item)
  return item

def childNames (path : String) : Action (List String) := do
  let h ← get
  let s ← Action.ofFile .readingAppDirectory path (h.files.standpoint h.workingDirectory path)
  return s.location?.elim [] h.files.names

def stageLibrary (system directory name : String) : Action (List String) := do
  let source := Path.join system name
  if (← get).isFile source then
    let target := Path.join directory name
    Action.copyFile source target
    Action.debug ("Staged runtime DLL " ++ target)
    return [target]
  else
    Action.debug ("Runtime DLL not found, skipping: " ++ source)
    return []

/-- Copies the libraries that the system has into a fresh directory, and gives the copies. -/
def stageLibraries (staging system : String) : Action (List String) := do
  let directory := Layout.libraryDirectory staging
  Action.makeDirectories directory true
  let staged ← Layout.runtimeLibraries.mapM (stageLibrary system directory)
  if staged.flatten.isEmpty then
    Action.warn ("No MSVC runtime DLLs found in " ++ system ++
      "; the installed app may need the VC++ redistributable")
  return staged.flatten

def items (r : Request) (p : Places) : Action (List FileItem) := do
  let children ← (← childNames p.app).mapM (r.childItem p.app)
  if r.config.vcRedist then
    return children ++ (← stageLibraries p.staging p.system).map FileItem.plain
  else return children

def renderAt (r : Request) (p : Places) : Action String := do
  if (← get).isDirectory p.app then
    let icon ← r.stageIcon p.staging
    let items ← r.items p
    return Script.render (sections r.config p.output icon items)
  else throw (.file .readingAppDirectory p.app .noAppDirectory)

def render (r : Request) : Action String := do r.renderAt (← r.places)

def build (r : Request) : Action String := do
  let p ← r.places
  Action.info ("Generating installer script for " ++ r.config.displayName ++ " " ++ r.config.version)
  let text ← r.renderAt p
  let path := Path.join p.output Layout.scriptName
  Action.writeFile path (byteOrderMark ++ text).toUTF8
  Action.info ("✓ Created installer script: " ++ path)
  return path

end Request

end FlutterInstaller.Script
