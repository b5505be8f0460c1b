import FlutterInstaller.Config.Resolve
import FlutterInstaller.Host

/-!
A project on disk: loading its manifest and resolving its configuration.
-/
namespace FlutterInstaller.Project

def loadManifest (directory : String) : Action Manifest := do
  let path := Path.join directory Manifest.fileName
  Action.debug ("Reading manifest from " ++ path)
  let h ← get
  match h.files.readText h.workingDirectory path with
  | .error e => throw (.manifestUnreadable path e)
  | .ok text =>
    match Manifest.ofText text with
    | .error e => throw (.manifestInvalid e)
    | .ok m => if m.root.isMapping then return m else throw (.manifestNotMapping path)

/-- The directory that relative paths start from: the one given, or the working directory. -/
def base (workDirectory : Option String) : Action Location := do
  match workDirectory with
  | some dir => Action.locate .resolvingWorkingDirectory dir
  | none => Action.ofFile .readingWorkingDirectory "." (← get).currentDirectory

def resolve (m : Manifest) (o : Overrides) (workDirectory : Option String) : Action Config := do
  let base ← base workDirectory
  match Config.resolve { manifest := m, overrides := o, base, files := (← get).files } with
  | .error e => throw (.config e)
  | .ok c =>
    Action.debug ("Resolved " ++ c.displayName ++ " " ++ c.version ++ " (" ++
      toString c.languages.length ++ " language(s), admin: " ++ (if c.admin then "true" else "false")
      ++ ")")
    return c

end FlutterInstaller.Project
