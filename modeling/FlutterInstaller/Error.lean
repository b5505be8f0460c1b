import FlutterInstaller.Config.Error
import FlutterInstaller.OsError
import FlutterInstaller.Yaml.Error

/-!
The causes for which a run stops, and the line it prints then.
-/
namespace FlutterInstaller

inductive FileAction
  | readingWorkingDirectory
  | resolvingWorkingDirectory
  | resolvingPath
  | readingAppDirectory
  | creatingDirectory
  | removingDirectory
  | copyingFile
  | creatingFile
  deriving DecidableEq, Repr

def FileAction.wording : FileAction → String
  | .readingWorkingDirectory => "reading working directory"
  | .resolvingWorkingDirectory => "resolving working directory"
  | .resolvingPath => "resolving path"
  | .readingAppDirectory => "reading app build directory"
  | .creatingDirectory => "creating directory"
  | .removingDirectory => "removing directory"
  | .copyingFile => "copying file to"
  | .creatingFile => "creating file"

inductive Error
  | config (e : ConfigError)
  | file (action : FileAction) (path : String) (cause : OsError)
  | notAFile (path : String)
  | compilerMissing
  | compilerNotStarted (command : String) (cause : OsError)
  | compilerFailed (code : Option Nat)
  | noWorkingDirectory (cause : OsError)
  | manifestUnreadable (path : String) (cause : OsError)
  | manifestInvalid (e : Yaml.Error)
  | manifestNotMapping (path : String)
  | arguments (reason : String)
  | flutterMissing
  | flutterNotStarted (command : String) (cause : OsError)
  | flutterFailed (code : Option Nat)
  deriving DecidableEq, Repr

/-- The exit code of a program as it is reported: one that was killed has none. -/
def exitText : Option Nat → String
  | some n => "Some(" ++ toString n ++ ")"
  | none => "None"

namespace Error

def message : Error → String
  | .config e => e.message
  | .file action path cause => "error " ++ action.wording ++ " `" ++ path ++ "`: " ++ cause.message
  | .notAFile path => path ++ " does not exist or is not a file"
  | .compilerMissing =>
    "ISCC.exe not found. Install Inno Setup 6 from https://jrsoftware.org/isinfo.php " ++
      "or add its directory to PATH"
  | .compilerNotStarted command cause => "failed to run `" ++ command ++ "`: " ++ cause.message
  | .compilerFailed code => "ISCC compilation failed with exit code: " ++ exitText code
  | .noWorkingDirectory cause => "IO error: " ++ cause.message
  | .manifestUnreadable path cause =>
    "CLI error: Command execution failed: read_pubspec - Failed to read " ++ path ++ ": " ++
      cause.message
  | .manifestInvalid e => "YAML error: " ++ e.message
  | .manifestNotMapping path =>
    "CLI error: Invalid arguments: " ++ path ++ " is not a YAML mapping"
  | .arguments reason => "CLI error: Invalid arguments: " ++ reason
  | .flutterMissing => "flutter not found in PATH: cannot find binary path"
  | .flutterNotStarted command cause =>
    "running " ++ command ++ " build windows: " ++ cause.message
  | .flutterFailed code => "flutter build windows failed with exit code: " ++ exitText code

def isConfig : Error → Bool
  | .config _ | .manifestInvalid _ => true
  | _ => false

end Error

end FlutterInstaller
