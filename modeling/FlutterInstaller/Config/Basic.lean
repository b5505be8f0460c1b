import FlutterInstaller.BuildMode
import FlutterInstaller.Language
import FlutterInstaller.PageSwitch
import FlutterInstaller.Path
import FlutterInstaller.Text.CamelCase
import FlutterInstaller.Uuid.Basic

/-!
The configuration of one installer, and the names derived from it.
-/
namespace FlutterInstaller

/-- The icon of the installer: the one that comes with this program, or a file. -/
inductive Icon
  | standard
  | custom (place : Location)
  deriving DecidableEq

/-- What the caller decides in place of the manifest. -/
structure Overrides where
  version : Option String := none
  buildMode : BuildMode := .standard
  buildApp : Bool := true
  buildInstaller : Bool := true
  deriving DecidableEq

structure Config where
  id : Uuid
  manifestName : String
  displayName : String
  description : String
  version : String
  publisher : String
  url : String
  supportUrl : String
  updatesUrl : String
  icon : Icon
  license : Option Location
  languages : List Language
  admin : Bool
  disableWelcomePage : Bool
  disableReadyPage : Bool
  disableFinishedPage : Bool
  disableReadyMemo : Bool
  disableDirPage : PageSwitch
  disableProgramGroupPage : PageSwitch
  vcRedist : Bool
  buildMode : BuildMode
  buildApp : Bool
  buildInstaller : Bool
  deriving DecidableEq

namespace Config

def camelCaseName (c : Config) : String := Text.camelCase c.displayName

def sourceExe (c : Config) : String := c.manifestName ++ ".exe"

def targetExe (c : Config) : String := c.displayName ++ ".exe"

def installerName (c : Config) : String :=
  c.camelCaseName ++ "-x86_64-" ++ c.version ++ "-Installer"

end Config

end FlutterInstaller
