import FlutterInstaller.Config.Basic
import FlutterInstaller.Text.Line

/-!
A configuration as variables for the steps of a build, one line each. Texts of several lines are
folded onto one.
-/
namespace FlutterInstaller

def Icon.variable : Icon → String
  | .standard => "default"
  | .custom place => Path.text place

namespace Config

def boolText (b : Bool) : String := if b then "true" else "false"

def environmentVariables (c : Config) : List (String × String) :=
  [("APP_ID", c.id.text),
   ("PUBSPEC_NAME", c.manifestName),
   ("APP_NAME", c.displayName),
   ("APP_NAME_CAMEL_CASE", c.camelCaseName),
   ("APP_DESCRIPTION", Text.singleLine c.description),
   ("APP_VERSION", c.version),
   ("APP_PUBLISHER", Text.singleLine c.publisher),
   ("APP_URL", Text.singleLine c.url),
   ("APP_SUPPORT_URL", Text.singleLine c.supportUrl),
   ("APP_UPDATES_URL", Text.singleLine c.updatesUrl),
   ("APP_INSTALLER_ICON", c.icon.variable),
   ("APP_LANGUAGES", ",".intercalate (c.languages.map Language.name)),
   ("APP_ADMIN", boolText c.admin),
   ("APP_TYPE", c.buildMode.name),
   ("APP_BUILD_APP", boolText c.buildApp),
   ("APP_BUILD_INSTALLER", boolText c.buildInstaller)]

def environment (c : Config) : String :=
  String.join (c.environmentVariables.map fun kv => kv.1 ++ "=" ++ kv.2 ++ "\n")

end Config

end FlutterInstaller
