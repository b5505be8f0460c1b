import FlutterInstaller.Config.Basic
import FlutterInstaller.Json.Basic

/-!
A configuration as a JSON object with one member for each field, in the order of the fields.
-/
namespace FlutterInstaller

def Icon.json : Icon → Json
  | .standard => .string "default"
  | .custom place => .object [("custom", .string (Path.text place))]

namespace Config

def json (c : Config) : Json :=
  .object
    [("id", .string c.id.text),
     ("manifestName", .string c.manifestName),
     ("displayName", .string c.displayName),
     ("description", .string c.description),
     ("version", .string c.version),
     ("publisher", .string c.publisher),
     ("url", .string c.url),
     ("supportUrl", .string c.supportUrl),
     ("updatesUrl", .string c.updatesUrl),
     ("installerIcon", c.icon.json),
     ("licenseFile", (c.license.map fun place => Json.string (Path.text place)).getD .null),
     ("languages", .array (c.languages.map fun l => .string l.name)),
     ("admin", .bool c.admin),
     ("disableWelcomePage", .bool c.disableWelcomePage),
     ("disableReadyPage", .bool c.disableReadyPage),
     ("disableFinishedPage", .bool c.disableFinishedPage),
     ("disableReadyMemo", .bool c.disableReadyMemo),
     ("disableDirPage", .string c.disableDirPage.token),
     ("disableProgramGroupPage", .string c.disableProgramGroupPage.token),
     ("vcRedist", .bool c.vcRedist),
     ("buildMode", .string c.buildMode.name),
     ("buildApp", .bool c.buildApp),
     ("buildInstaller", .bool c.buildInstaller)]

def jsonText (c : Config) : String := c.json.text

end Config

end FlutterInstaller
