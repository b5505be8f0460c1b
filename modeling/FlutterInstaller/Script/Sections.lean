import FlutterInstaller.Config.Basic
import FlutterInstaller.Script.Basic
import FlutterInstaller.Script.Escape

/-!
The sections of an installer's script, each from the configuration and, for the files, from the
children of the app's directory.
-/
namespace FlutterInstaller.Script

def below (constant name : String) : String := "\x7b" ++ constant ++ "\x7d\\" ++ name

/-- The directives of the application: every one once, in a fixed order; the licence only where one
is set. -/
def setup (c : Config) (outputDirectory icon : String) : Section where
  name := "Setup"
  lines :=
    [.directive "AppId" ("\x7b\x7b" ++ c.id.text ++ "\x7d"),
     .directive "AppName" (freeText c.displayName),
     .directive "UninstallDisplayName" (freeText c.displayName),
     .directive "UninstallDisplayIcon" (below "app" c.targetExe),
     .directive "AppVersion" c.version,
     .directive "AppComments" (freeText c.description),
     .directive "AppPublisher" (freeText c.publisher),
     .directive "AppPublisherURL" (freeText c.url),
     .directive "AppSupportURL" (freeText c.supportUrl),
     .directive "AppUpdatesURL" (freeText c.updatesUrl),
     .directive "DefaultDirName" (below "autopf" c.displayName),
     .directive "PrivilegesRequired" (if c.admin then "admin" else "lowest"),
     .directive "OutputDir" outputDirectory,
     .directive "OutputBaseFilename" c.installerName,
     .directive "SetupIconFile" icon] ++
    (c.license.map fun place => Line.directive "LicenseFile" (Path.text place)).toList ++
    [.directive "Compression" "lzma2",
     .directive "SolidCompression" "yes",
     .directive "WizardStyle" "modern",
     .directive "ArchitecturesAllowed" "x64compatible",
     .directive "ArchitecturesInstallIn64BitMode" "x64compatible",
     .directive "DisableWelcomePage" (yesNo c.disableWelcomePage),
     .directive "DisableDirPage" c.disableDirPage.token,
     .directive "DisableProgramGroupPage" c.disableProgramGroupPage.token,
     .directive "DisableReadyMemo" (yesNo c.disableReadyMemo),
     .directive "DisableReadyPage" (yesNo c.disableReadyPage),
     .directive "DisableFinishedPage" (yesNo c.disableFinishedPage)]

def installDelete : Section where
  name := "InstallDelete"
  lines := [.entry [bare "Type" "filesandordirs", quoted "Name" (below "app" "*")]]

def languages (c : Config) : Section where
  name := "Languages"
  lines := c.languages.map fun l =>
    .entry [quoted "Name" l.name, quoted "MessagesFile" l.messagesFile]

def tasks : Section where
  name := "Tasks"
  lines :=
    [.entry
      [quoted "Name" "desktopicon", quoted "Description" "\x7bcm:CreateDesktopIcon\x7d",
       quoted "GroupDescription" "\x7bcm:AdditionalIcons\x7d", bare "Flags" "unchecked"]]

/-- What is installed of a child of the app's directory, or of a staged library. -/
inductive FileItem
  | directory (path name : String)
  | renamed (path target : String)
  | plain (path : String)
  deriving DecidableEq

def FileItem.line : FileItem → Line
  | .directory path name =>
    .entry
      [quoted "Source" (path ++ "\\*"), quoted "DestDir" (below "app" name),
       bare "Flags" "ignoreversion recursesubdirs createallsubdirs"]
  | .renamed path target =>
    .entry
      [quoted "Source" path, quoted "DestDir" "\x7bapp\x7d", quoted "DestName" target,
       bare "Flags" "ignoreversion"]
  | .plain path =>
    .entry [quoted "Source" path, quoted "DestDir" "\x7bapp\x7d", bare "Flags" "ignoreversion"]

/-- How a child is installed: a directory with all it holds, the executable under the name that is
shown where that differs, and any other file as it is. -/
def FileItem.ofChild (c : Config) (path name : String) (isDirectory : Bool) : FileItem :=
  if isDirectory then .directory path name
  else if c.sourceExe ≠ c.targetExe ∧ name = c.sourceExe then .renamed path c.targetExe
  else .plain path

def files (items : List FileItem) : Section where
  name := "Files"
  lines := items.map FileItem.line

def icons (c : Config) : Section where
  name := "Icons"
  lines :=
    [.entry
      [quoted "Name" (below "autoprograms" c.displayName),
       quoted "Filename" (below "app" c.targetExe)],
     .entry
      [quoted "Name" (below "autodesktop" c.displayName),
       quoted "Filename" (below "app" c.targetExe), bare "Tasks" "desktopicon"]]

def run (c : Config) : Section where
  name := "Run"
  lines :=
    [.entry
      [quoted "Filename" (below "app" c.targetExe),
       quoted "Description" ("\x7bcm:LaunchProgram," ++ label c.displayName ++ "\x7d"),
       bare "Flags" "nowait postinstall skipifsilent"]]

def sections (c : Config) (outputDirectory icon : String) (items : List FileItem) : List Section :=
  [setup c outputDirectory icon, installDelete, languages c, tasks, files items, icons c, run c]

end FlutterInstaller.Script
