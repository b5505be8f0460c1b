import FlutterInstaller.BuildMode
import FlutterInstaller.Path

/-!
Where the parts of a project lie: the built app, the installer with its script, and what is staged
for it.
-/
namespace FlutterInstaller.Layout

def installerRoot : String := "build/windows/x64/installer"

def appRoot : String := "build/windows/x64/runner"

def scriptName : String := "inno-script.iss"

def runtimeLibraries : List String := ["msvcp140.dll", "vcruntime140.dll", "vcruntime140_1.dll"]

def outputDirectory (project : String) (mode : BuildMode) : String :=
  Path.join (Path.join project installerRoot) mode.directory

def appDirectory (project : String) (mode : BuildMode) : String :=
  Path.join (Path.join project appRoot) mode.directory

def systemDirectory (systemRoot : Option String) : String :=
  Path.join (systemRoot.getD "C:\\Windows") "System32"

/-- Where things are staged for an application, the same from run to run. -/
def stagingDirectory (temporary id : String) : String :=
  Path.join (Path.join temporary "inno_bundle") id

def iconPath (staging : String) : String := Path.join staging "installer.ico"

def libraryDirectory (staging : String) : String := Path.join staging "vcruntime"

end FlutterInstaller.Layout
