import FlutterInstaller.Script.Build

/-!
From a built app to its installer: the script is generated, and the compiler run on it if the
configuration asks for an installer.
-/
namespace FlutterInstaller.Bundle

def compilerName : String := "iscc"
def usualCompiler : String := "C:\\Program Files (x86)\\Inno Setup 6\\ISCC.exe"

def findCompiler? : Action (Option String) := do
  let h ← get
  match h.findProgram? compilerName with
  | some path =>
    Action.debug ("Found ISCC at: " ++ path)
    return some path
  | none =>
    if h.isFile usualCompiler then
      Action.debug ("Using ISCC from default install path: " ++ usualCompiler)
      return some usualCompiler
    else return none

def compile (script : String) : Action Unit := do
  let compiler ← findCompiler?
  if compiler.isSome then Action.info ("Running ISCC on " ++ script ++ "...")
  match ← Action.runTool .compiler compiler [script] none with
  | .missing => throw .compilerMissing
  | .refused e => throw (.compilerNotStarted (compiler.getD compilerName) e)
  | .ended _ (some 0) => return ()
  | .ended _ code => throw (.compilerFailed code)

/-- Makes the installer of a project and gives the path of its script. -/
def run (c : Config) (project appDirectory : String) : Action String := do
  Action.info ("Building Inno Setup installer for " ++ c.displayName)
  let script ← Script.Request.build { config := c, appDirectory, workDirectory := some project }
  if c.buildInstaller then
    compile script
    Action.info ("✓ Created installer: " ++
      Path.join (Layout.outputDirectory project c.buildMode) (c.installerName ++ ".exe"))
  else Action.info "Skipping installer compilation"
  return script

end FlutterInstaller.Bundle
