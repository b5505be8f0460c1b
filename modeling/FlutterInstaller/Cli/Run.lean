import FlutterInstaller.Bundle
import FlutterInstaller.Cli.Command
import FlutterInstaller.Config.Environment
import FlutterInstaller.Config.Json
import FlutterInstaller.Project
import FlutterInstaller.Uuid.Version

/-!
The program as a whole: from its arguments to its exit code and what it prints. A step is started
only after those before it succeeded: load, resolve, build the app, generate the script, compile.
-/
namespace FlutterInstaller.Cli

/-- How a run ends. -/
structure Outcome where
  exitCode : Nat
  output : String
  errors : String
  deriving DecidableEq, Repr

def makeId (space : Option String) (entropy : List UInt8) : Uuid :=
  match space with
  | some s => Uuid.ofName Uuid.urlNamespace (Text.trim s)
  | none => Uuid.ofRandom entropy

def runId (space : Option String) : Action String := do
  Action.info "Add it to pubspec.yaml as inno_bundle.id"
  return (makeId space (← get).entropy).text ++ "\n"

def buildApp (project : String) (mode : BuildMode) : Action Unit := do
  let flutter := (← get).findProgram? "flutter"
  if flutter.isSome then Action.info ("Building app with flutter (" ++ mode.name ++ " mode)...")
  match ← Action.runTool .flutter flutter ["build", "windows", "--" ++ mode.name] (some project) with
  | .missing => throw .flutterMissing
  | .refused e => throw (.flutterNotStarted (flutter.getD "flutter") e)
  | .ended _ (some 0) => return ()
  | .ended _ code => throw (.flutterFailed code)

def runBuild (o : BuildOptions) : Action String := do
  let project ← match (← get).currentDirectory with
    | .ok cwd => pure (Path.absolute cwd o.project)
    | .error e => throw (.noWorkingDirectory e)
  let manifest ← Project.loadManifest project
  let config ← Project.resolve manifest o.overrides (some project)
  if o.envs then return config.environment
  else if o.json then return config.jsonText ++ "\n"
  else
    if config.buildApp then buildApp project config.buildMode
    else Action.info "Skipping app build"
    let script ← Bundle.run config project (Layout.appDirectory project config.buildMode)
    return script ++ "\n"

def execute (c : Command) : Action String :=
  match c.objection? with
  | some reason => throw (.arguments reason)
  | none => match c with
    | .build o => runBuild o
    | .id space => runId space

def errorText (e : Error) : String :=
  "Error: " ++ e.message ++ "\n" ++
    if e.isConfig then "Fix the inno_bundle section of pubspec.yaml and try again.\n" else ""

def usage : String :=
  "Inno Setup installer bundler for Flutter Windows apps\n\n" ++
  "Usage:\n" ++
  "  inno_bundle id\n" ++
  "  inno_bundle id --ns \"www.example.com\"\n" ++
  "  inno_bundle build --release\n" ++
  "  inno_bundle build --no-app --no-installer\n" ++
  "  inno_bundle build --envs\n"

def versionText : String := "inno_bundle 0.1.0\n"

def Outcome.ofUsage (e : UsageError) : Outcome :=
  match e with
  | .help => ⟨e.exitCode, usage, ""⟩
  | .version => ⟨e.exitCode, versionText, ""⟩
  | _ => ⟨e.exitCode, "", usage⟩

def run (arguments : List String) : StateM Host Outcome := do
  match Command.ofArguments arguments with
  | .error e => return .ofUsage e
  | .ok command =>
    match ← (execute command).run with
    | .ok output => return ⟨0, output, ""⟩
    | .error e => return ⟨1, "", errorText e⟩

end FlutterInstaller.Cli
