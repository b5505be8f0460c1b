import FlutterInstaller.Cli.Run

/-!
The command line. The files that a run may read and whose places are known beforehand are loaded
first: the manifest, what it names, the libraries of the system. The run itself is a function of what
was loaded; what it changed is written to the disk at the end, before its output.
-/
namespace FlutterInstaller.Main

def addParents (files : FileSystem) (place : Location) : FileSystem :=
  ((List.range place.length).map fun n => place.take n).foldl
    (fun fs l => if (fs.get? l).isSome then fs else fs.insert l .directory) files

def addFile (files : FileSystem) (place : Location) : IO FileSystem := do
  try
    let content ← IO.FS.readBinFile (Path.text place)
    return (addParents files place).insert place (.file content false)
  catch _ => return files

def namedFiles (project : Location) (m : Manifest) : List Location :=
  ["installer_icon", "license_file"].filterMap fun key =>
    ((m.toolField key).bind Yaml.Value.string?).map (Path.locate project)

def neededFiles (cwd : Location) (system : String) (c : Cli.Command) : IO (List Location) := do
  match c with
  | .id _ => return []
  | .build o =>
    let project := Path.locate cwd o.project
    let manifest := project ++ [Manifest.fileName]
    let named ← try
        let content ← IO.FS.readBinFile (Path.text manifest)
        match (String.fromUTF8? content).map Manifest.ofText with
        | some (.ok m) => pure (namedFiles project m)
        | _ => pure []
      catch _ => pure []
    let libraries := Layout.runtimeLibraries.map fun name => Path.locate cwd (Path.join system name)
    return manifest :: named ++ libraries

def load (arguments : List String) : IO Host := do
  let cwd := Path.locate [] ((← IO.getEnv "PWD").getD "/")
  let systemRoot ← IO.getEnv "SystemRoot"
  let needed ← match Cli.Command.ofArguments arguments with
    | .ok c => neededFiles cwd (Layout.systemDirectory systemRoot) c
    | .error _ => pure []
  let start := addParents FileSystem.empty (cwd ++ [Manifest.fileName])
  return {
    files := ← needed.foldlM addFile start
    workingDirectory := .ofPlace cwd
    temporaryDirectory := (← IO.getEnv "TMPDIR").getD "/tmp"
    systemRoot
    searchPath := Text.pieces ':' ((← IO.getEnv "PATH").getD "")
    entropy := (← IO.getRandomBytes 16).toList
    exitCode := fun _ _ => none
    log := []
    runs := [] }

def store (before after : FileSystem) : IO Unit := do
  for (place, entry) in after.entries.reverse do
    match entry, before.get? place with
    | .file content _, old =>
      if (old.bind Entry.content?).map ByteArray.toList ≠ some content.toList then
        IO.FS.createDirAll (Path.text place.dropLast)
        IO.FS.writeBinFile (Path.text place) content
    | .directory, none => IO.FS.createDirAll (Path.text place)
    | _, _ => pure ()

end FlutterInstaller.Main

def main (arguments : List String) : IO UInt32 := do
  let host ← FlutterInstaller.Main.load arguments
  let (outcome, after) := (FlutterInstaller.Cli.run arguments).run host
  FlutterInstaller.Main.store host.files after.files
  IO.print outcome.output
  IO.eprint outcome.errors
  return outcome.exitCode.toUInt32
