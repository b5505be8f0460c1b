import FlutterInstaller.FileSystem.Lookup

/-!
Changing the tree through paths. Directories are made with those above them, removed with all below
them, and files are written and copied; a failed change keeps what it did before it failed.
-/
namespace FlutterInstaller.FileSystem

abbrev Edit (α : Type) := ExceptT OsError (StateM FileSystem) α

/-- The path without slashes at its end. One that is too long with them stays as it is, so that the
system does not take it. -/
def withoutSlash (p : String) : String :=
  if pathLimit ≤ p.utf8ByteSize then p
  else String.ofList (match (p.toList.reverse.dropWhile (· = '/')).reverse with
    | [] => p.toList
    | cs => cs)

def makeDirectory (cwd : Standpoint) (p : String) : Edit Unit := do
  let fs ← get
  match fs.resolve cwd .inspect (withoutSlash p) with
  | .ok (.free l) => set (fs.insert l .directory)
  | .ok _ => throw .alreadyExists
  | .error e => throw e

def ensureDirectory (cwd : Standpoint) (p : String) : Edit Unit := do
  try makeDirectory cwd p
  catch e => if e = .alreadyExists ∧ (← get).isDirectory cwd p then pure () else throw e

/-- Makes the nearest directory of a lineage that can be made or is there, and gives the paths below
it, the uppermost first. -/
def anchorLineage (cwd : Standpoint) : List String → List String → Edit (List String)
  | [], below => pure below
  | p :: ps, below => do
    let missing ← try ensureDirectory cwd p; pure false
      catch e => if e = .notFound then pure true else throw e
    if missing then anchorLineage cwd ps (p :: below) else pure below

def makeDirectories (cwd : Standpoint) (p : String) : Edit Unit := do
  let below ← anchorLineage cwd (Path.lineage (p.length + 1) p) []
  below.forM (ensureDirectory cwd)

def lastPiece? (p : String) : Option String := ((Path.pieces p).filter (· ≠ "")).getLast?

def isStranded (fs : FileSystem) (cwd : Standpoint) (p : String) : Bool :=
  let names := ((Path.pieces p).filter (· ≠ "")).dropLast.filter (· ≠ ".")
  let before := "/".intercalate (if Path.isAbsolute p then "" :: names else names)
  names ≠ [] && fs.resolve cwd .follow before matches .ok (.free _) | .error .notFound

/-- Removes an empty directory. A path that led through what is removed by now leads nowhere, which
is no error. -/
def removeEmptied (cwd : Standpoint) (p : String) : Edit Unit := do
  let fs ← get
  if fs.isStranded cwd p then pure ()
  else if lastPiece? p = some "." then throw .invalidArgument
  else if lastPiece? p = some ".." then throw .notEmpty
  else match fs.resolve cwd .inspect (withoutSlash p) with
    | .ok (.found [] _) => throw .busy
    | .ok (.found l .directory) =>
      if (fs.names l).isEmpty then set (fs.removeTree l) else throw .notEmpty
    | .ok (.free _) | .error .notFound => pure ()
    | .ok _ => throw .notDirectory
    | .error e => throw e

def removeDirectories (cwd : Standpoint) (p : String) : Edit Unit := do
  let fs ← get
  match fs.resolve cwd .inspect p with
  | .error .notFound => pure ()
  | .error e => throw e
  | .ok (.free _) => pure ()
  | .ok (.found l (.link _)) => set (fs.removeTree l)
  | .ok (.found _ (.file ..)) => throw .notDirectory
  | .ok (.found l .directory) =>
    set (fs.removeBelow l)
    removeEmptied cwd p
  | .ok (.removed _) => removeEmptied cwd p

def openForWriting (cwd : Standpoint) (p : String) : Edit (Location × Bool) := do
  let fs ← get
  match fs.resolve cwd .write p with
  | .error e => throw e
  | .ok (.free l) =>
    set (fs.insert l (.file ByteArray.empty false))
    return (l, false)
  | .ok (.found l (.file _ executable)) =>
    set (fs.insert l (.file ByteArray.empty executable))
    return (l, executable)
  | .ok _ => throw .isDirectory

def write (cwd : Standpoint) (p : String) (content : ByteArray) : Edit Unit := do
  let (l, executable) ← openForWriting cwd p
  modify fun fs => fs.insert l (.file content executable)

/-- Copies a file with its right to run. The target is emptied before the source is read, also when
it is the source itself. -/
def copy (cwd : Standpoint) (source target : String) : Edit Unit := do
  match (← get).find? cwd source with
  | .error e => throw e
  | .ok (some s, .file _ executable) =>
    let (t, _) ← openForWriting cwd target
    match (← get).get? s with
    | some (.file content _) => modify fun fs => fs.insert t (.file content executable)
    | _ => pure ()
  | .ok _ => throw .isDirectory

end FlutterInstaller.FileSystem
