import FlutterInstaller.FileSystem.Standpoint

/-!
Finding what a path names. The pieces of the path are walked from the root or from the working
directory; a link is replaced by the pieces of its target, at most forty times.
-/
namespace FlutterInstaller.FileSystem

/-- Where a walk ends: at an entry, at a free place in an existing directory, or in a directory that
was removed. -/
inductive Place
  | found (place : Location) (entry : Entry)
  | free (place : Location)
  | removed (s : Standpoint)

def linkLimit : Nat := 40

def nameLimit : Nat := 255
def pathLimit : Nat := 4096

/-- What a path is walked for: the entry itself, what it leads to, or a file to be written. -/
inductive Purpose
  | inspect
  | follow
  | write
  deriving DecidableEq

/-- Walks pieces from a directory. A link at the end is followed unless the entry itself is asked
for, or if a slash stands after it; a slash after the name of a file to be written asks for a
directory, whatever stands there. -/
def walk (fs : FileSystem) (purpose : Purpose) (links : Nat) (s : Standpoint)
    (pieces : List String) : Except OsError Place :=
  match pieces with
  | [] => .ok (s.location?.elim (.removed s) fun l => .found l .directory)
  | n :: rest =>
    if n = "" ∨ n = "." then walk fs purpose links s rest
    else if n = ".." then walk fs purpose links s.up rest
    else if purpose = .write ∧ rest ≠ [] ∧ rest.all (· = "") then .error .isDirectory
    else match s.location? with
      | none => .error .notFound
      | some l =>
        let here := l ++ [n]
        if nameLimit < n.utf8ByteSize then .error .nameTooLong
        else match fs.get? here with
          | none => if rest.all (· = "") then .ok (.free here) else .error .notFound
          | some .directory => walk fs purpose links (.ofPlace here) rest
          | some (.file content executable) =>
            if rest = [] then .ok (.found here (.file content executable)) else .error .notDirectory
          | some (.link target) =>
            if rest = [] ∧ purpose = .inspect then .ok (.found here (.link target))
            else match links with
              | 0 => .error .tooManyLinks
              | links + 1 =>
                if target = "" then .error .notFound
                else walk fs purpose links (if Path.isAbsolute target then .root else s)
                  (Path.pieces target ++ rest)
termination_by (links, pieces.length)

def resolve (fs : FileSystem) (cwd : Standpoint) (purpose : Purpose) (p : String) :
    Except OsError Place :=
  if p.toList.contains '\x00' then .error .nulInName
  else if p = "" then .error .notFound
  else if pathLimit ≤ p.utf8ByteSize then .error .nameTooLong
  else walk fs purpose linkLimit (if Path.isAbsolute p then .root else cwd.settle fs) (Path.pieces p)

def find? (fs : FileSystem) (cwd : Standpoint) (p : String) :
    Except OsError (Option Location × Entry) :=
  match fs.resolve cwd .follow p with
  | .ok (.found l e) => .ok (some l, e)
  | .ok (.removed _) => .ok (none, .directory)
  | .ok (.free _) => .error .notFound
  | .error e => .error e

def isFile (fs : FileSystem) (cwd : Standpoint) (p : String) : Bool :=
  match fs.find? cwd p with
  | .ok (_, .file ..) => true
  | _ => false

def isDirectory (fs : FileSystem) (cwd : Standpoint) (p : String) : Bool :=
  match fs.find? cwd p with
  | .ok (_, .directory) => true
  | _ => false

def standpoint (fs : FileSystem) (cwd : Standpoint) (p : String) : Except OsError Standpoint :=
  match fs.resolve cwd .follow p with
  | .ok (.found l .directory) => .ok (.ofPlace l)
  | .ok (.found ..) => .error .notDirectory
  | .ok (.removed s) => .ok s
  | .ok (.free _) => .error .notFound
  | .error e => .error e

def read (fs : FileSystem) (cwd : Standpoint) (p : String) : Except OsError ByteArray :=
  match fs.find? cwd p with
  | .ok (_, .file content _) => .ok content
  | .ok _ => .error .isDirectory
  | .error e => .error e

def readText (fs : FileSystem) (cwd : Standpoint) (p : String) : Except OsError String :=
  match fs.read cwd p with
  | .ok content => (String.fromUTF8? content).elim (.error .notText) .ok
  | .error e => .error e

end FlutterInstaller.FileSystem
