import FlutterInstaller.FileSystem.Lookup

/-!
Starting a file. A native program is started itself. A script is handed to the program that its
first line names after `#!`, which may be a script again.
-/
namespace FlutterInstaller

structure Launch where
  program : Location
  arguments : List String
  directory : Standpoint
  deriving DecidableEq, Repr

namespace Launch

def headLength : Nat := 256

def scriptLimit : Nat := 5

def isBlank (o : UInt8) : Bool := o.toNat == 0x20 || o.toNat == 0x09

def isBreak (o : UInt8) : Bool := o.toNat == 0x0A

def isNul (o : UInt8) : Bool := o.toNat == 0x00

def isNative (content : ByteArray) : Bool :=
  [0x7F, 0x45, 0x4C, 0x46].isPrefixOf ((content.toList.take 4).map UInt8.toNat)

def scriptHead? (content : ByteArray) : Option (List UInt8) :=
  match content.toList.take headLength with
  | a :: b :: rest =>
    if a.toNat = 0x23 ∧ b.toNat = 0x21 then some (rest.rightpad (headLength - 2) (UInt8.ofNat 0))
    else none
  | _ => none

/-- The first line of a script. Where the head does not hold its end, the name of the program has to
end within the head. -/
def firstLine? (head : List UInt8) : Option (List UInt8) :=
  let (line, rest) := head.span fun o => !isBreak o && !isNul o
  if rest.head?.any isBreak then some line
  else if (head.dropWhile isBlank).any fun o => isBlank o || isNul o then some head.dropLast
  else none

def withoutBlanksAround (os : List UInt8) : List UInt8 :=
  (os.dropWhile isBlank).reverse.dropWhile isBlank |>.reverse

def nameOf (os : List UInt8) : Except OsError String :=
  (String.fromUTF8? ⟨os.toArray⟩).elim (.error .notFound) .ok

/-- The program that runs a script, and the argument that its first line gives it. A name without a
character stands for the directory itself, which cannot be run. -/
def interpreter (content : ByteArray) : Except OsError (String × Option String) :=
  match ((scriptHead? content).bind firstLine?).map withoutBlanksAround with
  | none | some [] => .error .badFormat
  | some line => do
    let (name, rest) := line.span fun o => !isBlank o && !isNul o
    if name = [] then .error .permissionDenied
    else if rest.head?.any isBlank then
      let argument ← nameOf ((rest.dropWhile isBlank).takeWhile fun o => !isNul o)
      return (← nameOf name, some argument)
    else return (← nameOf name, none)

def start (fs : FileSystem) (directory : Standpoint) :
    Nat → String → List String → Except OsError Launch
  | files, p, arguments =>
    match fs.find? directory p with
    | .error e => .error e
    | .ok (some program, .file content true) =>
      match files with
      | 0 => .error .tooManyLinks
      | files + 1 =>
        if isNative content then .ok { program, arguments, directory }
        else match interpreter content with
          | .error e => .error e
          | .ok (name, argument) =>
            start fs directory files name (argument.toList ++ p :: arguments)
    | .ok _ => .error .permissionDenied

def ofPath (fs : FileSystem) (directory : Standpoint) (p : String) (arguments : List String) :
    Except OsError Launch :=
  start fs directory (scriptLimit + 1) p arguments

end Launch

end FlutterInstaller
