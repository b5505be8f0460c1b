/-!
The ways in which the operating system refuses an operation on files or the start of a program.
-/
namespace FlutterInstaller

inductive OsError
  | notFound
  | badFormat
  | permissionDenied
  | busy
  | alreadyExists
  | notDirectory
  | isDirectory
  | invalidArgument
  | nameTooLong
  | notImplemented
  | notEmpty
  | tooManyLinks
  | nulInName
  | notText
  | noAppDirectory
  deriving DecidableEq, Repr

namespace OsError

def number? : OsError → Option Nat
  | notFound => some 2
  | badFormat => some 8
  | permissionDenied => some 13
  | busy => some 16
  | alreadyExists => some 17
  | notDirectory => some 20
  | isDirectory => some 21
  | invalidArgument => some 22
  | nameTooLong => some 36
  | notImplemented => some 38
  | notEmpty => some 39
  | tooManyLinks => some 40
  | nulInName | notText | noAppDirectory => none

def wording : OsError → String
  | notFound => "No such file or directory"
  | badFormat => "Exec format error"
  | permissionDenied => "Permission denied"
  | busy => "Device or resource busy"
  | alreadyExists => "File exists"
  | notDirectory => "Not a directory"
  | isDirectory => "Is a directory"
  | invalidArgument => "Invalid argument"
  | nameTooLong => "File name too long"
  | notImplemented => "Function not implemented"
  | notEmpty => "Directory not empty"
  | tooManyLinks => "Too many levels of symbolic links"
  | nulInName => "file name contained an unexpected NUL byte"
  | notText => "stream did not contain valid UTF-8"
  | noAppDirectory => "app build directory does not exist"

def message (e : OsError) : String :=
  match e.number? with
  | some n => e.wording ++ " (os error " ++ toString n ++ ")"
  | none => e.wording

end OsError

end FlutterInstaller
