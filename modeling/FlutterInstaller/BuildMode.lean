/-!
The three ways of building an app. The mode chooses the directory that the build and its installer
use, and nothing else.
-/
namespace FlutterInstaller

inductive BuildMode
  | debug
  | profile
  | release
  deriving DecidableEq, Repr

namespace BuildMode

def name : BuildMode → String
  | .debug => "debug"
  | .profile => "profile"
  | .release => "release"

def directory : BuildMode → String
  | .debug => "Debug"
  | .profile => "Profile"
  | .release => "Release"

def standard : BuildMode := .release

theorem directory_injective {a b : BuildMode} (h : a.directory = b.directory) : a = b := by
  revert h
  cases a <;> cases b <;> decide

end BuildMode

end FlutterInstaller
