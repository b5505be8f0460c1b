import FlutterInstaller.Text.Blank

/-!
A switch for a page of the wizard that may also be left to the compiler.
-/
namespace FlutterInstaller

inductive PageSwitch
  | auto
  | yes
  | no
  deriving DecidableEq, Repr

namespace PageSwitch

def token : PageSwitch → String
  | .auto => "auto"
  | .yes => "yes"
  | .no => "no"

def ofBool (b : Bool) : PageSwitch := if b then .yes else .no

def ofText? (s : String) : Option PageSwitch :=
  [.auto, .yes, .no].find? fun p => p.token.toList = (Text.trimChars s.toList).map Char.toLower

theorem ofText?_token (p : PageSwitch) : ofText? p.token = some p := by cases p <;> decide

def standard : PageSwitch := .auto

end PageSwitch

def yesNo (b : Bool) : String := (PageSwitch.ofBool b).token

end FlutterInstaller
