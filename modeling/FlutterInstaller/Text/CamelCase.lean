import FlutterInstaller.Text.Blank
import FlutterInstaller.Text.Split
import FlutterInstaller.Text.Upper

/-!
Camel case: words are what stands between underscores, hyphens and white space; each word keeps
its letters, the first in upper case.
-/
namespace FlutterInstaller.Text

def isSeparator (c : Char) : Bool := c = '_' || c = '-' || isBlank c

def capitalize : List Char → List Char
  | [] => []
  | c :: cs => upper c ++ cs

def camelCaseChars (cs : List Char) : List Char := (splitBy isSeparator cs).flatMap capitalize

def camelCase (s : String) : String := String.ofList (camelCaseChars s.toList)

end FlutterInstaller.Text
