import FlutterInstaller.Text.Doubling
import FlutterInstaller.Text.Line

/-!
Making texts safe for a script: an opening brace would start a constant and an ampersand would mark
a letter, so both are doubled where they stand for themselves.
-/
namespace FlutterInstaller.Script

/-- A free text as the value of a directive: on one line, with its opening braces doubled. -/
def freeText (s : String) : String := Text.double '\x7b' (Text.singleLine s)

def label (s : String) : String := Text.double '&' s

end FlutterInstaller.Script
