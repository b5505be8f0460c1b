import FlutterInstaller.Text.Blank
import FlutterInstaller.Text.Split

/-!
Texts of several lines, and their folding onto one: each line is trimmed, blank lines are dropped
and the others are joined by one space.
-/
namespace FlutterInstaller.Text

def filledLines (cs : List Char) : List (List Char) :=
  ((splitBy (· = '\n') cs).map trimChars).filter (· ≠ [])

def singleLineChars (cs : List Char) : List Char := [' '].intercalate (filledLines cs)

/-- The text on one line, so that it can stand as a value after a key. -/
def singleLine (s : String) : String := String.ofList (singleLineChars s.toList)

end FlutterInstaller.Text
