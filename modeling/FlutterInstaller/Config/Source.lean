import FlutterInstaller.Config.Error
import FlutterInstaller.Manifest
import FlutterInstaller.PageSwitch
import FlutterInstaller.Text.Blank

/-!
Where the value of a field may come from. A text field takes the first of its sources that holds a
text which is not blank; a source that is absent or null is passed over, and one that holds
anything else is refused.
-/
namespace FlutterInstaller

inductive Source
  | given (text : Option String)
  | field (name : String) (value : Option Yaml.Value)

namespace Source

def top (m : Manifest) (key : String) : Source := .field key (m.field key)

def toolName (key : String) : String := Manifest.toolKey ++ "." ++ key

def tool (m : Manifest) (key : String) : Source := .field (toolName key) (m.toolField key)

def text? : Source → Except ConfigError (Option String)
  | .given text => .ok text
  | .field _ none => .ok none
  | .field _ (some .null) => .ok none
  | .field _ (some (.string s)) => .ok (some s)
  | .field name (some _) => .error (.invalidType name .string)

/-- The text that a source offers: none if it is blank. -/
def offer (s : Source) : Except ConfigError (Option String) :=
  s.text?.map fun t => t.filter fun t => !decide (Text.Blank t)

def first : List Source → Except ConfigError (Option String)
  | [] => .ok none
  | s :: rest =>
    match s.offer with
    | .error e => .error e
    | .ok (some t) => .ok (some t)
    | .ok none => first rest

def required (name : String) (sources : List Source) : Except ConfigError String :=
  match first sources with
  | .error e => .error e
  | .ok (some t) => .ok t
  | .ok none => .error (.missingField name)

def bool? (name : String) : Option Yaml.Value → Except ConfigError (Option Bool)
  | none => .ok none
  | some .null => .ok none
  | some (.bool b) => .ok (some b)
  | some _ => .error (.invalidType name .boolean)

def toolBool? (m : Manifest) (key : String) : Except ConfigError (Option Bool) :=
  bool? (toolName key) (m.toolField key)

def pageSwitch (name : String) : Option Yaml.Value → Except ConfigError PageSwitch
  | none => .ok .standard
  | some .null => .ok .standard
  | some (.bool b) => .ok (.ofBool b)
  | some (.string s) =>
    match PageSwitch.ofText? s with
    | some p => .ok p
    | none => .error (.invalidSwitch name s)
  | some _ => .error (.invalidType name .pageSwitch)

def toolSwitch (m : Manifest) (key : String) : Except ConfigError PageSwitch :=
  pageSwitch (toolName key) (m.toolField key)

end Source

end FlutterInstaller
