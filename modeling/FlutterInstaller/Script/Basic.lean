/-!
Installer scripts. A script is a list of sections under a fixed comment; a section is a list of
lines, each either a directive or an entry of parameters. Rendering adds the marks and nothing else.
-/
namespace FlutterInstaller.Script

inductive Argument
  | quoted (text : String)
  | bare (text : String)
  deriving DecidableEq

structure Parameter where
  key : String
  argument : Argument
  deriving DecidableEq

inductive Line
  | directive (key value : String)
  | entry (parameters : List Parameter)
  deriving DecidableEq

structure Section where
  name : String
  lines : List Line
  deriving DecidableEq

def quoted (key text : String) : Parameter := ⟨key, .quoted text⟩

def bare (key text : String) : Parameter := ⟨key, .bare text⟩

def Argument.render : Argument → String
  | .quoted text => "\"" ++ text ++ "\""
  | .bare text => text

def Parameter.render (p : Parameter) : String := p.key ++ ": " ++ p.argument.render

def Line.render : Line → String
  | .directive key value => key ++ "=" ++ value
  | .entry parameters => "; ".intercalate (parameters.map Parameter.render)

def Section.render (s : Section) : String :=
  "[" ++ s.name ++ "]\n" ++ String.join (s.lines.map fun l => l.render ++ "\n")

def preamble : String :=
  "; Inno Setup script generated by inno_bundle.\n" ++
    "; Changes are overwritten on the next build; edit pubspec.yaml instead.\n\n"

/-- The text of a script: an empty line stands between two sections. -/
def render (sections : List Section) : String :=
  preamble ++ "\n".intercalate (sections.map Section.render)

def byteOrderMark : String := String.ofList [Char.ofNat 0xFEFF]

end FlutterInstaller.Script
