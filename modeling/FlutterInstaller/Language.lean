/-!
The languages an installer can speak: those with a message file that comes with the compiler. A
language is looked up by its name in any case of ASCII letters.
-/
namespace FlutterInstaller

inductive Language
  | english
  | armenian
  | brazilianPortuguese
  | bulgarian
  | catalan
  | corsican
  | czech
  | danish
  | dutch
  | finnish
  | french
  | german
  | hebrew
  | hungarian
  | icelandic
  | italian
  | japanese
  | norwegian
  | polish
  | portuguese
  | russian
  | slovak
  | slovenian
  | spanish
  | turkish
  | ukrainian
  deriving DecidableEq, Repr

namespace Language

/-- Every language in catalog order; English comes first. -/
def all : List Language :=
  [.english, .armenian, .brazilianPortuguese, .bulgarian, .catalan, .corsican, .czech,
    .danish, .dutch, .finnish, .french, .german, .hebrew, .hungarian, .icelandic, .italian,
    .japanese, .norwegian, .polish, .portuguese, .russian, .slovak, .slovenian, .spanish,
    .turkish, .ukrainian]

def title : Language → String
  | .english => "English"
  | .armenian => "Armenian"
  | .brazilianPortuguese => "BrazilianPortuguese"
  | .bulgarian => "Bulgarian"
  | .catalan => "Catalan"
  | .corsican => "Corsican"
  | .czech => "Czech"
  | .danish => "Danish"
  | .dutch => "Dutch"
  | .finnish => "Finnish"
  | .french => "French"
  | .german => "German"
  | .hebrew => "Hebrew"
  | .hungarian => "Hungarian"
  | .icelandic => "Icelandic"
  | .italian => "Italian"
  | .japanese => "Japanese"
  | .norwegian => "Norwegian"
  | .polish => "Polish"
  | .portuguese => "Portuguese"
  | .russian => "Russian"
  | .slovak => "Slovak"
  | .slovenian => "Slovenian"
  | .spanish => "Spanish"
  | .turkish => "Turkish"
  | .ukrainian => "Ukrainian"

def name : Language → String
  | .english => "english"
  | .armenian => "armenian"
  | .brazilianPortuguese => "brazilianportuguese"
  | .bulgarian => "bulgarian"
  | .catalan => "catalan"
  | .corsican => "corsican"
  | .czech => "czech"
  | .danish => "danish"
  | .dutch => "dutch"
  | .finnish => "finnish"
  | .french => "french"
  | .german => "german"
  | .hebrew => "hebrew"
  | .hungarian => "hungarian"
  | .icelandic => "icelandic"
  | .italian => "italian"
  | .japanese => "japanese"
  | .norwegian => "norwegian"
  | .polish => "polish"
  | .portuguese => "portuguese"
  | .russian => "russian"
  | .slovak => "slovak"
  | .slovenian => "slovenian"
  | .spanish => "spanish"
  | .turkish => "turkish"
  | .ukrainian => "ukrainian"

def messagesFile : Language → String
  | .english => "compiler:Default.isl"
  | l => "compiler:Languages\\" ++ l.title ++ ".isl"

def ofName? (s : String) : Option Language :=
  all.find? fun l => l.name.toList = s.toList.map Char.toLower

theorem mem_all (l : Language) : l ∈ all := by cases l <;> decide

theorem name_injective {k l : Language} (h : k.name = l.name) : k = l := by
  revert h
  cases k <;> cases l <;> decide

theorem map_toLower_name (l : Language) : l.name.toList.map Char.toLower = l.name.toList := by
  cases l <;> decide

theorem ofName?_name (l : Language) : ofName? l.name = some l := by
  unfold ofName?
  rw [map_toLower_name]
  cases found : all.find? fun k => k.name.toList = l.name.toList with
  | none =>
    have missing := List.find?_eq_none.mp found l (mem_all l)
    simp at missing
  | some k =>
    have same : k.name.toList = l.name.toList := by simpa using List.find?_some found
    exact congrArg some (name_injective (String.toList_inj.mp same))

end Language

end FlutterInstaller
