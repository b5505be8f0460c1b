import FlutterInstaller.Path

/-!
The causes for which a manifest is refused, and their wording.
-/
namespace FlutterInstaller

inductive Expected
  | string
  | boolean
  | mapping
  | languageNames
  | pageSwitch
  deriving DecidableEq, Repr

def Expected.wording : Expected → String
  | .string => "a string"
  | .boolean => "a boolean"
  | .mapping => "a mapping"
  | .languageNames => "a list of language names"
  | .pageSwitch => "one of `auto`, `yes` or `no`"

inductive ConfigError
  | missingId
  | invalidId (raw : String)
  | missingField (field : String)
  | invalidDisplayName (name : String)
  | iconNotFound (place : Location)
  | licenseNotFound (place : Location)
  | unknownLanguage (name : String)
  | emptyLanguages
  | invalidType (field : String) (expected : Expected)
  | invalidSwitch (field value : String)
  deriving DecidableEq, Repr

def ConfigError.message : ConfigError → String
  | .missingId =>
    "inno_bundle.id is missing from pubspec.yaml; generate one with `inno_bundle id` " ++
      "(or `inno_bundle id --ns \"www.example.com\"` for a namespaced id)"
  | .invalidId raw => "inno_bundle.id `" ++ raw ++ "` is not a valid UUID"
  | .missingField field =>
    "`" ++ field ++ "` is required but was not found in inno_bundle or pubspec.yaml"
  | .invalidDisplayName name =>
    "inno_bundle.name `" ++ name ++ "` may only contain letters, digits, spaces and `_-.&`"
  | .iconNotFound place => "inno_bundle.installer_icon not found at `" ++ Path.text place ++ "`"
  | .licenseNotFound place => "inno_bundle.license_file not found at `" ++ Path.text place ++ "`"
  | .unknownLanguage name =>
    "inno_bundle.languages: `" ++ name ++ "` is not a supported language"
  | .emptyLanguages => "inno_bundle.languages must list at least one language"
  | .invalidType field expected => "`" ++ field ++ "` must be " ++ expected.wording
  | .invalidSwitch field value =>
    "`" ++ field ++ "` must be one of `auto`, `yes` or `no`, got `" ++ value ++ "`"

end FlutterInstaller
