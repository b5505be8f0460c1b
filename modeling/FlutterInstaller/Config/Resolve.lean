import FlutterInstaller.Config.Basic
import FlutterInstaller.Config.Source
import FlutterInstaller.FileSystem.Lookup
import FlutterInstaller.Text.Word

/-!
From a manifest to a configuration. Each field has a rule of its own over its own sources, and the
first rule that fails, in the order of the fields, gives the error.
-/
namespace FlutterInstaller.Config

/-- Characters of a display name, which becomes the name of a file. -/
def isDisplayChar (c : Char) : Bool := Text.isWordChar c || c = '-' || c = '.' || c = '&' || c = ' '

def IsDisplayName (s : String) : Prop := s.toList ≠ [] ∧ ∀ c ∈ s.toList, isDisplayChar c = true

instance : DecidablePred IsDisplayName := fun s =>
  have := List.decidableBAll (fun c => isDisplayChar c = true) s.toList
  instDecidableAnd

/-- What the rules read: the manifest, the caller's decisions, the directory that relative paths
start from, and the files. -/
structure Request where
  manifest : Manifest
  overrides : Overrides
  base : Location
  files : FileSystem

abbrev Rule (α : Type) := Except ConfigError α

namespace Request

def tool (r : Request) (key : String) : Source := Source.tool r.manifest key

def top (r : Request) (key : String) : Source := Source.top r.manifest key

def checkSection (r : Request) : Rule Unit :=
  match r.manifest.toolSection with
  | none => .ok ()
  | some v =>
    if v.isMapping ∨ v.isNull then .ok () else .error (.invalidType Manifest.toolKey .mapping)

def id (r : Request) : Rule Uuid :=
  match Source.first [r.tool "id"] with
  | .error e => .error e
  | .ok none => .error .missingId
  | .ok (some raw) =>
    match Uuid.ofText? (Text.trim raw) with
    | some u => .ok u
    | none => .error (.invalidId raw)

def manifestName (r : Request) : Rule String := Source.required "name" [r.top "name"]

/-- A name of its own has to fit a file name; without one the name of the manifest is put into camel
case. -/
def displayName (r : Request) (manifestName : String) : Rule String :=
  match Source.first [r.tool "name"] with
  | .error e => .error e
  | .ok (some name) => if IsDisplayName name then .ok name else .error (.invalidDisplayName name)
  | .ok none => .ok (Text.camelCase manifestName)

def description (r : Request) : Rule String :=
  Source.required "description" [r.tool "description", r.top "description"]

def version (r : Request) : Rule String :=
  Source.required "version" [.given r.overrides.version, r.tool "version", r.top "version"]

def publisher (r : Request) : Rule String :=
  Source.required "publisher"
    [r.tool "publisher", r.tool "maintainer", r.top "publisher", r.top "maintainer"]

def url (r : Request) : Rule String :=
  (Source.first [r.tool "url", r.top "homepage"]).map (·.getD "")

def urlOr (r : Request) (key url : String) : Rule String :=
  (Source.first [r.tool key, .given (some url)]).map (·.getD "")

def existing (r : Request) (notFound : Location → ConfigError) (p : String) : Rule Location :=
  let place := Path.locate r.base p
  if r.files.isFile .root (Path.text place) then .ok place else .error (notFound place)

def icon (r : Request) : Rule Icon :=
  match Source.first [r.tool "installer_icon"] with
  | .error e => .error e
  | .ok (some p) => (r.existing .iconNotFound p).map Icon.custom
  | .ok none => .ok .standard

def license (r : Request) : Rule (Option Location) :=
  match Source.first [r.tool "license_file"] with
  | .error e => .error e
  | .ok (some p) => (r.existing .licenseNotFound p).map some
  | .ok none => .ok none

def language (v : Yaml.Value) : Rule Language :=
  match v.string? with
  | none => .error (.invalidType (Source.toolName "languages") .languageNames)
  | some name =>
    match Language.ofName? name with
    | some l => .ok l
    | none => .error (.unknownLanguage name)

def languages (r : Request) : Rule (List Language) :=
  match r.manifest.toolField "languages" with
  | none => .ok Language.all
  | some .null => .ok Language.all
  | some (.sequence entries) =>
    match entries.mapM language with
    | .error e => .error e
    | .ok [] => .error .emptyLanguages
    | .ok ls => .ok ls.eraseDups
  | some _ => .error (.invalidType (Source.toolName "languages") .languageNames)

/-- The field at the top is checked as well, although the section comes first. -/
def admin (r : Request) : Rule Bool := do
  let outer ← Source.bool? "admin" (r.manifest.field "admin")
  let inner ← Source.toolBool? r.manifest "admin"
  return (inner.or outer).getD true

def flag (r : Request) (key : String) (standard : Bool) : Rule Bool :=
  (Source.toolBool? r.manifest key).map (·.getD standard)

def pageSwitch (r : Request) (key : String) : Rule PageSwitch := Source.toolSwitch r.manifest key

end Request

def resolve (r : Request) : Rule Config := do
  r.checkSection
  let id ← r.id
  let manifestName ← r.manifestName
  let displayName ← r.displayName manifestName
  let description ← r.description
  let version ← r.version
  let publisher ← r.publisher
  let url ← r.url
  let supportUrl ← r.urlOr "support_url" url
  let updatesUrl ← r.urlOr "updates_url" url
  let icon ← r.icon
  let license ← r.license
  let languages ← r.languages
  let admin ← r.admin
  let disableWelcomePage ← r.flag "disable_welcome_page" true
  let disableReadyPage ← r.flag "disable_ready_page" false
  let disableFinishedPage ← r.flag "disable_finished_page" false
  let disableReadyMemo ← r.flag "disable_ready_memo" false
  let disableDirPage ← r.pageSwitch "disable_dir_page"
  let disableProgramGroupPage ← r.pageSwitch "disable_program_group_page"
  let vcRedist ← r.flag "vc_redist" true
  return {
    id, manifestName, displayName, description, version, publisher, url, supportUrl, updatesUrl,
    icon, license, languages, admin, disableWelcomePage, disableReadyPage, disableFinishedPage,
    disableReadyMemo, disableDirPage, disableProgramGroupPage, vcRedist
    buildMode := r.overrides.buildMode
    buildApp := r.overrides.buildApp
    buildInstaller := r.overrides.buildInstaller }

end FlutterInstaller.Config
