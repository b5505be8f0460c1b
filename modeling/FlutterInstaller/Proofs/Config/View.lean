import FlutterInstaller.Config.Json
import FlutterInstaller.Proofs.Json.ReadBack
import FlutterInstaller.Proofs.Script.Presence
import FlutterInstaller.Proofs.Uuid.Spelling

/-!
The JSON view of a configuration loses nothing. A reader finds one object with a member for each field,
and from these members the configuration is made again.
-/
namespace FlutterInstaller

open FlutterInstaller.Path

namespace Datum

def string? : Datum → Option String
  | .string s => some s
  | _ => none

def bool? : Datum → Option Bool
  | .bool b => some b
  | _ => none

def field? {α : Type} (d : Datum) (key : String) (read : Datum → Option α) : Option α :=
  match d with
  | .object members => (members.lookup key).bind read
  | _ => none

def path? (d : Datum) : Option Location := d.string?.map (Path.locate [])

end Datum

def BuildMode.ofName? (s : String) : Option BuildMode :=
  [debug, profile, release].find? fun mode => mode.name = s

def Icon.ofDatum? : Datum → Option Icon
  | .string s => if s = "default" then some .standard else none
  | d => (d.field? "custom" Datum.path?).map .custom

namespace Config

open Datum

def members (c : Config) : List (String × Datum) :=
  [("id", .string c.id.text),
   ("manifestName", .string c.manifestName),
   ("displayName", .string c.displayName),
   ("description", .string c.description),
   ("version", .string c.version),
   ("publisher", .string c.publisher),
   ("url", .string c.url),
   ("supportUrl", .string c.supportUrl),
   ("updatesUrl", .string c.updatesUrl),
   ("installerIcon", match c.icon with
      | .standard => .string "default"
      | .custom place => .object [("custom", .string (Path.text place))]),
   ("licenseFile", match c.license with
      | none => .null
      | some place => .string (Path.text place)),
   ("languages", .array (c.languages.map fun l => .string l.name)),
   ("admin", .bool c.admin),
   ("disableWelcomePage", .bool c.disableWelcomePage),
   ("disableReadyPage", .bool c.disableReadyPage),
   ("disableFinishedPage", .bool c.disableFinishedPage),
   ("disableReadyMemo", .bool c.disableReadyMemo),
   ("disableDirPage", .string c.disableDirPage.token),
   ("disableProgramGroupPage", .string c.disableProgramGroupPage.token),
   ("vcRedist", .bool c.vcRedist),
   ("buildMode", .string c.buildMode.name),
   ("buildApp", .bool c.buildApp),
   ("buildInstaller", .bool c.buildInstaller)]

def keys : List String :=
  ["id", "manifestName", "displayName", "description", "version", "publisher", "url", "supportUrl",
    "updatesUrl", "installerIcon", "licenseFile", "languages", "admin", "disableWelcomePage",
    "disableReadyPage", "disableFinishedPage", "disableReadyMemo", "disableDirPage",
    "disableProgramGroupPage", "vcRedist", "buildMode", "buildApp", "buildInstaller"]

def license? : Datum → Option (Option Location)
  | .null => some none
  | d => d.path?.map some

def languages? : Datum → Option (List Language)
  | .array items => items.mapM fun d => d.string?.bind Language.ofName?
  | _ => none

/-- The configuration that an object describes. -/
def ofDatum? (d : Datum) : Option Config := do
  return {
    id := ← d.field? "id" (·.string?.bind Uuid.ofText?)
    manifestName := ← d.field? "manifestName" string?
    displayName := ← d.field? "displayName" string?
    description := ← d.field? "description" string?
    version := ← d.field? "version" string?
    publisher := ← d.field? "publisher" string?
    url := ← d.field? "url" string?
    supportUrl := ← d.field? "supportUrl" string?
    updatesUrl := ← d.field? "updatesUrl" string?
    icon := ← d.field? "installerIcon" Icon.ofDatum?
    license := ← d.field? "licenseFile" license?
    languages := ← d.field? "languages" languages?
    admin := ← d.field? "admin" bool?
    disableWelcomePage := ← d.field? "disableWelcomePage" bool?
    disableReadyPage := ← d.field? "disableReadyPage" bool?
    disableFinishedPage := ← d.field? "disableFinishedPage" bool?
    disableReadyMemo := ← d.field? "disableReadyMemo" bool?
    disableDirPage := ← d.field? "disableDirPage" (·.string?.bind PageSwitch.ofText?)
    disableProgramGroupPage :=
      ← d.field? "disableProgramGroupPage" (·.string?.bind PageSwitch.ofText?)
    vcRedist := ← d.field? "vcRedist" bool?
    buildMode := ← d.field? "buildMode" (·.string?.bind BuildMode.ofName?)
    buildApp := ← d.field? "buildApp" bool?
    buildInstaller := ← d.field? "buildInstaller" bool? }

variable {c : Config}

theorem datum_json (c : Config) : c.json.datum = .object c.members := by
  have hlanguages : ∀ ls : List Language, Json.itemData (ls.map fun l => .string l.name) =
      ls.map fun l => .string l.name := by
    intro ls
    induction ls with
    | nil => rfl
    | cons l ls ih => simp [Json.itemData, ih, Json.datum]
  cases hicon : c.icon <;> cases hlicense : c.license <;>
    simp [json, members, Json.datum, Json.memberData, hlanguages, hicon, hlicense, Icon.json]

theorem keys_members (c : Config) : c.members.map Prod.fst = keys := rfl

theorem icon?_members (hicon : ∀ place, c.icon = .custom place → ∀ n ∈ place, IsName n) :
    (Datum.object c.members).field? "installerIcon" Icon.ofDatum? = some c.icon := by
  cases h : c.icon with
  | standard =>
    simp [field?, members, List.lookup_cons, Icon.ofDatum?, h]
  | custom place =>
    have hplace := locate_text (hicon place h) []
    simp [field?, members, List.lookup_cons, Icon.ofDatum?, h, path?, string?, hplace]

theorem license?_members (hlicense : ∀ place, c.license = some place → ∀ n ∈ place, IsName n) :
    (Datum.object c.members).field? "licenseFile" license? = some c.license := by
  cases h : c.license with
  | none =>
    simp [field?, members, List.lookup_cons, license?, h]
  | some place =>
    have hplace := locate_text (hlicense place h) []
    simp [field?, members, List.lookup_cons, license?, h, path?, string?, hplace]

theorem languages?_names (ls : List Language) :
    languages? (.array (ls.map fun l => .string l.name)) = some ls := by
  rw [languages?]
  induction ls with
  | nil => rfl
  | cons l ls ih =>
    rw [List.map_cons, List.mapM_cons, ih]
    simp [string?, Language.ofName?_name]

theorem ofDatum?_members (hicon : ∀ place, c.icon = .custom place → ∀ n ∈ place, IsName n)
    (hlicense : ∀ place, c.license = some place → ∀ n ∈ place, IsName n) :
    ofDatum? (.object c.members) = some c := by
  have hid : Uuid.ofText? c.id.text = some c.id := Uuid.ofText?_eq_some_iff.mpr (.text c.id)
  have hmode : BuildMode.ofName? c.buildMode.name = some c.buildMode := by
    cases c.buildMode <;> decide
  rw [ofDatum?, icon?_members hicon, license?_members hlicense]
  simp [field?, members, List.lookup_cons, string?, bool?, hid, hmode, languages?_names,
    PageSwitch.ofText?_token]

theorem read?_jsonText (c : Config) : read? c.jsonText = some (.object c.members) := by
  rw [jsonText, read?_text, datum_json]

end Config

namespace Project

variable {m : Manifest} {o : Overrides} {w : Option String} {h h₀ : Host} {c : Config}

theorem isName_files (htree : h.files.IsTree) (hr : perform (resolve m o w) h = (.ok c, h₀)) :
    (∀ place, c.icon = .custom place → ∀ n ∈ place, IsName n) ∧
      ∀ place, c.license = some place → ∀ n ∈ place, IsName n := by
  obtain ⟨b, hb, hc⟩ := perform_resolve_eq_ok_iff.mp ⟨h₀, hr⟩
  have hbase := Script.Request.isName_base htree hb
  constructor
  · intro place hicon
    obtain ⟨p, rfl, _⟩ := hc.icon_found hicon
    exact isName_locate hbase p
  · intro place hlicense
    obtain ⟨p, rfl, _⟩ := hc.license_found hlicense
    exact isName_locate hbase p

theorem ofDatum?_resolved (htree : h.files.IsTree) (hr : perform (resolve m o w) h = (.ok c, h₀)) :
    Config.ofDatum? (.object c.members) = some c :=
  have ⟨hicon, hlicense⟩ := isName_files htree hr
  Config.ofDatum?_members hicon hlicense

/-- A resolved configuration is read from its JSON view: the reader finds one object, with the members of
the view under keys that are all different, and the configuration is made again from these. So no other
resolved configuration has the same view. -/
theorem json_view_lossless (htree : h.files.IsTree)
    (hr : perform (resolve m o w) h = (.ok c, h₀)) :
    Datum.read? c.jsonText = some (.object c.members) ∧
    c.members.map Prod.fst = Config.keys ∧ Config.keys.Nodup ∧ Config.keys.length = 23 ∧
    (Datum.read? c.jsonText).bind Config.ofDatum? = some c ∧
    ∀ {m' o' w' h' h₀' c'}, h'.files.IsTree → perform (resolve m' o' w') h' = (.ok c', h₀') →
      c'.jsonText = c.jsonText → c' = c := by
  have hread := c.read?_jsonText
  have hmake := ofDatum?_resolved htree hr
  have hback : (Datum.read? c.jsonText).bind Config.ofDatum? = some c := by
    rw [hread, Option.bind_some, hmake]
  refine ⟨hread, c.keys_members, by decide, rfl, hback, ?_⟩
  intro m' o' w' h' h₀' c' htree' hr' heq
  have hread' := c'.read?_jsonText
  have hmake' := ofDatum?_resolved htree' hr'
  rw [heq, hread, Option.some_inj] at hread'
  rw [← hread', hmake] at hmake'
  exact (Option.some.inj hmake').symm

open Script.Request in
theorem json_view_lossless_license :
    ∃ log, perform (resolve licenseManifest {} none) (licenseHost []) =
        (.ok licenseRequest.config, licenseHost log) ∧
      (Datum.read? licenseRequest.config.jsonText).bind Config.ofDatum? =
        some licenseRequest.config := by
  obtain ⟨log, hr⟩ := resolve_license
  obtain ⟨_, _, _, _, hmade, _⟩ := json_view_lossless plain_licenseTree.toIsTree hr
  exact ⟨log, hr, hmade⟩

end Project

end FlutterInstaller
