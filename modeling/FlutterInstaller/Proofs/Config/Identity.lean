import FlutterInstaller.Config.Environment
import FlutterInstaller.Proofs.Config.Languages
import FlutterInstaller.Proofs.Config.View

/-!
Which configurations have the same variables. Each variable tells its field from others of its kind:
the place of an icon starts at the root, so it is never the word for the standard icon, and the names of
the languages have no comma in them. Of the free texts the variables tell what is left when they are
folded onto one line.
-/
namespace FlutterInstaller

open FlutterInstaller.Path

theorem Config.boolText_injective : Function.Injective boolText := by
  intro a b
  cases a <;> cases b <;> decide

theorem BuildMode.name_injective : Function.Injective BuildMode.name := by
  intro a b
  cases a <;> cases b <;> decide

namespace Icon

variable {i j : Icon}

theorem variable_eq_default_iff : i.variable = "default" ↔ i = .standard := by
  cases i with
  | standard => simp [Icon.variable]
  | custom place =>
    have habs := isAbsolute_text place
    have hne : Path.text place ≠ "default" := fun h => by simp [h, isAbsolute] at habs
    simp [Icon.variable, hne]

theorem variable_inj (hi : ∀ place, i = .custom place → ∀ n ∈ place, IsName n)
    (hj : ∀ place, j = .custom place → ∀ n ∈ place, IsName n) : i.variable = j.variable ↔ i = j := by
  refine ⟨fun h => ?_, congrArg Icon.variable⟩
  cases i with
  | standard => exact (variable_eq_default_iff.mp h.symm).symm
  | custom place =>
    cases j with
    | standard => exact variable_eq_default_iff.mp h
    | custom place' =>
      have hplace := locate_text (hi place rfl) []
      have hplace' := locate_text (hj place' rfl) []
      rw [← hplace, ← hplace', show Path.text place = Path.text place' from h]

end Icon

theorem Language.mapM_ofName?_pieces {ls : List Language} (hne : ls ≠ []) :
    (Text.pieces ',' (",".intercalate (ls.map Language.name))).mapM Language.ofName? = some ls := by
  have hcomma : ∀ l : Language, ',' ∉ l.name.toList := fun l => by cases l <;> decide
  rw [Text.pieces_intercalate rfl (by simpa using hne),
    Text.flatMap_pieces (List.forall_mem_map.mpr fun l _ => hcomma l)]
  clear hne
  induction ls with
  | nil => rfl
  | cons l ls ih => simp [List.mapM_cons, Language.ofName?_name, ih]

namespace Config

variable {c c' : Config}

/-- What two configurations have in common that have the same variables. -/
structure Alike (c c' : Config) : Prop where
  id : c.id = c'.id
  manifestName : c.manifestName = c'.manifestName
  displayName : c.displayName = c'.displayName
  version : c.version = c'.version
  icon : c.icon = c'.icon
  languages : c.languages = c'.languages
  admin : c.admin = c'.admin
  buildMode : c.buildMode = c'.buildMode
  buildApp : c.buildApp = c'.buildApp
  buildInstaller : c.buildInstaller = c'.buildInstaller
  description : Text.singleLine c.description = Text.singleLine c'.description
  publisher : Text.singleLine c.publisher = Text.singleLine c'.publisher
  url : Text.singleLine c.url = Text.singleLine c'.url
  supportUrl : Text.singleLine c.supportUrl = Text.singleLine c'.supportUrl
  updatesUrl : Text.singleLine c.updatesUrl = Text.singleLine c'.updatesUrl

theorem environmentVariables_eq_iff (hlanguages : c.languages ≠ []) (hlanguages' : c'.languages ≠ [])
    (hicon : ∀ place, c.icon = .custom place → ∀ n ∈ place, IsName n)
    (hicon' : ∀ place, c'.icon = .custom place → ∀ n ∈ place, IsName n) :
    c.environmentVariables = c'.environmentVariables ↔ c.Alike c' := by
  constructor
  · intro h
    simp only [environmentVariables, List.cons.injEq, Prod.mk.injEq, true_and, and_true] at h
    obtain ⟨hid, hname, hdisplay, -, hdescription, hversion, hpublisher, hurl, hsupport, hupdates,
      hiconVariable, hnames, hadmin, hmode, hbuildApp, hbuildInstaller⟩ := h
    have hread := Language.mapM_ofName?_pieces hlanguages
    rw [hnames, Language.mapM_ofName?_pieces hlanguages', Option.some_inj] at hread
    exact {
      id := Uuid.text_injective hid
      manifestName := hname
      displayName := hdisplay
      version := hversion
      icon := (Icon.variable_inj hicon hicon').mp hiconVariable
      languages := hread.symm
      admin := boolText_injective hadmin
      buildMode := BuildMode.name_injective hmode
      buildApp := boolText_injective hbuildApp
      buildInstaller := boolText_injective hbuildInstaller
      description := hdescription
      publisher := hpublisher
      url := hurl
      supportUrl := hsupport
      updatesUrl := hupdates }
  · intro h
    simp only [environmentVariables, camelCaseName, h.id, h.manifestName, h.displayName, h.version,
      h.icon, h.languages, h.admin, h.buildMode, h.buildApp, h.buildInstaller, h.description,
      h.publisher, h.url, h.supportUrl, h.updatesUrl]

theorem Request.icon_eq_standard_iff {r : Request} {i : Icon} (h : r.icon = .ok i) :
    i = .standard ↔ (r.tool "installer_icon").Empty := by
  have hnone : Source.first [r.tool "installer_icon"] = .ok none ↔
      (r.tool "installer_icon").Empty := by
    rw [Source.first_eq_none_iff, List.forall_mem_singleton]
  rw [← hnone]
  unfold Request.icon at h
  split at h
  · cases h
  · next p hp =>
    obtain ⟨rfl, -⟩ := Request.existing_map_eq_ok h
    simp [hp]
  · next hn =>
    cases h
    simp [hn]

end Config

namespace Project

/-- Two resolved configurations have the same variables exactly when they have the same identifier, names,
version, icon, languages in order, rights, build mode and steps, and the same free texts once these are
folded. The variable of the icon is the word for the standard one exactly when the icon is that one, and
so when the manifest names no file; that of the languages, cut at its commas and looked up part by part,
gives the languages. -/
theorem variables_identify {m m' : Manifest} {o o' : Overrides} {w w' : Option String}
    {h h' h₀ h₀' : Host} {c c' : Config} (htree : h.files.IsTree) (htree' : h'.files.IsTree)
    (hr : perform (resolve m o w) h = (.ok c, h₀))
    (hr' : perform (resolve m' o' w') h' = (.ok c', h₀')) :
    (c.environmentVariables = c'.environmentVariables ↔ c.Alike c') ∧
    ∃ icon languages, c.environmentVariables.lookup "APP_INSTALLER_ICON" = some icon ∧
      c.environmentVariables.lookup "APP_LANGUAGES" = some languages ∧
      (icon = "default" ↔ c.icon = .standard) ∧
      (icon = "default" ↔ (Source.tool m "installer_icon").Empty) ∧
      (Text.pieces ',' languages).mapM Language.ofName? = some c.languages := by
  obtain ⟨b, hb, hc⟩ := perform_resolve_eq_ok_iff.mp ⟨h₀, hr⟩
  obtain ⟨b', hb', hc'⟩ := perform_resolve_eq_ok_iff.mp ⟨h₀', hr'⟩
  have hstandard := Config.Request.icon_eq_standard_iff hc.icon
  refine ⟨Config.environmentVariables_eq_iff hc.languages_distinct.1 hc'.languages_distinct.1
    (isName_files htree hr).1 (isName_files htree' hr').1, _, _, rfl, rfl, Icon.variable_eq_default_iff,
    Icon.variable_eq_default_iff.trans hstandard, ?_⟩
  exact Language.mapM_ofName?_pieces hc.languages_distinct.1

end Project

def namesakeHost : Host :=
  { sampleHost [] with files := (FileSystem.ofDirectories []).insert ["default"] (.file .empty false) }

theorem standing_namesakeHost : namesakeHost.Standing [] := by
  have hplain : (FileSystem.ofDirectories []).Plain := FileSystem.plain_ofDirectories (by simp) (by simp)
  have hfree : (FileSystem.ofDirectories []).get? ["default"] = none := rfl
  exact ⟨rfl, hplain.insert (l := []) (n := "default") rfl (by decide) (.inr (by simp [hfree]))
    (by simp), rfl⟩

theorem variables_identify_namesake :
    let m := sampleManifest "demo_app" [("installer_icon", .string "default")]
    let c := { sampleConfig with icon := .custom ["default"] }
    namesakeHost.files.IsTree ∧
      (∃ h', perform (Project.resolve m {} none) namesakeHost = (.ok c, h')) ∧
      (∃ h', perform (Project.resolve (sampleManifest "demo_app" []) {} none) namesakeHost =
        (.ok sampleConfig, h')) ∧
      c.environmentVariables ≠ sampleConfig.environmentVariables ∧
      c.environmentVariables.lookup "APP_INSTALLER_ICON" ≠ some "default" := by
  intro m c
  have hst := standing_namesakeHost
  have htree := hst.ground.toIsTree
  have hfile : namesakeHost.files.isFile .root "/default" = true :=
    (hst.ground.isFile_iff (by decide)).mpr ⟨by decide, ⟨[""], "default", by decide, by decide⟩, _, _, rfl⟩
  have hc : Config.Resolves ⟨m, {}, [], namesakeHost.files⟩
      { sampleConfig with icon := .custom ["default"] } := by
    constructor
    case icon => exact Config.Request.icon_eq_custom rfl (by decide) (by decide) hfile
    all_goals rfl
  have hplain : Config.Resolves ⟨sampleManifest "demo_app" [], {}, [], namesakeHost.files⟩ sampleConfig :=
    Config.resolve_eq_ok_iff.mp rfl
  have hbase := Project.perform_base_of_readable (w := none) hst.currentDirectory
  obtain ⟨h', hr⟩ := Project.perform_resolve_eq_ok_iff.mpr ⟨[], hbase, hc⟩
  obtain ⟨h'', hr'⟩ := Project.perform_resolve_eq_ok_iff.mpr ⟨[], hbase, hplain⟩
  obtain ⟨hidentify, icon, _, hlookup, -, hdefault, -⟩ :=
    Project.variables_identify htree htree hr hr'
  have hother : c.icon ≠ .standard := by simp [c]
  refine ⟨htree, ⟨h', hr⟩, ⟨h'', hr'⟩, fun heq => hother (hidentify.mp heq).icon, ?_⟩
  rw [hlookup]
  exact fun heq => hother (hdefault.mp (Option.some.inj heq))

end FlutterInstaller
