import FlutterInstaller.Proofs.Config.Precedence
import FlutterInstaller.Proofs.Yaml.Keys

/-!
What the fields of a configuration depend on. Of two projects that resolve, a field is the same if its
own origins are, whatever else the manifests hold; and neither keys that no field comes from nor the
order of the keys change the outcome, be it a configuration or an error.
-/
namespace FlutterInstaller

structure Project.Input where
  manifest : Manifest
  overrides : Overrides
  workDirectory : Option String
  host : Host

namespace Project.Input

def resolve (i : Input) : Except Error Config × Host :=
  perform (Project.resolve i.manifest i.overrides i.workDirectory) i.host

def base (i : Input) : Except Error Location := (perform (Project.base i.workDirectory) i.host).1

def request (i : Input) (base : Location) : Config.Request where
  manifest := i.manifest
  overrides := i.overrides
  base := base
  files := i.host.files

end Project.Input

namespace Config

/-- What a field may come from: a key at the top of the manifest, one in the section for installers, a
decision of the caller, or the directory that relative paths start from. -/
inductive Origin
  | top (key : String)
  | tool (key : String)
  | version
  | buildMode
  | buildApp
  | buildInstaller
  | directory

namespace Origin

def Shared (i j : Project.Input) : Origin → Prop
  | top key => i.manifest.field key = j.manifest.field key
  | tool key => i.manifest.toolField key = j.manifest.toolField key
  | version => i.overrides.version = j.overrides.version
  | buildMode => i.overrides.buildMode = j.overrides.buildMode
  | buildApp => i.overrides.buildApp = j.overrides.buildApp
  | buildInstaller => i.overrides.buildInstaller = j.overrides.buildInstaller
  | directory => i.base = j.base

def topKey? : Origin → Option String
  | top key => some key
  | _ => none

def toolKey? : Origin → Option String
  | tool key => some key
  | _ => none

end Origin

inductive Field
  | id
  | manifestName
  | displayName
  | description
  | version
  | publisher
  | url
  | supportUrl
  | updatesUrl
  | icon
  | license
  | languages
  | admin
  | disableWelcomePage
  | disableReadyPage
  | disableFinishedPage
  | disableReadyMemo
  | disableDirPage
  | disableProgramGroupPage
  | vcRedist
  | buildMode
  | buildApp
  | buildInstaller

namespace Field

def all : List Field :=
  [id, manifestName, displayName, description, version, publisher, url, supportUrl, updatesUrl, icon,
    license, languages, admin, disableWelcomePage, disableReadyPage, disableFinishedPage,
    disableReadyMemo, disableDirPage, disableProgramGroupPage, vcRedist, buildMode, buildApp,
    buildInstaller]

/-- Each field has its own. Those of the display name include the name of the manifest, those of the two
further addresses include the ones of the first. -/
def origins : Field → List Origin
  | id => [.tool "id"]
  | manifestName => [.top "name"]
  | displayName => [.tool "name", .top "name"]
  | description => [.tool "description", .top "description"]
  | version => [.version, .tool "version", .top "version"]
  | publisher => [.tool "publisher", .tool "maintainer", .top "publisher", .top "maintainer"]
  | url => [.tool "url", .top "homepage"]
  | supportUrl => [.tool "support_url", .tool "url", .top "homepage"]
  | updatesUrl => [.tool "updates_url", .tool "url", .top "homepage"]
  | icon => [.tool "installer_icon", .directory]
  | license => [.tool "license_file", .directory]
  | languages => [.tool "languages"]
  | admin => [.tool "admin", .top "admin"]
  | disableWelcomePage => [.tool "disable_welcome_page"]
  | disableReadyPage => [.tool "disable_ready_page"]
  | disableFinishedPage => [.tool "disable_finished_page"]
  | disableReadyMemo => [.tool "disable_ready_memo"]
  | disableDirPage => [.tool "disable_dir_page"]
  | disableProgramGroupPage => [.tool "disable_program_group_page"]
  | vcRedist => [.tool "vc_redist"]
  | buildMode => [.buildMode]
  | buildApp => [.buildApp]
  | buildInstaller => [.buildInstaller]

def Same (c d : Config) : Field → Prop
  | id => c.id = d.id
  | manifestName => c.manifestName = d.manifestName
  | displayName => c.displayName = d.displayName
  | description => c.description = d.description
  | version => c.version = d.version
  | publisher => c.publisher = d.publisher
  | url => c.url = d.url
  | supportUrl => c.supportUrl = d.supportUrl
  | updatesUrl => c.updatesUrl = d.updatesUrl
  | icon => c.icon = d.icon
  | license => c.license = d.license
  | languages => c.languages = d.languages
  | admin => c.admin = d.admin
  | disableWelcomePage => c.disableWelcomePage = d.disableWelcomePage
  | disableReadyPage => c.disableReadyPage = d.disableReadyPage
  | disableFinishedPage => c.disableFinishedPage = d.disableFinishedPage
  | disableReadyMemo => c.disableReadyMemo = d.disableReadyMemo
  | disableDirPage => c.disableDirPage = d.disableDirPage
  | disableProgramGroupPage => c.disableProgramGroupPage = d.disableProgramGroupPage
  | vcRedist => c.vcRedist = d.vcRedist
  | buildMode => c.buildMode = d.buildMode
  | buildApp => c.buildApp = d.buildApp
  | buildInstaller => c.buildInstaller = d.buildInstaller

theorem eq_of_forall_same {c d : Config} (h : ∀ f : Field, f.Same c d) : c = d := by
  cases c
  cases d
  congr
  · exact h id
  · exact h manifestName
  · exact h displayName
  · exact h description
  · exact h version
  · exact h publisher
  · exact h url
  · exact h supportUrl
  · exact h updatesUrl
  · exact h icon
  · exact h license
  · exact h languages
  · exact h admin
  · exact h disableWelcomePage
  · exact h disableReadyPage
  · exact h disableFinishedPage
  · exact h disableReadyMemo
  · exact h disableDirPage
  · exact h disableProgramGroupPage
  · exact h vcRedist
  · exact h buildMode
  · exact h buildApp
  · exact h buildInstaller

end Field

def topKeys : List String := (Field.all.flatMap Field.origins).filterMap Origin.topKey?

def toolKeys : List String := (Field.all.flatMap Field.origins).filterMap Origin.toolKey?

namespace Request

variable {r s : Request} {k : String}

theorem tool_congr (h : r.manifest.toolField k = s.manifest.toolField k) : r.tool k = s.tool k := by
  rw [tool, Source.tool, h]
  rfl

theorem top_congr (h : r.manifest.field k = s.manifest.field k) : r.top k = s.top k := by
  rw [top, Source.top, h]
  rfl

theorem flag_congr (h : r.manifest.toolField k = s.manifest.toolField k) : r.flag k = s.flag k := by
  funext b
  rw [flag, Source.toolBool?, h]
  rfl

theorem pageSwitch_congr (h : r.manifest.toolField k = s.manifest.toolField k) :
    r.pageSwitch k = s.pageSwitch k := by
  rw [pageSwitch, Source.toolSwitch, h]
  rfl

theorem id_congr (h : r.tool "id" = s.tool "id") : r.id = s.id := by
  rw [id, h]
  rfl

theorem manifestName_congr (h : r.top "name" = s.top "name") : r.manifestName = s.manifestName := by
  rw [manifestName, h]
  rfl

theorem displayName_congr (h : r.tool "name" = s.tool "name") : r.displayName = s.displayName := by
  funext name
  rw [displayName, h]
  rfl

theorem description_congr (h : r.tool "description" = s.tool "description")
    (htop : r.top "description" = s.top "description") : r.description = s.description := by
  rw [description, h, htop]
  rfl

theorem version_congr (hgiven : r.overrides.version = s.overrides.version)
    (h : r.tool "version" = s.tool "version") (htop : r.top "version" = s.top "version") :
    r.version = s.version := by
  rw [version, hgiven, h, htop]
  rfl

theorem publisher_congr (h : r.tool "publisher" = s.tool "publisher")
    (hmaintainer : r.tool "maintainer" = s.tool "maintainer")
    (htop : r.top "publisher" = s.top "publisher")
    (htopMaintainer : r.top "maintainer" = s.top "maintainer") : r.publisher = s.publisher := by
  rw [publisher, h, hmaintainer, htop, htopMaintainer]
  rfl

theorem url_congr (h : r.tool "url" = s.tool "url") (htop : r.top "homepage" = s.top "homepage") :
    r.url = s.url := by
  rw [url, h, htop]
  rfl

theorem urlOr_congr (h : r.tool k = s.tool k) : r.urlOr k = s.urlOr k := by
  funext u
  rw [urlOr, h]
  rfl

theorem languages_congr (h : r.manifest.toolField "languages" = s.manifest.toolField "languages") :
    r.languages = s.languages := by
  rw [languages, h]
  rfl

theorem admin_congr (h : r.manifest.toolField "admin" = s.manifest.toolField "admin")
    (htop : r.manifest.field "admin" = s.manifest.field "admin") : r.admin = s.admin := by
  rw [admin, Source.toolBool?, h, htop]
  rfl

theorem icon_congr (h : r.tool "installer_icon" = s.tool "installer_icon") (hbase : r.base = s.base)
    (hfiles : r.files = s.files) : r.icon = s.icon := by
  rw [icon, icon, h]
  simp only [existing, hbase, hfiles]

theorem license_congr (h : r.tool "license_file" = s.tool "license_file") (hbase : r.base = s.base)
    (hfiles : r.files = s.files) : r.license = s.license := by
  rw [license, license, h]
  simp only [existing, hbase, hfiles]

theorem icon_unique (h : r.tool "installer_icon" = s.tool "installer_icon") (hbase : r.base = s.base)
    {x y : Icon} (hx : r.icon = .ok x) (hy : s.icon = .ok y) : x = y := by
  rw [icon, h] at hx
  rw [icon] at hy
  cases hf : Source.first [s.tool "installer_icon"] with
  | error e => simp [hf] at hx
  | ok o =>
    rw [hf] at hx hy
    cases o with
    | none =>
      cases hx
      cases hy
      rfl
    | some p => rw [(existing_map_eq_ok hx).1, (existing_map_eq_ok hy).1, hbase]

theorem license_unique (h : r.tool "license_file" = s.tool "license_file") (hbase : r.base = s.base)
    {x y : Option Location} (hx : r.license = .ok x) (hy : s.license = .ok y) : x = y := by
  rw [license, h] at hx
  rw [license] at hy
  cases hf : Source.first [s.tool "license_file"] with
  | error e => simp [hf] at hx
  | ok o =>
    rw [hf] at hx hy
    cases o with
    | none =>
      cases hx
      cases hy
      rfl
    | some p => rw [(existing_map_eq_ok hx).1, (existing_map_eq_ok hy).1, hbase]

theorem resolve_congr (hsection : r.checkSection = s.checkSection)
    (htool : ∀ k ∈ toolKeys, r.manifest.toolField k = s.manifest.toolField k)
    (htop : ∀ k ∈ topKeys, r.manifest.field k = s.manifest.field k)
    (hoverrides : r.overrides = s.overrides) (hbase : r.base = s.base) (hfiles : r.files = s.files) :
    resolve r = resolve s := by
  have tool : ∀ k ∈ toolKeys, r.tool k = s.tool k := fun k hk => tool_congr (htool k hk)
  have top : ∀ k ∈ topKeys, r.top k = s.top k := fun k hk => top_congr (htop k hk)
  have hgiven : r.overrides.version = s.overrides.version := congrArg Overrides.version hoverrides
  unfold resolve
  rw [hsection, id_congr (tool "id" (by decide)), manifestName_congr (top "name" (by decide)),
    displayName_congr (tool "name" (by decide)),
    description_congr (tool "description" (by decide)) (top "description" (by decide)),
    version_congr hgiven (tool "version" (by decide)) (top "version" (by decide)),
    publisher_congr (tool "publisher" (by decide)) (tool "maintainer" (by decide))
      (top "publisher" (by decide)) (top "maintainer" (by decide)),
    url_congr (tool "url" (by decide)) (top "homepage" (by decide)),
    urlOr_congr (tool "support_url" (by decide)), urlOr_congr (tool "updates_url" (by decide)),
    icon_congr (tool "installer_icon" (by decide)) hbase hfiles,
    license_congr (tool "license_file" (by decide)) hbase hfiles,
    languages_congr (htool "languages" (by decide)),
    admin_congr (htool "admin" (by decide)) (htop "admin" (by decide)),
    flag_congr (htool "disable_welcome_page" (by decide)),
    flag_congr (htool "disable_ready_page" (by decide)),
    flag_congr (htool "disable_finished_page" (by decide)),
    flag_congr (htool "disable_ready_memo" (by decide)),
    pageSwitch_congr (htool "disable_dir_page" (by decide)),
    pageSwitch_congr (htool "disable_program_group_page" (by decide)),
    flag_congr (htool "vc_redist" (by decide)), hoverrides]

end Request

theorem eq_of_rule {α : Type} {x y : Rule α} {a b : α} (hx : x = .ok a) (hy : y = .ok b)
    (h : x = y) : a = b := by
  cases hx
  cases hy
  cases h
  rfl

theorem Resolves.same {i j : Project.Input} {a b : Location} {c d : Config} (ha : i.base = .ok a)
    (hb : j.base = .ok b) (hc : Resolves (i.request a) c) (hd : Resolves (j.request b) d) (f : Field)
    (h : ∀ o ∈ f.origins, o.Shared i j) : f.Same c d := by
  have field {k : String} (hk : .tool k ∈ f.origins := by simp [Field.origins]) :
      i.manifest.toolField k = j.manifest.toolField k := h (.tool k) hk
  have tool {k : String} (hk : .tool k ∈ f.origins := by simp [Field.origins]) :
      (i.request a).tool k = (j.request b).tool k := Request.tool_congr (h (.tool k) hk)
  have top {k : String} (hk : .top k ∈ f.origins := by simp [Field.origins]) :
      (i.request a).top k = (j.request b).top k := Request.top_congr (h (.top k) hk)
  have base (hk : .directory ∈ f.origins := by simp [Field.origins]) : a = b :=
    Except.ok.inj (ha.symm.trans ((h .directory hk).trans hb))
  cases f with
  | id => exact eq_of_rule hc.id hd.id (Request.id_congr tool)
  | manifestName =>
    exact eq_of_rule hc.manifestName hd.manifestName (Request.manifestName_congr top)
  | displayName =>
    have hname : c.manifestName = d.manifestName :=
      eq_of_rule hc.manifestName hd.manifestName (Request.manifestName_congr top)
    have hdisplay := hd.displayName
    rw [← hname] at hdisplay
    exact eq_of_rule hc.displayName hdisplay
      (congrFun (Request.displayName_congr tool) c.manifestName)
  | description =>
    exact eq_of_rule hc.description hd.description (Request.description_congr tool top)
  | version =>
    have hgiven : i.overrides.version = j.overrides.version := h .version (by simp [Field.origins])
    exact eq_of_rule hc.version hd.version (Request.version_congr hgiven tool top)
  | publisher =>
    exact eq_of_rule hc.publisher hd.publisher (Request.publisher_congr tool tool top top)
  | url => exact eq_of_rule hc.url hd.url (Request.url_congr tool top)
  | supportUrl =>
    have hurl : c.url = d.url := eq_of_rule hc.url hd.url (Request.url_congr tool top)
    have hsupport := hd.supportUrl
    rw [← hurl] at hsupport
    exact eq_of_rule hc.supportUrl hsupport (congrFun (Request.urlOr_congr tool) c.url)
  | updatesUrl =>
    have hurl : c.url = d.url := eq_of_rule hc.url hd.url (Request.url_congr tool top)
    have hupdates := hd.updatesUrl
    rw [← hurl] at hupdates
    exact eq_of_rule hc.updatesUrl hupdates (congrFun (Request.urlOr_congr tool) c.url)
  | icon => exact Request.icon_unique tool base hc.icon hd.icon
  | license => exact Request.license_unique tool base hc.license hd.license
  | languages => exact eq_of_rule hc.languages hd.languages (Request.languages_congr field)
  | admin =>
    have hadmin : i.manifest.field "admin" = j.manifest.field "admin" :=
      h (.top "admin") (by simp [Field.origins])
    exact eq_of_rule hc.admin hd.admin (Request.admin_congr field hadmin)
  | disableWelcomePage =>
    exact eq_of_rule hc.disableWelcomePage hd.disableWelcomePage
      (congrFun (Request.flag_congr field) true)
  | disableReadyPage =>
    exact eq_of_rule hc.disableReadyPage hd.disableReadyPage
      (congrFun (Request.flag_congr field) false)
  | disableFinishedPage =>
    exact eq_of_rule hc.disableFinishedPage hd.disableFinishedPage
      (congrFun (Request.flag_congr field) false)
  | disableReadyMemo =>
    exact eq_of_rule hc.disableReadyMemo hd.disableReadyMemo
      (congrFun (Request.flag_congr field) false)
  | disableDirPage =>
    exact eq_of_rule hc.disableDirPage hd.disableDirPage (Request.pageSwitch_congr field)
  | disableProgramGroupPage =>
    exact eq_of_rule hc.disableProgramGroupPage hd.disableProgramGroupPage
      (Request.pageSwitch_congr field)
  | vcRedist => exact eq_of_rule hc.vcRedist hd.vcRedist (congrFun (Request.flag_congr field) true)
  | buildMode =>
    exact (hc.buildMode.trans (h .buildMode (by simp [Field.origins]))).trans hd.buildMode.symm
  | buildApp =>
    exact (hc.buildApp.trans (h .buildApp (by simp [Field.origins]))).trans hd.buildApp.symm
  | buildInstaller =>
    exact (hc.buildInstaller.trans (h .buildInstaller (by simp [Field.origins]))).trans
      hd.buildInstaller.symm

end Config

namespace Manifest

structure Keyed (m : Manifest) : Prop where
  root : m.root.Keyed
  toolSection : ∀ v, m.toolSection = some v → v.Keyed

theorem keyed_of_ofText {text : String} {m : Manifest} (h : ofText text = .ok m) : m.Keyed := by
  rw [ofText] at h
  cases hv : Yaml.Value.ofText text with
  | error e =>
    rw [hv] at h
    cases h
  | ok v =>
    rw [hv] at h
    cases h
    obtain ⟨hroot, hunder⟩ := Yaml.Value.keyed_of_ofText hv
    exact ⟨hroot, hunder toolKey⟩

/-- Two manifests that are the same up to the order of their keys, at the top and in the section for
installers, and up to entries under keys that no field comes from. -/
structure Rearranged (m n : Manifest) : Prop where
  root : m.root.Rearranged Config.topKeys n.root
  toolSection : m.toolSection = none ∧ n.toolSection = none ∨
    ∃ v w, m.toolSection = some v ∧ n.toolSection = some w ∧ v.Rearranged Config.toolKeys w

namespace Rearranged

variable {m n : Manifest}

theorem field_eq (h : m.Rearranged n) (hm : m.Keyed) (hn : n.Keyed) {k : String}
    (hk : k ∈ Config.topKeys) : m.field k = n.field k := h.root.get?_eq hm.root hn.root hk

theorem toolField_eq (h : m.Rearranged n) (hm : m.Keyed) (hn : n.Keyed) {k : String}
    (hk : k ∈ Config.toolKeys) : m.toolField k = n.toolField k := by
  rw [toolField, toolField]
  rcases h.toolSection with ⟨hv, hw⟩ | ⟨v, w, hv, hw, hvw⟩
  · rw [hv, hw]
  · rw [hv, hw]
    exact hvw.get?_eq (hm.toolSection v hv) (hn.toolSection w hw) hk

theorem checkSection_eq (h : m.Rearranged n) {r s : Config.Request} (hr : r.manifest = m)
    (hs : s.manifest = n) : r.checkSection = s.checkSection := by
  rw [Config.Request.checkSection, Config.Request.checkSection, hr, hs]
  rcases h.toolSection with ⟨hv, hw⟩ | ⟨v, w, hv, hw, hvw⟩
  · rw [hv, hw]
  · simp only [hv, hw, hvw.isMapping_eq, hvw.isNull_eq]

end Rearranged

end Manifest

namespace Project

theorem Input.resolves_of_resolve {i : Input} {c : Config} {h : Host} (hc : i.resolve = (.ok c, h)) :
    ∃ a, i.base = .ok a ∧ Config.Resolves (i.request a) c := by
  obtain ⟨a, ha, hr⟩ := perform_resolve_eq_ok_iff.mp ⟨h, hc⟩
  refine ⟨a, ?_, hr⟩
  rw [Input.base, ha]

theorem resolve_rearranged {i j : Input} (hkeyed : i.manifest.Keyed) (hkeyed' : j.manifest.Keyed)
    (h : i.manifest.Rearranged j.manifest) (hoverrides : i.overrides = j.overrides)
    (hwork : i.workDirectory = j.workDirectory) (hhost : i.host = j.host) :
    i.resolve = j.resolve := by
  have hrules (a : Location) (t : Host) :
      Config.resolve ⟨i.manifest, i.overrides, a, t.files⟩ =
        Config.resolve ⟨j.manifest, j.overrides, a, t.files⟩ :=
    Config.Request.resolve_congr (h.checkSection_eq rfl rfl)
      (fun k hk => h.toolField_eq hkeyed hkeyed' hk) (fun k hk => h.field_eq hkeyed hkeyed' hk)
      hoverrides rfl rfl
  rw [Input.resolve, Input.resolve, ← hwork, ← hhost]
  unfold Project.resolve
  simp only [hrules]

/-- Of two projects that resolve, each field is the same if its own origins are, and so is the whole
configuration if all origins are. And two projects of which the manifests differ in the order of their
keys and in keys that no field comes from have the same outcome. -/
theorem resolve_independent :
    (∀ (i j : Input) (c d : Config) (h h' : Host), i.resolve = (.ok c, h) → j.resolve = (.ok d, h') →
      (∀ f : Config.Field, (∀ o ∈ f.origins, o.Shared i j) → f.Same c d) ∧
        ((∀ f : Config.Field, ∀ o ∈ f.origins, o.Shared i j) → c = d)) ∧
    ∀ i j : Input, i.manifest.Keyed → j.manifest.Keyed → i.manifest.Rearranged j.manifest →
      i.overrides = j.overrides → i.workDirectory = j.workDirectory → i.host = j.host →
      i.resolve = j.resolve := by
  constructor
  · intro i j c d h h' hc hd
    obtain ⟨a, ha, hc⟩ := Input.resolves_of_resolve hc
    obtain ⟨b, hb, hd⟩ := Input.resolves_of_resolve hd
    have hsame := Config.Resolves.same ha hb hc hd
    constructor
    · exact hsame
    · intro hshared
      apply Config.Field.eq_of_forall_same
      intro f
      exact hsame f (hshared f)
  · intro i j
    exact resolve_rearranged

end Project

def rearrangedManifest : Manifest where
  root := .mapping
    [(.string "flutter", .mapping []),
     (.string "inno_bundle", .mapping
       [(.string "vc_redist", .bool false), (.string "VC_redist", .bool true),
        (.string "languages", .sequence [.string "german"]), (.int 1, .null),
        (.string "id", .string "5c3bd4a2-7e1f-4c8b-a9d6-0f2e3b4c5d6e")]),
     (.string "admin", .bool false), (.string "homepage", .string "https://acme.test"),
     (.string "maintainer", .string "Acme"), (.string "description", .string "A demo"),
     (.string "environment", .null), (.string "version", .string "1.0.0"),
     (.string "name", .string "demo_app")]

theorem keyed_sampleManifest : (sampleManifest "demo_app" []).Keyed where
  root := by
    intro es hes
    cases hes
    simp [Yaml.Value.Distinct]
  toolSection := by
    intro v hv es hes
    cases hv
    cases hes
    simp [Yaml.Value.Distinct]

theorem keyed_rearrangedManifest : rearrangedManifest.Keyed where
  root := by
    intro es hes
    cases hes
    simp [Yaml.Value.Distinct]
  toolSection := by
    intro v hv es hes
    cases hv
    cases hes
    simp [Yaml.Value.Distinct]

theorem rearranged_sampleManifest : (sampleManifest "demo_app" []).Rearranged rearrangedManifest where
  root := .mapping rfl rfl (List.reverse_perm _).symm
  toolSection := .inr ⟨_, _, rfl, rfl, .mapping rfl rfl (List.reverse_perm _).symm⟩

theorem resolve_independent_sample :
    let i : Project.Input := ⟨sampleManifest "demo_app" [], {}, none, sampleHost []⟩
    let j : Project.Input :=
      ⟨sampleManifest "other_app" [("updates_url", .string "https://new.test")],
        { version := some "2.0.0" }, none, sampleHost []⟩
    let k : Project.Input := { i with manifest := rearrangedManifest }
    let d := { sampleConfig with
      manifestName := "other_app", displayName := "OtherApp", version := "2.0.0"
      updatesUrl := "https://new.test" }
    (∃ h h', i.resolve = (.ok sampleConfig, h) ∧ j.resolve = (.ok d, h')) ∧
      (∀ o ∈ Config.Field.supportUrl.origins, o.Shared i j) ∧
      Config.Field.supportUrl.Same sampleConfig d ∧
      i.manifest.Rearranged k.manifest ∧ i.resolve = k.resolve := by
  intro i j k d
  have hc : Config.resolve (i.request []) = .ok sampleConfig := rfl
  have hd : Config.resolve (j.request []) = .ok d := rfl
  obtain ⟨h, hi⟩ := Project.perform_resolve_eq_ok_iff.mpr
    ⟨[], perform_base_sampleHost [], Config.resolve_eq_ok_iff.mp hc⟩
  obtain ⟨h', hj⟩ := Project.perform_resolve_eq_ok_iff.mpr
    ⟨[], perform_base_sampleHost [], Config.resolve_eq_ok_iff.mp hd⟩
  have hshared : ∀ o ∈ Config.Field.supportUrl.origins, o.Shared i j := by
    simp only [Config.Field.origins, List.forall_mem_cons]
    exact ⟨rfl, rfl, rfl, nofun⟩
  refine ⟨⟨h, h', hi, hj⟩, hshared, ?_, rearranged_sampleManifest, ?_⟩
  · exact (Project.resolve_independent.1 i j sampleConfig d h h' hi hj).1 .supportUrl hshared
  · exact Project.resolve_independent.2 i k keyed_sampleManifest keyed_rearrangedManifest
      rearranged_sampleManifest rfl rfl rfl

end FlutterInstaller
