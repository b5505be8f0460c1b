import FlutterInstaller.Project
import FlutterInstaller.Proofs.Steps

/-!
What a resolved configuration says about its manifest: resolution succeeds exactly when the rule of
every field does, and each field is what its own rule gives.
-/
namespace FlutterInstaller

namespace Config

theorem rule_bind_eq_ok {α β : Type} {x : Rule α} {f : α → Rule β} {b : β} :
    (x >>= f) = .ok b ↔ ∃ a, x = .ok a ∧ f a = .ok b := by
  cases x with
  | error e => simp [bind, Except.bind]
  | ok a => simp [bind, Except.bind]

/-- Every rule of a request gives the field of a configuration that it is for. -/
structure Resolves (r : Request) (c : Config) : Prop where
  checkSection : r.checkSection = .ok ()
  id : r.id = .ok c.id
  manifestName : r.manifestName = .ok c.manifestName
  displayName : r.displayName c.manifestName = .ok c.displayName
  description : r.description = .ok c.description
  version : r.version = .ok c.version
  publisher : r.publisher = .ok c.publisher
  url : r.url = .ok c.url
  supportUrl : r.urlOr "support_url" c.url = .ok c.supportUrl
  updatesUrl : r.urlOr "updates_url" c.url = .ok c.updatesUrl
  icon : r.icon = .ok c.icon
  license : r.license = .ok c.license
  languages : r.languages = .ok c.languages
  admin : r.admin = .ok c.admin
  disableWelcomePage : r.flag "disable_welcome_page" true = .ok c.disableWelcomePage
  disableReadyPage : r.flag "disable_ready_page" false = .ok c.disableReadyPage
  disableFinishedPage : r.flag "disable_finished_page" false = .ok c.disableFinishedPage
  disableReadyMemo : r.flag "disable_ready_memo" false = .ok c.disableReadyMemo
  disableDirPage : r.pageSwitch "disable_dir_page" = .ok c.disableDirPage
  disableProgramGroupPage :
    r.pageSwitch "disable_program_group_page" = .ok c.disableProgramGroupPage
  vcRedist : r.flag "vc_redist" true = .ok c.vcRedist
  buildMode : c.buildMode = r.overrides.buildMode
  buildApp : c.buildApp = r.overrides.buildApp
  buildInstaller : c.buildInstaller = r.overrides.buildInstaller

theorem resolve_eq_ok_iff {r : Request} {c : Config} : resolve r = .ok c ↔ Resolves r c := by
  constructor
  · intro h
    unfold resolve at h
    simp only [rule_bind_eq_ok] at h
    obtain ⟨_, hsection, _, hid, _, hname, _, hdisplay, _, hdescription, _, hversion, _, hpublisher,
      _, hurl, _, hsupport, _, hupdates, _, hicon, _, hlicense, _, hlanguages, _, hadmin, _, hwelcome,
      _, hready, _, hfinished, _, hmemo, _, hdir, _, hgroup, _, hvc, hc⟩ := h
    cases hc
    exact ⟨hsection, hid, hname, hdisplay, hdescription, hversion, hpublisher, hurl, hsupport,
      hupdates, hicon, hlicense, hlanguages, hadmin, hwelcome, hready, hfinished, hmemo, hdir, hgroup,
      hvc, rfl, rfl, rfl⟩
  · intro h
    unfold resolve
    simp only [rule_bind_eq_ok]
    refine ⟨_, h.checkSection, _, h.id, _, h.manifestName, _, h.displayName, _, h.description, _,
      h.version, _, h.publisher, _, h.url, _, h.supportUrl, _, h.updatesUrl, _, h.icon, _, h.license,
      _, h.languages, _, h.admin, _, h.disableWelcomePage, _, h.disableReadyPage, _,
      h.disableFinishedPage, _, h.disableReadyMemo, _, h.disableDirPage, _,
      h.disableProgramGroupPage, _, h.vcRedist, ?_⟩
    rw [← h.buildMode, ← h.buildApp, ← h.buildInstaller]
    rfl

section Existing

variable {r : Request} {c : Config}

theorem Request.existing_map_eq_ok {α : Type} {notFound : Location → ConfigError} {p : String}
    {f : Location → α} {x : α} (h : (r.existing notFound p).map f = .ok x) :
    x = f (Path.locate r.base p) ∧
      r.files.isFile .root (Path.text (Path.locate r.base p)) = true := by
  rw [existing] at h
  split at h
  · next hfile =>
    cases h
    exact ⟨rfl, hfile⟩
  · cases h

theorem Request.existing_eq_ok {notFound : Location → ConfigError} {p text : String} {place : Location}
    (hplace : Path.locate r.base p = place) (htext : Path.text place = text)
    (hfile : r.files.isFile .root text = true) : r.existing notFound p = .ok place := by
  rw [existing, hplace, htext, if_pos hfile]

section Found

variable {m : Manifest} {o : Overrides} {base place : Location} {files : FileSystem} {p text : String}

theorem Request.icon_eq_custom
    (hgiven : Source.first [Request.tool ⟨m, o, base, files⟩ "installer_icon"] = .ok (some p))
    (hplace : Path.locate base p = place) (htext : Path.text place = text)
    (hfile : files.isFile .root text = true) :
    Request.icon ⟨m, o, base, files⟩ = .ok (.custom place) := by
  simp only [icon, hgiven, existing_eq_ok (r := ⟨m, o, base, files⟩) hplace htext hfile]
  rfl

theorem Request.license_eq_some
    (hgiven : Source.first [Request.tool ⟨m, o, base, files⟩ "license_file"] = .ok (some p))
    (hplace : Path.locate base p = place) (htext : Path.text place = text)
    (hfile : files.isFile .root text = true) :
    Request.license ⟨m, o, base, files⟩ = .ok (some place) := by
  simp only [license, hgiven, existing_eq_ok (r := ⟨m, o, base, files⟩) hplace htext hfile]
  rfl

end Found

theorem Resolves.icon_found (h : Resolves r c) {place : Location} (hicon : c.icon = .custom place) :
    ∃ p, place = Path.locate r.base p ∧ r.files.isFile .root (Path.text place) = true := by
  have hrule := h.icon
  rw [Request.icon, hicon] at hrule
  split at hrule
  · cases hrule
  · next p _ =>
    obtain ⟨heq, hfile⟩ := Request.existing_map_eq_ok hrule
    cases heq
    exact ⟨p, rfl, hfile⟩
  · cases hrule

theorem Resolves.license_found (h : Resolves r c) {place : Location}
    (hlicense : c.license = some place) :
    ∃ p, place = Path.locate r.base p ∧ r.files.isFile .root (Path.text place) = true := by
  have hrule := h.license
  rw [Request.license, hlicense] at hrule
  split at hrule
  · cases hrule
  · next p _ =>
    obtain ⟨heq, hfile⟩ := Request.existing_map_eq_ok hrule
    cases heq
    exact ⟨p, rfl, hfile⟩
  · cases hrule

end Existing

end Config

namespace Project

theorem perform_ofFile_eq_ok {α : Type} {action : FileAction} {path : String} {x : Except OsError α}
    {h h' : Host} {a : α} :
    perform (Action.ofFile action path x) h = (.ok a, h') ↔ x = .ok a ∧ h' = h := by
  cases x with
  | error e => simp [Action.ofFile]
  | ok b => simp [Action.ofFile, eq_comm]

theorem perform_base {w : Option String} {h h' : Host} {b : Location}
    (hb : perform (base w) h = (.ok b, h')) : h' = h := by
  cases w with
  | none =>
    rw [base, perform_get_bind, perform_ofFile_eq_ok] at hb
    exact hb.2
  | some dir =>
    rw [base, Action.locate, perform_get_bind, perform_bind_eq_ok] at hb
    obtain ⟨_, _, hcwd, hb⟩ := hb
    cases hb
    exact (perform_ofFile_eq_ok.mp hcwd).2

theorem perform_base_of_readable {w : Option String} {h : Host} {cwd : Location}
    (hcwd : h.currentDirectory = .ok cwd) :
    perform (base w) h = (.ok (w.elim cwd (Path.locate cwd)), h) := by
  cases w with
  | none =>
    rw [base, perform_get_bind, hcwd]
    rfl
  | some dir =>
    rw [base, Action.locate, perform_get_bind, hcwd]
    rfl

theorem exists_log_of_resolve {m : Manifest} {o : Overrides} {w : Option String} {h h' : Host}
    {c : Config} (hr : perform (resolve m o w) h = (.ok c, h')) : ∃ log, h' = { h with log } := by
  rw [resolve, perform_bind_eq_ok] at hr
  obtain ⟨b, t, hb, hr⟩ := hr
  obtain rfl := perform_base hb
  rw [perform_get_bind] at hr
  split at hr
  · cases hr
  · simp only [Action.debug, Action.log, perform_modify_bind, perform_pure] at hr
    cases hr
    exact ⟨_, rfl⟩

/-- A project resolves exactly when its manifest does, from the files of the host and the directory
that relative paths start from. -/
theorem perform_resolve_eq_ok_iff {m : Manifest} {o : Overrides} {w : Option String} {h : Host}
    {c : Config} :
    (∃ h', perform (resolve m o w) h = (.ok c, h')) ↔
      ∃ b, perform (base w) h = (.ok b, h) ∧
        Config.Resolves { manifest := m, overrides := o, base := b, files := h.files } c := by
  simp only [← Config.resolve_eq_ok_iff]
  constructor
  · rintro ⟨h', hr⟩
    rw [resolve, perform_bind_eq_ok] at hr
    obtain ⟨b, t, hb, hr⟩ := hr
    obtain rfl := perform_base hb
    rw [perform_get_bind] at hr
    refine ⟨b, hb, ?_⟩
    split at hr
    · simp at hr
    · next c' hc =>
      rw [perform_bind_eq_ok] at hr
      obtain ⟨_, _, _, hr⟩ := hr
      cases hr
      exact hc
  · rintro ⟨b, hb, hc⟩
    rw [resolve, perform_bind, hb]
    simp only [perform_get_bind, hc, Action.debug, Action.log, perform_modify_bind, perform_pure]
    exact ⟨_, rfl⟩

theorem exists_resolve {m : Manifest} {o : Overrides} {h : Host} {cwd : Location} {c : Config}
    (hcwd : h.currentDirectory = .ok cwd) (hc : Config.Resolves ⟨m, o, cwd, h.files⟩ c) :
    ∃ log, perform (resolve m o none) h = (.ok c, { h with log }) := by
  obtain ⟨h', hr⟩ := perform_resolve_eq_ok_iff.mpr ⟨cwd, perform_base_of_readable (w := none) hcwd, hc⟩
  obtain ⟨log, rfl⟩ := exists_log_of_resolve hr
  exact ⟨log, hr⟩

end Project

end FlutterInstaller
