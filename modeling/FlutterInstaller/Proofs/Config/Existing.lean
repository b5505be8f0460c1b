import FlutterInstaller.Proofs.Config.Faults
import FlutterInstaller.Proofs.Host.Files
import FlutterInstaller.Proofs.Path.NormalForm

/-!
The files that a manifest names. Whether it is there or not, a file is looked for, and reported, at the
normal form of the process directory, the directory that relative paths start from and the path as it is
written; and that directory plays no other part than through its own normal form.
-/
namespace FlutterInstaller

open FlutterInstaller.Path (NormalForm Clean normalForm_text_iff)

namespace Config

/-- The fields that name a file. -/
inductive FileField
  | icon
  | license

namespace FileField

def key : FileField → String
  | icon => "installer_icon"
  | license => "license_file"

def notFound : FileField → Location → ConfigError
  | icon => .iconNotFound
  | license => .licenseNotFound

theorem notFound_injective (f : FileField) : Function.Injective f.notFound := by
  cases f <;>
  · intro l k h
    cases h
    rfl

def file? : FileField → Config → Option Location
  | icon, c =>
    match c.icon with
    | .standard => none
    | .custom place => some place
  | license, c => c.license

abbrev Missing (f : FileField) (r : Request) : Fault :=
  Misfit r.HasFile (fun p => f.notFound (Path.locate r.base p)) [r.tool f.key]

theorem missing_mem (f : FileField) (r : Request) : f.Missing r ∈ r.faults := by
  cases f with
  | icon => exact List.mem_of_getElem? (i := 18) rfl
  | license => exact List.mem_of_getElem? (i := 20) rfl

end FileField

variable {r : Request} {c : Config} {f : FileField} {s : String} {place : Location}

theorem not_languagesFault_notFound {v : Option Yaml.Value} :
    ¬ LanguagesFault v (f.notFound place) := by
  intro h
  cases f <;>
  · cases h with
    | entry _ he =>
      obtain ⟨fault, hmem, hfault⟩ := he.exists_mem
      obtain ⟨entry, _, rfl⟩ := List.mem_map.mp hmem
      cases hfault

theorem missing_of_firstFault (h : FirstFault r.faults (f.notFound place)) :
    f.Missing r (f.notFound place) := by
  have hall : ∀ fault ∈ r.faults, fault (f.notFound place) → f.Missing r (f.notFound place) := by
    unfold Request.faults
    simp only [List.forall_mem_cons, List.not_mem_nil, false_implies, implies_true, and_true]
    cases f <;>
    · and_intros
      all_goals first
        | exact fun h => absurd h not_languagesFault_notFound
        | (intro h; cases h; done)
        | exact fun h => h
  obtain ⟨fault, hmem, hfault⟩ := h.exists_mem
  exact hall fault hmem hfault

theorem Resolves.file?_eq (h : Resolves r c) (hs : Source.Chosen [r.tool f.key] s) :
    f.file? c = some (Path.locate r.base s) ∧ r.HasFile s := by
  have hfirst := Source.first_eq_some_iff.mpr hs
  cases f with
  | icon =>
    have hrule := h.icon
    rw [Request.icon, show r.tool "installer_icon" = r.tool FileField.icon.key from rfl, hfirst]
      at hrule
    obtain ⟨heq, hfile⟩ := Request.existing_map_eq_ok hrule
    exact ⟨by rw [FileField.file?, heq], hfile⟩
  | license =>
    have hrule := h.license
    rw [Request.license, show r.tool "license_file" = r.tool FileField.license.key from rfl, hfirst]
      at hrule
    obtain ⟨heq, hfile⟩ := Request.existing_map_eq_ok hrule
    exact ⟨heq, hfile⟩

theorem missing_iff (hs : Source.Chosen [r.tool f.key] s) {e : ConfigError} :
    f.Missing r e ↔ ¬ r.HasFile s ∧ e = f.notFound (Path.locate r.base s) := by
  rw [FileField.Missing, misfit_iff, Source.first_eq_some_iff.mpr hs]
  simp

end Config

namespace Project

open Config

variable {m : Manifest} {o : Overrides} {w w' : Option String} {h : Host} {cwd b : Location}

theorem foldl_toList (cwd : Location) (w : Option String) :
    w.toList.foldl Path.locate cwd = w.elim cwd (Path.locate cwd) := by
  cases w <;> rfl

theorem perform_resolve_congr (hcwd : h.currentDirectory = .ok cwd)
    (hw : w.elim cwd (Path.locate cwd) = w'.elim cwd (Path.locate cwd)) :
    perform (resolve m o w) h = perform (resolve m o w') h := by
  rw [resolve, resolve, perform_bind_of_ok (perform_base_of_readable hcwd),
    perform_bind_of_ok (perform_base_of_readable hcwd), hw]

/-- A file that a manifest names is looked for at the normal form of the process directory, the
working directory and its path, and this place is what the configuration has, or what the error
reports. The working directory counts through its normal form alone. -/
theorem resolve_existing_file (htree : h.files.IsTree) (hcwd : h.currentDirectory = .ok cwd)
    (w : Option String) (f : FileField) {s : String} (hs : m.toolField f.key = some (.string s))
    (hfilled : ¬ Text.Blank s) :
    ∃ b p,
      (∀ l, NormalForm (Path.text cwd :: w.toList) l ↔ l = b) ∧
      (∀ l, NormalForm (Path.text cwd :: (w.toList ++ [s])) l ↔ l = p) ∧
      (∀ l, NormalForm [Path.text b, s] l ↔ l = p) ∧
      Clean (Path.text p) ∧
      (h.files.isFile .root (Path.text p) = true →
        (∀ c h', perform (resolve m o w) h = (.ok c, h') → f.file? c = some p) ∧
        ∀ l h', perform (resolve m o w) h ≠ (.error (.config (f.notFound l)), h')) ∧
      (h.files.isFile .root (Path.text p) = false →
        let r : Request := ⟨m, o, b, h.files⟩
        ∃ e, perform (resolve m o w) h = (.error (.config e), h) ∧
          r.Reports (f.Missing r) (f.notFound p) e ∧ ∀ l, e = f.notFound l → l = p) ∧
      (∀ w', NormalForm (Path.text cwd :: w'.toList) b →
        perform (resolve m o w') h = perform (resolve m o w) h) ∧
      perform (resolve m o (some (Path.text cwd))) h = perform (resolve m o none) h := by
  have hnames : ∀ n ∈ cwd, Path.IsName n := Host.isName_currentDirectory htree hcwd
  let b := w.elim cwd (Path.locate cwd)
  let p := Path.locate b s
  let r : Request := ⟨m, o, b, h.files⟩
  have hb : ∀ l, NormalForm (Path.text cwd :: w.toList) l ↔ l = b := fun l => by
    rw [normalForm_text_iff hnames, foldl_toList]
  have hbnames : ∀ n ∈ b, Path.IsName n := ((hb b).mpr rfl).2
  have hp : ∀ l, NormalForm (Path.text cwd :: (w.toList ++ [s])) l ↔ l = p := fun l => by
    rw [normalForm_text_iff hnames, List.foldl_append, foldl_toList]
    rfl
  have hchosen : Source.Chosen [r.tool f.key] s :=
    ⟨[], r.tool f.key, [], rfl, by simp, by
      rw [Request.tool, Source.tool, hs]
      exact .field _ s, hfilled⟩
  have herror := (resolve_first_fault (m := m) (o := o) (w := w) hcwd).2
  refine ⟨b, p, hb, hp, fun l => normalForm_text_iff hbnames, ((hp p).mpr rfl).clean, ?_, ?_, ?_, ?_⟩
  · intro hfile
    constructor
    · intro c h' hr
      obtain ⟨b', hb', hc⟩ := perform_resolve_eq_ok_iff.mp ⟨h', hr⟩
      rw [perform_base_of_readable hcwd] at hb'
      cases hb'
      exact (hc.file?_eq hchosen).1
    · intro l h' hr
      obtain ⟨-, d, hd, hfirst⟩ := (herror _ _).mp hr
      cases hd
      exact ((missing_iff hchosen).mp (missing_of_firstFault hfirst)).1 hfile
  · intro hfile
    have hmissing := (missing_iff (r := r) hchosen).mpr ⟨by simp [Request.HasFile, r, hfile, p, b], rfl⟩
    obtain ⟨e, hfirst, hreports⟩ := Request.exists_reports (f.missing_mem r) hmissing
    refine ⟨e, (herror _ _).mpr ⟨rfl, e, rfl, hfirst⟩, hreports, ?_⟩
    rintro l rfl
    exact f.notFound_injective ((missing_iff hchosen).mp (missing_of_firstFault hfirst)).2
  · intro w' hw'
    refine perform_resolve_congr hcwd ?_
    rw [normalForm_text_iff hnames, foldl_toList] at hw'
    exact hw'.symm
  · refine perform_resolve_congr hcwd ?_
    rw [Option.elim_some, Option.elim_none, Path.locate_text hnames]

end Project

def iconHost : Host :=
  { sampleHost [] with
    files := (FileSystem.ofDirectories [["work"]]).insert ["work", "a.ico"] (.file .empty false)
    workingDirectory := .ofPlace ["work"] }

theorem standing_iconHost : iconHost.Standing ["work"] := by
  have hplain : (FileSystem.ofDirectories [["work"]]).Plain :=
    FileSystem.plain_ofDirectories (by decide) (by decide)
  have hfree : (FileSystem.ofDirectories [["work"]]).get? ["work", "a.ico"] = none := rfl
  exact ⟨rfl, hplain.insert (l := ["work"]) (n := "a.ico") rfl (by decide) (.inr (by simp [hfree]))
    (by simp), rfl⟩

theorem resolve_existing_file_sample :
    let s := "../../work/./a.ico"
    let m := sampleManifest "demo_app" [("installer_icon", .string s)]
    iconHost.files.IsTree ∧ iconHost.currentDirectory = .ok ["work"] ∧
      m.toolField "installer_icon" = some (.string s) ∧ ¬ Text.Blank s ∧
      iconHost.files.isFile .root "/work/a.ico" = true ∧
      (∃ c h', perform (Project.resolve m {} (some "x/..")) iconHost = (.ok c, h')) ∧
      ∀ c h', perform (Project.resolve m {} (some "x/..")) iconHost = (.ok c, h') →
        Config.FileField.icon.file? c = some ["work", "a.ico"] := by
  intro s m
  have hst := standing_iconHost
  have hfile : iconHost.files.isFile .root "/work/a.ico" = true :=
    (hst.ground.isFile_iff (by decide)).mpr
      ⟨by decide, ⟨["", "work"], "a.ico", by decide, by decide⟩, _, _, rfl⟩
  have hblank : ¬ Text.Blank s := by decide
  have hicon : Config.Request.icon ⟨m, {}, ["work"], iconHost.files⟩ =
      .ok (.custom ["work", "a.ico"]) := by
    have hfirst : Source.first [Config.Request.tool ⟨m, {}, ["work"], iconHost.files⟩
        "installer_icon"] = .ok (some s) :=
      Source.first_eq_some_iff.mpr ⟨[], _, [], rfl, by simp, .field _ s, hblank⟩
    exact Config.Request.icon_eq_custom hfirst (by decide) (by decide) hfile
  have hc : Config.Resolves ⟨m, {}, ["work"], iconHost.files⟩
      { sampleConfig with icon := .custom ["work", "a.ico"] } := by
    constructor
    case icon => exact hicon
    all_goals rfl
  have hbase := Project.perform_base_of_readable (w := some "x/..") hst.currentDirectory
  have hplace : (some "x/..").elim ["work"] (Path.locate ["work"]) = ["work"] := by decide
  rw [hplace] at hbase
  obtain ⟨h', hr⟩ := Project.perform_resolve_eq_ok_iff.mpr ⟨["work"], hbase, hc⟩
  obtain ⟨b, p, -, hp, -, -, hfound, -⟩ := Project.resolve_existing_file (m := m) (o := {})
    hst.ground.toIsTree hst.currentDirectory (some "x/..") .icon (s := s) rfl hblank
  have hplace : p = ["work", "a.ico"] :=
    ((hp _).mp ((normalForm_text_iff (by decide)).mpr (by decide))).symm
  refine ⟨hst.ground.toIsTree, hst.currentDirectory, rfl, hblank, hfile, ⟨_, h', hr⟩, ?_⟩
  rw [← hplace]
  exact (hfound (by rw [hplace]; exact hfile)).1

end FlutterInstaller
