import FlutterInstaller.Proofs.Config.Resolution
import FlutterInstaller.Script.Build

/-!
What a rendered script is made of: the directories of the run, the icon, an item for each child of the
app's directory and the staged libraries. The text depends on nothing else.
-/
namespace FlutterInstaller.Script

/-- What a script is made of besides its configuration. -/
structure Parts where
  places : Places
  icon : String
  children : List FileItem
  staged : List String

namespace Parts

def items (parts : Parts) : List FileItem := parts.children ++ parts.staged.map FileItem.plain

def sections (parts : Parts) (c : Config) : List Section :=
  Script.sections c parts.places.output parts.icon parts.items

def text (parts : Parts) (c : Config) : String := Script.render (parts.sections c)

theorem length_text_lt {parts parts' : Parts} {c : Config} (hp : parts.places = parts'.places)
    (hicon : parts.icon = parts'.icon) (hnone : parts.items = []) (hsome : parts'.items ≠ []) :
    (parts.text c).length < (parts'.text c).length := by
  obtain ⟨item, items, hitems⟩ := List.exists_cons_of_ne_nil hsome
  have hfiles : (files []).render.length < (files (item :: items)).render.length := by
    simp only [Section.render, files, List.map_cons, List.map_nil, String.join_cons,
      String.join_nil, String.length_append]
    have hbreak : "\n".length = 1 := by decide
    have hempty : "".length = 0 := by decide
    omega
  simp only [text, Script.render, sections, Script.sections, hp, hicon, hnone, hitems,
    List.map_cons, List.map_nil, String.intercalate_cons_cons, String.intercalate_singleton,
    String.length_append]
  omega

end Parts

namespace Request

variable {r : Request} {p : Places} {h h' : Host}

def child (r : Request) (h : Host) (app name : String) : FileItem :=
  FileItem.ofChild r.config (Path.join app name) name (h.isDirectory (Path.join app name))

def stagedLibraries (r : Request) (p : Places) : Action (List String) :=
  if r.config.vcRedist then stageLibraries p.staging p.system else pure []

def listed (r : Request) (h : Host) (app : String) (names : List String) : Host :=
  { h with log := h.log ++ names.map fun name => ⟨.debug, FileItem.message (r.child h app name)⟩ }

structure Collects (r : Request) (h : Host) (parts : Parts) (h' : Host) : Prop where
  app : h.isDirectory parts.places.app = true
  steps : ∃ names h₁,
    perform (r.stageIcon parts.places.staging) h = (.ok parts.icon, h₁) ∧
      perform (childNames parts.places.app) h₁ = (.ok names, h₁) ∧
      parts.children = names.map (r.child h₁ parts.places.app) ∧
      perform (r.stagedLibraries parts.places) (r.listed h₁ parts.places.app names) =
        (.ok parts.staged, h')

/-- A run of a request finds its directories and collects the parts of its script in them. -/
structure Gathers (r : Request) (h : Host) (parts : Parts) (h' : Host) : Prop extends
    Collects r h parts h' where
  places : perform r.places h = (.ok parts.places, h)

theorem perform_locate_eq_ok_iff {action : FileAction} {path : String} {l : Location} :
    perform (Action.locate action path) h = (.ok l, h') ↔
      h' = h ∧ ∃ cwd, h.currentDirectory = .ok cwd ∧ l = Path.locate cwd path := by
  rw [Action.locate, perform_get_bind, perform_bind_eq_ok]
  constructor
  · rintro ⟨cwd, _, hcwd, hl⟩
    obtain ⟨hcwd, rfl⟩ := Project.perform_ofFile_eq_ok.mp hcwd
    cases hl
    exact ⟨rfl, cwd, hcwd, rfl⟩
  · rintro ⟨rfl, cwd, hcwd, rfl⟩
    exact ⟨cwd, h', Project.perform_ofFile_eq_ok.mpr ⟨hcwd, rfl⟩, rfl⟩

def projectFrom (r : Request) (cwd : Location) : Location :=
  r.workDirectory.elim cwd (Path.locate cwd)

def placesFrom (r : Request) (h : Host) (cwd : Location) : Places where
  app := Path.absolute (r.projectFrom cwd) r.appDirectory
  output := Layout.outputDirectory (Path.text (r.projectFrom cwd)) r.config.buildMode
  staging := r.stagingDirectory.elim
    (Layout.stagingDirectory h.temporaryDirectory r.config.id.text) (Path.absolute cwd)
  system := r.systemDirectory.getD (Layout.systemDirectory h.systemRoot)

theorem perform_project_eq_ok_iff {l : Location} :
    perform r.project h = (.ok l, h') ↔
      h' = h ∧ ∃ cwd, h.currentDirectory = .ok cwd ∧ l = r.projectFrom cwd := by
  unfold project projectFrom
  cases r.workDirectory with
  | some dir => exact perform_locate_eq_ok_iff
  | none =>
    rw [perform_get_bind, Project.perform_ofFile_eq_ok]
    constructor
    · rintro ⟨hcwd, rfl⟩
      exact ⟨rfl, l, hcwd, rfl⟩
    · rintro ⟨rfl, cwd, hcwd, rfl⟩
      exact ⟨hcwd, rfl⟩

theorem perform_places_eq_ok_iff :
    perform r.places h = (.ok p, h') ↔
      h' = h ∧ ∃ cwd, h.currentDirectory = .ok cwd ∧ p = r.placesFrom h cwd := by
  rw [places, perform_bind_eq_ok]
  constructor
  · rintro ⟨project, h₁, hproject, hp⟩
    obtain ⟨rfl, cwd, hcwd, rfl⟩ := perform_project_eq_ok_iff.mp hproject
    cases hs : r.stagingDirectory with
    | some dir =>
      simp only [hs] at hp
      obtain ⟨staging, h₂, hstaging, hp⟩ := perform_bind_eq_ok.mp hp
      obtain ⟨l, hl, rfl⟩ := perform_map_eq_ok.mp hstaging
      obtain ⟨rfl, cwd', hcwd', rfl⟩ := perform_locate_eq_ok_iff.mp hl
      rw [hcwd] at hcwd'
      cases hcwd'
      cases hp
      exact ⟨rfl, cwd, hcwd, by simp [placesFrom, hs, Path.absolute]⟩
    | none =>
      simp only [hs, perform_get_bind] at hp
      cases hp
      exact ⟨rfl, cwd, hcwd, by simp [placesFrom, hs]⟩
  · rintro ⟨rfl, cwd, hcwd, rfl⟩
    refine ⟨_, h', perform_project_eq_ok_iff.mpr ⟨rfl, cwd, hcwd, rfl⟩, ?_⟩
    cases hs : r.stagingDirectory with
    | some dir =>
      have hl : perform (Action.locate .resolvingPath dir) h' = (.ok (Path.locate cwd dir), h') :=
        perform_locate_eq_ok_iff.mpr ⟨rfl, cwd, hcwd, rfl⟩
      refine perform_bind_eq_ok.mpr ⟨_, h', perform_map_eq_ok.mpr ⟨_, hl, rfl⟩, ?_⟩
      simp only [perform_get_bind, perform_pure, placesFrom, hs, Option.elim_some, Path.absolute]
    | none =>
      simp only [perform_get_bind, placesFrom, hs, Option.elim_none]
      rfl

theorem perform_childItem (r : Request) (h : Host) (app name : String) :
    perform (r.childItem app name) h = (.ok (r.child h app name), r.listed h app [name]) := by
  rw [childItem]
  simp only [perform_get_bind, Action.debug, Action.log, perform_modify_bind, perform_pure]
  rfl

theorem perform_childItems (r : Request) (h : Host) (app : String) (names : List String) :
    perform (names.mapM (r.childItem app)) h =
      (.ok (names.map (r.child h app)), r.listed h app names) := by
  induction names generalizing h with
  | nil => simp [listed]
  | cons name names ih =>
    have hnames := ih (r.listed h app [name])
    rw [List.mapM_cons, perform_bind_of_ok (perform_childItem r h app name),
      perform_bind_of_ok hnames, perform_pure]
    simp [listed, child, Host.isDirectory]

theorem perform_childNames {app : String} {names : List String}
    (hn : perform (childNames app) h = (.ok names, h')) : h' = h := by
  rw [childNames, perform_get_bind, perform_bind_eq_ok] at hn
  obtain ⟨_, _, hs, hn⟩ := hn
  cases hn
  exact (Project.perform_ofFile_eq_ok.mp hs).2

theorem perform_items_eq_ok_iff {items : List FileItem} :
    perform (r.items p) h = (.ok items, h') ↔
      ∃ names staged, perform (childNames p.app) h = (.ok names, h) ∧
        perform (r.stagedLibraries p) (r.listed h p.app names) = (.ok staged, h') ∧
        items = names.map (r.child h p.app) ++ staged.map FileItem.plain := by
  unfold Request.items stagedLibraries
  rw [perform_bind_eq_ok]
  constructor
  · rintro ⟨names, h₁, hnames, hi⟩
    obtain rfl := perform_childNames hnames
    rw [perform_bind_of_ok (perform_childItems r _ p.app names)] at hi
    split at hi
    · next hv =>
      obtain ⟨staged, h₂, hstaged, hi⟩ := perform_bind_eq_ok.mp hi
      cases hi
      exact ⟨names, staged, hnames, by rw [if_pos hv]; exact hstaged, rfl⟩
    · next hv =>
      cases hi
      exact ⟨names, [], hnames, by rw [if_neg hv]; rfl, by simp⟩
  · rintro ⟨names, staged, hnames, hstaged, rfl⟩
    refine ⟨names, h, hnames, ?_⟩
    rw [perform_bind_of_ok (perform_childItems r h p.app names)]
    split at hstaged
    · next hv =>
      rw [if_pos hv]
      exact perform_bind_eq_ok.mpr ⟨staged, h', hstaged, rfl⟩
    · next hv =>
      cases hstaged
      simp [hv]

theorem perform_renderAt_eq_ok_iff {text : String} :
    perform (r.renderAt p) h = (.ok text, h') ↔
      ∃ parts, parts.places = p ∧ r.Collects h parts h' ∧ text = parts.text r.config := by
  rw [renderAt, perform_get_bind]
  constructor
  · intro ht
    split at ht
    · next happ =>
      obtain ⟨icon, h₁, hicon, ht⟩ := perform_bind_eq_ok.mp ht
      obtain ⟨items, h₂, hitems, ht⟩ := perform_bind_eq_ok.mp ht
      cases ht
      obtain ⟨names, staged, hnames, hstaged, rfl⟩ := perform_items_eq_ok_iff.mp hitems
      exact ⟨⟨p, icon, _, staged⟩, rfl, ⟨happ, names, h₁, hicon, hnames, rfl, hstaged⟩, rfl⟩
    · simp at ht
  · rintro ⟨parts, rfl, ⟨happ, names, h₁, hicon, hnames, hchildren, hstaged⟩, rfl⟩
    have hitems := perform_items_eq_ok_iff.mpr ⟨names, parts.staged, hnames, hstaged, rfl⟩
    rw [← hchildren] at hitems
    rw [if_pos happ, perform_bind_of_ok hicon, perform_bind_of_ok hitems]
    rfl

theorem perform_render_eq_ok_iff {text : String} :
    perform r.render h = (.ok text, h') ↔
      ∃ parts, r.Gathers h parts h' ∧ text = parts.text r.config := by
  rw [render, perform_bind_eq_ok]
  constructor
  · rintro ⟨p, h₀, hp, ht⟩
    obtain ⟨rfl, _⟩ := perform_places_eq_ok_iff.mp hp
    obtain ⟨parts, rfl, hcollects, rfl⟩ := perform_renderAt_eq_ok_iff.mp ht
    exact ⟨parts, ⟨hcollects, hp⟩, rfl⟩
  · rintro ⟨parts, hgathers, rfl⟩
    exact ⟨parts.places, h, hgathers.places,
      perform_renderAt_eq_ok_iff.mpr ⟨parts, rfl, hgathers.toCollects, rfl⟩⟩

end Request

end FlutterInstaller.Script
