import FlutterInstaller.Proofs.Host.Extension
import FlutterInstaller.Proofs.Script.Reading
import FlutterInstaller.Proofs.Script.Repeat

/-!
What a script refers to: the directory of the installer, and the files that its compiler reads. All of
it is given by clean paths from the root, unless something is staged below a temporary directory that
is not itself given so.
-/
namespace FlutterInstaller.Script

open FlutterInstaller.Path

/-- What a script refers to: the directory that it is compiled into, a file, or all that lies below a
directory. -/
inductive Reference
  | output (path : String)
  | file (path : String)
  | tree (path : String)
  deriving DecidableEq

def Reference.path : Reference → String
  | .output path => path
  | .file path => path
  | .tree path => path

def sourceReference (flags source : String) : Reference :=
  if "recursesubdirs" ∈ Text.pieces ' ' flags then
    .tree (String.ofList source.toList.dropLast.dropLast)
  else .file source

def Line.reference? : Line → Option Reference
  | .directive key value =>
    if key = "OutputDir" then some (.output value)
    else if key = "SetupIconFile" ∨ key = "LicenseFile" then some (.file value)
    else none
  | .entry ps => (Script.argument? "Source" ps).map
    (sourceReference ((Script.argument? "Flags" ps).getD ""))

def references (ss : List Section) : List Reference :=
  ss.flatMap fun s => s.lines.filterMap Line.reference?

def FileItem.reference : FileItem → Reference
  | .directory path _ => .tree path
  | .renamed path _ => .file path
  | .plain path => .file path

theorem FileItem.reference?_line (item : FileItem) : item.line.reference? = some item.reference := by
  have hflat : ¬ "recursesubdirs" ∈ Text.pieces ' ' "ignoreversion" := by decide
  have hdeep : "recursesubdirs" ∈ Text.pieces ' ' "ignoreversion recursesubdirs createallsubdirs" := by
    decide
  cases item <;>
    simp [line, reference, Line.reference?, Script.argument?, quoted, bare, Argument.text, sourceReference,
      hflat, hdeep, List.dropLast_append_of_ne_nil]

theorem mem_references {name : String} {ss : List Section} {l : Line} {ref : Reference}
    (hl : l ∈ linesIn name ss) (href : l.reference? = some ref) : ref ∈ references ss := by
  obtain ⟨s, hs, hl⟩ := List.mem_flatMap.mp hl
  exact List.mem_flatMap.mpr
    ⟨s, List.mem_of_mem_filter hs, List.mem_filterMap.mpr ⟨l, hl, href⟩⟩

theorem references_asRead (ss : List Section) :
    references (ss.map Section.asRead) = references ss := by
  have hline : ∀ l : Line, l.asRead.reference? = l.reference? := by
    intro l
    cases l with
    | directive key value => rfl
    | entry ps => simp only [Line.asRead, Line.reference?, argument?_asRead]
  rw [references, List.flatMap_map]
  simp only [Section.asRead, List.filterMap_map, Function.comp_def, hline]
  rfl

theorem FileItem.path_reference (item : FileItem) : item.reference.path = item.source := by
  cases item <;> rfl

section Sections

variable {c : Config} {output icon : String} {items : List FileItem}

theorem references_sections :
    references (Script.sections c output icon items) =
      [.output output, .file icon] ++ (c.license.map fun place => .file (Path.text place)).toList ++
        items.map FileItem.reference := by
  have hsetup : (setup c output icon).lines.filterMap Line.reference? =
      [.output output, .file icon] ++ (c.license.map fun place => .file (Path.text place)).toList := by
    cases hl : c.license <;> simp [setup, hl, Line.reference?]
  have hlanguages : (languages c).lines.filterMap Line.reference? = [] := by
    simp [languages, Line.reference?, Script.argument?, quoted]
  have hfiles : (files items).lines.filterMap Line.reference? = items.map FileItem.reference := by
    rw [files, List.filterMap_map, ← List.filterMap_eq_map]
    exact congrArg (List.filterMap · items) (funext FileItem.reference?_line)
  simp only [references, Script.sections, List.flatMap_cons, List.flatMap_nil, hsetup, hlanguages,
    hfiles]
  simp [installDelete, tasks, icons, run, Line.reference?, Script.argument?, quoted, bare]

end Sections

namespace Parts

variable {parts : Parts} {c : Config}

theorem references_sections (parts : Parts) (c : Config) :
    references (parts.sections c) =
      [.output parts.places.output, .file parts.icon] ++
        (c.license.map fun place => .file (Path.text place)).toList ++
          (parts.children.map FileItem.reference ++ parts.staged.map Reference.file) := by
  rw [sections, Script.references_sections, items, List.map_append, List.map_map]
  rfl

theorem forall_references_iff {P : Reference → Prop} :
    (∀ ref ∈ references (parts.sections c), P ref) ↔
      P (.output parts.places.output) ∧ P (.file parts.icon) ∧
        (∀ place ∈ c.license, P (.file (Path.text place))) ∧
        (∀ child ∈ parts.children, P child.reference) ∧ ∀ path ∈ parts.staged, P (.file path) := by
  have hlicense :
      (∀ ref ∈ (c.license.map fun place => Reference.file (Path.text place)).toList, P ref) ↔
        ∀ place ∈ c.license, P (.file (Path.text place)) := by
    cases c.license <;> simp
  rw [references_sections]
  simp only [List.forall_mem_append, List.forall_mem_cons, List.forall_mem_map, hlicense]
  simp [and_assoc]

theorem Legible.references_text (hl : parts.Legible c) (hfolder : parts.OfFolder c) :
    references (sectionsOf (parts.text c)) = references (parts.sections c) := by
  rw [hl.sectionsOf_text hfolder, references_asRead]

theorem output_mem_references_iff {dir : String} :
    .output dir ∈ references (parts.sections c) ↔ dir = parts.places.output := by
  have hitem : ∀ item : FileItem, item.reference ≠ .output dir := by
    intro item
    cases item <;> simp [FileItem.reference]
  rw [references_sections]
  cases c.license <;> simp [hitem]

end Parts

namespace Request

variable {m : Manifest} {o : Overrides} {w : Option String} {h₀ h₀' h h' : Host} {r : Request}
  {p : Places} {cwd : Location}

section Clean

theorem isName_base {b : Location} (htree : h.files.IsTree)
    (hb : perform (Project.base w) h = (.ok b, h')) : ∀ n ∈ b, IsName n := by
  cases w with
  | none =>
    rw [Project.base, perform_get_bind, Project.perform_ofFile_eq_ok] at hb
    exact Host.isName_currentDirectory htree hb.1
  | some dir =>
    obtain ⟨_, cwd, hcwd, rfl⟩ := perform_locate_eq_ok_iff.mp hb
    exact isName_locate (Host.isName_currentDirectory htree hcwd) dir

theorem isName_projectFrom (hcwd : ∀ n ∈ cwd, IsName n) : ∀ n ∈ r.projectFrom cwd, IsName n := by
  unfold projectFrom
  cases r.workDirectory with
  | none => exact hcwd
  | some dir => exact isName_locate hcwd dir

theorem clean_outputDirectory {project : String} (mode : BuildMode) :
    Clean (Layout.outputDirectory project mode) ↔ Clean project := by
  have hmode : isAbsolute mode.directory = false ∧
      "." ∉ pieces mode.directory ∧ ".." ∉ pieces mode.directory := by
    cases mode <;> decide
  rw [Layout.outputDirectory, clean_join hmode.1 hmode.2.1 hmode.2.2,
    clean_join (by decide) (by decide) (by decide)]

theorem clean_stagingDirectory {temporary : String} (id : Uuid) :
    Clean (Layout.stagingDirectory temporary id.text) ↔ Clean temporary := by
  rw [Layout.stagingDirectory, clean_entry id.isName_text, clean_entry (by decide)]

variable (hcwd : ∀ n ∈ cwd, IsName n)

include hcwd

theorem clean_app : Clean (r.placesFrom h cwd).app :=
  clean_text (isName_locate (isName_projectFrom hcwd) _)

theorem clean_output : Clean (r.placesFrom h cwd).output :=
  (clean_outputDirectory _).mpr (clean_text (isName_projectFrom hcwd))

theorem clean_staging_iff :
    Clean (r.placesFrom h cwd).staging ↔
      (r.stagingDirectory = none → Clean h.temporaryDirectory) := by
  cases hs : r.stagingDirectory with
  | none => simp [placesFrom, hs, clean_stagingDirectory]
  | some dir =>
    have hclean : Clean (Path.absolute cwd dir) := clean_text (isName_locate hcwd dir)
    simp [placesFrom, hs, hclean]

end Clean

theorem stageLibrary_sublist {system directory name : String} {staged : List String}
    (hr : perform (stageLibrary system directory name) h = (.ok staged, h')) :
    staged.Sublist [join directory name] := by
  rw [stageLibrary, perform_get_bind] at hr
  split at hr
  · obtain ⟨_, _, _, hr⟩ := perform_bind_eq_ok.mp hr
    cases hr
    exact .refl _
  · cases hr
    exact List.nil_sublist _

theorem stageLibrary_result {system directory name : String} {staged : List String}
    (hr : perform (stageLibrary system directory name) h = (.ok staged, h')) :
    ∀ path ∈ staged, path = join directory name := fun _ hpath =>
  List.mem_singleton.mp ((stageLibrary_sublist hr).subset hpath)

theorem stageEach_sublist {system directory : String} {names : List String}
    {staged : List (List String)}
    (hr : perform (names.mapM (stageLibrary system directory)) h = (.ok staged, h')) :
    staged.flatten.Sublist (names.map (join directory)) := by
  induction names generalizing h staged with
  | nil =>
    cases hr
    exact .refl _
  | cons name names ih =>
    rw [List.mapM_cons] at hr
    obtain ⟨first, h₁, hfirst, hr⟩ := perform_bind_eq_ok.mp hr
    obtain ⟨rest, h₂, hrest, hr⟩ := perform_bind_eq_ok.mp hr
    cases hr
    rw [List.flatten_cons, List.map_cons]
    exact (stageLibrary_sublist hfirst).append (ih hrest)

theorem stagedLibraries_sublist {staged : List String}
    (hr : perform (r.stagedLibraries p) h = (.ok staged, h')) :
    staged.Sublist (Layout.runtimeLibraries.map (join (Layout.libraryDirectory p.staging))) := by
  rw [stagedLibraries] at hr
  split at hr
  · obtain ⟨staged, h₁, log, hfresh, rfl, rfl⟩ := stageFresh_of_stageLibraries hr
    obtain ⟨_, _, _, heach⟩ := perform_bind_eq_ok.mp hfresh
    exact stageEach_sublist heach
  · cases hr
    exact List.nil_sublist _

theorem stagedLibraries_result {staged : List String}
    (hr : perform (r.stagedLibraries p) h = (.ok staged, h')) :
    ∀ path ∈ staged, ∃ name ∈ Layout.runtimeLibraries,
      path = join (Layout.libraryDirectory p.staging) name := by
  intro path hpath
  obtain ⟨name, hname, rfl⟩ := List.mem_map.mp ((stagedLibraries_sublist hr).subset hpath)
  exact ⟨name, hname, rfl⟩

theorem isName_childNames {app : String} {names : List String} (htree : h.files.IsTree)
    (hr : perform (childNames app) h = (.ok names, h')) : ∀ n ∈ names, IsName n := by
  rw [childNames, perform_get_bind] at hr
  obtain ⟨s, _, _, hr⟩ := perform_bind_eq_ok.mp hr
  cases hr
  intro n hn
  cases hl : s.location? with
  | none => simp [hl] at hn
  | some l =>
    rw [hl] at hn
    exact htree.isName (FileSystem.mem_names_iff.mp hn) n (by simp)

theorem Gathers.placesFrom {parts : Parts} (hg : r.Gathers h parts h') :
    ∃ cwd, h.currentDirectory = .ok cwd ∧ parts.places = r.placesFrom h cwd :=
  (perform_places_eq_ok_iff.mp hg.places).2

theorem Gathers.clean_children {parts : Parts} (htree : h.files.IsTree) (hg : r.Gathers h parts h') :
    ∀ child ∈ parts.children, Clean child.source := by
  obtain ⟨cwd, hcwd, hp⟩ := hg.placesFrom
  obtain ⟨names, h₁, hicon, hnames, hchildren, _⟩ := hg.steps
  have htree₁ : h₁.files.IsTree := ((r.stageIcon_extends _).of_perform hicon).isTree htree
  have happ : Clean parts.places.app := hp ▸ clean_app (Host.isName_currentDirectory htree hcwd)
  intro child hchild
  rw [hchildren] at hchild
  obtain ⟨name, hname, rfl⟩ := List.mem_map.mp hchild
  rw [Request.child, FileItem.source_ofChild]
  exact (clean_entry (isName_childNames htree₁ hnames name hname)).mpr happ

theorem clean_custom (hr : perform (Project.resolve m o w) h₀ = (.ok r.config, h₀'))
    (htree : h₀.files.IsTree) {place : Location}
    (hplace : r.config.icon = .custom place ∨ r.config.license = some place) :
    Clean (Path.text place) := by
  obtain ⟨b, hb, hc⟩ := Project.perform_resolve_eq_ok_iff.mp ⟨h₀', hr⟩
  have hbase := isName_base htree hb
  rcases hplace with hicon | hlicense
  · obtain ⟨path, rfl, _⟩ := hc.icon_found hicon
    exact clean_text (isName_locate hbase path)
  · obtain ⟨path, rfl, _⟩ := hc.license_found hlicense
    exact clean_text (isName_locate hbase path)

theorem clean_iconOf_iff (hr : perform (Project.resolve m o w) h₀ = (.ok r.config, h₀'))
    (htree : h₀.files.IsTree) :
    Clean (r.iconOf p) ↔ (r.config.icon = .standard → Clean p.staging) := by
  rw [iconOf]
  cases hicon : r.config.icon with
  | standard => simp [Layout.iconPath, clean_entry isName_icon]
  | custom place => simp [clean_custom hr htree (.inl hicon)]

theorem Gathers.clean_staged_iff {parts : Parts} (hg : r.Gathers h parts h') :
    (∀ path ∈ parts.staged, Clean path) ↔ (parts.staged ≠ [] → Clean parts.places.staging) := by
  obtain ⟨_, _, _, _, _, hstaged⟩ := hg.steps
  have heach : ∀ path ∈ parts.staged, Clean path ↔ Clean parts.places.staging := by
    intro path hpath
    obtain ⟨name, hname, rfl⟩ := stagedLibraries_result hstaged path hpath
    rw [clean_entry (isName_libraries name hname), Layout.libraryDirectory,
      clean_entry isName_libraryDirectory]
  constructor
  · intro hall hne
    obtain ⟨path, hpath⟩ := List.exists_mem_of_ne_nil _ hne
    exact (heach path hpath).mp (hall path hpath)
  · intro hall path hpath
    exact (heach path hpath).mpr (hall (List.ne_nil_of_mem hpath))

/-- Whatever a project resolves to, wherever the directories are given or found, and whatever the host
holds: the sections that are written refer to clean paths from the root only, exactly when nothing is
staged below the temporary directory or that directory is itself given by such a path; the text refers to
the same where it is legible; and a build gives the path of the script in the directory of the
installer. -/
theorem references_clean_iff (hr : perform (Project.resolve m o w) h₀ = (.ok r.config, h₀'))
    (htree₀ : h₀.files.IsTree) (htree : h.files.IsTree) {text : String}
    (ht : perform r.render h = (.ok text, h')) :
    ∃ parts, r.Gathers h parts h' ∧ text = parts.text r.config ∧
      ((∀ ref ∈ references (parts.sections r.config), Clean ref.path) ↔
        (r.stagingDirectory = none →
          Clean h.temporaryDirectory ∨ r.config.icon ≠ .standard ∧ parts.staged = [])) ∧
      (parts.Legible r.config →
        references (sectionsOf text) = references (parts.sections r.config)) ∧
      ∃ output, (∀ dir, .output dir ∈ references (parts.sections r.config) ↔ dir = output) ∧
        ∀ path g, perform r.build h = (.ok path, g) → path = join output Layout.scriptName := by
  obtain ⟨parts, hg, rfl⟩ := perform_render_eq_ok_iff.mp ht
  obtain ⟨cwd, hcwd, hp⟩ := hg.placesFrom
  have hnames := Host.isName_currentDirectory htree hcwd
  have houtput : Clean parts.places.output := hp ▸ clean_output hnames
  have hstaging : Clean parts.places.staging ↔
      (r.stagingDirectory = none → Clean h.temporaryDirectory) := hp ▸ clean_staging_iff hnames
  obtain ⟨_, _, hicon, _, _, _⟩ := hg.steps
  have hiconClean : Clean parts.icon ↔ (r.config.icon = .standard → Clean parts.places.staging) := by
    rw [stageIcon_result hicon]
    exact clean_iconOf_iff hr htree₀
  have hlicense : ∀ place ∈ r.config.license, Clean (Path.text place) :=
    fun place hplace => clean_custom hr htree₀ (.inr hplace)
  have hchildren : ∀ child ∈ parts.children, Clean child.reference.path := by
    intro child hchild
    rw [child.path_reference]
    exact hg.clean_children htree child hchild
  refine ⟨parts, hg, rfl, ?_, fun hl => hl.references_text hg.ofFolder, parts.places.output, ?_, ?_⟩
  · rw [Parts.forall_references_iff]
    simp only [Reference.path, hiconClean, hg.clean_staged_iff, hstaging]
    tauto
  · exact fun dir => Parts.output_mem_references_iff
  · exact fun path g hb => (build_eq_ok hg.places hb).1

section Sample

def usualRequest : Request := { config := sampleConfig, appDirectory := "/a" }

def relativeHost : Host :=
  { sampleHost [] with
    files := FileSystem.ofDirectories
      [["a"], ["tmp"], ["tmp", "inno_bundle"], ["tmp", "inno_bundle", sampleConfig.id.text]]
    temporaryDirectory := "tmp" }

def relativePlaces : Places where
  app := "/a"
  output := "/build/windows/x64/installer/Release"
  staging := "tmp/inno_bundle/5c3bd4a2-7e1f-4c8b-a9d6-0f2e3b4c5d6e"
  system := "C:\\Windows/System32"

theorem standing_relativeHost : relativeHost.Standing [] :=
  ⟨rfl, FileSystem.plain_ofDirectories (by decide) (by decide), rfl⟩

theorem render_relative : ∃ text h', perform usualRequest.render relativeHost = (.ok text, h') := by
  have hst := standing_relativeHost
  have hplaces : perform usualRequest.places relativeHost = (.ok relativePlaces, relativeHost) :=
    perform_places_eq_ok_iff.mpr ⟨rfl, [], hst.currentDirectory, by decide⟩
  have happ : relativeHost.isDirectory "/a" = true :=
    (hst.isDirectory_iff (by decide)).mpr ⟨by decide, rfl⟩
  have hstraight : Straight (Layout.iconPath relativePlaces.staging) := by decide
  have hend := endsInName_iconPath relativePlaces.staging
  have hstorable : Action.Storable (Layout.iconPath relativePlaces.staging) :=
    Action.storable_of_valid (by decide)
  have hfree : relativeHost.files.get? (locate [] (Layout.iconPath relativePlaces.staging)) = none :=
    rfl
  obtain ⟨h₁, hwrite⟩ := Action.writeFile_of_storable hst hstraight hend hstorable rfl
    (by simp [hfree]) DefaultIcon.content
  obtain ⟨hbecomes, _⟩ := Action.writeFile_eq_ok hst hstraight hend hwrite
  have happ₁ : h₁.isDirectory "/a" = true := by
    rw [← happ]
    refine hbecomes.standing.isDirectory_congr hst (by decide) ?_
    rw [hbecomes.view]
    rfl
  obtain ⟨text, lines, hrender⟩ := render_of_writeFile hplaces rfl rfl (by decide) happ
    hbecomes.standing hwrite happ₁
  exact ⟨text, _, hrender⟩

theorem references_clean_not :
    ∃ h₀ h' text parts, perform (Project.resolve (sampleManifest "demo_app" []) {} none) relativeHost =
        (.ok usualRequest.config, h₀) ∧ relativeHost.files.IsTree ∧
      perform usualRequest.render relativeHost = (.ok text, h') ∧
      usualRequest.Gathers relativeHost parts h' ∧ text = parts.text usualRequest.config ∧
      ¬ ∀ ref ∈ references (parts.sections usualRequest.config), Clean ref.path := by
  have htree : relativeHost.files.IsTree := standing_relativeHost.ground.toIsTree
  have hc : Config.resolve ⟨sampleManifest "demo_app" [], {}, [], relativeHost.files⟩ =
      .ok usualRequest.config := rfl
  obtain ⟨log, hr⟩ := Project.exists_resolve standing_relativeHost.currentDirectory
    (Config.resolve_eq_ok_iff.mp hc)
  obtain ⟨text, h', hrender⟩ := render_relative
  obtain ⟨parts, hg, htext, hiff, _⟩ := references_clean_iff hr htree htree hrender
  refine ⟨_, h', text, parts, hr, htree, hrender, hg, htext, ?_⟩
  intro hall
  rcases hiff.mp hall rfl with hclean | ⟨hicon, _⟩
  · exact absurd hclean.absolute (by decide)
  · exact hicon rfl

end Sample

end Request

end FlutterInstaller.Script
