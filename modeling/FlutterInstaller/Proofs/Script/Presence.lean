import FlutterInstaller.Proofs.FileSystem.Way
import FlutterInstaller.Proofs.Host.Frame
import FlutterInstaller.Proofs.Script.Effect
import FlutterInstaller.Proofs.Script.References

/-!
When a build returns, what its script refers to is there. Two things can stand in the way: a child of
the app's directory that leads nowhere, and a reference into the directory of the libraries, which is
made afresh once the script refers to it.
-/
namespace FlutterInstaller.Script

open FlutterInstaller.Path FileSystem Text

/-- What is referred to is there, wherever the path is followed from; the directory of the installer is
not read. -/
def Reference.Present (fs : FileSystem) : Reference → Prop
  | .output _ => True
  | .file path => ∀ cwd, fs.isFile cwd path = true
  | .tree path => ∀ cwd, fs.isDirectory cwd path = true

namespace Reference

variable {fs gs : FileSystem} {path : String} {ref : Reference}

theorem present_file (habs : isAbsolute path = true) (hfile : fs.isFile .root path = true) :
    (Reference.file path).Present fs := by
  intro cwd
  rw [isFile_absolute habs, hfile]

theorem present_tree (habs : isAbsolute path = true) (hd : fs.isDirectory .root path = true) :
    (Reference.tree path).Present fs := by
  intro cwd
  rw [isDirectory_absolute habs, hd]

theorem Present.of_covers (hpresent : ref.Present fs) (habs : isAbsolute ref.path = true)
    (hcovers : Covers fs gs) : ref.Present gs := by
  cases ref with
  | output path => trivial
  | file path => exact fun cwd => hcovers.isFile habs (hpresent cwd)
  | tree path => exact fun cwd => hcovers.isDirectory habs (hpresent cwd)

theorem Present.cleared {p : String} (hpresent : ref.Present fs) (htree : IsTree fs)
    (habs : isAbsolute ref.path = true) (hev : fs.Evades p ref.path) : ref.Present (fs.cleared p) := by
  cases ref with
  | output path => trivial
  | file path => exact present_file habs (hev.isFile_cleared htree (hpresent _))
  | tree path => exact present_tree habs (hev.isDirectory_cleared htree habs (hpresent _))

end Reference

def Parts.reads (parts : Parts) (c : Config) : List String :=
  parts.icon :: (c.license.map Path.text).toList ++ parts.children.map FileItem.source

/-- What a script refers to is kept: every child of the app's directory leads to a file or a directory,
and no path comes past what is lost when the directory of the libraries is made afresh. -/
structure Parts.Kept (parts : Parts) (c : Config) (h : Host) : Prop where
  leads : ∀ child ∈ parts.children, h.isFile child.source = true ∨ h.isDirectory child.source = true
  evades : c.vcRedist = true → ∀ path ∈ parts.reads c,
    h.files.Evades (Layout.libraryDirectory parts.places.staging) path

theorem Parts.path_mem_reads {parts : Parts} {c : Config} {ref : Reference}
    (hmem : ref ∈ references (parts.sections c)) (hnot : ref ∉ parts.staged.map Reference.file)
    (hread : ∀ dir, ref ≠ .output dir) : ref.path ∈ parts.reads c := by
  revert ref
  rw [Parts.forall_references_iff]
  refine ⟨fun _ h => absurd rfl (h _), fun _ _ => by simp [reads, Reference.path], ?_, ?_, ?_⟩
  · intro place hplace _ _
    simp [reads, Option.mem_def.mp hplace, Reference.path]
  · intro child hchild _ _
    rw [child.path_reference]
    exact List.mem_append_right _ (List.mem_map_of_mem hchild)
  · exact fun path hpath hnot _ => absurd (List.mem_map_of_mem hpath) hnot

namespace Request

variable {m : Manifest} {o : Overrides} {w : Option String} {h h₀ h₁ h₂ h' : Host} {r : Request}
  {p : Places} {parts : Parts}

theorem covers_of_stageIcon {staging icon : String}
    (hicon : perform (r.stageIcon staging) h = (.ok icon, h₁)) : Covers h.files h₁.files :=
  ((r.stageIcon_extends staging).of_perform hicon).covers

theorem isAbsolute_iconOf (habs : isAbsolute p.staging = true) : isAbsolute (r.iconOf p) = true := by
  rw [iconOf]
  cases r.config.icon with
  | custom place => exact isAbsolute_text place
  | standard =>
    dsimp only
    rw [Layout.iconPath, isAbsolute_join (by decide), habs]

theorem present_icon (hr : perform (Project.resolve m o w) h = (.ok r.config, h₀))
    (habs : isAbsolute p.staging = true) {icon : String}
    (hicon : perform (r.stageIcon p.staging) h₀ = (.ok icon, h₁)) :
    (Reference.file icon).Present h₁.files := by
  have hcovers := covers_of_stageIcon hicon
  have hpath := isAbsolute_iconOf (r := r) habs
  have hresult := stageIcon_result hicon
  rw [hresult]
  apply Reference.present_file hpath
  cases hi : r.config.icon with
  | custom place =>
    obtain ⟨log, rfl⟩ := Project.exists_log_of_resolve hr
    obtain ⟨b, _, hc⟩ := Project.perform_resolve_eq_ok_iff.mp ⟨_, hr⟩
    obtain ⟨_, _, hfile⟩ := hc.icon_found hi
    rw [iconOf, hi] at hpath ⊢
    exact hcovers.isFile hpath hfile
  | standard =>
    rw [iconOf, hi] at hpath ⊢
    rw [stageIcon, hi] at hicon
    obtain ⟨_, g, hwrite, hlogged⟩ := perform_bind_eq_ok.mp hicon
    have hfile : g.files.isFile .root (Layout.iconPath p.staging) = true :=
      Action.isFile_of_writeFile hpath hwrite
    cases hlogged
    exact hfile

theorem present_license (hr : perform (Project.resolve m o w) h = (.ok r.config, h₀))
    {place : Location} (hlicense : r.config.license = some place) (hcovers : Covers h₀.files h₁.files) :
    (Reference.file (Path.text place)).Present h₁.files := by
  obtain ⟨log, rfl⟩ := Project.exists_log_of_resolve hr
  obtain ⟨b, _, hc⟩ := Project.perform_resolve_eq_ok_iff.mp ⟨_, hr⟩
  obtain ⟨_, _, hfile⟩ := hc.license_found hlicense
  exact Reference.present_file (isAbsolute_text place) (hcovers.isFile (isAbsolute_text place) hfile)

theorem present_child {app name : String} (habs : isAbsolute (join app name) = true)
    (hlead : h.isFile (join app name) = true ∨ h.isDirectory (join app name) = true) :
    (r.child h app name).reference.Present h.files := by
  rw [child, FileItem.ofChild]
  have hroot : h.isDirectory (join app name) = h.files.isDirectory .root (join app name) :=
    isDirectory_absolute habs _ _
  have hfile (hd : h.isDirectory (join app name) ≠ true) :
      h.files.isFile .root (join app name) = true := by
    rw [← isFile_absolute habs h.workingDirectory]
    exact hlead.resolve_right hd
  split
  · next hd => exact Reference.present_tree habs (hroot ▸ hd)
  · next hd =>
    split
    · exact Reference.present_file habs (hfile hd)
    · exact Reference.present_file habs (hfile hd)

theorem stageLibrary_present {system directory name : String} {staged : List String}
    (habs : isAbsolute (join directory name) = true)
    (hr : perform (stageLibrary system directory name) h = (.ok staged, h')) :
    ∀ path ∈ staged, h'.files.isFile .root path = true := by
  rw [stageLibrary, perform_get_bind] at hr
  split at hr
  · obtain ⟨_, h₁, hcopy, hr⟩ := perform_bind_eq_ok.mp hr
    simp only [Action.debug, Action.log, perform_modify_bind, perform_pure] at hr
    cases hr
    simpa using Action.isFile_of_copyFile habs hcopy
  · cases hr
    simp

theorem stageEach_present {system directory : String} {names : List String}
    (habs : ∀ name ∈ names, isAbsolute (join directory name) = true) {staged : List (List String)}
    (hr : perform (names.mapM (stageLibrary system directory)) h = (.ok staged, h')) :
    ∀ path ∈ staged.flatten, h'.files.isFile .root path = true := by
  induction names generalizing h staged with
  | nil =>
    cases hr
    simp
  | cons name names ih =>
    obtain ⟨hname, hnames⟩ := List.forall_mem_cons.mp habs
    rw [List.mapM_cons] at hr
    obtain ⟨first, h₁, hfirst, hr⟩ := perform_bind_eq_ok.mp hr
    obtain ⟨rest, h₂, hrest, hr⟩ := perform_bind_eq_ok.mp hr
    cases hr
    intro path hpath
    rw [List.flatten_cons, List.mem_append] at hpath
    rcases hpath with hpath | hpath
    · have hcovers : Covers h₁.files h'.files :=
        ((Advances.mapM (stageLibrary_extends system directory) names).of_perform hrest).covers
      have hpathAbs : isAbsolute path = true := by
        rw [stageLibrary_result hfirst path hpath]
        exact hname
      exact hcovers.isFile hpathAbs (stageLibrary_present hname hfirst path hpath)
    · exact ih hnames hrest path hpath

theorem stageLibraries_present {staging system : String} (htree : h.files.IsTree)
    (habs : isAbsolute staging = true) {staged : List String}
    (hr : perform (stageLibraries staging system) h = (.ok staged, h')) :
    Covers (h.files.cleared (Layout.libraryDirectory staging)) h'.files ∧
      ∀ path ∈ staged, h'.files.isFile .root path = true := by
  have hdirectory : isAbsolute (Layout.libraryDirectory staging) = true := by
    rw [Layout.libraryDirectory, isAbsolute_join (by decide), habs]
  have hlibrary : ∀ name ∈ Layout.runtimeLibraries,
      isAbsolute (join (Layout.libraryDirectory staging) name) = true := by
    intro name hname
    rw [isAbsolute_join (isAbsolute_of_isName (isName_libraries name hname)), hdirectory]
  obtain ⟨copies, g, log, hfresh, rfl, rfl⟩ := stageFresh_of_stageLibraries hr
  obtain ⟨_, k, hmake, heach⟩ := perform_bind_eq_ok.mp hfresh
  have hparent : parent? (Layout.libraryDirectory staging) ≠ none := by
    obtain ⟨q, hq⟩ := exists_parent? (endsInName_libraryDirectory staging).filter_ne_nil
    exact Option.ne_none_iff_exists'.mpr ⟨q, hq⟩
  have hcleared := Action.covers_cleared_of_makeDirectories htree hdirectory
    (trimmed_libraryDirectory staging) hparent hmake
  have hcopied : Covers k.files g.files :=
    ((Advances.mapM (stageLibrary_extends system _) Layout.runtimeLibraries).of_perform heach).covers
  have hstaged : ∀ path ∈ copies.flatten, g.files.isFile .root path = true :=
    stageEach_present hlibrary heach
  exact ⟨hcleared.trans hcopied, hstaged⟩

theorem isAbsolute_staging {cwd : Location}
    (habs : r.stagingDirectory = none → isAbsolute h.temporaryDirectory = true) :
    isAbsolute (r.placesFrom h cwd).staging = true := by
  unfold placesFrom
  cases hs : r.stagingDirectory with
  | none =>
    rw [Option.elim_none, Layout.stagingDirectory,
      isAbsolute_join (isAbsolute_of_isName r.config.id.isName_text), isAbsolute_join (by decide)]
    exact habs hs
  | some dir => exact isAbsolute_text _

theorem isAbsolute_outputDirectory {project : String} (habs : isAbsolute project = true)
    (mode : BuildMode) : isAbsolute (Layout.outputDirectory project mode) = true := by
  have hmode : isAbsolute mode.directory = false := by cases mode <;> decide
  rw [Layout.outputDirectory, isAbsolute_join hmode, isAbsolute_join (by decide), habs]

theorem Gathers.isAbsolute_references (hg : r.Gathers h parts h') (htree : h.files.IsTree)
    (habs : isAbsolute parts.places.staging = true) :
    ∀ ref ∈ references (parts.sections r.config), isAbsolute ref.path = true := by
  obtain ⟨cwd, _, hp⟩ := hg.placesFrom
  obtain ⟨_, _, hicon, _, _, hstaged⟩ := hg.steps
  have houtput : isAbsolute parts.places.output = true := by
    rw [hp]
    exact isAbsolute_outputDirectory (isAbsolute_text _) _
  have hiconAbs : isAbsolute parts.icon = true := by
    rw [stageIcon_result hicon]
    exact isAbsolute_iconOf habs
  rw [Parts.forall_references_iff]
  refine ⟨houtput, hiconAbs, fun place _ => isAbsolute_text place, ?_, ?_⟩
  · intro child hchild
    rw [child.path_reference]
    exact (hg.clean_children htree child hchild).absolute
  · intro path hpath
    obtain ⟨name, hname, rfl⟩ := stagedLibraries_result hstaged path hpath
    rw [Reference.path, isAbsolute_join (isAbsolute_of_isName (isName_libraries name hname)),
      Layout.libraryDirectory, isAbsolute_join (by decide), habs]

theorem present_of_stagedLibraries (htree : h.files.IsTree) (habs : isAbsolute p.staging = true)
    {staged : List String} (hr : perform (r.stagedLibraries p) h = (.ok staged, h'))
    {ref : Reference} (hpath : isAbsolute ref.path = true)
    (hpresent : ref ∉ staged.map Reference.file → ref.Present h.files)
    (hspared : r.config.vcRedist = true → ref ∉ staged.map Reference.file →
      ref.Present (h.files.cleared (Layout.libraryDirectory p.staging))) :
    ref.Present h'.files := by
  rw [stagedLibraries] at hr
  cases hv : r.config.vcRedist with
  | false =>
    rw [hv] at hr
    cases hr
    exact hpresent (by simp)
  | true =>
    rw [hv, if_pos rfl] at hr
    obtain ⟨hcovers, hstaged⟩ := stageLibraries_present htree habs hr
    by_cases hin : ref ∈ staged.map Reference.file
    · obtain ⟨path, hmem, rfl⟩ := List.mem_map.mp hin
      exact Reference.present_file hpath (hstaged path hmem)
    · exact (hspared hv hin).of_covers hpath hcovers

theorem Gathers.present_of_leads (hr : perform (Project.resolve m o w) h = (.ok r.config, h₀))
    (hg : r.Gathers h₀ parts h₂) (htree : h₀.files.IsTree)
    (habs : isAbsolute parts.places.staging = true)
    (hicon : perform (r.stageIcon parts.places.staging) h₀ = (.ok parts.icon, h₁))
    (hleads : ∀ child ∈ parts.children,
      h₁.isFile child.source = true ∨ h₁.isDirectory child.source = true) :
    ∀ ref ∈ references (parts.sections r.config),
      ref ∉ parts.staged.map Reference.file → ref.Present h₁.files := by
  obtain ⟨names, k, hicon', _, hchildren, _⟩ := hg.steps
  obtain rfl : h₁ = k := (Prod.mk.inj (hicon.symm.trans hicon')).2
  rw [Parts.forall_references_iff]
  refine ⟨fun _ => trivial, fun _ => present_icon hr habs hicon, ?_, ?_, ?_⟩
  · exact fun place hplace _ => present_license hr hplace (covers_of_stageIcon hicon)
  · intro child hchild _
    have hlead := hleads child hchild
    have hpath := (hg.clean_children htree child hchild).absolute
    rw [hchildren] at hchild
    obtain ⟨name, _, rfl⟩ := List.mem_map.mp hchild
    rw [Request.child, FileItem.source_ofChild] at hlead hpath
    exact present_child hpath hlead
  · exact fun path hpath hnot => absurd (List.mem_map_of_mem hpath) hnot

/-- What is kept is there once the libraries are staged, and so are these. -/
theorem Gathers.present_of_kept (hr : perform (Project.resolve m o w) h = (.ok r.config, h₀))
    (hg : r.Gathers h₀ parts h₂) (htree : h₀.files.IsTree)
    (habs : isAbsolute parts.places.staging = true)
    (hicon : perform (r.stageIcon parts.places.staging) h₀ = (.ok parts.icon, h₁))
    (hkept : parts.Kept r.config h₁) :
    ∀ ref ∈ references (parts.sections r.config), ref.Present h₂.files := by
  have hpaths := hg.isAbsolute_references htree habs
  have hread := hg.present_of_leads hr htree habs hicon hkept.leads
  have htree₁ : h₁.files.IsTree := ((r.stageIcon_extends _).of_perform hicon).isTree htree
  obtain ⟨names, k, hicon', _, _, hstaged⟩ := hg.steps
  obtain rfl : h₁ = k := (Prod.mk.inj (hicon.symm.trans hicon')).2
  intro ref hmem
  refine present_of_stagedLibraries (h := r.listed h₁ parts.places.app names) htree₁ habs hstaged
    (hpaths ref hmem) (hread ref hmem) fun hv hnot => ?_
  cases ref with
  | output dir => trivial
  | file path | tree path =>
    refine (hread _ hmem hnot).cleared htree₁ (hpaths _ hmem) (hkept.evades hv path ?_)
    exact Parts.path_mem_reads hmem hnot (by simp)

/-- Whatever the project, the host and its links: when a build from an absolute staging directory
returns, all that its script refers to is there, if it was kept from when the app's directory was read;
and so is all that its text is read for, where no path is broken or ends early at a quotation mark. -/
theorem references_present (hr : perform (Project.resolve m o w) h = (.ok r.config, h₀))
    (hname : (Source.tool m "name").Empty → '"' ∉ r.config.displayName.toList) (htree : h.files.IsTree)
    (htemporary : r.stagingDirectory = none → isAbsolute h.temporaryDirectory = true) {path : String}
    (hb : perform r.build h₀ = (.ok path, h')) :
    ∃ parts h₁ h₂, r.Gathers h₀ parts h₂ ∧
      h'.files.read .root path = .ok (scriptContent (parts.text r.config)) ∧
      perform (r.stageIcon parts.places.staging) h₀ = (.ok parts.icon, h₁) ∧
      (parts.Kept r.config h₁ →
        (∀ ref ∈ references (parts.sections r.config), ref.Present h'.files) ∧
          (parts.Unbroken r.config → (∀ item ∈ parts.items, '"' ∉ item.source.toList) →
            ∀ ref ∈ references (sectionsOf (parts.text r.config)), ref.Present h'.files)) := by
  obtain ⟨log, hlog⟩ := Project.exists_log_of_resolve hr
  have htree₀ : h₀.files.IsTree := hlog ▸ htree
  have htemporary₀ : r.stagingDirectory = none → isAbsolute h₀.temporaryDirectory = true :=
    hlog ▸ htemporary
  obtain ⟨p, _, hp, _⟩ := perform_bind_eq_ok.mp hb
  obtain ⟨rfl, cwd, hcwd, hplaces⟩ := perform_places_eq_ok_iff.mp hp
  obtain ⟨rfl, text, h₂, k, hrender, hwrite, hlike⟩ := build_eq_ok hp hb
  obtain ⟨parts, hg, rfl⟩ := perform_render_eq_ok_iff.mp hrender
  obtain rfl : p = parts.places := by
    have hplaces := hg.places
    rw [hp] at hplaces
    exact Except.ok.inj (Prod.mk.inj hplaces).1
  have habs : isAbsolute parts.places.staging = true := hplaces ▸ isAbsolute_staging htemporary₀
  have hpaths := hg.isAbsolute_references htree₀ habs
  obtain ⟨_, h₁, hicon, -⟩ := hg.steps
  refine ⟨parts, h₁, h₂, hg, ?_, hicon, fun hkept => ?_⟩
  · have hscript : isAbsolute (scriptPath parts.places) = true := by
      rw [scriptPath, isAbsolute_join (isAbsolute_of_isName isName_scriptName)]
      exact (Parts.forall_references_iff.mp hpaths).1
    rw [← hlike.files.read]
    exact Action.read_of_writeFile_absolute hscript hwrite
  have hall : ∀ ref ∈ references (parts.sections r.config), ref.Present h'.files := by
    intro ref hmem
    have hstaged := hg.present_of_kept hr htree₀ habs hicon hkept ref hmem
    have hwritten : Covers h₂.files k.files :=
      ((Action.writeFile_extends _ _).of_perform hwrite).covers
    exact hstaged.of_covers (hpaths ref hmem) (hwritten.trans hlike.files.covers)
  refine ⟨hall, fun hunbroken hsources => ?_⟩
  obtain ⟨b, _, hc⟩ := Project.perform_resolve_eq_ok_iff.mp ⟨_, hr⟩
  have hlegible := Parts.legible_of_resolves hc hname hunbroken hsources
  rwa [hlegible.references_text hg.ofFolder]

section Sample

/-- A project that was just resolved is built, and the text of its script refers to what is not
there. -/
def Dangles (m : Manifest) (r : Request) (h : Host) : Prop :=
  ∃ (h₀ h' : Host) (path : String) (parts : Parts),
    perform (Project.resolve m {} none) h = (.ok r.config, h₀) ∧
      perform r.build h₀ = (.ok path, h') ∧
      h'.files.read .root path = .ok (scriptContent (parts.text r.config)) ∧
      ∃ ref ∈ references (sectionsOf (parts.text r.config)), ¬ ref.Present h'.files

section Folder

variable {children : List (String × Bool)} {names : List String}

theorem ofFolder_folderParts (r : Request) (p : Places) (children : List (String × Bool))
    (names : List String) : (folderParts r p children names).OfFolder r.config := by
  intro child hchild
  obtain ⟨name, -, rfl⟩ := List.mem_map.mp hchild
  exact ⟨_, name, _, rfl⟩

structure Tame (r : Request) (p : Places) : Prop where
  version : OneLine r.config.version
  name : OneLine r.config.displayName
  shown : '"' ∉ r.config.displayName.toList
  output : OneLine p.output
  icon : OneLine (r.iconOf p)
  license : ∀ place ∈ r.config.license, OneLine (Path.text place)

theorem unbroken_folderParts (ht : r.Tame p) (children : List (String × Bool))
    (hnames : ∀ n ∈ names, OneLine (join "/a" n)) :
    (folderParts r p children names).Unbroken r.config where
  version := ht.version
  output := ht.output
  icon := ht.icon
  license := ht.license
  children := by
    simp only [folderParts, List.forall_mem_map, FileItem.source_ofChild]
    exact hnames
  staged := by
    rw [folderParts]
    split <;> simp +decide

theorem oneLine_folderParts (ht : r.Tame p) (children : List (String × Bool)) (names : List String)
    (hnames : ∀ n ∈ names, OneLine (join "/a" n)) :
    ∀ l ∈ scriptLines ((folderParts r p children names).sections r.config), OneLine l :=
  (Parts.forall_oneLine_iff ht.name (ofFolder_folderParts r p children names)).mpr
    (unbroken_folderParts ht children hnames)

theorem legible_folderParts (ht : r.Tame p)
    (hnames : ∀ n ∈ names, OneLine (join "/a" n) ∧ '"' ∉ (join "/a" n).toList) :
    (folderParts r p children names).Legible r.config where
  toUnbroken := unbroken_folderParts ht children fun n hn => (hnames n hn).1
  name := ht.name
  shown := ht.shown
  sources := by
    simp only [Parts.items, folderParts, List.forall_mem_append, List.forall_mem_map,
      FileItem.source_ofChild]
    refine ⟨fun n hn => (hnames n hn).2, ?_⟩
    split <;> simp +decide

end Folder

structure Linked (name target : String) (fs : FileSystem) : Prop where
  isTree : IsTree fs
  app : fs.get? ["a"] = some .directory
  children : ∀ n, fs.get? (["a"] ++ [n]) = if n = name then some (.link target) else none

section Linked

variable {name target : String} {fs : FileSystem} (hs : Linked name target fs)

include hs

theorem Linked.isDirectory_app (cwd : Standpoint) : fs.isDirectory cwd "/a" = true :=
  isDirectory_text (l := ["a"]) hs.isTree (by decide) hs.app (by decide) cwd

theorem Linked.names_eq : fs.names ["a"] = [name] := by
  refine FileSystem.names_eq (fun n => ?_) (List.pairwise_singleton _ _)
  rw [hs.children, List.mem_singleton]
  simp

theorem Linked.resolve (hn : IsName name) (hv : Valid (Path.text (["a"] ++ [name])))
    (htarget : target ≠ "") (cwd : Standpoint) :
    fs.resolve cwd .follow (Path.text (["a"] ++ [name])) =
      walk fs .follow (linkLimit - 1) (.ofPlace (if isAbsolute target then [] else ["a"]))
        (pieces target) :=
  resolve_text_link (l := ["a"]) hs.isTree (by decide) hs.app hn hv
    ((hs.children _).trans (if_pos rfl)) htarget cwd (by simp)

theorem Linked.insert {l : Location} {n : String} {content : ByteArray} {executable : Bool}
    (hd : fs.get? l = some .directory) (hn : IsName n) (haway : ¬ ["a"] <+: l ++ [n])
    (hfree : fs.get? (l ++ [n]) = none) :
    Linked name target (fs.insert (l ++ [n]) (.file content executable)) where
  isTree := hs.isTree.insert hd hn (.inr (by simp [hfree]))
  app := by
    rw [get?_insert _ _ (by simp), if_neg, hs.app]
    rintro he
    exact haway (he ▸ List.prefix_rfl)
  children m := by
    rw [get?_insert _ _ (by simp), if_neg, hs.children]
    rintro he
    exact haway (he ▸ List.prefix_append _ _)

end Linked

theorem Linked.childNames {name target : String} {g : Host} (hs : Linked name target g.files) :
    perform (childNames "/a") g = (.ok [name], g) := by
  have hstandpoint : g.files.standpoint g.workingDirectory "/a" = .ok (.ofPlace ["a"]) := by
    have hr : g.files.resolve g.workingDirectory .follow "/a" = .ok (.found ["a"] .directory) :=
      resolve_text (l := ["a"]) hs.isTree (by decide) hs.app (by decide) _ (by decide)
    rw [standpoint, hr]
  rw [Request.childNames, perform_get_bind,
    perform_bind_of_ok (Project.perform_ofFile_eq_ok.mpr ⟨hstandpoint, rfl⟩)]
  exact congrArg (fun names => (Except.ok names, g)) hs.names_eq

def linkTree : FileSystem :=
  ((ofDirectories usualDirectories).insert ["i"] (.file .empty false)).insert ["a", "x"]
    (.link "gone")

def linkHost (log : List LogLine) : Host := { sampleHost [] with files := linkTree, log }

def linkRequest : Request where
  config := { sampleConfig with icon := .custom ["i"] }
  appDirectory := "/a"

def linkPlaces : Places where
  app := "/a"
  output := Path.text usualOutput
  staging := "/tmp/inno_bundle/5c3bd4a2-7e1f-4c8b-a9d6-0f2e3b4c5d6e"
  system := "C:\\Windows/System32"

def linkManifest : Manifest := sampleManifest "demo_app" [("installer_icon", .string "/i")]

def shippingManifest (entries : List (String × Yaml.Value)) : Manifest where
  root := .mapping
    [(.string "name", .string "demo_app"), (.string "version", .string "1.0.0"),
     (.string "description", .string "A demo"), (.string "maintainer", .string "Acme"),
     (.string "homepage", .string "https://acme.test"), (.string "admin", .bool false),
     (.string "inno_bundle", .mapping
       ((.string "id", .string "5c3bd4a2-7e1f-4c8b-a9d6-0f2e3b4c5d6e") ::
         (.string "languages", .sequence [.string "german"]) ::
         entries.map fun e => (.string e.1, e.2)))]

def fullManifest : Manifest := shippingManifest [("license_file", .string "/L")]

theorem suits_link : linkRequest.Suits linkPlaces where
  places := by decide
  app := rfl
  output := rfl
  setting := ⟨⟨by decide, by decide, by decide, by decide, by decide⟩, nofun, nofun⟩
  staging h := h.elim nofun nofun
  system := nofun

theorem isTree_linkTree : IsTree linkTree := by
  have hplain : Plain (ofDirectories usualDirectories) :=
    plain_ofDirectories (by decide) (by decide)
  have hfree : (ofDirectories usualDirectories).get? ["i"] = none := rfl
  have hicon : IsTree ((ofDirectories usualDirectories).insert ["i"] (.file .empty false)) :=
    IsTree.insert (l := []) hplain.toIsTree rfl (by decide) (.inr (by simp [hfree]))
  have hfree' : ((ofDirectories usualDirectories).insert ["i"] (.file .empty false)).get? ["a", "x"] =
      none := rfl
  exact IsTree.insert (l := ["a"]) hicon rfl (by decide) (.inr (by simp [hfree']))

theorem linked_linkTree : Linked "x" "gone" linkTree where
  isTree := isTree_linkTree
  app := rfl
  children n := by
    rw [linkTree, get?_insert _ _ (by simp), get?_insert _ _ (by simp), get?_ofDirectories]
    simp [usualDirectories, usualOutput]

theorem resolve_gone {fs : FileSystem} (hs : Linked "x" "gone" fs) (cwd : Standpoint) :
    fs.resolve cwd .follow "/a/x" = .ok (.free ["a", "gone"]) := by
  have hfree : fs.get? (["a"] ++ ["gone"]) = none := (hs.children "gone").trans (if_neg (by decide))
  have hwalk : walk fs .follow (linkLimit - 1) (.ofPlace ["a"]) (pieces "gone") =
      .ok (.free ["a", "gone"]) := walk_free (by decide) (by decide) hfree _ _
  exact (hs.resolve (by decide) (by decide) (by decide) cwd).trans hwalk

theorem currentDirectory_linkHost (log : List LogLine) : (linkHost log).currentDirectory = .ok [] := by
  rw [Host.currentDirectory, Standpoint.settle_of_hasDirectory rfl]
  rfl

theorem resolve_link :
    ∃ log, perform (Project.resolve linkManifest {} none) (linkHost []) =
      (.ok linkRequest.config, linkHost log) := by
  have hfile : linkTree.isFile .root "/i" = true :=
    isFile_text (l := []) (n := "i") isTree_linkTree (by decide) rfl (by decide) (by decide) rfl _
  have hc : Config.Resolves ⟨linkManifest, {}, [], linkTree⟩ linkRequest.config := by
    constructor
    case icon => exact Config.Request.icon_eq_custom rfl (by decide) (by decide) hfile
    all_goals rfl
  exact Project.exists_resolve (currentDirectory_linkHost []) hc

def linkScript : Location := usualOutput ++ [Layout.scriptName]

def linkParts : Parts := folderParts linkRequest linkPlaces [("x", false)] ["x"]

theorem build_link (log : List LogLine) :
    ∃ h' content, perform linkRequest.build (linkHost log) = (.ok (scriptPath linkPlaces), h') ∧
      h'.files.read .root (scriptPath linkPlaces) =
        .ok (scriptContent (linkParts.text linkRequest.config)) ∧
      Same (linkTree.insert linkScript (.file content false)) h'.files := by
  have hlinked := linked_linkTree
  have hp : perform linkRequest.places (linkHost log) = (.ok linkPlaces, linkHost log) :=
    perform_places_eq_ok_iff.mpr ⟨rfl, [], currentDirectory_linkHost log, suits_link.places.symm⟩
  have hchild : linkRequest.child (linkHost log) "/a" "x" = .plain "/a/x" := by
    have hd : (linkHost log).isDirectory "/a/x" = false := by
      have hr : (linkHost log).files.resolve (linkHost log).workingDirectory .follow "/a/x" =
          .ok (.free ["a", "gone"]) := resolve_gone hlinked _
      rw [Host.isDirectory, isDirectory, find?, hr]
    rw [child, show join "/a" "x" = "/a/x" by decide, hd]
    rfl
  have hg : linkRequest.Gathers (linkHost log) linkParts
      (linkRequest.listed (linkHost log) "/a" ["x"]) :=
    ⟨⟨hlinked.isDirectory_app _, ["x"], linkHost log, rfl, hlinked.childNames,
      by rw [List.map_singleton]; exact congrArg (fun i => [i]) hchild.symm, rfl⟩, hp⟩
  have hrender := perform_render_eq_ok_iff.mpr ⟨_, hg, rfl⟩
  have hpath : Path.text (usualOutput ++ [Layout.scriptName]) = scriptPath linkPlaces :=
    (join_text (by decide) isName_scriptName).symm
  have hwritten := Action.writeFile_text (h := linkRequest.listed (linkHost log) "/a" ["x"])
    (l := usualOutput) (n := Layout.scriptName) isTree_linkTree (by decide)
    isName_scriptName rfl rfl (by decide) (by decide) (by decide) (by decide)
    (scriptContent (linkParts.text linkRequest.config))
  rw [hpath] at hwritten
  obtain ⟨k, hwrite, hview⟩ := hwritten
  obtain ⟨h', hb, hlike⟩ := build_of_ok hp hrender hwrite
  refine ⟨h', scriptContent (linkParts.text linkRequest.config), hb, ?_, fun l => ?_⟩
  · rw [← hlike.files.read]
    exact Action.read_of_writeFile_absolute (by decide) hwrite
  · rw [← hlike.files l, hview l, get?_insert _ _ (by simp [linkScript])]
    rfl

theorem tame_link : linkRequest.Tame linkPlaces :=
  ⟨by decide, by decide, by decide, by decide, by decide, nofun⟩

theorem tame_full : fullRequest.Tame folderPlaces :=
  ⟨by decide, by decide, by decide, by decide, by decide, by decide⟩

theorem dangles_link : Dangles linkManifest linkRequest (linkHost []) := by
  obtain ⟨log, hr⟩ := resolve_link
  obtain ⟨h', content, hb, hread, hsame⟩ := build_link log
  refine ⟨_, h', _, linkParts, hr, hb, hread, .file "/a/x", ?_, ?_⟩
  · have hlegible : linkParts.Legible linkRequest.config :=
      legible_folderParts tame_link (by decide)
    have hfolder : linkParts.OfFolder linkRequest.config := ofFolder_folderParts _ _ _ _
    rw [hlegible.references_text hfolder, Parts.references_sections]
    exact .tail _ (.tail _ (.head _))
  · intro hpresent
    have hfile := hpresent .root
    have hlinked : Linked "x" "gone" (linkTree.insert linkScript (.file content false)) :=
      linked_linkTree.insert (l := usualOutput) rfl isName_scriptName (by decide) rfl
    rw [← hsame.isFile, isFile, find?, resolve_gone hlinked .root] at hfile
    cases hfile

def licenseTree : FileSystem :=
  ((ofDirectories (["s"] :: ["s", "vcruntime"] :: usualDirectories)).insert ["i"]
    (.file .empty false)).insert ["s", "vcruntime", "L"] (.file .empty false)

def licenseHost (log : List LogLine) : Host := { sampleHost [] with files := licenseTree, log }

def licenseRequest : Request where
  config := { sampleConfig with
    icon := .custom ["i"], license := some ["s", "vcruntime", "L"], vcRedist := true }
  appDirectory := "/a"
  systemDirectory := some "/y"
  stagingDirectory := some "/s"

def licenseManifest : Manifest :=
  shippingManifest [("installer_icon", .string "/i"), ("license_file", .string "/s/vcruntime/L")]

theorem plain_licenseTree : Plain licenseTree := by
  have hplain : Plain (ofDirectories (["s"] :: ["s", "vcruntime"] :: usualDirectories)) :=
    plain_ofDirectories (by decide) (by decide)
  have hfree : (ofDirectories (["s"] :: ["s", "vcruntime"] :: usualDirectories)).get? ["i"] = none :=
    rfl
  have hicon := hplain.insert (l := []) (n := "i") (e := .file .empty false) rfl (by decide)
    (.inr (by simp [hfree])) (by simp)
  have hfree' : ((ofDirectories (["s"] :: ["s", "vcruntime"] :: usualDirectories)).insert ["i"]
      (.file .empty false)).get? ["s", "vcruntime", "L"] = none := rfl
  exact hicon.insert (l := ["s", "vcruntime"]) (n := "L") rfl (by decide) (.inr (by simp [hfree']))
    (by simp)

theorem standing_licenseHost (log : List LogLine) : (licenseHost log).Standing [] :=
  ⟨rfl, plain_licenseTree, rfl⟩

theorem resolve_license :
    ∃ log, perform (Project.resolve licenseManifest {} none) (licenseHost []) =
      (.ok licenseRequest.config, licenseHost log) := by
  have hground : Ground licenseTree [] := (standing_licenseHost []).ground
  have hiconFile : licenseTree.isFile .root "/i" = true :=
    (hground.isFile_iff (by decide)).mpr
      ⟨by decide, ⟨[""], "i", by decide, by decide⟩, _, _, rfl⟩
  have hlicenseFile : licenseTree.isFile .root "/s/vcruntime/L" = true :=
    (hground.isFile_iff (by decide)).mpr
      ⟨by decide, ⟨["", "s", "vcruntime"], "L", by decide, by decide⟩, _, _, rfl⟩
  have hc : Config.Resolves ⟨licenseManifest, {}, [], licenseTree⟩ licenseRequest.config := by
    constructor
    case icon => exact Config.Request.icon_eq_custom rfl (by decide) (by decide) hiconFile
    case license => exact Config.Request.license_eq_some rfl (by decide) (by decide) hlicenseFile
    all_goals rfl
  exact Project.exists_resolve (standing_licenseHost []).currentDirectory hc

def licenseParts : Parts := ⟨folderPlaces, Path.text ["i"], [], []⟩

section License

variable (log : List LogLine)

theorem get?_license {name n : String} (hname : name ∈ ["a", "y"]) :
    licenseTree.get? [name, n] = none := by
  have hne : ∀ name ∈ ["a", "y"], name ≠ "s" ∧ name ≠ "build" := by decide
  rw [licenseTree, get?_insert _ _ (by simp), get?_insert _ _ (by simp), get?_ofDirectories]
  simp [usualDirectories, usualOutput, hne name hname]

theorem librariesIn_license :
    librariesIn (licenseHost log) "/y" Layout.runtimeLibraries = [] := by
  rw [librariesIn, List.filter_eq_nil_iff]
  intro n hn hfile
  have hname := isName_libraries n hn
  have hl : locate [] (join "/y" n) = ["y", n] := locate_entry (by decide) hname []
  obtain ⟨_, _, content, executable, hget⟩ :=
    ((standing_licenseHost log).isFile_iff (straight_entry (by decide) hname)).mp hfile
  rw [hl] at hget
  cases (get?_license (by simp)).symm.trans hget

theorem finds_license : licenseRequest.Finds (licenseHost log) folderPlaces [] where
  linkFree := plain_licenseTree
  currentDirectory := (standing_licenseHost log).currentDirectory
  places := by
    have hplaces : licenseRequest.placesFrom (sampleHost []) [] = folderPlaces := by decide
    exact perform_places_eq_ok_iff.mpr
      ⟨rfl, [], (standing_licenseHost log).currentDirectory, hplaces.symm⟩

theorem setting_license : licenseRequest.Setting folderPlaces [] where
  toPremises := suits_full.setting.toPremises
  system _ := ⟨by decide, by decide⟩
  outside _ := by decide

theorem furnished_license : licenseRequest.Furnished folderPlaces [] (licenseHost log) := by
  have hplaces : folderPlaces = ⟨Path.text ["a"], Path.text usualOutput, Path.text ["s"], "/y"⟩ := by
    decide
  rw [hplaces]
  refine furnished_of_short (by decide) (by decide) (by decide) ?_ ?_
  · simp only [List.forall_mem_cons]
    exact ⟨rfl, rfl, rfl, rfl, List.forall_mem_nil _⟩
  · simp only [List.forall_mem_cons]
    exact ⟨rfl, rfl, List.forall_mem_nil _⟩

theorem partsOf_license :
    licenseRequest.partsOf folderPlaces [] (licenseHost log) = licenseParts := by
  have hempty : (licenseHost log).files.names (locate [] folderPlaces.app) = [] := by
    rw [show locate [] folderPlaces.app = ["a"] by decide]
    exact names_eq (fun n => by simp [licenseHost, get?_license]) .nil
  rw [partsOf, hempty, show folderPlaces.system = "/y" from rfl, librariesIn_license]
  rfl

theorem grafts_license : licenseRequest.grafts folderPlaces [] (licenseHost log) =
    [.stock ["s", "vcruntime"] fun _ => none,
      licenseRequest.scriptGraft folderPlaces [] (licenseHost log)] := by
  have hl : locate [] (Layout.libraryDirectory folderPlaces.staging) = ["s", "vcruntime"] := by decide
  rw [grafts, iconGrafts, libraryGrafts, hl, show folderPlaces.system = "/y" from rfl,
    librariesIn_license]
  rfl

end License

theorem build_license (log : List LogLine) :
    ∃ h', perform licenseRequest.build (licenseHost log) =
        (.ok (scriptPath folderPlaces), h') ∧
      h'.files.read .root (scriptPath folderPlaces) =
        .ok (scriptContent (licenseParts.text licenseRequest.config)) ∧
      h'.files.isFile .root "/s/vcruntime/L" = false := by
  obtain ⟨h', hb⟩ := (furnished_license log).exists_build (finds_license log) setting_license
  obtain ⟨-, hbecomes, hholds⟩ := build_grafts (finds_license log) setting_license hb
  rw [partsOf_license, Holds, hbecomes.standing.workingDirectory] at hholds
  refine ⟨h', hb, hholds, ?_⟩
  have hapart : Apart (licenseRequest.scriptGraft folderPlaces [] (licenseHost log)).place
      ["s", "vcruntime", "L"] :=
    (by decide : Apart (locate [] (scriptPath folderPlaces)) ["s", "vcruntime", "L"])
  have hgone : h'.files.get? ["s", "vcruntime", "L"] = none := by
    rw [hbecomes.view, grafts_license, View.grafts, List.foldl_cons, List.foldl_cons, List.foldl_nil,
      View.graft_of_apart hapart]
    exact View.graft_append _ (.stock ["s", "vcruntime"] _) ["L"]
  rw [Bool.eq_false_iff]
  intro hfile
  obtain ⟨_, _, content, executable, hget⟩ :=
    (hbecomes.standing.ground.isFile_iff (by decide)).mp hfile
  rw [show locate [] "/s/vcruntime/L" = ["s", "vcruntime", "L"] by decide, hgone] at hget
  cases hget

theorem dangles_license : Dangles licenseManifest licenseRequest (licenseHost []) := by
  obtain ⟨log, hr⟩ := resolve_license
  obtain ⟨h', hb, hread, hgone⟩ := build_license log
  refine ⟨_, h', _, licenseParts, hr, hb, hread, .file "/s/vcruntime/L", ?_, ?_⟩
  · have hlegible : licenseParts.Legible licenseRequest.config :=
      ⟨⟨by decide, by decide, by decide, by decide, nofun, nofun⟩, by decide, by decide, nofun⟩
    rw [hlegible.references_text nofun, Parts.references_sections]
    exact .tail _ (.tail _ (.head _))
  · intro hpresent
    rw [hpresent .root] at hgone
    cases hgone

section Folder

variable {children : List (String × Bool)} {names : List String} (hs : Simple children names) {c : Config}

include hs

theorem Simple.resolve
    (hc : (∀ path ∈ ["/i", "/L"], (folderTree children).isFile .root path = true) →
      Config.Resolves ⟨m, {}, [], folderTree children⟩ c) :
    ∃ log, perform (Project.resolve m {} none) (folderHost children) =
      (.ok c, folderHost children log) := by
  have hst : (folderHost children).Standing [] := hs.standing
  have htree : IsTree (folderTree children) := hst.ground.toIsTree
  have hicon : (folderTree children).isFile .root "/i" = true :=
    isFile_text (l := []) (n := "i") htree (by decide) (get?_root _) (by decide) (by decide)
      (get?_folderTree (.inl (by simp))) _
  have hlicense : (folderTree children).isFile .root "/L" = true :=
    isFile_text (l := []) (n := "L") htree (by decide) (get?_root _) (by decide) (by decide)
      (get?_folderTree (.inl (by simp))) _
  exact Project.exists_resolve hst.currentDirectory (hc (by simp [hicon, hlicense]))

theorem Simple.resolve_link :
    ∃ log, perform (Project.resolve linkManifest {} none) (folderHost children) =
      (.ok linkRequest.config, folderHost children log) := by
  refine hs.resolve fun hfiles => ?_
  constructor
  case icon => exact Config.Request.icon_eq_custom rfl (by decide) (by decide) (hfiles "/i" (by simp))
  all_goals rfl

theorem Simple.resolve_full :
    ∃ log, perform (Project.resolve fullManifest {} none) (folderHost children) =
      (.ok fullRequest.config, folderHost children log) := by
  refine hs.resolve fun hfiles => ?_
  constructor
  case license =>
    exact Config.Request.license_eq_some rfl (by decide) (by decide) (hfiles "/L" (by simp))
  all_goals rfl

theorem Simple.dangles {path : String} (hpath : Straight path)
    (hfree : (folderTree children).get? (locate [] path) = none)
    (hapart : Apart (locate [] (scriptPath linkPlaces)) (locate [] path))
    (hmem : .file path ∈
      references (sectionsOf ((folderParts linkRequest linkPlaces children names).text
        linkRequest.config))) :
    Dangles linkManifest linkRequest (folderHost children) := by
  obtain ⟨log, hr⟩ := hs.resolve_link
  obtain ⟨h', hb⟩ := hs.exists_build suits_link log
  obtain ⟨-, hbecomes, hholds⟩ := build_grafts (hs.finds suits_link) suits_link.setting hb
  rw [hs.partsOf_eq suits_link, Holds, hbecomes.standing.workingDirectory] at hholds
  refine ⟨_, h', _, _, hr, hb, hholds, .file path, hmem, fun hpresent => ?_⟩
  obtain ⟨-, -, content, executable, hget⟩ :=
    (hbecomes.standing.ground.isFile_iff hpath).mp (hpresent _)
  have hkept : h'.files.get? (locate [] path) = (folderTree children).get? (locate [] path) := by
    rw [hbecomes.view]
    refine View.grafts_of_apart fun g hg => ?_
    obtain rfl : g = linkRequest.scriptGraft linkPlaces [] (folderHost children log) :=
      List.mem_singleton.mp hg
    exact hapart
  rw [hkept, hfree] at hget
  cases hget

end Folder

theorem dangles_mark : Dangles linkManifest linkRequest (folderHost [("c\"\"d", false)]) := by
  have hs : Simple [("c\"\"d", false)] ["c\"\"d"] := simple_of_sorted (by decide) (by decide)
  have hone := oneLine_folderParts tame_link [("c\"\"d", false)] ["c\"\"d"] (by decide)
  obtain ⟨line, hline, href⟩ := Option.bind_eq_some_iff.mp
    (by decide : (Line.ofText? "Files" (FileItem.plain "/a/c\"\"d").line.render).bind Line.reference? =
      some (.file "/a/c\"d"))
  have hmem : line ∈ linesIn "Files" (sectionsOf
      ((folderParts linkRequest linkPlaces [("c\"\"d", false)] ["c\"\"d"]).text linkRequest.config)) := by
    rw [Parts.linesIn_files_of_oneLine hone]
    exact List.mem_filterMap.mpr ⟨_, .head _, hline⟩
  exact hs.dangles (by decide) (get?_folderTree_of_not_mem (by decide)) (by decide)
    (mem_references hmem href)

theorem dangles_break :
    Dangles linkManifest linkRequest (folderHost [("x\n[Files]\nSource: gone\ny", false)]) := by
  have hs : Simple [("x\n[Files]\nSource: gone\ny", false)] ["x\n[Files]\nSource: gone\ny"] :=
    simple_of_sorted (by decide) (by decide)
  obtain ⟨line, hline, href⟩ := Option.bind_eq_some_iff.mp
    (by decide : (Line.ofText? (headerName "[Files]") "Source: gone").bind Line.reference? =
      some (.file "gone"))
  have hmem := mem_linesIn_of_header "[Files]" ["[Files]", "Source: \"/a/x"]
    ["y\"; DestDir: \"\x7bapp\x7d\"; Flags: ignoreversion", ""]
    (Parts.files_mem_sections (folderParts linkRequest linkPlaces
      [("x\n[Files]\nSource: gone\ny", false)] ["x\n[Files]\nSource: gone\ny"]) linkRequest.config)
    (by decide) (by decide) (by decide) hline
  exact hs.dangles (by decide) (get?_folderTree (.inl (by decide))) (by decide)
    (mem_references hmem href)

theorem references_present_full :
    ∃ h₀ h' path parts, perform (Project.resolve fullManifest {} none) (folderHost mixedChildren) =
        (.ok fullRequest.config, h₀) ∧ (folderHost mixedChildren).files.IsTree ∧
      ((Source.tool fullManifest "name").Empty → '"' ∉ fullRequest.config.displayName.toList) ∧
      (fullRequest.stagingDirectory = none →
        isAbsolute (folderHost mixedChildren).temporaryDirectory = true) ∧
      perform fullRequest.build h₀ = (.ok path, h') ∧
      parts.staged = ["/s/vcruntime/msvcp140.dll"] ∧
      h'.files.read .root path = .ok (scriptContent (Parts.text parts fullRequest.config)) ∧
      ∀ ref ∈ references (sectionsOf (parts.text fullRequest.config)), ref.Present h'.files := by
  have hs := simple_mixedChildren
  obtain ⟨log, hr⟩ := hs.resolve_full
  obtain ⟨h', hb⟩ := hs.exists_build suits_full log
  have htree : (folderHost mixedChildren).files.IsTree := hs.standing.ground.toIsTree
  have htemporary : fullRequest.stagingDirectory = none →
      isAbsolute (folderHost mixedChildren).temporaryDirectory = true := nofun
  obtain ⟨parts, h₁, h₂, hg, hread, hicon, hall⟩ :=
    references_present hr (fun _ => tame_full.shown) htree htemporary hb
  obtain rfl := hs.gathers_eq suits_full hg
  have hbecomes := stageIcon_grafts (p := folderPlaces) (by decide) hs.standing hicon
  have hkept : Parts.Kept (folderParts fullRequest folderPlaces mixedChildren mixedNames)
      fullRequest.config h₁ := by
    constructor
    · simp only [folderParts, List.forall_mem_map, FileItem.source_ofChild]
      intro n hn
      obtain ⟨c, hc, rfl⟩ := List.mem_map.mp (hs.perm.subset hn)
      refine hs.leads_of_mem hbecomes.standing (fun n => ?_) hc
      have happart : Apart ["s", "installer.ico"] ["a", n] := by simp [Apart]
      rw [hbecomes.view]
      refine View.grafts_of_apart fun g hg => ?_
      rwa [place_of_mem_iconGrafts hg]
    · have hpaths : ∀ path ∈ (folderParts fullRequest folderPlaces mixedChildren mixedNames).reads
          fullRequest.config, Straight path ∧ ¬ locate [] sampleLibraries <+: locate [] path := by decide
      exact fun _ path hpath => hbecomes.standing.ground.evades (by decide) (hpaths path hpath).1
        (hpaths path hpath).2
  have hlegible : (folderParts fullRequest folderPlaces mixedChildren mixedNames).Legible
      fullRequest.config := legible_folderParts tame_full (by decide)
  exact ⟨_, h', _, _, hr, htree, fun _ => tame_full.shown, htemporary, hb, rfl, hread,
    (hall hkept).2 hlegible.toUnbroken hlegible.sources⟩

/-- A link that leads nowhere, a license in the directory of the libraries, and names that are read for
others: the script refers to what is not there. -/
theorem references_dangle : Dangles linkManifest linkRequest (linkHost []) ∧
    Dangles licenseManifest licenseRequest (licenseHost []) ∧
    Dangles linkManifest linkRequest (folderHost [("c\"\"d", false)]) ∧
    Dangles linkManifest linkRequest (folderHost [("x\n[Files]\nSource: gone\ny", false)]) :=
  ⟨dangles_link, dangles_license, dangles_mark, dangles_break⟩

end Sample

end Request

end FlutterInstaller.Script
