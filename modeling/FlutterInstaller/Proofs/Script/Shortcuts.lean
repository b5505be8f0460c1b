import FlutterInstaller.Proofs.Script.Destinations

/-!
The executable in a script. All that starts it, or shows its icon, names one place, and that is where its
entry installs it, as long as it is no directory when the app's directory is read.
-/
namespace FlutterInstaller.Script

open FlutterInstaller.Path FileSystem

def Line.shortcut? (name : String) : Line → Option String
  | .directive key value =>
    if name = "Setup" ∧ key = "UninstallDisplayIcon" then some value else none
  | .entry ps => if name = "Icons" ∨ name = "Run" then Script.argument? "Filename" ps else none

def Section.shortcuts (s : Section) : List (String × Option (String × List String)) :=
  (s.lines.filterMap (Line.shortcut? s.name)).map fun value => (s.name, folder? value)

/-- What the sections refer to among the installed files, each with the name of its section. -/
def shortcuts (ss : List Section) : List (String × Option (String × List String)) :=
  ss.flatMap Section.shortcuts

theorem mem_shortcuts {name value : String} {ss : List Section} {l : Line} (hl : l ∈ linesIn name ss)
    (hvalue : l.shortcut? name = some value) : (name, folder? value) ∈ shortcuts ss := by
  obtain ⟨s, hs, hmem⟩ := List.mem_flatMap.mp hl
  obtain ⟨hsection, hname⟩ := List.mem_filter.mp hs
  obtain rfl : s.name = name := of_decide_eq_true hname
  exact List.mem_flatMap.mpr
    ⟨s, hsection, List.mem_map_of_mem (List.mem_filterMap.mpr ⟨l, hmem, hvalue⟩)⟩

theorem Line.shortcut?_asRead (name : String) (l : Line) : l.asRead.shortcut? name = l.shortcut? name := by
  cases l with
  | directive key value => rfl
  | entry ps => simp only [asRead, shortcut?, Script.argument?_asRead]

theorem Section.shortcuts_asRead (s : Section) : s.asRead.shortcuts = s.shortcuts := by
  simp only [shortcuts, asRead, List.filterMap_map, Function.comp_def, Line.shortcut?_asRead]

theorem Section.shortcuts_of_name {s : Section} (hname : s.name = "Files") : s.shortcuts = [] := by
  have hnone : ∀ l : Line, l.shortcut? "Files" = none := by
    intro l
    cases l <;> simp [Line.shortcut?]
  rw [shortcuts, hname, List.map_eq_nil_iff, List.filterMap_eq_nil_iff]
  exact fun l _ => hnone l

theorem shortcuts_sections {c : Config} {output icon : String} {items : List FileItem} :
    shortcuts (Script.sections c output icon items) =
      ["Setup", "Icons", "Icons", "Run"].map (·, folder? (below "app" c.targetExe)) := by
  have hsetup : (setup c output icon).lines.filterMap (Line.shortcut? "Setup") =
      [below "app" c.targetExe] := by
    cases hl : c.license <;> simp [setup, hl, Line.shortcut?]
  have hlanguages : (languages c).lines.filterMap (Line.shortcut? "Languages") = [] := by
    simp [languages, Line.shortcut?]
  have hfiles : (files items).shortcuts = [] := Section.shortcuts_of_name rfl
  simp only [shortcuts, Script.sections, List.flatMap_cons, List.flatMap_nil, hfiles]
  simp only [Section.shortcuts, show (setup c output icon).name = "Setup" from rfl, hsetup,
    show (languages c).name = "Languages" from rfl, hlanguages]
  simp [installDelete, tasks, icons, run, Line.shortcut?, Script.argument?, quoted, bare, Argument.text]

theorem Parts.shortcuts_text {parts : Parts} {c : Config}
    (hone : ∀ l ∈ scriptLines (parts.sections c), Text.OneLine l)
    (hshown : '"' ∉ c.displayName.toList) :
    shortcuts (sectionsOf (parts.text c)) =
      ["Setup", "Icons", "Icons", "Run"].map (·, folder? (below "app" c.targetExe)) := by
  have hread : ∀ s ∈ parts.sections c, s.read.shortcuts = s.shortcuts := by
    intro s hs
    by_cases hfiles : s.name = "Files"
    · rw [Section.shortcuts_of_name hfiles, Section.shortcuts_of_name (s := s.read) hfiles]
    · have hclear := clear_of_ne_files hshown hs hfiles
      rw [Section.read_of_clear fun l hl => ⟨isKey_sections hs l hl, hclear l hl⟩,
        Section.shortcuts_asRead]
  rw [sectionsOf_text_of_oneLine hone, shortcuts, List.flatMap_map, ← shortcuts_sections]
  exact List.flatMap_congr hread

end FlutterInstaller.Script

namespace FlutterInstaller

namespace FileSystem

theorem isDirectory_eq_false_of_isFile {fs : FileSystem} {cwd : Standpoint} {p : String}
    (hf : fs.isFile cwd p = true) : fs.isDirectory cwd p = false := by
  obtain ⟨l, content, executable, hr⟩ := isFile_iff_resolve.mp hf
  rw [isDirectory, find?, hr]

end FileSystem

namespace Host

open FileSystem

variable {h h₁ : Host} {path : String} {names names₁ : List String}

theorem Lists.subset (habs : Path.isAbsolute path = true) (hl : h.Lists path names)
    (hl₁ : h₁.Lists path names₁) (hcovers : Covers h.files h₁.files) : names ⊆ names₁ := by
  obtain ⟨l, hplace, hnames⟩ := hl.place
  obtain ⟨k, hplace₁, hnames₁⟩ := hl₁.place
  -- the path still leads to the directory that it led to
  have hkl : k = l := by
    obtain ⟨_, he, hr⟩ := resolve_of_standpoint habs hplace
    obtain ⟨_, he₁, hr₁⟩ := resolve_of_standpoint habs hplace₁
    cases he
    cases he₁
    obtain ⟨e, hr', _⟩ := hcovers.resolve habs hr
    rw [resolve_absolute habs] at hr' hr₁
    rw [hr'] at hr₁
    cases hr₁
    rfl
  subst hkl
  intro n hn
  obtain ⟨e, he⟩ := Option.ne_none_iff_exists'.mp ((hnames n).mp hn)
  obtain ⟨e', he', _⟩ := hcovers he
  exact (hnames₁ n).mpr (by simp [he'])

end Host

namespace Script.Request

open FlutterInstaller.Path FileSystem

variable {r : Request} {h h₁ h' : Host} {p : Places} {names : List String} {app : String}

theorem stageIcon_of_custom {place : Location} (hicon : r.config.icon = .custom place)
    (staging : String) : perform (r.stageIcon staging) h = (.ok (Path.text place), h) := by
  rw [stageIcon, hicon]
  rfl

theorem line_of_executable (hn : IsName r.config.sourceExe)
    (hshown : ∀ x ∈ meaning, x ∉ r.config.displayName.toList)
    (hd : h.isDirectory (join app r.config.sourceExe) = false) :
    let l := (r.child h app r.config.sourceExe).line
    l.argument? "Source" = some (join app r.config.sourceExe) ∧
      l.destination? = some ⟨"app", [r.config.targetExe], false⟩ ∧
      ('"' ∉ (join app r.config.sourceExe).toList → l.Clear "Files") := by
  intro l
  have htarget := meaning_not_mem_targetExe hshown
  by_cases hr : r.Renames h app r.config.sourceExe
  · have hline : l = (FileItem.renamed (join app r.config.sourceExe) r.config.targetExe).line := by
      rw [← child_of_renames hr]
    have hgiven {x : Char} (hx : x ∈ meaning) : ∀ name ∈ FileItem.given?
        (.renamed (join app r.config.sourceExe) r.config.targetExe), x ∉ name.toList := by
      rintro _ ⟨⟩
      exact htarget x hx
    rw [hline]
    exact ⟨by simp [FileItem.line, Line.argument?, Script.argument?, quoted, Argument.text],
      FileItem.destination?_line (htarget _ (by decide)) (targetExe_ne_empty _)
        (hgiven (by decide)),
      fun hpath => FileItem.clear_line hpath (hgiven (by decide))⟩
  · have hline : l = (FileItem.plain (join app r.config.sourceExe)).line := by
      rw [← child_of_not_renames hr (by simp [hd])]
    have hsame : r.config.sourceExe = r.config.targetExe := by
      by_contra hne
      exact hr ⟨rfl, hne, hd⟩
    have hinstall : (FileItem.plain (join app r.config.sourceExe)).installName = r.config.targetExe :=
      (fileName_join app hn (hsame ▸ htarget _ (by decide))).trans hsame
    have hdestination : (FileItem.plain (join app r.config.sourceExe)).destination =
        ⟨"app", [r.config.targetExe], false⟩ := by rw [← hinstall]; rfl
    rw [hline, ← hdestination]
    exact ⟨by simp [FileItem.line, Line.argument?, Script.argument?, quoted, Argument.text],
      FileItem.destination?_line (hinstall ▸ htarget _ (by decide))
        (hinstall ▸ targetExe_ne_empty _) (FileItem.forall_given?_plain _),
      fun hpath => FileItem.clear_line hpath (FileItem.forall_given?_plain _)⟩

theorem not_directory_of_stageIcon {staging icon path : String} (habs : isAbsolute path = true)
    (hicon : perform (r.stageIcon staging) h = (.ok icon, h₁))
    (hfile : h.isFile path = true ∨ r.config.icon ≠ .standard ∧ h.isDirectory path = false) :
    h₁.isDirectory path = false := by
  rcases hfile with hfile | ⟨hcustom, hd⟩
  · apply isDirectory_eq_false_of_isFile
    rw [isFile_absolute habs]
    rw [Host.isFile, isFile_absolute habs] at hfile
    exact (covers_of_stageIcon hicon).isFile habs hfile
  · cases hi : r.config.icon with
    | standard => exact absurd hi hcustom
    | custom place =>
      rw [stageIcon_of_custom hi] at hicon
      cases hicon
      exact hd

/-- Whatever a project resolves to, and whatever the host holds: where no path is broken, the uninstaller's
icon, the shortcuts and the offer to start the app refer to one place, and nothing else to any. Where the
app's directory has the executable, which is no directory when it is read, an entry installs it to this
place. -/
theorem executable_installed {m : Manifest} {o : Overrides} {w : Option String} {h₀ h₀' : Host}
    (hr : perform (Project.resolve m o w) h₀ = (.ok r.config, h₀'))
    (hname : (Source.tool m "name").Empty → ∀ x ∈ meaning, x ∉ r.config.displayName.toList)
    (htree : h.files.IsTree) (hp : perform r.places h = (.ok p, h))
    (hnames : h.Lists p.app names) (hexe : r.config.sourceExe ∈ names) {text : String}
    (ht : perform r.render h = (.ok text, h')) :
    ∃ parts h₁, parts.places = p ∧ r.Gathers h parts h' ∧ text = parts.text r.config ∧
      perform (r.stageIcon p.staging) h = (.ok parts.icon, h₁) ∧
      (h.isFile (join p.app r.config.sourceExe) = true ∨
          r.config.icon ≠ .standard ∧ h.isDirectory (join p.app r.config.sourceExe) = false →
        h₁.isDirectory (join p.app r.config.sourceExe) = false) ∧
      (parts.Unbroken r.config →
        shortcuts (sectionsOf text) =
          ["Setup", "Icons", "Icons", "Run"].map (·, some ("app", [r.config.targetExe])) ∧
        (h₁.isDirectory (join p.app r.config.sourceExe) = false →
          '"' ∉ (join p.app r.config.sourceExe).toList →
          ∃ l ∈ linesIn "Files" (sectionsOf text),
            l.argument? "Source" = some (join p.app r.config.sourceExe) ∧
            l.destination? = some ⟨"app", [r.config.targetExe], false⟩)) := by
  have hfree := not_mem_of_meaning hr hname
  obtain ⟨b, _, hc⟩ := Project.perform_resolve_eq_ok_iff.mp ⟨_, hr⟩
  obtain ⟨parts, hg, rfl⟩ := perform_render_eq_ok_iff.mp ht
  obtain rfl : p = parts.places := by
    have hplaces := hg.places
    rw [hp] at hplaces
    exact Except.ok.inj (Prod.mk.inj hplaces).1
  obtain ⟨names₁, h₁, hicon, hlists₁, hisName, hchildren, -⟩ := hg.lists
  have hmem : r.config.sourceExe ∈ names₁ :=
    hnames.subset hg.isAbsolute_app hlists₁ (covers_of_stageIcon hicon) hexe
  have hexeName := hisName htree _ hmem
  have hexePath : isAbsolute (join parts.places.app r.config.sourceExe) = true := by
    rw [isAbsolute_join (isAbsolute_of_isName hexeName), hg.isAbsolute_app]
  refine ⟨parts, h₁, rfl, hg, rfl, hicon, not_directory_of_stageIcon hexePath hicon, fun hunbroken => ?_⟩
  have hone := (Parts.forall_oneLine_iff hc.oneLine_displayName hg.ofFolder).mpr hunbroken
  have htarget := meaning_not_mem_targetExe hfree
  refine ⟨?_, fun hd hpath => ?_⟩
  · rw [Parts.shortcuts_text hone (hfree _ (by decide)),
      folder?_below (htarget _ (by decide)) (htarget _ (by decide)) (targetExe_ne_empty _)]
  · obtain ⟨hsource, hdestination, hclear⟩ := line_of_executable hexeName hfree hd
    have hitem : r.child h₁ parts.places.app r.config.sourceExe ∈ parts.items := by
      rw [Parts.items, hchildren]
      exact List.mem_append_left _ (List.mem_map_of_mem hmem)
    refine ⟨(r.child h₁ parts.places.app r.config.sourceExe).line.asRead, ?_, ?_, ?_⟩
    · rw [Parts.linesIn_files_of_oneLine hone]
      refine List.mem_filterMap.mpr ⟨_, hitem, Line.ofText?_render ?_ (hclear hpath)⟩
      exact isKey_sections (Parts.files_mem_sections parts r.config) _ (List.mem_map_of_mem hitem)
    · rwa [Line.argument?_asRead]
    · rwa [Line.destination?_asRead]

section Sample

theorem executable_installed_mixed :
    ∃ h₀ text h', perform (Project.resolve linkManifest {} none) (folderHost mixedChildren) =
        (.ok linkRequest.config, h₀) ∧
      ((Source.tool linkManifest "name").Empty →
        ∀ x ∈ meaning, x ∉ linkRequest.config.displayName.toList) ∧
      (folderHost mixedChildren).files.IsTree ∧
      perform linkRequest.places (folderHost mixedChildren) = (.ok linkPlaces, folderHost mixedChildren) ∧
      (folderHost mixedChildren).Lists linkPlaces.app mixedNames ∧
      linkRequest.config.sourceExe ∈ mixedNames ∧
      perform linkRequest.render (folderHost mixedChildren) = (.ok text, h') ∧
      (∃ l ∈ linesIn "Files" (sectionsOf text), l.argument? "Source" = some "/a/demo_app.exe" ∧
        l.destination? = some ⟨"app", ["DemoApp.exe"], false⟩) ∧
      shortcuts (sectionsOf text) =
        ["Setup", "Icons", "Icons", "Run"].map (·, some ("app", ["DemoApp.exe"])) := by
  have hs := simple_mixedChildren
  obtain ⟨log, hr⟩ := hs.resolve_link
  have hname : ∀ x ∈ meaning, x ∉ linkRequest.config.displayName.toList :=
    forall_mem_meaning.mpr ⟨by decide, by decide, by decide⟩
  have htree : (folderHost mixedChildren).files.IsTree := hs.standing.ground.toIsTree
  have hlists : (folderHost mixedChildren).Lists linkPlaces.app mixedNames :=
    hs.lists
  have hexe : linkRequest.config.sourceExe ∈ mixedNames := by decide
  have hp : perform linkRequest.places (folderHost mixedChildren) =
      (.ok linkPlaces, folderHost mixedChildren) := (hs.finds suits_link).places
  obtain ⟨h', -, hrender⟩ := hs.exists_render suits_link []
  obtain ⟨parts, h₁, -, hg', -, -, hkept, hread⟩ :=
    executable_installed hr (fun _ => hname) htree hp hlists hexe hrender
  obtain rfl := hs.gathers_eq suits_link hg'
  have hd : (folderHost mixedChildren).isDirectory (join "/a" "demo_app.exe") = false :=
    hs.isDirectory [] (c := ("demo_app.exe", false)) (by decide)
  obtain ⟨hshortcuts, hentry⟩ := hread (unbroken_folderParts tame_link _ (by decide))
  exact ⟨_, _, h', hr, fun _ => hname, htree, hp, hlists, hexe, hrender,
    hentry (hkept (.inr ⟨by decide, hd⟩)) (by decide), hshortcuts⟩

/-- The text of a script that is rendered for a project that was just resolved does not install the
executable to the one place that it refers to. -/
def Misses (m : Manifest) (r : Request) (h : Host) : Prop :=
  ∃ (h₀ h' : Host) (text : String) (names : List String),
    perform (Project.resolve m {} none) h = (.ok r.config, h₀) ∧
      h.Lists "/a" names ∧ r.config.sourceExe ∈ names ∧
      h.isDirectory (join "/a" r.config.sourceExe) = false ∧ perform r.render h = (.ok text, h') ∧
      ¬ ((∃ l ∈ linesIn "Files" (sectionsOf text),
            l.argument? "Source" = some (join "/a" r.config.sourceExe) ∧
            l.destination? = some ⟨"app", [r.config.targetExe], false⟩) ∧
          shortcuts (sectionsOf text) =
            ["Setup", "Icons", "Icons", "Run"].map (·, some ("app", [r.config.targetExe])))

def quoteRequest : Request where
  config := { linkRequest.config with manifestName := "de\"mo" }
  appDirectory := "/a"

theorem suits_quote : quoteRequest.Suits linkPlaces where
  places := by decide
  app := rfl
  output := rfl
  setting := ⟨⟨by decide, by decide, by decide, by decide, by decide⟩, nofun, nofun⟩
  staging h := h.elim nofun nofun
  system := nofun

theorem misses_quote :
    Misses (sampleManifest "de\"mo" [("name", .string "DemoApp"), ("installer_icon", .string "/i")])
      quoteRequest (folderHost [("de\"mo.exe", false)]) := by
  have hs : Simple [("de\"mo.exe", false)] ["de\"mo.exe"] := simple_of_sorted (by decide) (by decide)
  have hresolve : ∃ log, perform (Project.resolve (sampleManifest "de\"mo"
      [("name", .string "DemoApp"), ("installer_icon", .string "/i")]) {} none)
      (folderHost [("de\"mo.exe", false)]) =
        (.ok quoteRequest.config, folderHost [("de\"mo.exe", false)] log) := by
    refine hs.resolve fun hfiles => ?_
    constructor
    case icon => exact Config.Request.icon_eq_custom rfl (by decide) (by decide) (hfiles "/i" (by simp))
    all_goals rfl
  obtain ⟨log, hr⟩ := hresolve
  obtain ⟨h', -, hrender⟩ := hs.exists_render suits_quote []
  have htame : quoteRequest.Tame linkPlaces :=
    ⟨by decide, by decide, by decide, by decide, by decide, nofun⟩
  have hone := oneLine_folderParts htame [("de\"mo.exe", false)] ["de\"mo.exe"] (by decide)
  have hnone : (folderParts quoteRequest linkPlaces [("de\"mo.exe", false)] ["de\"mo.exe"]).items.filterMap
      (fun item => Line.ofText? "Files" item.line.render) = [] := by decide +kernel
  refine ⟨_, h', _, ["de\"mo.exe"], hr, hs.lists, by decide,
    hs.isDirectory [] (c := ("de\"mo.exe", false)) (.head _), hrender, ?_⟩
  rintro ⟨⟨l, hl, -⟩, -⟩
  rw [Parts.linesIn_files_of_oneLine hone, hnone] at hl
  cases hl

theorem misses_break : Misses linkManifest linkRequest
    (folderHost [("demo_app.exe", false), ("x\n[Run]\nFilename: gone\ny", false)]) := by
  have hs : Simple [("demo_app.exe", false), ("x\n[Run]\nFilename: gone\ny", false)]
      ["demo_app.exe", "x\n[Run]\nFilename: gone\ny"] :=
    simple_of_sorted (by decide) (by decide)
  obtain ⟨log, hr⟩ := hs.resolve_link
  obtain ⟨h', -, hrender⟩ := hs.exists_render suits_link []
  refine ⟨_, h', _, _, hr, hs.lists, .head _,
    hs.isDirectory [] (c := ("demo_app.exe", false)) (.head _), hrender, ?_⟩
  rintro ⟨-, hshortcuts⟩
  obtain ⟨l, hline, hvalue⟩ := Option.bind_eq_some_iff.mp
    (by decide : (Line.ofText? (headerName "[Run]") "Filename: gone").bind (Line.shortcut? "Run") =
      some "gone")
  have hread := mem_linesIn_of_header "[Run]"
    ["[Files]", renamedText "/a/demo_app.exe" "DemoApp.exe", "Source: \"/a/x"]
    ["y\"; DestDir: \"\x7bapp\x7d\"; Flags: ignoreversion", ""]
    (Parts.files_mem_sections (folderParts linkRequest linkPlaces
      [("demo_app.exe", false), ("x\n[Run]\nFilename: gone\ny", false)]
      ["demo_app.exe", "x\n[Run]\nFilename: gone\ny"]) linkRequest.config)
    (by decide +kernel) (by decide) (by decide) hline
  have hmem := mem_shortcuts hread hvalue
  have hnot : ("Run", folder? "gone") ∉
      ["Setup", "Icons", "Icons", "Run"].map (·, some ("app", ["DemoApp.exe"])) := by decide
  exact hnot (hshortcuts ▸ hmem)

def strayTree : FileSystem := (ofDirectories [["a"]]).insert ["a", "demo_app.exe"] (.link "/s")

def strayHost : Host := { sampleHost [] with files := strayTree }

theorem linked_strayTree : Linked "demo_app.exe" "/s" strayTree where
  isTree := by
    have hplain : Plain (ofDirectories [["a"]]) := plain_ofDirectories (by decide) (by decide)
    have hfree : (ofDirectories [["a"]]).get? ["a", "demo_app.exe"] = none := rfl
    exact IsTree.insert (l := ["a"]) hplain.toIsTree rfl (by decide) (.inr (by simp [hfree]))
  app := rfl
  children n := by
    rw [strayTree, get?_insert _ _ (by simp), get?_ofDirectories]
    simp

section Stray

variable {fs : FileSystem} (hs : Linked "demo_app.exe" "/s" fs)

include hs

theorem resolve_stray (cwd : Standpoint) : fs.resolve cwd .follow "/a/demo_app.exe" =
    walk fs .follow (linkLimit - 1) (.ofPlace []) (pieces "/s") :=
  hs.resolve (by decide) (by decide) (by decide) cwd

theorem isDirectory_stray_of_free (hfree : fs.get? ["s"] = none) (cwd : Standpoint) :
    fs.isDirectory cwd "/a/demo_app.exe" = false := by
  have hwalk : walk fs .follow (linkLimit - 1) (.ofPlace []) (pieces "/s") = .ok (.free ["s"]) :=
    walk_text_entry (l := []) hs.isTree (by simp) fs.get?_root (by decide) (by decide) hfree _ _
  rw [isDirectory, find?, resolve_stray hs, hwalk]

theorem isDirectory_stray_of_directory (hd : fs.get? ["s"] = some .directory) (cwd : Standpoint) :
    fs.isDirectory cwd "/a/demo_app.exe" = true := by
  have hwalk : walk fs .follow (linkLimit - 1) (.ofPlace []) (pieces "/s") =
      .ok (.found ["s"] .directory) :=
    walk_text (l := ["s"]) hs.isTree (by decide) hd (by decide) (by decide) _
  rw [isDirectory, find?, resolve_stray hs, hwalk]

end Stray

theorem stageIcon_stray : ∃ h₁, perform ((versionRequest "1.0.0").stageIcon "/s") strayHost =
    (.ok "/s/installer.ico", h₁) ∧ Linked "demo_app.exe" "/s" h₁.files ∧
      h₁.files.get? ["s"] = some .directory := by
  have hname : IsName "s" ∧ IsName "installer.ico" := by decide
  have htexts : text ([] ++ ["s"]) = "/s" ∧ text (["s"] ++ ["installer.ico"]) = "/s/installer.ico" := by
    decide
  have htree := linked_strayTree.isTree
  have htree' : IsTree (strayTree.insert ["s"] .directory) :=
    IsTree.insert (l := []) htree rfl hname.1 (.inl rfl)
  have hmake (cwd : Standpoint) : perform (makeDirectories cwd "/s") strayTree =
      (.ok (), strayTree.insert ["s"] .directory) := by
    rw [← htexts.1]
    exact makeDirectories_text_entry (l := []) htree (by simp) rfl hname.1 (by decide) (by decide)
      rfl cwd
  have hwrite (cwd : Standpoint) := write_text_entry (l := ["s"]) htree' (by decide) rfl hname.2
    (by decide) rfl cwd DefaultIcon.content
  rw [htexts.2] at hwrite
  have hparent : perform (Action.makeParent "/s/installer.ico") strayHost =
      (.ok (), strayHost.withFiles (strayTree.insert ["s"] .directory)) := by
    rw [Action.makeParent, show parent? "/s/installer.ico" = some "/s" by decide]
    exact Action.perform_edit_eq_ok.mpr ⟨_, hmake _, rfl⟩
  have hicon : Layout.iconPath "/s" = "/s/installer.ico" := by decide
  have hfile : ∃ h₁, perform (Action.writeFile (Layout.iconPath "/s") DefaultIcon.content) strayHost =
      (.ok (), h₁) ∧ h₁.files = ((strayTree.insert ["s"] .directory).insert
        (["s"] ++ ["installer.ico"]) (.file .empty false)).insert (["s"] ++ ["installer.ico"])
        (.file DefaultIcon.content false) := by
    rw [hicon, Action.writeFile, perform_bind_of_ok hparent]
    exact ⟨_, Action.perform_edit_eq_ok.mpr ⟨_, hwrite _, rfl⟩, rfl⟩
  obtain ⟨h₁, hfile, hfiles⟩ := hfile
  obtain ⟨lines, hr⟩ := stageIcon_of_writeFile (r := versionRequest "1.0.0") rfl hfile
  rw [hicon] at hr
  have hget {l : Location} (hl : l ≠ ["s"] ++ ["installer.ico"]) :
      h₁.files.get? l = (strayTree.insert ["s"] .directory).get? l := by
    rw [hfiles, get?_insert _ _ (by simp), if_neg hl, get?_insert _ _ (by simp), if_neg hl]
  have hkept {l : Location} (hl : ["a"] <+: l) : h₁.files.get? l = strayTree.get? l := by
    have hne : l ≠ ["s"] ++ ["installer.ico"] := by
      rintro rfl
      exact absurd hl (by decide)
    have hne' : l ≠ ["s"] := by
      rintro rfl
      exact absurd hl (by decide)
    rw [hget hne, get?_insert _ _ (by simp), if_neg hne']
  exact ⟨_, hr,
    { isTree := ((stageIcon_extends _ _).of_perform hr).isTree htree
      app := hkept List.prefix_rfl
      children := fun n => (hkept (List.prefix_append _ _)).trans (linked_strayTree.children n) },
    hget (by decide)⟩

theorem misses_stray :
    Misses (sampleManifest "demo_app" []) (versionRequest "1.0.0") strayHost := by
  have hs := linked_strayTree
  obtain ⟨h₁, hicon, hs₁, hd⟩ := stageIcon_stray
  have hroot : Standpoint.root.settle strayTree = .root := Standpoint.settle_of_hasDirectory rfl
  have hcwd : strayHost.currentDirectory = .ok [] := by
    rw [Host.currentDirectory, show strayHost.workingDirectory.settle strayHost.files = .root from hroot]
    rfl
  have hc : Config.resolve ⟨sampleManifest "demo_app" [], {}, [], strayHost.files⟩ =
      .ok (versionRequest "1.0.0").config := rfl
  obtain ⟨log, hr⟩ := Project.exists_resolve hcwd (Config.resolve_eq_ok_iff.mp hc)
  have hp : perform (versionRequest "1.0.0").places strayHost = (.ok versionPlaces, strayHost) :=
    perform_places_eq_ok_iff.mpr ⟨rfl, [], hcwd, placesFrom_versionRequest "1.0.0"⟩
  have hexe : (versionRequest "1.0.0").child h₁ "/a" "demo_app.exe" =
      .directory "/a/demo_app.exe" "demo_app.exe" := by
    have hjoin : join "/a" "demo_app.exe" = "/a/demo_app.exe" := by decide
    rw [child, hjoin, Host.isDirectory, isDirectory_stray_of_directory hs₁ hd]
    rfl
  have hg : (versionRequest "1.0.0").Gathers strayHost
      ⟨versionPlaces, "/s/installer.ico", [.directory "/a/demo_app.exe" "demo_app.exe"], []⟩
      ((versionRequest "1.0.0").listed h₁ "/a" ["demo_app.exe"]) :=
    ⟨⟨hs.isDirectory_app _, _, h₁, hicon, hs₁.childNames, by rw [← hexe]; rfl, rfl⟩, hp⟩
  have hlegible : Parts.Legible
      ⟨versionPlaces, "/s/installer.ico", [.directory "/a/demo_app.exe" "demo_app.exe"], []⟩
      (versionRequest "1.0.0").config :=
    ⟨⟨by decide, by decide, by decide, fun _ h => absurd h (Option.not_mem_none _), by decide,
      List.forall_mem_nil _⟩, by decide, by decide, by decide⟩
  refine ⟨_, _, _, ["demo_app.exe"], hr, Host.lists_of_childNames (by decide) hs.childNames, by decide,
    isDirectory_stray_of_free hs rfl _, perform_render_eq_ok_iff.mpr ⟨_, hg, rfl⟩, ?_⟩
  rintro ⟨⟨l, hl, hsource, -⟩, -⟩
  rw [hlegible.linesIn_files hg.ofFolder] at hl
  obtain rfl : l = (FileItem.directory "/a/demo_app.exe" "demo_app.exe").line.asRead :=
    List.mem_singleton.mp hl
  exact absurd hsource (by decide)

/-- A link into what is staged is listed as a directory, a quotation mark ends the path of the executable,
and a broken path refers to what is not installed. -/
theorem executable_not_installed :
    Misses (sampleManifest "demo_app" []) (versionRequest "1.0.0") strayHost ∧
    Misses (sampleManifest "de\"mo" [("name", .string "DemoApp"), ("installer_icon", .string "/i")])
      quoteRequest (folderHost [("de\"mo.exe", false)]) ∧
    Misses linkManifest linkRequest
      (folderHost [("demo_app.exe", false), ("x\n[Run]\nFilename: gone\ny", false)]) :=
  ⟨misses_stray, misses_quote, misses_break⟩

end Sample

end Script.Request

end FlutterInstaller
