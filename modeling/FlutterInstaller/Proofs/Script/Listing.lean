import FlutterInstaller.Proofs.Script.Presence
import FlutterInstaller.Proofs.Text.Octets

/-!
The section of files. It has an entry for each child of the app's directory, in the order of the octets
of their names, and one for each staged library after these; only the executable gets another name.
-/
namespace FlutterInstaller

theorem FileSystem.resolve_of_standpoint {fs : FileSystem} {cwd s : Standpoint} {p : String}
    (habs : Path.isAbsolute p = true) (hs : fs.standpoint cwd p = .ok s) :
    ∃ l, s = .ofPlace l ∧ fs.resolve cwd .follow p = .ok (.found l .directory) := by
  unfold standpoint at hs
  split at hs
  · next l hr => exact ⟨l, (Except.ok.inj hs).symm, hr⟩
  · cases hs
  · next t hr => exact absurd hr (resolve_ne_removed habs)
  · cases hs
  · cases hs

namespace Host

open FileSystem

variable {h : Host} {path : String} {names : List String}

/-- The names of what lies right in a directory, each once, in the order of their octets. -/
structure Lists (h : Host) (path : String) (names : List String) : Prop where
  place : ∃ l, h.files.standpoint h.workingDirectory path = .ok (.ofPlace l) ∧
    ∀ n, n ∈ names ↔ h.files.get? (l ++ [n]) ≠ none
  sorted : names.Pairwise fun a b => Text.octets a < Text.octets b

theorem Lists.nodup (hl : h.Lists path names) : names.Nodup := by
  refine hl.sorted.imp fun {a b} hlt he => ?_
  rw [he] at hlt
  exact List.lt_irrefl _ hlt

theorem Lists.eq {others : List String} (hl : h.Lists path names) (ho : h.Lists path others) :
    names = others := by
  obtain ⟨l, hplace, hnames⟩ := hl.place
  obtain ⟨k, hplace', hothers⟩ := ho.place
  rw [hplace] at hplace'
  obtain rfl : l = k := congrArg Standpoint.place (Except.ok.inj hplace')
  have hperm : names.Perm others := by
    rw [List.perm_ext_iff_of_nodup hl.nodup ho.nodup]
    exact fun n => (hnames n).trans (hothers n).symm
  exact hperm.eq_of_pairwise (fun a b _ _ hab hba => absurd hba (List.lt_asymm hab)) hl.sorted
    ho.sorted

theorem lists_of_childNames {h' : Host} (habs : Path.isAbsolute path = true)
    (hn : perform (Script.Request.childNames path) h = (.ok names, h')) : h.Lists path names := by
  rw [Script.Request.childNames, perform_get_bind] at hn
  obtain ⟨s, g, hs, hn⟩ := perform_bind_eq_ok.mp hn
  obtain ⟨hs, rfl⟩ := Project.perform_ofFile_eq_ok.mp hs
  obtain ⟨l, rfl, _⟩ := resolve_of_standpoint habs hs
  cases hn
  refine ⟨⟨l, hs, fun n => mem_names_iff⟩, ?_⟩
  exact (h'.files.strict_names l).imp fun {a b} hab => Text.octets_lt_iff.mpr hab

end Host

namespace Script

open Text FlutterInstaller.Path FileSystem

def directoryText (path name : String) : String :=
  "Source: \"" ++ path ++ "\\*\"; DestDir: \"\x7bapp\x7d\\" ++ name ++
    "\"; Flags: ignoreversion recursesubdirs createallsubdirs"

def plainText (path : String) : String :=
  "Source: \"" ++ path ++ "\"; DestDir: \"\x7bapp\x7d\"; Flags: ignoreversion"

def renamedText (path target : String) : String :=
  "Source: \"" ++ path ++ "\"; DestDir: \"\x7bapp\x7d\"; DestName: \"" ++ target ++
    "\"; Flags: ignoreversion"

theorem render_directory (path name : String) :
    (FileItem.directory path name).line.render = directoryText path name := by
  simp [FileItem.line, Line.render, Parameter.render, Argument.render, quoted, bare, directoryText,
    below, String.ext_iff]

theorem render_plain (path : String) : (FileItem.plain path).line.render = plainText path := by
  simp [FileItem.line, Line.render, Parameter.render, Argument.render, quoted, bare, plainText,
    String.ext_iff]

theorem render_renamed (path target : String) :
    (FileItem.renamed path target).line.render = renamedText path target := by
  simp [FileItem.line, Line.render, Parameter.render, Argument.render, quoted, bare, renamedText,
    String.ext_iff]

theorem oneLine_directoryText {path name : String} :
    OneLine (directoryText path name) ↔ OneLine path ∧ OneLine name := by
  simp [directoryText, OneLine]

theorem oneLine_plainText {path : String} : OneLine (plainText path) ↔ OneLine path := by
  simp [plainText, OneLine]

theorem oneLine_renamedText {path target : String} :
    OneLine (renamedText path target) ↔ OneLine path ∧ OneLine target := by
  simp [renamedText, OneLine]

def FileItem.newName? : FileItem → Option String
  | .renamed _ target => some target
  | .directory .. | .plain _ => none

theorem FileItem.argument?_destName (item : FileItem) :
    item.line.argument? "DestName" = item.newName? := by
  cases item <;>
    simp [line, Line.argument?, Script.argument?, newName?, quoted, bare, Argument.text]

namespace Request

variable {r : Request} {h h₁ h' : Host} {app name : String} {names staged : List String}
  {parts : Parts}

/-- A child is the executable, and is not installed under the name that the build gave it. -/
def Renames (r : Request) (h : Host) (app name : String) : Prop :=
  name = r.config.sourceExe ∧ r.config.sourceExe ≠ r.config.targetExe ∧
    h.isDirectory (join app name) = false

instance (r : Request) (h : Host) (app name : String) : Decidable (r.Renames h app name) :=
  inferInstanceAs (Decidable (_ ∧ _))

def childText (r : Request) (h : Host) (app name : String) : String :=
  if h.isDirectory (join app name) then directoryText (join app name) name
  else if r.Renames h app name then renamedText (join app name) r.config.targetExe
  else plainText (join app name)

theorem child_of_renames (hr : r.Renames h app name) :
    r.child h app name = .renamed (join app name) r.config.targetExe := by
  obtain ⟨hname, hne, hd⟩ := hr
  rw [child, FileItem.ofChild, if_neg (by simp [hd]), if_pos ⟨hne, hname⟩]

theorem child_of_not_renames (hr : ¬ r.Renames h app name) (hd : ¬ h.isDirectory (join app name)) :
    r.child h app name = .plain (join app name) := by
  rw [child, FileItem.ofChild, if_neg hd, if_neg]
  rintro ⟨hne, hname⟩
  exact hr ⟨hname, hne, by simpa using hd⟩

theorem render_child (r : Request) (h : Host) (app name : String) :
    (r.child h app name).line.render = r.childText h app name := by
  unfold childText
  split
  · next hd => rw [child, FileItem.ofChild, if_pos hd, render_directory]
  · next hd =>
    split
    · next hr => rw [child_of_renames hr, render_renamed]
    · next hr => rw [child_of_not_renames hr hd, render_plain]

theorem newName?_child (r : Request) (h : Host) (app name : String) :
    (r.child h app name).newName? = if r.Renames h app name then some r.config.targetExe else none := by
  split
  · next hr => rw [child_of_renames hr, FileItem.newName?]
  · next hr =>
    by_cases hd : h.isDirectory (join app name) = true
    · rw [child, FileItem.ofChild, if_pos hd, FileItem.newName?]
    · rw [child_of_not_renames hr hd, FileItem.newName?]

/-- Every entry of the section of files. -/
def fileTexts (r : Request) (h : Host) (app : String) (names staged : List String) : List String :=
  names.map (r.childText h app) ++ staged.map plainText

def filesText (r : Request) (h : Host) (app : String) (names staged : List String) : String :=
  "[Files]\n" ++ String.join ((r.fileTexts h app names staged).map (· ++ "\n"))

theorem render_items (hchildren : parts.children = names.map (r.child h app)) :
    (files parts.items).lines.map Line.render = r.fileTexts h app names parts.staged := by
  simp only [files, Parts.items, hchildren, fileTexts, List.map_append, List.map_map]
  simp [Function.comp_def, render_child, render_plain]

theorem filter_newName? (hnodup : names.Nodup)
    (hchildren : parts.children = names.map (r.child h app)) :
    (files parts.items).lines.filter (fun l => (l.argument? "DestName").isSome) =
      if r.config.sourceExe ∈ names ∧ r.Renames h app r.config.sourceExe then
        [(FileItem.renamed (join app r.config.sourceExe) r.config.targetExe).line]
      else [] := by
  have hstaged : (parts.staged.map FileItem.plain).filter (fun item => item.newName?.isSome) = [] := by
    simp [FileItem.newName?]
  have hrenames : names.filter (fun n => (r.child h app n).newName?.isSome) =
      names.filter fun n => n = r.config.sourceExe ∧ r.Renames h app r.config.sourceExe := by
    refine List.filter_congr fun n _ => ?_
    rw [newName?_child]
    split
    · next hr => simp [← hr.1, hr]
    · next hr =>
      have hnone : ¬ (n = r.config.sourceExe ∧ r.Renames h app r.config.sourceExe) := by
        rintro ⟨rfl, hr'⟩
        exact hr hr'
      simp [hnone]
  simp only [files, List.filter_map, Function.comp_def, FileItem.argument?_destName, Parts.items,
    hchildren, List.filter_append, hstaged, List.append_nil, hrenames]
  by_cases hr : r.Renames h app r.config.sourceExe
  · simp only [hr, and_true, List.filter_eq, hnodup.count]
    split
    · simp [child_of_renames hr]
    · rfl
  · simp [hr]

theorem oneLine_childText_iff : OneLine (r.childText h app name) ↔
    OneLine (join app name) ∧ (r.Renames h app name → OneLine r.config.targetExe) := by
  unfold childText
  split
  · next hd =>
    have hname : OneLine (join app name) → OneLine name := oneLine_of_join
    have hr : ¬ r.Renames h app name := fun hr => by simp [hr.2.2] at hd
    rw [oneLine_directoryText]
    tauto
  · split
    · next hr => simp [oneLine_renamedText, hr]
    · next hr => simp [oneLine_plainText, hr]

theorem render_files (hchildren : parts.children = names.map (r.child h app)) :
    (files parts.items).render = r.filesText h app names parts.staged := by
  rw [filesText, ← render_items hchildren, List.map_map]
  rfl

theorem forall_fileTexts_oneLine_iff :
    (∀ l ∈ r.fileTexts h app names staged, OneLine l) ↔
      (∀ name ∈ names, OneLine (join app name)) ∧ (∀ path ∈ staged, OneLine path) ∧
        ∀ name ∈ names, r.Renames h app name → OneLine r.config.targetExe := by
  simp only [fileTexts, List.forall_mem_append, List.forall_mem_map, oneLine_childText_iff,
    oneLine_plainText, imp_and, forall_and]
  tauto

theorem pieces_filesText_iff (hchildren : parts.children = names.map (r.child h app)) :
    pieces '\n' (r.filesText h app names parts.staged) =
        "[Files]" :: r.fileTexts h app names parts.staged ++ [""] ↔
      (∀ name ∈ names, OneLine (join app name)) ∧ (∀ path ∈ parts.staged, OneLine path) ∧
        ∀ name ∈ names, r.Renames h app name → OneLine r.config.targetExe := by
  have hpieces : pieces '\n' (r.filesText h app names parts.staged) =
      ("[Files]" :: r.fileTexts h app names parts.staged ++ [""]).flatMap (pieces '\n') := by
    rw [← render_files hchildren, Section.render_eq, pieces_intercalate rfl (by simp), Section.block,
      render_items hchildren]
    rfl
  have hlines : (∀ l ∈ "[Files]" :: r.fileTexts h app names parts.staged ++ [""], OneLine l) ↔
      ∀ l ∈ r.fileTexts h app names parts.staged, OneLine l := by
    have hheader : OneLine "[Files]" := by decide
    have hend : OneLine "" := by decide
    simp [or_imp, forall_and, hheader, hend]
  rw [hpieces, ← forall_fileTexts_oneLine_iff, ← hlines]
  exact ⟨fun he => oneLine_of_length_flatMap_pieces (congrArg List.length he), flatMap_pieces⟩

theorem outline_files_iff (hchildren : parts.children = names.map (r.child h app))
    (hfolder : parts.OfFolder r.config) (hversion : OneLine r.config.version)
    (hname : OneLine r.config.displayName) (houtput : OneLine parts.places.output)
    (hicon : OneLine parts.icon) (hlicense : ∀ place ∈ r.config.license, OneLine (Path.text place)) :
    (Outline.ofText (parts.text r.config)).sections.filter (fun s => s.1 = "[Files]") =
        [("[Files]", r.fileTexts h app names parts.staged ++ [""])] ↔
      (∀ name ∈ names, OneLine (join app name)) ∧ ∀ path ∈ parts.staged, OneLine path := by
  constructor
  · intro hfiles
    have hmem := List.mem_of_mem_filter (hfiles ▸ List.mem_singleton.mpr rfl)
    have hone : ∀ l ∈ r.fileTexts h app names parts.staged, OneLine l := fun l hl =>
      Outline.oneLine_of_mem_sections hmem (List.mem_append_left _ hl)
    obtain ⟨hchild, hstaged, -⟩ := forall_fileTexts_oneLine_iff.mp hone
    exact ⟨hchild, hstaged⟩
  · rintro ⟨hchild, hstaged⟩
    have hsource : ∀ child ∈ parts.children, OneLine child.source := by
      rw [hchildren, List.forall_mem_map]
      intro n hn
      rw [child, FileItem.source_ofChild]
      exact hchild n hn
    have hone := (Parts.forall_oneLine_iff hname hfolder).mpr
      ⟨hversion, houtput, hicon, hlicense, hsource, hstaged⟩
    rw [Parts.outline_text hone, ← render_items hchildren]
    rfl

theorem filter_destName (hnodup : names.Nodup)
    (hchildren : parts.children = names.map (r.child h app)) (hfolder : parts.OfFolder r.config)
    (hl : parts.Legible r.config) :
    (linesIn "Files" (sectionsOf (parts.text r.config))).filter
        (fun l => (l.argument? "DestName").isSome) =
      if r.config.sourceExe ∈ names ∧ r.Renames h app r.config.sourceExe then
        [(FileItem.renamed (join app r.config.sourceExe) r.config.targetExe).line.asRead]
      else [] := by
  rw [hl.linesIn_files hfolder, List.filter_map]
  simp only [Function.comp_def, Line.argument?_asRead, filter_newName? hnodup hchildren]
  split <;> rfl

theorem Gathers.isAbsolute_app (hg : r.Gathers h parts h') : isAbsolute parts.places.app = true := by
  obtain ⟨cwd, _, hp⟩ := hg.placesFrom
  rw [hp]
  exact isAbsolute_text _

theorem Gathers.lists (hg : r.Gathers h parts h') :
    ∃ names h₁, perform (r.stageIcon parts.places.staging) h = (.ok parts.icon, h₁) ∧
      h₁.Lists parts.places.app names ∧ (h.files.IsTree → ∀ n ∈ names, IsName n) ∧
      parts.children = names.map (r.child h₁ parts.places.app) ∧
      perform (r.stagedLibraries parts.places) (r.listed h₁ parts.places.app names) =
        (.ok parts.staged, h') := by
  obtain ⟨names, h₁, hicon, hnames, hchildren, hstaged⟩ := hg.steps
  refine ⟨names, h₁, hicon, Host.lists_of_childNames hg.isAbsolute_app hnames, fun htree => ?_,
    hchildren, hstaged⟩
  exact isName_childNames (((r.stageIcon_extends _).of_perform hicon).isTree htree) hnames

/-- Whatever the configuration, the host, and the order in which it goes through a directory: the
script has a section of files with one entry for each child that is there when the app's directory is
read, in the order of the octets of their names, and one for each staged library after these. It is read
as this one section with these lines unless a path in it is broken, and only the executable is given a
name. -/
theorem files_of_render {text : String} (ht : perform r.render h = (.ok text, h')) :
    ∃ parts h₁ names, r.Gathers h parts h' ∧ text = parts.text r.config ∧
      perform (r.stageIcon parts.places.staging) h = (.ok parts.icon, h₁) ∧
      h₁.Lists parts.places.app names ∧
      (∀ others, h₁.Lists parts.places.app others → others = names) ∧
      (∃ before after,
        text = before ++ r.filesText h₁ parts.places.app names parts.staged ++ after) ∧
      (pieces '\n' (r.filesText h₁ parts.places.app names parts.staged) =
          "[Files]" :: r.fileTexts h₁ parts.places.app names parts.staged ++ [""] ↔
        (∀ name ∈ names, OneLine (join parts.places.app name)) ∧
          (∀ path ∈ parts.staged, OneLine path) ∧
          ∀ name ∈ names, r.Renames h₁ parts.places.app name → OneLine r.config.targetExe) ∧
      (OneLine r.config.version → OneLine r.config.displayName → OneLine parts.places.output →
        OneLine parts.icon → (∀ place ∈ r.config.license, OneLine (Path.text place)) →
        ((Outline.ofText text).sections.filter (fun s => s.1 = "[Files]") =
            [("[Files]", r.fileTexts h₁ parts.places.app names parts.staged ++ [""])] ↔
          (∀ name ∈ names, OneLine (join parts.places.app name)) ∧
            ∀ path ∈ parts.staged, OneLine path)) ∧
      (parts.Legible r.config →
        (linesIn "Files" (sectionsOf text)).filter (fun l => (l.argument? "DestName").isSome) =
          if r.config.sourceExe ∈ names ∧ r.Renames h₁ parts.places.app r.config.sourceExe then
            [(FileItem.renamed (join parts.places.app r.config.sourceExe)
              r.config.targetExe).line.asRead]
          else []) := by
  obtain ⟨parts, hg, rfl⟩ := perform_render_eq_ok_iff.mp ht
  obtain ⟨names, h₁, hicon, hlists, -, hchildren, -⟩ := hg.lists
  refine ⟨parts, h₁, names, hg, rfl, hicon, hlists, fun _ ho => ho.eq hlists, ?_,
    pieces_filesText_iff hchildren, outline_files_iff hchildren hg.ofFolder,
    filter_destName hlists.nodup hchildren hg.ofFolder⟩
  rw [← render_files hchildren]
  exact exists_append_render (by simp [Parts.sections, Script.sections])

section Sample

theorem Simple.lists {children : List (String × Bool)} {names : List String} {log : List LogLine}
    (hs : Simple children names) : (folderHost children log).Lists "/a" names := by
  have happ : (folderHost children log).isDirectory "/a" = true :=
    (hs.standing.isDirectory_iff (by decide)).mpr ⟨by decide, get?_folderTree (.inr rfl)⟩
  exact Host.lists_of_childNames (by decide) ((childNames_eq_ok_iff hs.standing (by decide)).mpr
    ⟨happ, hs.names_eq, rfl⟩)

theorem files_of_render_mixed :
    ∃ text h' parts, perform linkRequest.render (folderHost mixedChildren) = (.ok text, h') ∧
      linkRequest.Gathers (folderHost mixedChildren) parts h' ∧
      text = Parts.text parts linkRequest.config ∧ parts.Legible linkRequest.config ∧
      (Outline.ofText text).sections.filter (fun s => s.1 = "[Files]") =
        [("[Files]",
          ["Source: \"/a/Data\\*\"; DestDir: \"\x7bapp\x7d\\Data\"; " ++
             "Flags: ignoreversion recursesubdirs createallsubdirs",
           "Source: \"/a/demo_app.exe\"; DestDir: \"\x7bapp\x7d\"; DestName: \"DemoApp.exe\"; " ++
             "Flags: ignoreversion",
           "Source: \"/a/x\"; DestDir: \"\x7bapp\x7d\"; Flags: ignoreversion",
           ""])] ∧
      (linesIn "Files" (sectionsOf text)).filter (fun l => (l.argument? "DestName").isSome) =
        [(FileItem.renamed "/a/demo_app.exe" "DemoApp.exe").line.asRead] := by
  have hs := simple_mixedChildren
  obtain ⟨h', -, hrender⟩ := hs.exists_render suits_link []
  obtain ⟨parts, h₁, names, hg', htext, hicon, hlists, -, -, -, houtline, hread⟩ :=
    files_of_render hrender
  obtain rfl := hs.gathers_eq suits_link hg'
  obtain rfl : folderHost mixedChildren = h₁ := (Prod.mk.inj hicon).2
  obtain rfl := hs.lists.eq hlists
  have hlegible : (folderParts linkRequest linkPlaces mixedChildren mixedNames).Legible
      linkRequest.config := legible_folderParts tame_link (by decide)
  have hexe : (folderHost mixedChildren).isDirectory (join "/a" "demo_app.exe") = false :=
    hs.isDirectory [] (c := ("demo_app.exe", false)) (by decide)
  refine ⟨_, h', _, hrender, hg', htext, hlegible, ?_, ?_⟩
  · rw [(houtline (by decide) (by decide) (by decide) (by decide) (by decide)).mpr
      ⟨by decide, by decide⟩, ← render_items hs.map_child.symm]
    decide
  · exact (hread hlegible).trans (if_pos ⟨by decide, rfl, by decide, hexe⟩)

/-- A line break in the name of a child makes two lines of its entry, and quotation marks in it make a
name of what follows them. -/
theorem files_of_render_broken :
    (∃ h₀ text h' parts, perform (Project.resolve linkManifest {} none)
        (folderHost [("x\ny", false)]) = (.ok linkRequest.config, h₀) ∧
      perform linkRequest.render h₀ = (.ok text, h') ∧
      linkRequest.Gathers h₀ parts h' ∧ text = parts.text linkRequest.config ∧
      ¬ ∃ entries : List String, entries.length = parts.children.length + parts.staged.length ∧
        pieces '\n' (files parts.items).render = "[Files]" :: entries ++ [""]) ∧
    ∃ h₀ text h', perform (Project.resolve linkManifest {} none)
        (folderHost [("x\"; DestName: \"y", false)]) = (.ok linkRequest.config, h₀) ∧
      perform linkRequest.render h₀ = (.ok text, h') ∧
      h₀.Lists "/a" ["x\"; DestName: \"y"] ∧
      ∃ l ∈ linesIn "Files" (sectionsOf text), l.argument? "DestName" = some "y" := by
  constructor
  · have hs : Simple [("x\ny", false)] ["x\ny"] := simple_of_sorted (by decide) (by decide)
    obtain ⟨log, hr⟩ := hs.resolve_link
    obtain ⟨h', hg, hrender⟩ := hs.exists_render suits_link log
    refine ⟨_, _, h', _, hr, hrender, hg, rfl, ?_⟩
    rintro ⟨entries, hlength, hpieces⟩
    have hlines : (pieces '\n' (files (folderParts linkRequest linkPlaces [("x\ny", false)]
        ["x\ny"]).items).render).length = 4 := by decide
    have hcount : entries.length = 1 := hlength
    rw [hpieces, List.length_append, List.length_cons, hcount] at hlines
    exact absurd hlines (by decide)
  · have hs : Simple [("x\"; DestName: \"y", false)] ["x\"; DestName: \"y"] :=
      simple_of_sorted (by decide) (by decide)
    obtain ⟨log, hr⟩ := hs.resolve_link
    obtain ⟨h', -, hrender⟩ := hs.exists_render suits_link log
    have hone := oneLine_folderParts tame_link [("x\"; DestName: \"y", false)] ["x\"; DestName: \"y"]
      (by decide)
    obtain ⟨l, hline, hname⟩ := Option.bind_eq_some_iff.mp
      (by decide : (Line.ofText? "Files" (FileItem.plain "/a/x\"; DestName: \"y").line.render).bind
        (Line.argument? "DestName") = some "y")
    refine ⟨_, _, h', hr, hrender, hs.lists, l, ?_, hname⟩
    rw [Parts.linesIn_files_of_oneLine hone]
    exact List.mem_filterMap.mpr ⟨_, .head _, hline⟩

end Sample

end Request

end Script

end FlutterInstaller
