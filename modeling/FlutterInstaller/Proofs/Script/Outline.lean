import FlutterInstaller.Proofs.Config.Lines
import FlutterInstaller.Proofs.Script.Staging
import Mathlib.Data.List.Forall2

/-!
A script as its compiler divides it: cut into lines, which are grouped under the lines that open with
a bracket. The outline of a rendered script is the one of its sections exactly when every text that is
written as it is stands on one line.
-/
namespace FlutterInstaller

namespace Script

open Text

def isHeader (l : String) : Bool := l.toList.head? == some '['

/-- The lines before the first section, and each section with the lines under its header. -/
structure Outline where
  opening : List String
  sections : List (String × List String)
  deriving DecidableEq

namespace Outline

def ofLines : List String → Outline
  | [] => ⟨[], []⟩
  | l :: ls =>
    let rest := ofLines ls
    if isHeader l then ⟨[], (l, rest.opening) :: rest.sections⟩
    else ⟨l :: rest.opening, rest.sections⟩

def ofText (text : String) : Outline := ofLines (pieces '\n' text)

def lineCount (o : Outline) : Nat :=
  o.opening.length + (o.sections.map fun s => s.2.length + 1).sum

theorem lineCount_ofLines (ls : List String) : (ofLines ls).lineCount = ls.length := by
  induction ls with
  | nil => rfl
  | cons l ls ih =>
    unfold lineCount at ih
    by_cases hl : isHeader l = true
    · simp only [ofLines, hl, if_true, lineCount, List.length_nil, List.map_cons, List.sum_cons,
        List.length_cons]
      omega
    · simp only [ofLines, hl, lineCount, List.length_cons]
      simp only [Bool.false_eq_true, if_false, List.length_cons]
      omega

theorem ofLines_append {body : List String} (hbody : ∀ l ∈ body, isHeader l = false)
    (ls : List String) :
    ofLines (body ++ ls) = ⟨body ++ (ofLines ls).opening, (ofLines ls).sections⟩ := by
  induction body with
  | nil => rfl
  | cons l body ih =>
    obtain ⟨hl, hbody⟩ := List.forall_mem_cons.mp hbody
    simp [ofLines, hl, ih hbody]

theorem ofLines_blocks {blocks : List (String × List String)}
    (hblocks : ∀ b ∈ blocks, isHeader b.1 = true ∧ ∀ l ∈ b.2, isHeader l = false) :
    ofLines (blocks.flatMap fun b => b.1 :: b.2) = ⟨[], blocks⟩ := by
  induction blocks with
  | nil => rfl
  | cons b blocks ih =>
    obtain ⟨⟨hheader, hbody⟩, hblocks⟩ := List.forall_mem_cons.mp hblocks
    simp [ofLines, hheader, ofLines_append hbody, ih hblocks]

theorem mem_of_mem_ofLines (ls : List String) :
    (∀ l ∈ (ofLines ls).opening, l ∈ ls) ∧ ∀ b ∈ (ofLines ls).sections, ∀ l ∈ b.2, l ∈ ls := by
  induction ls with
  | nil => simp [ofLines]
  | cons l ls ih =>
    obtain ⟨hopening, hsections⟩ := ih
    by_cases hl : isHeader l = true
    · simp only [ofLines, hl, if_true, List.not_mem_nil, false_imp_iff, implies_true, true_and,
        List.forall_mem_cons]
      exact ⟨fun k hk => List.mem_cons_of_mem _ (hopening k hk),
        fun b hb k hk => List.mem_cons_of_mem _ (hsections b hb k hk)⟩
    · simp only [ofLines, hl, if_false, List.forall_mem_cons, Bool.false_eq_true]
      exact ⟨⟨List.mem_cons_self, fun k hk => List.mem_cons_of_mem _ (hopening k hk)⟩,
        fun b hb k hk => List.mem_cons_of_mem _ (hsections b hb k hk)⟩

theorem oneLine_of_mem_sections {text : String} {b : String × List String}
    (hb : b ∈ (ofText text).sections) {l : String} (hl : l ∈ b.2) : OneLine l :=
  not_mem_of_mem_pieces ((mem_of_mem_ofLines _).2 b hb l hl)

theorem exists_mem_sections (before after : List String) {header l : String}
    (hheader : isHeader header = true) (hl : isHeader l = false) :
    ∃ b ∈ (ofLines (before ++ header :: l :: after)).sections, b.1 = header ∧ l ∈ b.2 := by
  induction before with
  | nil => simp [ofLines, hheader, hl]
  | cons x before ih =>
    obtain ⟨b, hb, hmem⟩ := ih
    by_cases hx : isHeader x = true
    · exact ⟨b, by simp [ofLines, hx, hb], hmem⟩
    · exact ⟨b, by simpa [ofLines, hx] using hb, hmem⟩

end Outline

def commentLines : List String :=
  ["; Inno Setup script generated by inno_bundle.",
   "; Changes are overwritten on the next build; edit pubspec.yaml instead.", ""]

def Section.block (s : Section) : String × List String :=
  ("[" ++ s.name ++ "]", s.lines.map Line.render ++ [""])

def scriptLines (ss : List Section) : List String :=
  commentLines ++ (ss.map Section.block).flatMap fun b => b.1 :: b.2

theorem Section.render_eq (s : Section) :
    s.render = "\n".intercalate (s.block.1 :: s.block.2) := by
  have hlines := join_ended (s.lines.map Line.render)
  rw [List.map_map] at hlines
  have hbody : s.lines.map Line.render ++ [""] ≠ [] := by simp
  rw [block, String.intercalate_cons_of_ne_nil hbody, ← hlines, Section.render]
  simp [String.append_assoc, Function.comp_def]

theorem pieces_render {ss : List Section} (hss : ss ≠ []) :
    pieces '\n' (render ss) = (scriptLines ss).flatMap (pieces '\n') := by
  have hbody : ∀ ss : List Section, (ss.map Section.render).flatMap (pieces '\n') =
      ((ss.map Section.block).flatMap fun b => b.1 :: b.2).flatMap (pieces '\n') := by
    intro ss
    induction ss with
    | nil => rfl
    | cons s ss ih =>
      rw [List.map_cons, List.flatMap_cons, ih, s.render_eq, pieces_intercalate rfl (by simp)]
      simp
  have hpreamble : preamble = "\n".intercalate commentLines ++ "\n" := by decide
  rw [render, hpreamble, pieces_append rfl, pieces_intercalate rfl (by decide),
    pieces_intercalate rfl (by simpa using hss), hbody, scriptLines, List.flatMap_append]

theorem exists_append_render {s : Section} {ss : List Section} (hs : s ∈ ss) :
    ∃ before after, render ss = before ++ s.render ++ after := by
  suffices h : ∃ before after, "\n".intercalate (ss.map Section.render) =
      before ++ s.render ++ after by
    obtain ⟨before, after, h⟩ := h
    exact ⟨preamble ++ before, after, by rw [render, h]; simp [String.append_assoc]⟩
  induction ss with
  | nil => cases hs
  | cons t ss ih =>
    by_cases hss : ss.map Section.render = []
    · rw [List.map_eq_nil_iff] at hss
      subst hss
      obtain rfl := List.mem_singleton.mp hs
      exact ⟨"", "", by simp⟩
    · rw [List.map_cons, String.intercalate_cons_of_ne_nil hss]
      rcases List.mem_cons.mp hs with rfl | hs
      · exact ⟨"", "\n" ++ "\n".intercalate (ss.map Section.render), by simp [String.append_assoc]⟩
      · obtain ⟨before, after, h⟩ := ih hs
        exact ⟨t.render ++ "\n" ++ before, after, by rw [h]; simp [String.append_assoc]⟩

theorem forall_scriptLines_oneLine_iff {ss : List Section} :
    (∀ l ∈ scriptLines ss, OneLine l) ↔
      ∀ s ∈ ss, OneLine s.name ∧ ∀ l ∈ s.lines, OneLine l.render := by
  have hcomment : ∀ l ∈ commentLines, OneLine l := by decide
  have hblock : ∀ s : Section, (∀ l ∈ s.block.1 :: s.block.2, OneLine l) ↔
      OneLine s.name ∧ ∀ l ∈ s.lines, OneLine l.render := by
    intro s
    have hopen : OneLine "[" := by decide
    have hclose : OneLine "]" := by decide
    have hend : OneLine "" := by decide
    simp [Section.block, or_imp, forall_and, hopen, hclose, hend]
  rw [scriptLines, List.forall_mem_append]
  simp only [List.forall_mem_flatMap, List.forall_mem_map, hblock]
  exact ⟨And.right, fun h => ⟨hcomment, h⟩⟩

theorem outline_render {ss : List Section} (hss : ss ≠ []) (hone : ∀ l ∈ scriptLines ss, OneLine l)
    (hlines : ∀ s ∈ ss, ∀ l ∈ s.lines, isHeader l.render = false) :
    Outline.ofText (render ss) = ⟨commentLines, ss.map Section.block⟩ := by
  have hblocks : ∀ b ∈ ss.map Section.block, isHeader b.1 = true ∧ ∀ l ∈ b.2, isHeader l = false := by
    intro b hb
    obtain ⟨s, hs, rfl⟩ := List.mem_map.mp hb
    refine ⟨by simp [isHeader, Section.block], ?_⟩
    have hend : isHeader "" = false := rfl
    simpa [Section.block, or_imp, forall_and, hend] using hlines s hs
  rw [Outline.ofText, pieces_render hss, flatMap_pieces hone, scriptLines,
    Outline.ofLines_append (by decide), Outline.ofLines_blocks hblocks, List.append_nil]

theorem oneLine_of_lineCount {ss : List Section} (hss : ss ≠ [])
    (hcount : (Outline.ofText (render ss)).lineCount = (scriptLines ss).length) :
    ∀ l ∈ scriptLines ss, OneLine l := by
  rw [Outline.ofText, Outline.lineCount_ofLines, pieces_render hss] at hcount
  exact oneLine_of_length_flatMap_pieces hcount

structure Bodies where
  setup : List String
  installDelete : List String
  languages : List String
  tasks : List String
  files : List String
  icons : List String
  run : List String

def Bodies.outline (b : Bodies) : Outline where
  opening := commentLines
  sections :=
    [("[Setup]", b.setup ++ [""]), ("[InstallDelete]", b.installDelete ++ [""]),
     ("[Languages]", b.languages ++ [""]), ("[Tasks]", b.tasks ++ [""]), ("[Files]", b.files ++ [""]),
     ("[Icons]", b.icons ++ [""]), ("[Run]", b.run ++ [""])]

def directiveKeys (licensed : Bool) : List String :=
  ["AppId", "AppName", "UninstallDisplayName", "UninstallDisplayIcon", "AppVersion", "AppComments",
   "AppPublisher", "AppPublisherURL", "AppSupportURL", "AppUpdatesURL", "DefaultDirName",
   "PrivilegesRequired", "OutputDir", "OutputBaseFilename", "SetupIconFile"] ++
    (if licensed then ["LicenseFile"] else []) ++
    ["Compression", "SolidCompression", "WizardStyle", "ArchitecturesAllowed",
     "ArchitecturesInstallIn64BitMode", "DisableWelcomePage", "DisableDirPage",
     "DisableProgramGroupPage", "DisableReadyMemo", "DisableReadyPage", "DisableFinishedPage"]

def Directs (key l : String) : Prop := ∃ value, l = key ++ "=" ++ value

structure Bodies.Fit (b : Bodies) (c : Config) (fileCount : Nat) : Prop where
  setup : List.Forall₂ Directs (directiveKeys c.license.isSome) b.setup
  installDelete : b.installDelete.length = 1
  languages : b.languages.length = c.languages.length
  tasks : b.tasks.length = 1
  files : b.files.length = fileCount
  icons : b.icons.length = 2
  run : b.run.length = 1

/-- An outline of the seven sections that a configuration asks for, and of nothing else. -/
def Outline.Fits (o : Outline) (c : Config) (fileCount : Nat) : Prop :=
  ∃ b : Bodies, o = b.outline ∧ b.Fit c fileCount

def Line.key : Line → String
  | .directive key _ => key
  | .entry [] => ""
  | .entry (p :: _) => p.key

def IsKey (key : String) : Prop := key.toList.head?.any Char.isAlpha = true

instance : DecidablePred IsKey := fun _ => inferInstanceAs (Decidable (_ = true))

theorem Line.exists_render_eq (l : Line) : ∃ s, l.render = l.key ++ s := by
  cases l with
  | directive key value => exact ⟨"=" ++ value, String.append_assoc⟩
  | entry parameters =>
    cases parameters with
    | nil => exact ⟨"", rfl⟩
    | cons p ps =>
      by_cases hps : ps = []
      · subst hps
        rw [Line.render, List.map_singleton, String.intercalate_singleton, Parameter.render,
          String.append_assoc]
        exact ⟨_, rfl⟩
      · rw [Line.render, List.map_cons, String.intercalate_cons_of_ne_nil (by simpa using hps),
          Parameter.render, String.append_assoc, String.append_assoc, String.append_assoc]
        exact ⟨_, rfl⟩

theorem Line.exists_toList_render {l : Line} (hl : IsKey l.key) :
    ∃ c cs, c.isAlpha = true ∧ l.render.toList = c :: cs := by
  obtain ⟨s, hrender⟩ := l.exists_render_eq
  rw [hrender, String.toList_append]
  unfold IsKey at hl
  cases hkey : l.key.toList with
  | nil => simp [hkey] at hl
  | cons c cs => exact ⟨c, cs ++ s.toList, by simpa [hkey] using hl, rfl⟩

theorem Line.isHeader_render {l : Line} (hl : IsKey l.key) : isHeader l.render = false := by
  obtain ⟨c, cs, hc, hrender⟩ := exists_toList_render hl
  rw [isHeader, hrender, List.head?_cons, beq_eq_false_iff_ne]
  intro he
  rw [Option.some.inj he] at hc
  exact absurd hc (by decide)

section Sections

variable {c : Config} {output icon : String} {items : List FileItem}

theorem directs_directive (key value : String) :
    Directs key (Line.render (.directive key value)) := ⟨value, rfl⟩

theorem directs_setup :
    List.Forall₂ Directs (directiveKeys c.license.isSome)
      ((setup c output icon).lines.map Line.render) := by
  cases hl : c.license <;> simp [directiveKeys, setup, hl, directs_directive]

theorem length_setup :
    (setup c output icon).lines.length = (directiveKeys c.license.isSome).length := by
  cases hl : c.license <;> simp [directiveKeys, setup, hl]

theorem length_scriptLines_sections :
    (scriptLines (Script.sections c output icon items)).length =
      (directiveKeys c.license.isSome).length + c.languages.length + items.length + 22 := by
  simp [scriptLines, Script.sections, Section.block, commentLines, length_setup, installDelete,
    languages, tasks, files, icons, run]
  omega

theorem Outline.Fits.lineCount_eq {o : Outline} (h : o.Fits c items.length) :
    o.lineCount = (scriptLines (Script.sections c output icon items)).length := by
  obtain ⟨b, rfl, h⟩ := h
  have hsetup := h.setup.length_eq
  have hinstall := h.installDelete
  have hlanguages := h.languages
  have htasks := h.tasks
  have hfiles := h.files
  have hicons := h.icons
  have hrun := h.run
  rw [length_scriptLines_sections]
  simp only [Outline.lineCount, Bodies.outline, commentLines, List.map_cons, List.map_nil,
    List.sum_cons, List.sum_nil, List.length_append, List.length_cons, List.length_nil]
  omega

theorem isKey_sections {s : Section} (hs : s ∈ Script.sections c output icon items) :
    ∀ l ∈ s.lines, IsKey l.key := by
  simp only [Script.sections, List.mem_cons, List.not_mem_nil, or_false] at hs
  rcases hs with rfl | rfl | rfl | rfl | rfl | rfl | rfl
  · cases hl : c.license <;> simp +decide [setup, hl, Line.key]
  · decide
  · simp +decide [languages, Line.key, quoted]
  · decide
  · simp only [files, List.forall_mem_map]
    intro item _
    cases item <;> simp +decide [FileItem.line, Line.key, quoted]
  · simp +decide [icons, Line.key, quoted]
  · simp +decide [run, Line.key, quoted]

theorem oneLine_directive {key value : String} :
    OneLine (Line.render (.directive key value)) ↔ OneLine key ∧ OneLine value := by
  have hmark : OneLine "=" := by decide
  simp [Line.render, hmark]

theorem oneLine_entry {ps : List Parameter} :
    OneLine (Line.render (.entry ps)) ↔ ∀ p ∈ ps, OneLine p.render := by
  rw [Line.render, oneLine_intercalate (by decide), List.forall_mem_map]

theorem oneLine_quoted {key text : String} :
    OneLine (quoted key text).render ↔ OneLine key ∧ OneLine text := by
  have hcolon : OneLine ": " := by decide
  have hquote : OneLine "\"" := by decide
  simp [quoted, Parameter.render, Argument.render, hcolon, hquote]

theorem oneLine_bare {key text : String} :
    OneLine (bare key text).render ↔ OneLine key ∧ OneLine text := by
  have hcolon : OneLine ": " := by decide
  simp [bare, Parameter.render, Argument.render, hcolon]

theorem oneLine_below {constant name : String} :
    OneLine (below constant name) ↔ OneLine constant ∧ OneLine name := by
  have hopen : OneLine "\x7b" := by decide
  have hclose : OneLine "\x7d\\" := by decide
  simp [below, hopen, hclose]

theorem oneLine_freeText (s : String) : OneLine (freeText s) := by simp [freeText]

theorem oneLine_targetExe (hname : OneLine c.displayName) : OneLine c.targetExe := by
  simpa [Config.targetExe, OneLine] using hname

theorem oneLine_installerName : OneLine c.installerName ↔ OneLine c.version := by
  have harch : OneLine "-x86_64-" := by decide
  have hend : OneLine "-Installer" := by decide
  simp [Config.installerName, Config.camelCaseName, harch, hend]

theorem oneLine_setup_iff (hname : OneLine c.displayName) :
    (∀ l ∈ (setup c output icon).lines, OneLine l.render) ↔
      OneLine c.version ∧ OneLine output ∧ OneLine icon ∧
        ∀ place ∈ c.license, OneLine (Path.text place) := by
  have hadmin : OneLine (if c.admin then "admin" else "lowest") := by
    split <;> decide
  have hlicense :
      (∀ l ∈ (c.license.map fun place => Line.directive "LicenseFile" (Path.text place)).toList,
        OneLine l.render) ↔ ∀ place ∈ c.license, OneLine (Path.text place) := by
    have hkey : OneLine "LicenseFile" := by decide
    cases c.license <;> simp [oneLine_directive, hkey]
  simp only [setup, List.forall_mem_append, List.forall_mem_cons, hlicense, oneLine_directive,
    oneLine_below, oneLine_freeText, oneLine_pageSwitch, yesNo, hadmin, hname,
    oneLine_targetExe hname, oneLine_installerName, oneLine_append, oneLine_uuid]
  -- what is left are the keys and the fixed values, which are short
  simp [OneLine]
  tauto

theorem oneLine_installDelete : ∀ l ∈ installDelete.lines, OneLine l.render := by decide

theorem oneLine_tasks : ∀ l ∈ tasks.lines, OneLine l.render := by
  simp only [tasks, List.forall_mem_cons, oneLine_entry, oneLine_quoted, oneLine_bare]
  simp [OneLine]

theorem oneLine_languages : ∀ l ∈ (languages c).lines, OneLine l.render := by
  have hlanguage : ∀ l : Language, OneLine l.name ∧ OneLine l.messagesFile := by
    intro l
    cases l <;> decide
  simp only [languages, List.forall_mem_map, oneLine_entry, List.forall_mem_cons, oneLine_quoted,
    hlanguage]
  simp [OneLine]

theorem oneLine_icons (hname : OneLine c.displayName) : ∀ l ∈ (icons c).lines, OneLine l.render := by
  simp only [icons, List.forall_mem_cons, oneLine_entry, oneLine_quoted, oneLine_bare, oneLine_below,
    hname, oneLine_targetExe hname]
  simp [OneLine]

theorem oneLine_run (hname : OneLine c.displayName) : ∀ l ∈ (run c).lines, OneLine l.render := by
  have hlabel : OneLine (label c.displayName) := by simpa [label] using hname
  simp only [run, List.forall_mem_cons, oneLine_entry, oneLine_quoted, oneLine_bare, oneLine_below,
    oneLine_append, hlabel, oneLine_targetExe hname]
  simp [OneLine]

theorem oneLine_plain_iff {path : String} :
    OneLine (FileItem.line (.plain path)).render ↔ OneLine path := by
  simp only [FileItem.line, oneLine_entry, List.forall_mem_cons, oneLine_quoted, oneLine_bare]
  simp [OneLine]

theorem oneLine_ofChild_iff (hname : OneLine c.displayName) {path name : String} {isDirectory : Bool}
    (hpath : OneLine path → OneLine name) :
    OneLine (FileItem.ofChild c path name isDirectory).line.render ↔ OneLine path := by
  unfold FileItem.ofChild
  split
  · simp only [FileItem.line, oneLine_entry, List.forall_mem_cons, oneLine_quoted, oneLine_bare,
      oneLine_below, oneLine_append]
    simp [OneLine] at *
    tauto
  · split
    · simp only [FileItem.line, oneLine_entry, List.forall_mem_cons, oneLine_quoted, oneLine_bare,
        oneLine_targetExe hname]
      simp [OneLine]
    · exact oneLine_plain_iff

end Sections

theorem not_mem_of_join {base p : String} {c : Char} (h : c ∉ (Path.join base p).toList) :
    c ∉ p.toList := by
  unfold Path.join at h
  split_ifs at h <;> simp_all

theorem oneLine_of_join {base p : String} (h : OneLine (Path.join base p)) : OneLine p :=
  not_mem_of_join h

def FileItem.source : FileItem → String
  | .directory path _ => path
  | .renamed path _ => path
  | .plain path => path

theorem FileItem.source_ofChild (c : Config) (path name : String) (isDirectory : Bool) :
    (FileItem.ofChild c path name isDirectory).source = path := by
  unfold FileItem.ofChild
  split
  · rfl
  · split <;> rfl

/-- No text that is written as it is has a line break: the version, the paths of the output, the
icon and the license, and the files. -/
structure Parts.Unbroken (parts : Parts) (c : Config) : Prop where
  version : OneLine c.version
  output : OneLine parts.places.output
  icon : OneLine parts.icon
  license : ∀ place ∈ c.license, OneLine (Path.text place)
  children : ∀ child ∈ parts.children, OneLine child.source
  staged : ∀ path ∈ parts.staged, OneLine path

def Parts.OfFolder (parts : Parts) (c : Config) : Prop :=
  ∀ child ∈ parts.children, ∃ app name isDirectory,
    child = FileItem.ofChild c (Path.join app name) name isDirectory

theorem Request.Gathers.ofFolder {r : Request} {h h' : Host} {parts : Parts}
    (hg : r.Gathers h parts h') : parts.OfFolder r.config := by
  obtain ⟨names, h₁, _, _, hchildren, _⟩ := hg.steps
  intro child hchild
  rw [hchildren] at hchild
  obtain ⟨name, _, rfl⟩ := List.mem_map.mp hchild
  exact ⟨_, name, _, rfl⟩

theorem Parts.forall_oneLine_iff {parts : Parts} {c : Config} (hname : OneLine c.displayName)
    (hchildren : parts.OfFolder c) :
    (∀ l ∈ scriptLines (parts.sections c), OneLine l) ↔ parts.Unbroken c := by
  have hitems : (∀ l ∈ (files parts.items).lines, OneLine l.render) ↔
      (∀ child ∈ parts.children, OneLine child.source) ∧ ∀ path ∈ parts.staged, OneLine path := by
    have hsource : ∀ child ∈ parts.children, OneLine child.line.render ↔ OneLine child.source := by
      intro child hchild
      obtain ⟨app, name, isDirectory, rfl⟩ := hchildren child hchild
      rw [oneLine_ofChild_iff hname oneLine_of_join, FileItem.source_ofChild]
    simp only [files, Parts.items, List.forall_mem_map, List.forall_mem_append, oneLine_plain_iff]
    exact and_congr_left' (forall₂_congr hsource)
  have hheaders : ∀ s ∈ parts.sections c, OneLine s.name := by
    simp [Parts.sections, Script.sections, setup, installDelete, languages, tasks, files, icons, run,
      OneLine]
  rw [forall_scriptLines_oneLine_iff]
  constructor
  · intro h
    obtain ⟨hversion, houtput, hicon, hlicense⟩ :=
      (oneLine_setup_iff hname).mp (h (setup c parts.places.output parts.icon)
        (by simp [Parts.sections, Script.sections])).2
    obtain ⟨hchild, hstaged⟩ := hitems.mp (h (files parts.items)
      (by simp [Parts.sections, Script.sections])).2
    exact ⟨hversion, houtput, hicon, hlicense, hchild, hstaged⟩
  · intro h s hs
    refine ⟨hheaders s hs, ?_⟩
    simp only [Parts.sections, Script.sections, List.mem_cons, List.not_mem_nil, or_false] at hs
    rcases hs with rfl | rfl | rfl | rfl | rfl | rfl | rfl
    · exact (oneLine_setup_iff hname).mpr ⟨h.version, h.output, h.icon, h.license⟩
    · exact oneLine_installDelete
    · exact oneLine_languages
    · exact oneLine_tasks
    · exact hitems.mpr ⟨h.children, h.staged⟩
    · exact oneLine_icons hname
    · exact oneLine_run hname

def Parts.bodies (parts : Parts) (c : Config) : Bodies where
  setup := (setup c parts.places.output parts.icon).lines.map Line.render
  installDelete := installDelete.lines.map Line.render
  languages := (languages c).lines.map Line.render
  tasks := tasks.lines.map Line.render
  files := (files parts.items).lines.map Line.render
  icons := (icons c).lines.map Line.render
  run := (run c).lines.map Line.render

theorem Parts.fit_bodies (parts : Parts) (c : Config) :
    (parts.bodies c).Fit c parts.items.length where
  setup := directs_setup
  installDelete := rfl
  languages := by simp [bodies, Script.languages]
  tasks := rfl
  files := by simp [bodies, Script.files]
  icons := rfl
  run := rfl

theorem Parts.outline_text {parts : Parts} {c : Config}
    (hone : ∀ l ∈ scriptLines (parts.sections c), OneLine l) :
    Outline.ofText (parts.text c) = (parts.bodies c).outline := by
  have hss : parts.sections c ≠ [] := by simp [sections, Script.sections]
  rw [text, outline_render hss hone fun s hs l hl => Line.isHeader_render (isKey_sections hs l hl)]
  rfl

theorem Parts.fits_iff {parts : Parts} {c : Config}
    (hlines : (∀ l ∈ scriptLines (parts.sections c), OneLine l) ↔ parts.Unbroken c) :
    (Outline.ofText (parts.text c)).Fits c parts.items.length ↔ parts.Unbroken c := by
  have hss : parts.sections c ≠ [] := by simp [sections, Script.sections]
  constructor
  · intro h
    exact hlines.mp (oneLine_of_lineCount hss h.lineCount_eq)
  · intro h
    exact ⟨parts.bodies c, Parts.outline_text (hlines.mpr h), parts.fit_bodies c⟩

/-- Whatever a project resolves to and whatever the host holds: a rendered script is divided into the
comment and the seven sections, with a line for every directive, language and file, exactly when no
text that it writes as it is has a line break. -/
theorem outline_render_fits_iff {m : Manifest} {o : Overrides} {w : Option String} {h₀ h₀' : Host}
    {r : Request} (hr : perform (Project.resolve m o w) h₀ = (.ok r.config, h₀')) {h h' : Host}
    {text : String} (ht : perform r.render h = (.ok text, h')) :
    ∃ parts, r.Gathers h parts h' ∧ text = parts.text r.config ∧
      ((Outline.ofText text).Fits r.config (parts.children.length + parts.staged.length) ↔
        parts.Unbroken r.config) := by
  obtain ⟨b, _, hc⟩ := Project.perform_resolve_eq_ok_iff.mp ⟨h₀', hr⟩
  obtain ⟨parts, hparts, rfl⟩ := Request.perform_render_eq_ok_iff.mp ht
  refine ⟨parts, hparts, rfl, ?_⟩
  have hcount : parts.children.length + parts.staged.length = parts.items.length := by
    simp [Parts.items]
  rw [hcount]
  exact Parts.fits_iff (Parts.forall_oneLine_iff hc.oneLine_displayName hparts.ofFolder)

def versionRequest (version : String) : Request where
  config := { sampleConfig with version }
  appDirectory := "/a"
  stagingDirectory := some "/s"

def versionHost : Host := sampleHost [(["a"], .directory), (["s"], .directory)]

theorem standing_versionHost : versionHost.Standing [] :=
  ⟨rfl, @FileSystem.plain_ofDirectories [["a"], ["s"]] (by decide) (by decide), rfl⟩

def versionPlaces : Places :=
  ⟨"/a", "/build/windows/x64/installer/Release", "/s", "C:\\Windows/System32"⟩

theorem placesFrom_versionRequest (version : String) :
    versionPlaces = (versionRequest version).placesFrom versionHost [] := by
  have hplaces : versionPlaces = (versionRequest "").placesFrom versionHost [] := by decide
  rw [hplaces]
  rfl

theorem render_versionRequest (version : String) :
    ∃ text h', perform (versionRequest version).render versionHost = (.ok text, h') := by
  have hst := standing_versionHost
  have hplaces : perform (versionRequest version).places versionHost =
      (.ok versionPlaces, versionHost) :=
    Request.perform_places_eq_ok_iff.mpr
      ⟨rfl, [], hst.currentDirectory, placesFrom_versionRequest version⟩
  have happ : versionHost.isDirectory "/a" = true := by
    refine (hst.isDirectory_iff (by decide)).mpr ⟨by decide, ?_⟩
    rw [show Path.locate [] "/a" = ["a"] by decide]
    rfl
  obtain ⟨h₁, hwrite, hst₁, hsame⟩ := Action.writeFile_entry (l := ["s"]) (n := "installer.ico") hst
    (by decide) (by decide) (by decide) rfl rfl DefaultIcon.content
  have happ₁ : h₁.isDirectory "/a" = true := by
    rw [← happ]
    refine hst₁.isDirectory_congr hst (by decide) ?_
    rw [hsame _ (by decide)]
  obtain ⟨text, lines, hrender⟩ := Request.render_of_writeFile hplaces rfl rfl (by decide) happ
    hst₁ hwrite happ₁
  exact ⟨text, _, hrender⟩

theorem outline_render_broken :
    let r := versionRequest "1.0\n[Code]"
    ∃ h₀ h' text parts, perform (Project.resolve (sampleManifest "demo_app" [])
        { version := some "1.0\n[Code]" } none) versionHost = (.ok r.config, h₀) ∧
      perform r.render versionHost = (.ok text, h') ∧ r.Gathers versionHost parts h' ∧
      text = parts.text r.config ∧
      ¬ (Outline.ofText text).Fits r.config (parts.children.length + parts.staged.length) := by
  intro r
  have hc : Config.resolve ⟨sampleManifest "demo_app" [], { version := some "1.0\n[Code]" }, [],
      versionHost.files⟩ = .ok r.config := rfl
  obtain ⟨h₀, hr⟩ := Project.perform_resolve_eq_ok_iff.mpr
    ⟨[], perform_base_sampleHost _, Config.resolve_eq_ok_iff.mp hc⟩
  obtain ⟨text, h', hrender⟩ := render_versionRequest "1.0\n[Code]"
  obtain ⟨parts, hparts, htext, hiff⟩ := outline_render_fits_iff hr hrender
  exact ⟨h₀, h', text, parts, hr, hrender, hparts, htext,
    fun hfits => absurd (hiff.mp hfits).version (by decide)⟩

end Script

end FlutterInstaller
