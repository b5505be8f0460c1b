import FlutterInstaller.Proofs.Script.Parameters

/-!
A script as it is read from its text: the sections of its outline, with each line read as a directive or
for its parameters, whose values are all that is kept of them. A script that has no broken line and no
quotation mark in what it quotes is read for the sections that it was written from.
-/
namespace FlutterInstaller.Script

open Text

def Literal (s : String) : Prop := '"' ∉ s.toList ∧ '\x7b' ∉ s.toList

def argument? (key : String) (ps : List Parameter) : Option String :=
  (ps.find? fun p => p.key = key).map fun p => p.argument.text

def Line.argument? (key : String) : Line → Option String
  | .directive .. => none
  | .entry ps => Script.argument? key ps

def isSilent (l : String) : Bool := l.toList.head?.all (· == ';')

def Line.ofText? (name l : String) : Option Line :=
  if isSilent l then none
  else if name = "Setup" then (Config.variableOfLine? l).map fun kv => .directive kv.1 kv.2
  else (parameters? l).map fun kvs => .entry (kvs.map fun kv => quoted kv.1 kv.2)

def headerName (l : String) : String := String.ofList ((l.toList.drop 1).takeWhile (· ≠ ']'))

def Section.ofBlock (b : String × List String) : Section where
  name := headerName b.1
  lines := b.2.filterMap (Line.ofText? (headerName b.1))

def sectionsOf (text : String) : List Section := (Outline.ofText text).sections.map Section.ofBlock

/-- The lines of all sections of a name. -/
def linesIn (name : String) (ss : List Section) : List Line :=
  (ss.filter fun s => s.name = name).flatMap Section.lines

def Parameter.asRead (p : Parameter) : Parameter := quoted p.key p.argument.text

/-- A line without the difference between quoted and bare values. -/
def Line.asRead : Line → Line
  | .directive key value => .directive key value
  | .entry ps => .entry (ps.map Parameter.asRead)

def Section.asRead (s : Section) : Section where
  name := s.name
  lines := s.lines.map Line.asRead

def Section.read (s : Section) : Section where
  name := s.name
  lines := s.lines.filterMap fun l => Line.ofText? s.name l.render

structure Parameter.Clear (p : Parameter) : Prop extends p.Proper where
  mark : '"' ∉ p.argument.text.toList

def Line.Clear (name : String) : Line → Prop
  | .directive key _ => name = "Setup" ∧ '=' ∉ key.toList
  | .entry ps => name ≠ "Setup" ∧ ∀ p ∈ ps, p.Clear

section Read

variable {name key : String} {ps : List Parameter} {l : Line} {s : Section} {ss : List Section}

theorem argument?_asRead (key : String) (ps : List Parameter) :
    argument? key (ps.map Parameter.asRead) = argument? key ps := by
  rw [argument?, argument?, List.find?_map, Option.map_map]
  rfl

theorem Line.argument?_asRead (key : String) (l : Line) :
    l.asRead.argument? key = l.argument? key := by
  cases l with
  | directive key value => rfl
  | entry ps => exact Script.argument?_asRead key ps

theorem linesIn_map_asRead (name : String) (ss : List Section) :
    linesIn name (ss.map Section.asRead) = (linesIn name ss).map Line.asRead := by
  rw [linesIn, List.filter_map, List.flatMap_map, linesIn, List.map_flatMap]
  rfl

theorem parameters?_render (hps : ∀ p ∈ ps, p.Clear) :
    parameters? (Line.entry ps).render = some (ps.map fun p => (p.key, p.argument.text)) := by
  induction ps with
  | nil => rfl
  | cons p ps ih =>
    obtain ⟨hp, hps⟩ := List.forall_mem_cons.mp hps
    have hmark := hp.mark
    have hgives : p.Gives (p.key, p.argument.text) := by
      refine ⟨rfl, ?_⟩
      cases hp' : p.argument with
      | bare text => rfl
      | quoted text =>
        rw [hp'] at hmark
        exact (double_eq_self_iff.mpr hmark).symm
    exact parameters?_cons hp.toProper hgives (ih hps)

theorem Line.isSilent_render (hl : IsKey l.key) : isSilent l.render = false := by
  obtain ⟨c, cs, hc, hrender⟩ := exists_toList_render hl
  rw [isSilent, hrender, List.head?_cons, Option.all_some, beq_eq_false_iff_ne]
  rintro rfl
  exact absurd hc (by decide)

theorem Line.ofText?_render (hl : IsKey l.key) (hclear : l.Clear name) :
    Line.ofText? name l.render = some l.asRead := by
  rw [ofText?, isSilent_render hl, if_neg Bool.false_ne_true]
  cases l with
  | directive key value =>
    obtain ⟨hname, hkey⟩ := hclear
    have hline : Config.variableOfLine? (Line.directive key value).render = some (key, value) :=
      @Config.variableOfLine?_lineOfVariable (key, value) hkey
    rw [if_pos hname, hline]
    rfl
  | entry ps =>
    obtain ⟨hname, hps⟩ := hclear
    rw [if_neg hname, parameters?_render hps, Option.map_some, List.map_map]
    rfl

theorem headerName_block (hname : ']' ∉ s.name.toList) : headerName s.block.1 = s.name := by
  have hne : ∀ c ∈ s.name.toList, decide (c ≠ ']') = true := fun c hc =>
    decide_eq_true fun he => hname (he ▸ hc)
  have hchars : s.block.1.toList.drop 1 = s.name.toList ++ [']'] := by
    simp [Section.block]
  rw [headerName, hchars, List.takeWhile_append_of_pos hne]
  simp

theorem Section.ofBlock_block (hname : ']' ∉ s.name.toList) : Section.ofBlock s.block = s.read := by
  have hend : Line.ofText? s.name "" = none := rfl
  rw [ofBlock, headerName_block hname, read, block, List.filterMap_append, List.filterMap_map]
  simp [hend]

theorem Section.read_of_clear (hs : ∀ l ∈ s.lines, IsKey l.key ∧ l.Clear s.name) :
    s.read = s.asRead := by
  have hlines : s.lines.filterMap (fun l => Line.ofText? s.name l.render) =
      s.lines.filterMap fun l => some l.asRead :=
    List.filterMap_congr fun l hl => Line.ofText?_render (hs l hl).1 (hs l hl).2
  rw [read, hlines, asRead, List.filterMap_eq_map']

theorem sectionsOf_render (hss : ss ≠ []) (hone : ∀ l ∈ scriptLines ss, OneLine l)
    (hnames : ∀ s ∈ ss, ']' ∉ s.name.toList) (hkeys : ∀ s ∈ ss, ∀ l ∈ s.lines, IsKey l.key) :
    sectionsOf (render ss) = ss.map Section.read := by
  rw [sectionsOf, outline_render hss hone fun s hs l hl => Line.isHeader_render (hkeys s hs l hl),
    List.map_map]
  exact List.map_congr_left fun s hs => Section.ofBlock_block (hnames s hs)

theorem mem_linesIn_sectionsOf {text l : String} {b : String × List String} {line : Line}
    (hb : b ∈ (Outline.ofText text).sections) (hl : l ∈ b.2)
    (hline : Line.ofText? (headerName b.1) l = some line) :
    line ∈ linesIn (headerName b.1) (sectionsOf text) :=
  List.mem_flatMap.mpr ⟨_, List.mem_filter.mpr ⟨List.mem_map_of_mem hb, decide_eq_true rfl⟩,
    List.mem_filterMap.mpr ⟨l, hl, hline⟩⟩

theorem mem_linesIn_of_header (header : String) (before after : List String) {k : String} {line : Line}
    (hs : s ∈ ss)
    (hpieces : (s.block.1 :: s.block.2).flatMap (pieces '\n') = before ++ header :: k :: after)
    (hheader : isHeader header = true) (hk : isHeader k = false)
    (hline : Line.ofText? (headerName header) k = some line) :
    line ∈ linesIn (headerName header) (sectionsOf (render ss)) := by
  obtain ⟨ls, ms, rfl⟩ := List.append_of_mem hs
  let linesOf (ss : List Section) := (ss.map Section.block).flatMap fun b => b.1 :: b.2
  have hlines : scriptLines (ls ++ s :: ms) =
      (commentLines ++ linesOf ls) ++ ((s.block.1 :: s.block.2) ++ linesOf ms) := by
    simp [scriptLines, linesOf]
  obtain ⟨b, hb, rfl, hkb⟩ := Outline.exists_mem_sections
    ((commentLines ++ linesOf ls).flatMap (pieces '\n') ++ before)
    (after ++ (linesOf ms).flatMap (pieces '\n')) hheader hk
  have hrest : ((s.block.1 :: s.block.2) ++ linesOf ms).flatMap (pieces '\n') =
      (before ++ b.1 :: k :: after) ++ (linesOf ms).flatMap (pieces '\n') := by
    rw [List.flatMap_append, hpieces]
  refine mem_linesIn_sectionsOf ?_ hkb hline
  rw [Outline.ofText, pieces_render (List.ne_nil_of_mem hs), hlines, List.flatMap_append, hrest]
  simpa only [List.append_assoc, List.cons_append] using hb

end Read

def FileItem.given? : FileItem → Option String
  | .directory _ name => some name
  | .renamed _ target => some target
  | .plain _ => none

theorem FileItem.forall_given?_plain {P : String → Prop} (path : String) :
    ∀ name ∈ (FileItem.plain path).given?, P name := by
  simp [given?]

section Clear

variable {c : Config} {output icon : String} {items : List FileItem}

theorem clear_entry {name : String} {ps : List Parameter} :
    (Line.entry ps).Clear name ↔ name ≠ "Setup" ∧ ∀ p ∈ ps, p.Clear :=
  Iff.rfl

theorem clear_quoted {key text : String} (hkey : IsWord key) (hmark : '"' ∉ text.toList) :
    (quoted key text).Clear := ⟨⟨hkey, trivial⟩, hmark⟩

theorem clear_bare {key text : String} (hkey : IsWord key)
    (hhead : text.toList.head?.map isGap = some false) (hend : ';' ∉ text.toList)
    (hmark : '"' ∉ text.toList) : (bare key text).Clear := ⟨⟨hkey, hhead, hend, hmark⟩, hmark⟩

theorem mark_not_mem_below {constant name : String} (hconstant : '"' ∉ constant.toList) :
    '"' ∉ (below constant name).toList ↔ '"' ∉ name.toList := by
  simp [below, hconstant]

theorem clear_setup : ∀ l ∈ (setup c output icon).lines, l.Clear "Setup" := by
  cases hl : c.license <;> simp [setup, hl, Line.Clear]

theorem clear_installDelete : ∀ l ∈ installDelete.lines, l.Clear "InstallDelete" := by
  simp only [installDelete, List.forall_mem_singleton, clear_entry, List.forall_mem_cons]
  exact ⟨by decide, clear_bare (by decide) (by decide) (by decide) (by decide),
    clear_quoted (by decide) (by decide)⟩

theorem not_mem_language (l : Language) : '"' ∉ l.name.toList ∧ '"' ∉ l.messagesFile.toList := by
  cases l <;> decide

theorem clear_languages : ∀ l ∈ (languages c).lines, l.Clear "Languages" := by
  simp only [languages, List.forall_mem_map, clear_entry, List.forall_mem_cons]
  intro l _
  obtain ⟨hname, hfile⟩ := not_mem_language l
  exact ⟨by decide, clear_quoted (by decide) hname, clear_quoted (by decide) hfile,
    List.forall_mem_nil _⟩

theorem clear_tasks : ∀ l ∈ tasks.lines, l.Clear "Tasks" := by
  simp only [tasks, List.forall_mem_singleton, clear_entry, List.forall_mem_cons]
  exact ⟨by decide, clear_quoted (by decide) (by decide),
    clear_quoted (by decide) (by decide), clear_quoted (by decide) (by decide),
    clear_bare (by decide) (by decide) (by decide) (by decide)⟩

theorem FileItem.clear_line {item : FileItem} (hsource : '"' ∉ item.source.toList)
    (hgiven : ∀ name ∈ item.given?, '"' ∉ name.toList) : item.line.Clear "Files" := by
  have hflags {flags : String} (h : flags ∈ ["ignoreversion",
      "ignoreversion recursesubdirs createallsubdirs"]) :
      (bare "Flags" flags).Clear := by
    rw [List.mem_cons, List.mem_singleton] at h
    rcases h with rfl | rfl <;> exact clear_bare (by decide) (by decide) (by decide) (by decide)
  cases item with
  | directory path name =>
    have hname : '"' ∉ (below "app" name).toList := (mark_not_mem_below (by decide)).mpr (hgiven name rfl)
    have hpath : '"' ∉ (path ++ "\\*").toList := by simpa using (show '"' ∉ path.toList from hsource)
    simp only [line, clear_entry, List.forall_mem_cons]
    exact ⟨by decide, clear_quoted (by decide) hpath, clear_quoted (by decide) hname,
      hflags (by decide),
      List.forall_mem_nil _⟩
  | renamed path target =>
    simp only [line, clear_entry, List.forall_mem_cons]
    exact ⟨by decide, clear_quoted (by decide) hsource, clear_quoted (by decide) (by decide),
      clear_quoted (by decide) (hgiven target rfl), hflags (by decide),
      List.forall_mem_nil _⟩
  | plain path =>
    simp only [line, clear_entry, List.forall_mem_cons]
    exact ⟨by decide, clear_quoted (by decide) hsource, clear_quoted (by decide) (by decide),
      hflags (by decide),
      List.forall_mem_nil _⟩

theorem mark_not_mem_targetExe (hshown : '"' ∉ c.displayName.toList) : '"' ∉ c.targetExe.toList := by
  simpa [Config.targetExe] using hshown

theorem clear_icons (hshown : '"' ∉ c.displayName.toList) : ∀ l ∈ (icons c).lines, l.Clear "Icons" := by
  have hexe : '"' ∉ (below "app" c.targetExe).toList :=
    (mark_not_mem_below (by decide)).mpr (mark_not_mem_targetExe hshown)
  have hname {folder : String} (hfolder : '"' ∉ folder.toList) :
      '"' ∉ (below folder c.displayName).toList := (mark_not_mem_below hfolder).mpr hshown
  simp only [icons, List.forall_mem_cons, clear_entry]
  exact ⟨⟨by decide, clear_quoted (by decide) (hname (by decide)),
      clear_quoted (by decide) hexe, List.forall_mem_nil _⟩,
    ⟨by decide, clear_quoted (by decide) (hname (by decide)), clear_quoted (by decide) hexe,
      clear_bare (by decide) (by decide) (by decide) (by decide), List.forall_mem_nil _⟩,
    List.forall_mem_nil _⟩

theorem clear_run (hshown : '"' ∉ c.displayName.toList) : ∀ l ∈ (run c).lines, l.Clear "Run" := by
  have hexe : '"' ∉ (below "app" c.targetExe).toList :=
    (mark_not_mem_below (by decide)).mpr (mark_not_mem_targetExe hshown)
  have hlabel : '"' ∉ (label c.displayName).toList := by
    rwa [label, double, String.toList_ofList, mem_doubleChars_iff]
  have hdescription : '"' ∉ ("\x7bcm:LaunchProgram," ++ label c.displayName ++ "\x7d").toList := by
    simp [hlabel]
  simp only [run, List.forall_mem_singleton, clear_entry, List.forall_mem_cons]
  exact ⟨by decide, clear_quoted (by decide) hexe, clear_quoted (by decide) hdescription,
    clear_bare (by decide) (by decide) (by decide) (by decide)⟩

end Clear

namespace Parts

variable {parts : Parts} {c : Config}

/-- A script without a broken line, and without a quotation mark in what it writes between two. -/
structure Legible (parts : Parts) (c : Config) : Prop extends parts.Unbroken c where
  name : OneLine c.displayName
  shown : '"' ∉ c.displayName.toList
  sources : ∀ item ∈ parts.items, '"' ∉ item.source.toList

theorem mark_not_mem_given? (hfolder : parts.OfFolder c) (hshown : '"' ∉ c.displayName.toList)
    (hsources : ∀ item ∈ parts.items, '"' ∉ item.source.toList) :
    ∀ item ∈ parts.items, ∀ name ∈ item.given?, '"' ∉ name.toList := by
  intro item hitem
  have hsource := hsources item hitem
  rcases List.mem_append.mp hitem with hchild | hstaged
  · obtain ⟨app, name, isDirectory, rfl⟩ := hfolder item hchild
    rw [FileItem.source_ofChild] at hsource
    have hname := not_mem_of_join hsource
    unfold FileItem.ofChild
    split_ifs <;> simp [FileItem.given?, hname, mark_not_mem_targetExe hshown]
  · obtain ⟨path, -, rfl⟩ := List.mem_map.mp hstaged
    exact FileItem.forall_given?_plain path

theorem sectionsOf_text_of_oneLine (hone : ∀ l ∈ scriptLines (parts.sections c), OneLine l) :
    sectionsOf (parts.text c) = (parts.sections c).map Section.read := by
  have hss : parts.sections c ≠ [] := by simp [sections, Script.sections]
  have hnames : ∀ s ∈ parts.sections c, ']' ∉ s.name.toList := by
    simp [sections, Script.sections, setup, installDelete, languages, tasks, files, icons, run]
  exact sectionsOf_render hss hone hnames fun s hs => isKey_sections hs

theorem clear_of_ne_files (hshown : '"' ∉ c.displayName.toList) {s : Section}
    (hs : s ∈ parts.sections c) (hne : s.name ≠ "Files") : ∀ l ∈ s.lines, l.Clear s.name := by
  simp only [sections, Script.sections, List.mem_cons, List.not_mem_nil, or_false] at hs
  rcases hs with rfl | rfl | rfl | rfl | rfl | rfl | rfl
  · exact clear_setup
  · exact clear_installDelete
  · exact clear_languages
  · exact clear_tasks
  · exact absurd rfl hne
  · exact clear_icons hshown
  · exact clear_run hshown

theorem Legible.sectionsOf_text (hl : parts.Legible c) (hfolder : parts.OfFolder c) :
    sectionsOf (parts.text c) = (parts.sections c).map Section.asRead := by
  have hone := (forall_oneLine_iff hl.name hfolder).mpr hl.toUnbroken
  have hgiven := mark_not_mem_given? hfolder hl.shown hl.sources
  rw [sectionsOf_text_of_oneLine hone]
  refine List.map_congr_left fun s hs => Section.read_of_clear fun l hline =>
    ⟨isKey_sections hs l hline, ?_⟩
  by_cases hfiles : s.name = "Files"
  · obtain rfl : s = files parts.items := by
      simp only [sections, Script.sections, List.mem_cons, List.not_mem_nil, or_false] at hs
      rcases hs with rfl | rfl | rfl | rfl | rfl | rfl | rfl <;>
        first | rfl | exact absurd hfiles (by simp [setup, installDelete, languages, tasks, icons, run])
    obtain ⟨item, hitem, rfl⟩ := List.mem_map.mp hline
    exact FileItem.clear_line (hl.sources item hitem) (hgiven item hitem)
  · exact clear_of_ne_files hl.shown hs hfiles l hline

theorem files_mem_sections (parts : Parts) (c : Config) : files parts.items ∈ parts.sections c := by
  simp [sections, Script.sections]

theorem linesIn_files_of_oneLine (hone : ∀ l ∈ scriptLines (parts.sections c), OneLine l) :
    linesIn "Files" (sectionsOf (parts.text c)) =
      parts.items.filterMap fun item => Line.ofText? "Files" item.line.render := by
  have hfiles : linesIn "Files" ((parts.sections c).map Section.read) = (files parts.items).read.lines := by
    simp [linesIn, Section.read, sections, Script.sections, setup, installDelete, languages, tasks, files,
      icons, run]
  rw [sectionsOf_text_of_oneLine hone, hfiles, Section.read, files, List.filterMap_map]
  rfl

theorem linesIn_files (parts : Parts) (c : Config) :
    linesIn "Files" (parts.sections c) = (files parts.items).lines := by
  simp [linesIn, sections, Script.sections, setup, installDelete, languages, tasks, files, icons, run]

theorem Legible.linesIn_files (hl : parts.Legible c) (hfolder : parts.OfFolder c) :
    linesIn "Files" (sectionsOf (parts.text c)) = (files parts.items).lines.map Line.asRead := by
  rw [hl.sectionsOf_text hfolder, linesIn_map_asRead, Parts.linesIn_files]

theorem legible_of_resolves {r : Config.Request} (h : Config.Resolves r c)
    (hname : (r.tool "name").Empty → '"' ∉ c.displayName.toList) (hunbroken : parts.Unbroken c)
    (hsources : ∀ item ∈ parts.items, '"' ∉ item.source.toList) : parts.Legible c :=
  ⟨hunbroken, h.oneLine_displayName, h.not_mem_displayName (by decide +kernel) hname, hsources⟩

end Parts

end FlutterInstaller.Script
