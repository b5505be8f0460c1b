import FlutterInstaller.Proofs.Script.InstallFolder
import FlutterInstaller.Proofs.Script.Listing
import Mathlib.Data.List.Pairwise

/-!
Where the entries for files install, as it is read from the text of a script. The children of the app's
directory go to places of their own, and so do the staged libraries; two entries meet where the
executable takes the name of another child, or where a library has the name of a child.
-/
namespace FlutterInstaller.Script

open FlutterInstaller.Path FileSystem Text

def fileName (path : String) : String := ((pieces path).flatMap (Text.pieces '\\')).getLast?.getD ""

theorem fileName_join (base : String) {n : String} (hn : IsName n) (hlevel : '\\' ∉ n.toList) :
    fileName (join base n) = n := by
  obtain ⟨ps, hps⟩ := exists_pieces_join base hn
  simp [fileName, hps, Text.pieces_eq_singleton hlevel]

/-- A place below the folder that a constant stands for; a directory is installed with all below it. -/
structure Destination where
  constant : String
  names : List String
  deep : Bool
  deriving DecidableEq

def Mark.char? : Mark → Option Char
  | .char c => some c
  | .constant _ => none

def literal? (value : String) : Option String := do
  let ms ← marks? value
  return String.ofList (← ms.mapM Mark.char?)

def folder? (value : String) : Option (String × List String) := do
  match ← marks? value with
  | .constant c :: rest =>
    return (c, (Text.pieces '\\' (String.ofList (← rest.mapM Mark.char?))).filter (· ≠ ""))
  | _ => none

/-- Where an entry installs to: the folder that it names for all that lies in a directory, and else a
file in that folder, under the name that it gives or under its own. -/
def Line.destination? (l : Line) : Option Destination := do
  let source ← l.argument? "Source"
  let folder ← folder? (← l.argument? "DestDir")
  match sourceReference ((l.argument? "Flags").getD "") source with
  | .tree _ => return ⟨folder.1, folder.2, true⟩
  | .file path | .output path =>
    let name ← (l.argument? "DestName").elim (some (fileName path)) literal?
    return ⟨folder.1, folder.2 ++ Text.pieces '\\' name, false⟩

def FileItem.installName : FileItem → String
  | .directory _ name => name
  | .renamed _ target => target
  | .plain path => fileName path

def FileItem.destination : FileItem → Destination
  | .directory _ name => ⟨"app", [name], true⟩
  | .renamed _ target => ⟨"app", [target], false⟩
  | .plain path => ⟨"app", [fileName path], false⟩

/-- How names of files are told apart: texts may be taken for one name, but not those of two
libraries. -/
structure Naming where
  same : String → String → Prop
  equivalence : Equivalence same
  libraries : Layout.runtimeLibraries.Pairwise fun a b => ¬ same a b

def Naming.exact : Naming := ⟨Eq, eq_equivalence, by decide⟩

def Naming.caseless : Naming where
  same a b := a.toList.map Char.toUpper = b.toList.map Char.toUpper
  equivalence := ⟨fun _ => rfl, Eq.symm, Eq.trans⟩
  libraries := by decide

instance : DecidableRel Naming.caseless.same := fun _ _ => inferInstanceAs (Decidable (_ = _))

namespace Destination

variable {N : Naming} {d e : Destination} {constant a b : String} {place : List String}

/-- Two destinations are one place. -/
def Meets (N : Naming) (d e : Destination) : Prop :=
  d.constant = e.constant ∧ List.Forall₂ N.same d.names e.names

/-- What is installed there takes a place: this one place, or for a directory all below it as well. -/
def Fills (N : Naming) (d : Destination) (constant : String) (place : List String) : Prop :=
  d.constant = constant ∧
    ∃ above, List.Forall₂ N.same d.names above ∧ above <+: place ∧ (d.deep = false → above = place)

theorem meets_singleton {deep deep' : Bool} :
    Meets N ⟨"app", [a], deep⟩ ⟨"app", [b], deep'⟩ ↔ N.same a b := by
  simp [Meets]

theorem exists_same_of_fills {deep : Bool} (h : Fills N ⟨"app", [a], deep⟩ constant place) :
    ∃ n, place.head? = some n ∧ N.same a n := by
  obtain ⟨-, above, hsame, ⟨below, rfl⟩, -⟩ := h
  obtain ⟨n, ns, hn, hns, rfl⟩ := List.forall₂_cons_left_iff.mp hsame
  exact ⟨n, rfl, hn⟩

end Destination

section Read

variable {name : String}

theorem mapM_char?_literals (s : String) : (literals s).mapM Mark.char? = some s.toList := by
  rw [literals]
  induction s.toList with
  | nil => rfl
  | cons c cs ih => simp [ih, Mark.char?]

theorem literal?_eq_self (hclosed : '\x7b' ∉ name.toList) : literal? name = some name := by
  simp [literal?, marks?_eq_literals_self_iff.mpr hclosed, mapM_char?_literals]

theorem folder?_app : folder? "\x7bapp\x7d" = some ("app", []) := by decide

theorem folder?_below (hlevel : '\\' ∉ name.toList) (hclosed : '\x7b' ∉ name.toList)
    (hne : name ≠ "") : folder? (below "app" name) = some ("app", [name]) := by
  have hmarks : marks? (below "app" name) = some (.constant "app" :: literals ("\\" ++ name)) := by
    rw [marks?_below name (by decide) (by decide), marks?_eq_literals_self_iff.mpr hclosed]
    simp [literals]
  have hpieces : Text.pieces '\\' ("\\" ++ name) = ["", name] := by
    have happend : Text.pieces '\\' ("" ++ "\\" ++ name) = _ := Text.pieces_append rfl "" name
    rwa [Text.pieces_eq_singleton hlevel, String.empty_append] at happend
  simp [folder?, hmarks, mapM_char?_literals, hpieces, hne]

theorem Line.destination?_asRead (l : Line) : l.asRead.destination? = l.destination? := by
  simp only [destination?, argument?_asRead]

theorem FileItem.destination?_line {item : FileItem} (hlevel : '\\' ∉ item.installName.toList)
    (hne : item.installName ≠ "") (hclosed : ∀ name ∈ item.given?, '\x7b' ∉ name.toList) :
    item.line.destination? = some item.destination := by
  have hflat : ¬ "recursesubdirs" ∈ Text.pieces ' ' "ignoreversion" := by decide
  have hdeep : "recursesubdirs" ∈ Text.pieces ' ' "ignoreversion recursesubdirs createallsubdirs" := by
    decide
  cases item with
  | directory path name =>
    have hfolder : folder? (below "app" name) = some ("app", [name]) :=
      folder?_below hlevel (hclosed name rfl) hne
    simp [line, Line.destination?, Line.argument?, Script.argument?, quoted, bare, Argument.text,
      sourceReference, hdeep, hfolder, destination]
  | renamed path target =>
    have hname : literal? target = some target := literal?_eq_self (hclosed target rfl)
    have hpieces : Text.pieces '\\' target = [target] := Text.pieces_eq_singleton hlevel
    simp [line, Line.destination?, Line.argument?, Script.argument?, quoted, bare, Argument.text,
      sourceReference, hflat, folder?_app, hname, hpieces, destination]
  | plain path =>
    have hpieces : Text.pieces '\\' (fileName path) = [fileName path] := Text.pieces_eq_singleton hlevel
    simp [line, Line.destination?, Line.argument?, Script.argument?, quoted, bare, Argument.text,
      sourceReference, hflat, folder?_app, hpieces, destination]

end Read

/-- Characters that mean something where a name is written or installed, and that no display name may
have. -/
def meaning : List Char := ['"', '\\', '\x7b']

theorem forall_mem_meaning {P : Char → Prop} :
    (∀ x ∈ meaning, P x) ↔ P '"' ∧ P '\\' ∧ P '\x7b' := by
  simp [meaning]

theorem meaning_not_mem_targetExe {c : Config} (hshown : ∀ x ∈ meaning, x ∉ c.displayName.toList) :
    ∀ x ∈ meaning, x ∉ c.targetExe.toList := by
  have hend : ∀ x ∈ meaning, x ∉ ".exe".toList :=
    forall_mem_meaning.mpr ⟨by decide, by decide, by decide⟩
  intro x hx
  simpa [Config.targetExe] using ⟨hshown x hx, by simpa using hend x hx⟩

theorem targetExe_ne_empty (c : Config) : c.targetExe ≠ "" := fun he => by
  simpa [Config.targetExe] using congrArg String.toList he

namespace Request

variable {r : Request} {h h₁ h' : Host} {app : String} {names staged : List String} {p : Places}
  {parts : Parts}

def installedAs (r : Request) (h : Host) (app name : String) : String :=
  if r.Renames h app name then r.config.targetExe else name

/-- Names that are not parted where they are installed, and open no brace where they stand for
themselves. -/
structure Level (h : Host) (app : String) (names : List String) : Prop where
  whole : ∀ n ∈ names, '\\' ∉ n.toList
  directories : ∀ n ∈ names, h.isDirectory (join app n) = true → '\x7b' ∉ n.toList

/-- Where the children and the staged libraries are installed. -/
def destinations (r : Request) (h : Host) (app : String) (names staged : List String) :
    List Destination :=
  (names.map fun n => ⟨"app", [r.installedAs h app n], h.isDirectory (join app n)⟩) ++
    staged.map fun path => ⟨"app", [fileName path], false⟩

theorem installName_child {n : String} (hn : IsName n) (hlevel : '\\' ∉ n.toList) :
    (r.child h app n).installName = r.installedAs h app n := by
  rw [installedAs]
  split
  · next hr => rw [child_of_renames hr, FileItem.installName]
  · next hr =>
    by_cases hd : h.isDirectory (join app n) = true
    · rw [child, FileItem.ofChild, if_pos hd, FileItem.installName]
    · rw [child_of_not_renames hr hd, FileItem.installName, fileName_join app hn hlevel]

theorem destination_child {n : String} (hn : IsName n) (hlevel : '\\' ∉ n.toList) :
    (r.child h app n).destination =
      ⟨"app", [r.installedAs h app n], h.isDirectory (join app n)⟩ := by
  rw [← installName_child hn hlevel]
  by_cases hd : h.isDirectory (join app n) = true
  · rw [child, FileItem.ofChild, if_pos hd, hd, FileItem.destination, FileItem.installName]
  · by_cases hr : r.Renames h app n
    · rw [child_of_renames hr, FileItem.destination, FileItem.installName, hr.2.2]
    · rw [child_of_not_renames hr hd, FileItem.destination, FileItem.installName,
        Bool.not_eq_true _ |>.mp hd]

theorem Level.destination?_child (hl : Level h app names)
    (hshown : ∀ x ∈ meaning, x ∉ r.config.displayName.toList) {n : String} (hmem : n ∈ names)
    (hn : IsName n) : (r.child h app n).line.destination? =
      some ⟨"app", [r.installedAs h app n], h.isDirectory (join app n)⟩ := by
  have hlevel := hl.whole n hmem
  have htarget := meaning_not_mem_targetExe hshown
  rw [← destination_child hn hlevel]
  refine FileItem.destination?_line ?_ ?_ ?_
  · rw [installName_child hn hlevel, installedAs]
    split
    · exact htarget _ (by decide)
    · exact hlevel
  · rw [installName_child hn hlevel, installedAs]
    split
    · exact targetExe_ne_empty _
    · exact hn.1
  · by_cases hd : h.isDirectory (join app n) = true
    · rw [child, FileItem.ofChild, if_pos hd]
      rintro _ ⟨⟩
      exact hl.directories n hmem hd
    · by_cases hr : r.Renames h app n
      · rw [child_of_renames hr]
        rintro _ ⟨⟩
        exact htarget _ (by decide)
      · rw [child_of_not_renames hr hd]
        exact FileItem.forall_given?_plain _

theorem destinations_read (hl : Level h app names)
    (hshown : ∀ x ∈ meaning, x ∉ r.config.displayName.toList)
    (hlegible : parts.Legible r.config)
    (hnames : ∀ n ∈ names, IsName n) (hchildren : parts.children = names.map (r.child h app))
    (hstaged : (parts.staged.map fileName).Sublist Layout.runtimeLibraries) :
    (linesIn "Files" (sectionsOf (parts.text r.config))).map Line.destination? =
      (r.destinations h app names parts.staged).map some := by
  have hfolder : parts.OfFolder r.config := by
    intro child hchild
    rw [hchildren] at hchild
    obtain ⟨n, -, rfl⟩ := List.mem_map.mp hchild
    exact ⟨_, n, _, rfl⟩
  have hlibrary : ∀ path ∈ parts.staged, (FileItem.plain path).line.destination? =
      some ⟨"app", [fileName path], false⟩ := by
    have hproper : ∀ n ∈ Layout.runtimeLibraries, '\\' ∉ n.toList ∧ n ≠ "" := by decide
    intro path hpath
    obtain ⟨hlevel, hne⟩ := hproper _ (hstaged.subset (List.mem_map_of_mem hpath))
    exact FileItem.destination?_line hlevel hne (FileItem.forall_given?_plain path)
  rw [hlegible.linesIn_files hfolder, files, Parts.items, hchildren, destinations]
  simp only [List.map_append, List.map_map]
  congr 1
  · refine List.map_congr_left fun n hn => ?_
    rw [Function.comp_apply, Function.comp_apply, Function.comp_apply, Line.destination?_asRead]
    exact hl.destination?_child hshown hn (hnames n hn)
  · refine List.map_congr_left fun path hpath => ?_
    rw [Function.comp_apply, Function.comp_apply, Function.comp_apply, Line.destination?_asRead]
    exact hlibrary path hpath

theorem nodup_installNames_iff (hnodup : names.Nodup) :
    (names.map (r.installedAs h app)).Nodup ↔
      ¬ (r.config.sourceExe ∈ names ∧ r.Renames h app r.config.sourceExe ∧
        r.config.targetExe ∈ names) := by
  rw [List.nodup_map_iff_inj_on hnodup]
  unfold installedAs
  constructor
  · rintro hinj ⟨hsource, hr, htarget⟩
    have hkept : ¬ r.Renames h app r.config.targetExe := fun hr' => hr.2.1 hr'.1.symm
    exact hr.2.1 (hinj _ hsource _ htarget (by rw [if_pos hr, if_neg hkept]))
  · intro hfree a ha b hb he
    -- only the executable is renamed, so two that meet are the same child, or its new name is taken
    by_cases hra : r.Renames h app a
    · by_cases hrb : r.Renames h app b
      · rw [hra.1, hrb.1]
      · rw [if_pos hra, if_neg hrb] at he
        obtain rfl := hra.1
        exact absurd ⟨ha, hra, he ▸ hb⟩ hfree
    · by_cases hrb : r.Renames h app b
      · rw [if_neg hra, if_pos hrb] at he
        obtain rfl := hrb.1
        exact absurd ⟨hb, hrb, he ▸ ha⟩ hfree
      · rwa [if_neg hra, if_neg hrb] at he

theorem map_fileName_sublist
    (hstaged : staged.Sublist (Layout.runtimeLibraries.map (join app))) :
    (staged.map fileName).Sublist Layout.runtimeLibraries := by
  have hlevel : ∀ n ∈ Layout.runtimeLibraries, '\\' ∉ n.toList := by decide
  have hnames : (Layout.runtimeLibraries.map (join app)).map fileName = Layout.runtimeLibraries := by
    rw [List.map_map]
    conv_rhs => rw [← List.map_id Layout.runtimeLibraries]
    exact List.map_congr_left fun n hn => fileName_join app (isName_libraries n hn) (hlevel n hn)
  rw [← hnames]
  exact hstaged.map fileName

theorem destinations_apart_iff (N : Naming)
    (hstaged : (staged.map fileName).Sublist Layout.runtimeLibraries) :
    (r.destinations h app names staged).Pairwise (fun d e => ¬ d.Meets N e) ↔
      (names.map (r.installedAs h app)).Pairwise (fun a b => ¬ N.same a b) ∧
        ∀ path ∈ staged, ∀ n ∈ names, ¬ N.same (r.installedAs h app n) (fileName path) := by
  have hlibraries : staged.Pairwise fun a b => ¬ N.same (fileName a) (fileName b) :=
    List.pairwise_map.mp (N.libraries.sublist hstaged)
  simp only [destinations, List.pairwise_append, List.pairwise_map, List.forall_mem_map,
    Destination.meets_singleton]
  constructor
  · rintro ⟨hchildren, -, hmeet⟩
    exact ⟨hchildren, fun path hpath n hn => hmeet n hn path hpath⟩
  · rintro ⟨hchildren, hmeet⟩
    exact ⟨hchildren, hlibraries, fun n hn path hpath => hmeet path hpath n hn⟩

theorem exists_name_of_mem_destinations {d : Destination} (hd : d ∈ r.destinations h app names staged) :
    ∃ n deep, d = ⟨"app", [n], deep⟩ := by
  rcases List.mem_append.mp hd with hd | hd
  · obtain ⟨n, -, rfl⟩ := List.mem_map.mp hd
    exact ⟨_, _, rfl⟩
  · obtain ⟨path, -, rfl⟩ := List.mem_map.mp hd
    exact ⟨_, _, rfl⟩

theorem not_fills_of_apart {N : Naming}
    (hapart : (r.destinations h app names staged).Pairwise fun d e => ¬ d.Meets N e) :
    (r.destinations h app names staged).Pairwise fun d e =>
      ∀ constant place, ¬ (d.Fills N constant place ∧ e.Fills N constant place) := by
  refine hapart.imp_of_mem fun {d e} hd he hmeet constant place => ?_
  obtain ⟨a, deep, rfl⟩ := exists_name_of_mem_destinations hd
  obtain ⟨b, deep', rfl⟩ := exists_name_of_mem_destinations he
  rintro ⟨hfills, hfills'⟩
  obtain ⟨n, hplace, ha⟩ := Destination.exists_same_of_fills hfills
  obtain ⟨k, hplace', hb⟩ := Destination.exists_same_of_fills hfills'
  obtain rfl : n = k := Option.some.inj (hplace.symm.trans hplace')
  exact hmeet (Destination.meets_singleton.mpr (N.equivalence.trans ha (N.equivalence.symm hb)))

theorem not_mem_of_meaning {m : Manifest} {o : Overrides} {w : Option String} {c : Config} {g g' : Host}
    (hr : perform (Project.resolve m o w) g = (.ok c, g'))
    (hname : (Source.tool m "name").Empty → ∀ x ∈ meaning, x ∉ c.displayName.toList) :
    ∀ x ∈ meaning, x ∉ c.displayName.toList := by
  have hnot : ∀ x ∈ meaning, Config.isDisplayChar x = false :=
    forall_mem_meaning.mpr ⟨by decide +kernel, by decide +kernel, by decide +kernel⟩
  obtain ⟨b, _, hc⟩ := Project.perform_resolve_eq_ok_iff.mp ⟨_, hr⟩
  exact fun x hx => hc.not_mem_displayName (hnot x hx) fun hempty => hname hempty x hx

/-- Whatever a project resolves to, and whatever the host holds: where no path is broken and no name has
a character that means something, the entries of the files that the text has install the children and
the staged libraries; and however names are told apart, to places of their own exactly when no two
children get one name and no library gets that of a child. Nothing is then installed over something else.
Among the children themselves only the executable can take the name of another one. -/
theorem destinations_of_render {m : Manifest} {o : Overrides} {w : Option String} {h₀ h₀' : Host}
    (hr : perform (Project.resolve m o w) h₀ = (.ok r.config, h₀'))
    (hname : (Source.tool m "name").Empty → ∀ x ∈ meaning, x ∉ r.config.displayName.toList)
    (htree : h.files.IsTree) {text : String} (ht : perform r.render h = (.ok text, h')) :
    ∃ parts h₁ names, r.Gathers h parts h' ∧ text = parts.text r.config ∧
      perform (r.stageIcon parts.places.staging) h = (.ok parts.icon, h₁) ∧
      h₁.Lists parts.places.app names ∧
      ((names.map (r.installedAs h₁ parts.places.app)).Nodup ↔
        ¬ (r.config.sourceExe ∈ names ∧ r.Renames h₁ parts.places.app r.config.sourceExe ∧
          r.config.targetExe ∈ names)) ∧
      let destinations := r.destinations h₁ parts.places.app names parts.staged
      (parts.Unbroken r.config → (∀ item ∈ parts.items, '"' ∉ item.source.toList) →
        Level h₁ parts.places.app names →
          (linesIn "Files" (sectionsOf text)).map Line.destination? = destinations.map some) ∧
      ∀ N : Naming,
        (destinations.Pairwise (fun d e => ¬ d.Meets N e) ↔
          (names.map (r.installedAs h₁ parts.places.app)).Pairwise (fun a b => ¬ N.same a b) ∧
            ∀ path ∈ parts.staged, ∀ n ∈ names,
              ¬ N.same (r.installedAs h₁ parts.places.app n) (fileName path)) ∧
        (destinations.Pairwise (fun d e => ¬ d.Meets N e) →
          destinations.Pairwise fun d e =>
            ∀ constant place, ¬ (d.Fills N constant place ∧ e.Fills N constant place)) := by
  have hfree := not_mem_of_meaning hr hname
  have hquote : '"' ∉ r.config.displayName.toList := hfree _ (by decide)
  obtain ⟨parts, hg, rfl⟩ := perform_render_eq_ok_iff.mp ht
  obtain ⟨names, h₁, hicon, hlists, hnames, hchildren, hstaged⟩ := hg.lists
  have hlibraries := map_fileName_sublist (stagedLibraries_sublist hstaged)
  obtain ⟨b, _, hc⟩ := Project.perform_resolve_eq_ok_iff.mp ⟨_, hr⟩
  refine ⟨parts, h₁, names, hg, rfl, hicon, hlists, nodup_installNames_iff hlists.nodup, ?_,
    fun N => ⟨destinations_apart_iff N hlibraries, not_fills_of_apart⟩⟩
  intro hunbroken hsources hl
  exact destinations_read hl hfree
    (Parts.legible_of_resolves hc (fun _ => hquote) hunbroken hsources) (hnames htree) hchildren
    hlibraries

section Sample

def redistRequest : Request where
  config := { sampleConfig with icon := .custom ["i"], vcRedist := true }
  appDirectory := "/a"
  systemDirectory := some "/y"
  stagingDirectory := some "/s"

def redistManifest : Manifest := shippingManifest [("installer_icon", .string "/i")]

theorem suits_redist : redistRequest.Suits folderPlaces where
  places := by decide
  app := rfl
  output := rfl
  setting := ⟨⟨by decide, by decide, by decide, by decide, by decide⟩, fun _ => ⟨by decide, by decide⟩,
    fun _ => by decide⟩
  staging _ := rfl
  system _ := rfl

theorem tame_redist : redistRequest.Tame folderPlaces :=
  ⟨by decide, by decide, by decide, by decide, by decide, nofun⟩

theorem resolve_redist {children : List (String × Bool)} (hs : Simple children names) :
    ∃ log, perform (Project.resolve redistManifest {} none) (folderHost children) =
      (.ok redistRequest.config, folderHost children log) := by
  refine hs.resolve fun hfiles => ?_
  constructor
  case icon => exact Config.Request.icon_eq_custom rfl (by decide) (by decide) (hfiles "/i" (by simp))
  all_goals rfl

theorem map_installedAs_folder {children : List (String × Bool)} (hs : Simple children names)
    (hlevel : ∀ n ∈ names, IsName n ∧ '\\' ∉ n.toList) :
    names.map (r.installedAs (folderHost children) "/a") =
      (folderParts r p children names).children.map FileItem.installName := by
  have hchildren : (folderParts r p children names).children =
      names.map (r.child (folderHost children) "/a") := hs.map_child.symm
  rw [hchildren, List.map_map]
  exact List.map_congr_left fun n hn => (installName_child (hlevel n hn).1 (hlevel n hn).2).symm

theorem destinations_of_render_mixed :
    ∃ h₀ text h', perform (Project.resolve redistManifest {} none) (folderHost mixedChildren) =
        (.ok redistRequest.config, h₀) ∧
      ((Source.tool redistManifest "name").Empty →
        ∀ x ∈ meaning, x ∉ redistRequest.config.displayName.toList) ∧
      (folderHost mixedChildren).files.IsTree ∧
      perform redistRequest.render (folderHost mixedChildren) = (.ok text, h') ∧
      ∃ ds : List Destination,
        (linesIn "Files" (sectionsOf text)).map Line.destination? = ds.map some ∧ ds.length = 4 ∧
          ds.Pairwise (fun d e => ¬ d.Meets .caseless e) ∧
          ds.Pairwise fun d e =>
            ∀ constant place, ¬ (d.Fills .caseless constant place ∧ e.Fills .caseless constant place) := by
  have hs := simple_mixedChildren
  have htree : (folderHost mixedChildren).files.IsTree := hs.standing.ground.toIsTree
  obtain ⟨log, hr⟩ := resolve_redist hs
  have hname : ∀ x ∈ meaning, x ∉ redistRequest.config.displayName.toList :=
    forall_mem_meaning.mpr ⟨by decide, by decide, by decide⟩
  obtain ⟨h', -, hrender⟩ := hs.exists_render suits_redist []
  obtain ⟨parts, h₁, names, hg', htext, hicon, hlists, -, hread, hapart⟩ :=
    destinations_of_render hr (fun _ => hname) htree hrender
  obtain rfl := hs.gathers_eq suits_redist hg'
  obtain rfl : folderHost mixedChildren = h₁ := (Prod.mk.inj hicon).2
  obtain rfl := hs.lists.eq hlists
  have hlevel : ∀ n ∈ mixedNames, IsName n ∧ '\\' ∉ n.toList ∧ '\x7b' ∉ n.toList := by decide
  have hinstalled := map_installedAs_folder (r := redistRequest) (p := folderPlaces) hs
    fun n hn => ⟨(hlevel n hn).1, (hlevel n hn).2.1⟩
  have hchildren : (mixedNames.map (redistRequest.installedAs (folderHost mixedChildren) "/a")).Pairwise
      fun a b => ¬ Naming.caseless.same a b := by
    rw [hinstalled]
    decide
  have hlibrary : ∀ n ∈ mixedNames, ¬ Naming.caseless.same
      (redistRequest.installedAs (folderHost mixedChildren) "/a" n) "msvcp140.dll" := by
    rw [← List.forall_mem_map (P := fun a => ¬ Naming.caseless.same a "msvcp140.dll"), hinstalled]
    decide
  obtain ⟨hiff, hfills⟩ := hapart .caseless
  have hmeet := hiff.mpr ⟨hchildren, fun path hpath => List.mem_singleton.mp hpath ▸ hlibrary⟩
  have hlegible : (folderParts redistRequest folderPlaces mixedChildren mixedNames).Legible
      redistRequest.config := legible_folderParts tame_redist (by decide)
  exact ⟨_, _, h', hr, fun _ => hname, htree, hrender, _, hread hlegible.toUnbroken hlegible.sources
    ⟨fun n hn => (hlevel n hn).2.1, fun n hn _ => (hlevel n hn).2.2⟩, rfl, hmeet, hfills hmeet⟩

def Overwrites (m : Manifest) (r : Request) (h : Host) (N : Naming) : Prop :=
  ∃ (h₀ h' : Host) (text : String), perform (Project.resolve m {} none) h = (.ok r.config, h₀) ∧
    perform r.render h₀ = (.ok text, h') ∧
    ¬ ((linesIn "Files" (sectionsOf text)).filterMap Line.destination?).Pairwise fun d e =>
      ∀ constant place, ¬ (d.Fills N constant place ∧ e.Fills N constant place)

theorem fills_of_same {N : Naming} {a b : String} (hsame : N.same a b) (deep : Bool) :
    Destination.Fills N ⟨"app", [a], deep⟩ "app" [b] :=
  ⟨rfl, [b], .cons hsame .nil, List.prefix_rfl, fun _ => rfl⟩

theorem Simple.overwrites {m : Manifest} {children : List (String × Bool)} (hs : Simple children names)
    (hsuits : r.Suits p) (htame : r.Tame p)
    (hresolve : ∃ log, perform (Project.resolve m {} none) (folderHost children) =
      (.ok r.config, folderHost children log))
    (hone : ∀ n ∈ names, OneLine (join "/a" n)) (a b : String) (deep deep' : Bool) {N : Naming}
    (hsame : N.same a b)
    (hread : [⟨"app", [a], deep⟩, ⟨"app", [b], deep'⟩].Sublist
      ((folderParts r p children names).items.filterMap fun item =>
        (Line.ofText? "Files" item.line.render).bind Line.destination?)) :
    Overwrites m r (folderHost children) N := by
  obtain ⟨log, hr⟩ := hresolve
  obtain ⟨h', -, hrender⟩ := hs.exists_render hsuits log
  refine ⟨_, h', _, hr, hrender, fun hapart => ?_⟩
  rw [Parts.linesIn_files_of_oneLine (oneLine_folderParts htame _ _ hone),
    List.filterMap_filterMap] at hapart
  obtain ⟨hfirst, -⟩ := List.pairwise_cons.mp (hapart.sublist hread)
  exact hfirst _ (.head _) "app" [b] ⟨fills_of_same hsame deep, fills_of_same (N.equivalence.refl b) deep'⟩

theorem not_pairwise_of_lines {ls : List Line} {l l' : Line} {d d' : Destination} {N : Naming}
    (constant : String) (place : List String) (hl : l ∈ ls) (hl' : l' ∈ ls) (hne : l ≠ l')
    (hd : l.destination? = some d) (hd' : l'.destination? = some d') (hfills : d.Fills N constant place)
    (hfills' : d'.Fills N constant place) :
    ¬ (ls.filterMap Line.destination?).Pairwise fun d e =>
      ∀ constant place, ¬ (d.Fills N constant place ∧ e.Fills N constant place) := by
  intro hapart
  have hsymm : Std.Symm fun l l' : Line => ∀ d, l.destination? = some d → ∀ e, l'.destination? = some e →
      ∀ constant place, ¬ (d.Fills N constant place ∧ e.Fills N constant place) :=
    ⟨fun _ _ h d hd e he constant place hfills => h e he d hd constant place hfills.symm⟩
  exact (List.pairwise_filterMap.mp hapart).forall hl hl' hne d hd d' hd' constant place ⟨hfills, hfills'⟩

theorem overwrites_break : Overwrites linkManifest linkRequest
    (folderHost [("A", false), ("x\n[Files]\nSource: A; DestDir: \"\x7bapp\x7d\"\nz", false)]) .exact := by
  have hs : Simple [("A", false), ("x\n[Files]\nSource: A; DestDir: \"\x7bapp\x7d\"\nz", false)]
      ["A", "x\n[Files]\nSource: A; DestDir: \"\x7bapp\x7d\"\nz"] :=
    simple_of_sorted (by decide) (by decide)
  obtain ⟨log, hr⟩ := hs.resolve_link
  obtain ⟨h', -, hrender⟩ := hs.exists_render suits_link log
  refine ⟨_, h', _, hr, hrender, ?_⟩
  have hmem := Parts.files_mem_sections (folderParts linkRequest linkPlaces
    [("A", false), ("x\n[Files]\nSource: A; DestDir: \"\x7bapp\x7d\"\nz", false)]
    ["A", "x\n[Files]\nSource: A; DestDir: \"\x7bapp\x7d\"\nz"]) linkRequest.config
  obtain ⟨l, hline, hread⟩ := Option.bind_eq_some_iff.mp
    (by decide : (Line.ofText? "Files" (plainText "/a/A")).bind
      (fun l => some (l.argument? "Source", l.destination?)) =
        some (some "/a/A", some ⟨"app", ["A"], false⟩))
  obtain ⟨l', hline', hread'⟩ := Option.bind_eq_some_iff.mp
    (by decide : (Line.ofText? "Files" "Source: A; DestDir: \"\x7bapp\x7d\"").bind
      (fun l => some (l.argument? "Source", l.destination?)) =
        some (some "A", some ⟨"app", ["A"], false⟩))
  obtain ⟨hsource, hd⟩ := Prod.mk.inj (Option.some.inj hread)
  obtain ⟨hsource', hd'⟩ := Prod.mk.inj (Option.some.inj hread')
  refine not_pairwise_of_lines "app" ["A"] ?_ ?_ ?_ hd hd' (fills_of_same rfl _) (fills_of_same rfl _)
  · exact mem_linesIn_of_header "[Files]" []
      ["Source: \"/a/x", "[Files]", "Source: A; DestDir: \"\x7bapp\x7d\"",
        "z\"; DestDir: \"\x7bapp\x7d\"; Flags: ignoreversion", ""]
      hmem (by decide +kernel) (by decide) (by decide) hline
  · exact mem_linesIn_of_header "[Files]" ["[Files]", plainText "/a/A", "Source: \"/a/x"]
      ["z\"; DestDir: \"\x7bapp\x7d\"; Flags: ignoreversion", ""]
      hmem (by decide +kernel) (by decide) (by decide) hline'
  · rintro rfl
    exact absurd (Option.some.inj (hsource'.symm.trans hsource)) (by decide)

/-- The executable takes the name of another child, a library has the name of a child, names differ by
their case only, or a name is read for another one. -/
theorem destinations_meet :
    Overwrites linkManifest linkRequest (folderHost [("DemoApp.exe", false), ("demo_app.exe", false)])
      .exact ∧
    Overwrites redistManifest redistRequest (folderHost [("msvcp140.dll", false)]) .exact ∧
    Overwrites linkManifest linkRequest (folderHost [("A", false), ("a", false)]) .caseless ∧
    Overwrites redistManifest redistRequest (folderHost [("MSVCP140.dll", false)]) .caseless ∧
    Overwrites linkManifest linkRequest (folderHost [("x\"; DestName: \"y", false), ("y", false)])
      .exact ∧
    Overwrites linkManifest linkRequest (folderHost [("\x7bx", false), ("\x7b\x7bx", true)]) .exact ∧
    Overwrites linkManifest linkRequest (folderHost [("D\\x", false), ("x", false)]) .exact ∧
    Overwrites linkManifest linkRequest (folderHost
      [("A", false), ("x\n[Files]\nSource: A; DestDir: \"\x7bapp\x7d\"\nz", false)]) .exact := by
  have hlink {children : List (String × Bool)} {names : List String} (hs : Simple children names) :=
    hs.overwrites (m := linkManifest) suits_link tame_link hs.resolve_link
  have hredist {children : List (String × Bool)} {names : List String} (hs : Simple children names) :=
    hs.overwrites (m := redistManifest) suits_redist tame_redist (resolve_redist hs)
  refine ⟨?_, ?_, ?_, ?_, ?_, ?_, ?_, overwrites_break⟩
  · exact hlink (simple_of_sorted (by decide) (by decide)) (by decide) "DemoApp.exe" "DemoApp.exe"
      false false rfl (by decide +kernel)
  · exact hredist (simple_of_sorted (by decide) (by decide)) (by decide) "msvcp140.dll" "msvcp140.dll"
      false false rfl (by decide +kernel)
  · exact hlink (simple_of_sorted (by decide) (by decide)) (by decide) "A" "a"
      false false (by decide) (by decide +kernel)
  · exact hredist (simple_of_sorted (by decide) (by decide)) (by decide) "MSVCP140.dll" "msvcp140.dll"
      false false (by decide) (by decide +kernel)
  · exact hlink (simple_of_sorted (by decide) (by decide)) (by decide) "y" "y"
      false false rfl (by decide +kernel)
  · exact hlink (simple_of_sorted (by decide) (by decide)) (by decide) "\x7bx" "\x7bx"
      false true rfl (by decide +kernel)
  · exact hlink (simple_of_sorted (by decide) (by decide)) (by decide) "x" "x"
      false false rfl (by decide +kernel)

end Sample

end Request

end FlutterInstaller.Script
