import FlutterInstaller.Proofs.Script.Listing
import FlutterInstaller.Proofs.Script.Parameters
import FlutterInstaller.Proofs.Text.Pairs

/-!
What the entries of the files, of the shortcuts and of the program to start are read for. A path and a
name are written between quotation marks as they are.
-/
namespace FlutterInstaller

namespace Script

open Text FlutterInstaller.Path FileSystem

def Line.keys : Line → List String
  | .directive .. => []
  | .entry ps => ps.map Parameter.key

/-- A line is read for the parameters that it was given, and the values of some say what they are to. -/
def Line.Says (l : Line) (sayings : List (String × List Mark)) : Prop :=
  OneLine l.render ∧ ∃ qs, parameters? l.render = some qs ∧ qs.map Prod.fst = l.keys ∧
    ∀ x ∈ sayings, (qs.lookup x.1).bind marks? = some x.2

section Entry

variable {key text constant name : String} {p : Parameter} {ps : List Parameter}
  {qs : List (String × String)} {sayings : List (String × List Mark)}

theorem keys_of_gives (h : List.Forall₂ Parameter.Gives ps qs) :
    qs.map Prod.fst = ps.map Parameter.key := by
  induction h with
  | nil => rfl
  | cons hx _ ih => rw [List.map_cons, List.map_cons, hx.1, ih]

theorem Line.says_entry_iff (hs : Settled ps) : (Line.entry ps).Says sayings ↔
    OneLine (Line.entry ps).render ∧ ∃ qs, List.Forall₂ Parameter.Gives ps qs ∧
      ∀ x ∈ sayings, (qs.lookup x.1).bind marks? = some x.2 := by
  refine and_congr_right fun _ => exists_congr fun qs => ?_
  constructor
  · rintro ⟨hread, hkeys, hsays⟩
    have hlength : qs.length = ps.length := by
      have hlengths := congrArg List.length hkeys
      rwa [keys, List.length_map, List.length_map] at hlengths
    exact ⟨(parameters?_entry_iff hs).mp ⟨hread, hlength⟩, hsays⟩
  · rintro ⟨hgives, hsays⟩
    exact ⟨((parameters?_entry_iff hs).mpr hgives).1, keys_of_gives hgives, hsays⟩

theorem gives_quoted_iff : List.Forall₂ Parameter.Gives (quoted key text :: ps) qs ↔
    ∃ t, text = double '"' t ∧ ∃ qs', List.Forall₂ Parameter.Gives ps qs' ∧ qs = (key, t) :: qs' := by
  rw [List.forall₂_cons_left_iff]
  constructor
  · rintro ⟨⟨k, t⟩, qs', ⟨rfl, ht⟩, hqs', rfl⟩
    exact ⟨t, ht, qs', hqs', rfl⟩
  · rintro ⟨t, ht, qs', hqs', rfl⟩
    exact ⟨(key, t), qs', ⟨rfl, ht⟩, hqs', rfl⟩

theorem gives_bare_iff : List.Forall₂ Parameter.Gives (bare key text :: ps) qs ↔
    ∃ qs', List.Forall₂ Parameter.Gives ps qs' ∧ qs = (key, text) :: qs' := by
  rw [List.forall₂_cons_left_iff]
  constructor
  · rintro ⟨⟨k, t⟩, qs', ⟨rfl, rfl⟩, hqs', rfl⟩
    exact ⟨qs', hqs', rfl⟩
  · rintro ⟨qs', hqs', rfl⟩
    exact ⟨(key, text), qs', ⟨rfl, rfl⟩, hqs', rfl⟩

theorem says_literals_iff {s : String} :
    (∃ t, s = double '"' t ∧ marks? t = some (literals s)) ↔ Literal s := by
  simp only [marks?_eq_literals_iff, exists_eq_right, eq_double_double_iff, Literal]

theorem below_eq_double_iff {t : String} (hmark : '"' ∉ constant.toList) :
    below constant name = double '"' t ↔ ∃ u, t = below constant u ∧ name = double '"' u := by
  have hchars (s : String) : (below constant s).toList =
      ('\x7b' :: (constant.toList ++ ['\x7d', '\\'])) ++ s.toList := by
    simp [below]
  have hfree : '"' ∉ '\x7b' :: (constant.toList ++ ['\x7d', '\\']) := by
    simp [hmark]
  rw [← String.toList_inj, hchars, double, String.toList_ofList, append_eq_doubleChars_iff hfree]
  constructor
  · rintro ⟨es, ht, hname⟩
    refine ⟨String.ofList es, ?_, ?_⟩
    · rw [← String.toList_inj, hchars, ht, String.toList_ofList]
    · rw [← String.toList_inj, hname, double, String.toList_ofList, String.toList_ofList]
  · rintro ⟨u, rfl, rfl⟩
    exact ⟨u.toList, hchars u, by rw [double, String.toList_ofList]⟩

theorem says_below_iff (hmark : '"' ∉ constant.toList) (hclose : '\x7d' ∉ constant.toList)
    (hopen : constant.toList.head? ≠ some '\x7b') :
    (∃ t, below constant name = double '"' t ∧
      marks? t = some (.constant constant :: .char '\\' :: literals name)) ↔ Literal name := by
  have hmarks (u : String) : marks? (below constant u) =
      some (.constant constant :: .char '\\' :: literals name) ↔ marks? u = some (literals name) := by
    rw [marks?_below u hclose hopen]
    simp [Option.map_eq_some_iff]
  rw [← says_literals_iff]
  simp only [below_eq_double_iff hmark]
  constructor
  · rintro ⟨_, ⟨u, rfl, hname⟩, ht⟩
    exact ⟨u, hname, (hmarks u).mp ht⟩
  · rintro ⟨u, hname, hu⟩
    exact ⟨_, ⟨u, rfl, hname⟩, (hmarks u).mpr hu⟩

theorem says_app_iff :
    (∃ t, below "app" name = double '"' t ∧
      marks? t = some (.constant "app" :: .char '\\' :: literals name)) ↔ Literal name :=
  says_below_iff (by decide) (by decide) (by decide)

theorem settled_quoted (hkey : IsWord key)
    (hstop : '"' ∉ text.toList ∨ Stops (tailChars ps)) (hs : Settled ps) :
    Settled (quoted key text :: ps) :=
  ⟨⟨hkey, trivial⟩, hstop, hs⟩

theorem settled_bare (hkey : IsWord key) (hhead : text.toList.head?.map isGap = some false)
    (hend : ';' ∉ text.toList) (hmark : '"' ∉ text.toList) : Settled [bare key text] :=
  ⟨⟨hkey, hhead, hend, hmark⟩, .inl hmark, trivial⟩

theorem stops_tailChars_brace (hkey : IsWord key) (htext : text.toList.head? = some '\x7b')
    (ps : List Parameter) : Stops (tailChars (quoted key text :: ps)) := by
  obtain ⟨cs, htext⟩ := List.head?_eq_some_iff.mp htext
  have hmark : '"' ∉ ';' :: ' ' :: (key.toList ++ [':', ' ']) := by
    simp [hkey.mark_not_mem]
  have hchars : tailChars (quoted key text :: ps) =
      (';' :: ' ' :: (key.toList ++ [':', ' '])) ++ '"' :: '\x7b' :: (cs ++ '"' :: tailChars ps) := by
    simp [tailChars, quoted, Parameter.render, Argument.render, htext]
  rw [hchars]
  exact stops_of_opened hmark (by decide) (by decide) (by decide)

theorem stops_tailChars_bare (hkey : IsWord key) (htext : '"' ∉ text.toList) :
    Stops (tailChars [bare key text]) := by
  refine stops_of_not_mem ?_
  simp [tailChars, bare, Parameter.render, Argument.render, hkey.mark_not_mem, htext]

end Entry

section Items

def FileItem.sayings : FileItem → List (String × List Mark)
  | .directory _ name => [("DestDir", .constant "app" :: .char '\\' :: literals name)]
  | .renamed _ target => [("DestDir", [.constant "app"]), ("DestName", literals target)]
  | .plain _ => [("DestDir", [.constant "app"])]

theorem double_folder_iff {t : String} : "\x7bapp\x7d" = double '"' t ↔ t = "\x7bapp\x7d" :=
  eq_double_iff_of_not_mem (by decide)

theorem marks?_folder : marks? "\x7bapp\x7d" = some [.constant "app"] := by decide

theorem settled_flags {flags : String} (h : flags ∈ ["ignoreversion",
    "ignoreversion recursesubdirs createallsubdirs"]) : Settled [bare "Flags" flags] := by
  rw [List.mem_cons, List.mem_singleton] at h
  rcases h with rfl | rfl <;> exact settled_bare (by decide) (by decide) (by decide) (by decide)

theorem stops_flags {flags : String} (h : flags ∈ ["ignoreversion",
    "ignoreversion recursesubdirs createallsubdirs"]) : Stops (tailChars [bare "Flags" flags]) := by
  rw [List.mem_cons, List.mem_singleton] at h
  rcases h with rfl | rfl <;> exact stops_tailChars_bare (by decide) (by decide)

theorem settled_item {path folder : String} {ps : List Parameter} (h : folder.toList.head? = some '\x7b')
    (hstop : '"' ∉ folder.toList ∨ Stops (tailChars ps)) (hps : Settled ps) :
    Settled (quoted "Source" path :: quoted "DestDir" folder :: ps) :=
  settled_quoted (by decide) (.inr (stops_tailChars_brace (by decide) h ps))
    (settled_quoted (by decide) hstop hps)

theorem FileItem.says_iff (item : FileItem) : item.line.Says item.sayings ↔
    OneLine item.line.render ∧ Paired '"' item.source ∧ ∀ name ∈ item.given?, Literal name := by
  cases item with
  | directory path name =>
    have hs : Settled [quoted "Source" (path ++ "\\*"), quoted "DestDir" (below "app" name),
        bare "Flags" "ignoreversion recursesubdirs createallsubdirs"] :=
      settled_item (by simp [below]) (.inr (stops_flags (by decide))) (settled_flags (by decide))
    have hpath : Paired '"' (path ++ "\\*") ↔ Paired '"' path := paired_append_iff (by decide)
    rw [line, Line.says_entry_iff hs, source, ← hpath]
    simp only [gives_quoted_iff, gives_bare_iff, List.forall₂_nil_left_iff, sayings,
      List.forall_mem_singleton, given?, Option.mem_some_iff, forall_eq', ← says_app_iff]
    refine and_congr_right fun _ => ?_
    constructor
    · rintro ⟨_, ⟨s, hsource, _, ⟨t, ht, _, ⟨_, rfl, rfl⟩, rfl⟩, rfl⟩, hsays⟩
      exact ⟨⟨s, hsource⟩, t, ht, hsays⟩
    · rintro ⟨⟨s, hsource⟩, t, ht, hsays⟩
      exact ⟨_, ⟨s, hsource, _, ⟨t, ht, _, ⟨_, rfl, rfl⟩, rfl⟩, rfl⟩, hsays⟩
  | renamed path target =>
    have hs : Settled [quoted "Source" path, quoted "DestDir" "\x7bapp\x7d", quoted "DestName" target,
        bare "Flags" "ignoreversion"] :=
      settled_item (by decide) (.inl (by decide)) (settled_quoted (by decide)
        (.inr (stops_flags (by decide))) (settled_flags (by decide)))
    rw [line, Line.says_entry_iff hs, source]
    simp only [gives_quoted_iff, gives_bare_iff, List.forall₂_nil_left_iff, sayings,
      List.forall_mem_cons, List.not_mem_nil, false_imp_iff, implies_true, and_true, given?,
      Option.mem_some_iff, forall_eq', ← says_literals_iff]
    refine and_congr_right fun _ => ?_
    constructor
    · rintro ⟨_, ⟨s, hsource, _, ⟨_, _, _, ⟨t, ht, _, ⟨_, rfl, rfl⟩, rfl⟩, rfl⟩, rfl⟩, _, hsays⟩
      exact ⟨⟨s, hsource⟩, t, ht, hsays⟩
    · rintro ⟨⟨s, hsource⟩, t, ht, hsays⟩
      exact ⟨_, ⟨s, hsource, _, ⟨_, double_folder_iff.mpr rfl, _, ⟨t, ht, _, ⟨_, rfl, rfl⟩, rfl⟩, rfl⟩,
        rfl⟩, marks?_folder, hsays⟩
  | plain path =>
    have hs : Settled [quoted "Source" path, quoted "DestDir" "\x7bapp\x7d",
        bare "Flags" "ignoreversion"] :=
      settled_item (by decide) (.inl (by decide)) (settled_flags (by decide))
    rw [line, Line.says_entry_iff hs, source]
    simp only [gives_quoted_iff, gives_bare_iff, List.forall₂_nil_left_iff, sayings,
      List.forall_mem_singleton, given?, Option.not_mem_none, false_imp_iff, implies_true, and_true]
    refine and_congr_right fun _ => ?_
    constructor
    · rintro ⟨_, ⟨s, hsource, _⟩, _⟩
      exact ⟨s, hsource⟩
    · rintro ⟨s, hsource⟩
      exact ⟨_, ⟨s, hsource, _, ⟨_, double_folder_iff.mpr rfl, _, ⟨_, rfl, rfl⟩, rfl⟩, rfl⟩,
        marks?_folder⟩

theorem FileItem.oneLine_render_iff (item : FileItem) :
    OneLine item.line.render ↔ OneLine item.source ∧ ∀ name ∈ item.given?, OneLine name := by
  cases item with
  | directory path name =>
    rw [render_directory, oneLine_directoryText, source, given?]
    simp
  | renamed path target =>
    rw [render_renamed, oneLine_renamedText, source, given?]
    simp
  | plain path =>
    rw [render_plain, oneLine_plainText, source, given?]
    simp

end Items

section Shortcuts

variable {c : Config}

def shortcutSayings (c : Config) (folder : String) : List (String × List Mark) :=
  [("Name", .constant folder :: .char '\\' :: literals c.displayName),
   ("Filename", .constant "app" :: .char '\\' :: literals c.targetExe)]

theorem literal_targetExe (h : Literal c.displayName) : Literal c.targetExe := by
  simpa [Literal, Config.targetExe] using h

theorem shortcut_says {folder : String} {ps : List Parameter} {qs : List (String × String)}
    (hmark : '"' ∉ folder.toList) (hclose : '\x7d' ∉ folder.toList)
    (hopen : folder.toList.head? ≠ some '\x7b') (hname : Literal c.displayName)
    (hs : Settled ps) (hqs : List.Forall₂ Parameter.Gives ps qs)
    (hone : OneLine (Line.entry (quoted "Name" (below folder c.displayName) ::
      quoted "Filename" (below "app" c.targetExe) :: ps)).render) :
    (Line.entry (quoted "Name" (below folder c.displayName) ::
      quoted "Filename" (below "app" c.targetExe) :: ps)).Says (shortcutSayings c folder) := by
  have hfree : '"' ∉ (below "app" c.targetExe).toList := by
    simp [below, (literal_targetExe hname).1]
  have hsettled : Settled (quoted "Name" (below folder c.displayName) ::
      quoted "Filename" (below "app" c.targetExe) :: ps) :=
    settled_quoted (by decide) (.inr (stops_tailChars_brace (by decide) (by simp [below]) ps))
      (settled_quoted (by decide) (.inl hfree) hs)
  obtain ⟨name, hnamed, hnameSays⟩ := (says_below_iff hmark hclose hopen).mpr hname
  obtain ⟨exe, hexe, hexeSays⟩ := says_app_iff.mpr (literal_targetExe hname)
  refine (Line.says_entry_iff hsettled).mpr ⟨hone, ("Name", name) :: ("Filename", exe) :: qs, ?_, ?_⟩
  · exact gives_quoted_iff.mpr ⟨name, hnamed, _, gives_quoted_iff.mpr ⟨exe, hexe, qs, hqs, rfl⟩, rfl⟩
  · simp only [shortcutSayings, List.forall_mem_cons, List.not_mem_nil, false_imp_iff, implies_true,
      and_true]
    exact ⟨hnameSays, hexeSays⟩

theorem icons_say (hone : OneLine c.displayName) (hname : Literal c.displayName) :
    ∃ menu desktop, (icons c).lines = [menu, desktop] ∧
      menu.Says (shortcutSayings c "autoprograms") ∧ desktop.Says (shortcutSayings c "autodesktop") := by
  have hlines := oneLine_icons hone
  rw [icons, List.forall_mem_cons, List.forall_mem_singleton] at hlines
  have htasks : Settled [bare "Tasks" "desktopicon"] :=
    settled_bare (by decide) (by decide) (by decide) (by decide)
  exact ⟨_, _, rfl, shortcut_says (by decide) (by decide) (by decide) hname trivial .nil hlines.1,
    shortcut_says (by decide) (by decide) (by decide) hname htasks (gives_bare_iff.mpr ⟨[], .nil, rfl⟩)
      hlines.2⟩

def readLabel : Bool → List Char → List Char
  | _, [] => []
  | false, c :: cs => if c = '&' then readLabel true cs else c :: readLabel false cs
  | true, c :: cs => c :: readLabel false cs

def plainLabel (s : String) : String := String.ofList (readLabel false s.toList)

theorem plainLabel_label (s : String) : plainLabel (label s) = s := by
  have hread (cs : List Char) : readLabel false (doubleChars '&' cs) = cs := by
    induction cs with
    | nil => rfl
    | cons c cs ih => by_cases hc : c = '&' <;> simp [doubleChars, readLabel, hc, ih]
  rw [plainLabel, label, double, String.toList_ofList, hread, String.ofList_toList]

def messageOf? (constant : String) : Option (String × String) :=
  match pieces ',' constant with
  | [message, argument] => some (message, plainLabel argument)
  | _ => none

/-- The characters that mean something in one of the values that hold the name which is shown. -/
def reserved : List Char := ['"', '\x7b', '\x7d', ',']

theorem forall_mem_reserved {P : Char → Prop} :
    (∀ x ∈ reserved, P x) ↔ P '"' ∧ P '\x7b' ∧ P '\x7d' ∧ P ',' := by
  simp [reserved]

theorem messageOf?_launch {name : String} (h : ',' ∉ name.toList) :
    messageOf? ("cm:LaunchProgram" ++ "," ++ label name) = some ("cm:LaunchProgram", name) := by
  have hlabel : ',' ∉ (label name).toList := by
    rwa [label, double, String.toList_ofList, mem_doubleChars_iff]
  have hmessage : ',' ∉ "cm:LaunchProgram".toList := by decide
  rw [messageOf?, pieces_append rfl, pieces_eq_singleton hmessage, pieces_eq_singleton hlabel]
  exact congrArg (fun s => some ("cm:LaunchProgram", s)) (plainLabel_label name)

theorem marks?_constant {constant : String} (hclose : '\x7d' ∉ constant.toList)
    (hopen : constant.toList.head? ≠ some '\x7b') :
    marks? ("\x7b" ++ constant ++ "\x7d") = some [.constant constant] := by
  have hchars : ("\x7b" ++ constant ++ "\x7d").toList = '\x7b' :: (constant.toList ++ ['\x7d']) := by
    simp
  rw [marks?, hchars, readMarks, if_pos rfl, readMarks_constant [] hclose (.inr hopen)]
  simp [readMarks]

def launchConstant (c : Config) : String := "cm:LaunchProgram" ++ "," ++ label c.displayName

theorem run_lines (c : Config) : (run c).lines =
    [.entry [quoted "Filename" (below "app" c.targetExe),
      quoted "Description" ("\x7b" ++ launchConstant c ++ "\x7d"),
      bare "Flags" "nowait postinstall skipifsilent"]] := by
  have hdescription : "\x7bcm:LaunchProgram," ++ label c.displayName ++ "\x7d" =
      "\x7b" ++ launchConstant c ++ "\x7d" := by
    simp [launchConstant, String.ext_iff]
  rw [run, hdescription]

theorem run_says (hone : OneLine c.displayName) (hname : ∀ x ∈ reserved, x ∉ c.displayName.toList) :
    ∃ launch constant, (run c).lines = [launch] ∧
      launch.Says [("Filename", .constant "app" :: .char '\\' :: literals c.targetExe),
        ("Description", [.constant constant])] ∧
      messageOf? constant = some ("cm:LaunchProgram", c.displayName) := by
  obtain ⟨hquote, hopen, hclose, hcomma⟩ := forall_mem_reserved.mp hname
  have hlabel {d : Char} (h : d ∉ c.displayName.toList) : d ∉ (label c.displayName).toList := by
    rwa [label, double, String.toList_ofList, mem_doubleChars_iff]
  have hconstant : marks? ("\x7b" ++ launchConstant c ++ "\x7d") =
      some [.constant (launchConstant c)] := by
    refine marks?_constant ?_ ?_
    · simp [launchConstant, hlabel hclose]
    · simp [launchConstant]
  have hfree : '"' ∉ ("\x7b" ++ launchConstant c ++ "\x7d").toList := by
    simp [launchConstant, hlabel hquote]
  have hexe := literal_targetExe ⟨hquote, hopen⟩
  obtain ⟨exe, hexeDoubled, hexeSays⟩ := says_app_iff.mpr hexe
  have hflags : Settled [bare "Flags" "nowait postinstall skipifsilent"] :=
    settled_bare (by decide) (by decide) (by decide) (by decide)
  have hsettled : Settled [quoted "Filename" (below "app" c.targetExe),
      quoted "Description" ("\x7b" ++ launchConstant c ++ "\x7d"),
      bare "Flags" "nowait postinstall skipifsilent"] :=
    settled_quoted (by decide) (.inl (by simp [below, hexe.1]))
      (settled_quoted (by decide) (.inl hfree) hflags)
  have hlines := oneLine_run hone
  rw [run_lines, List.forall_mem_singleton] at hlines
  refine ⟨_, launchConstant c, run_lines c, (Line.says_entry_iff hsettled).mpr
    ⟨hlines, [("Filename", exe), ("Description", "\x7b" ++ launchConstant c ++ "\x7d"),
      ("Flags", "nowait postinstall skipifsilent")], ?_, ?_⟩, messageOf?_launch hcomma⟩
  · have hdescription := (eq_double_iff_of_not_mem hfree).mpr rfl
    exact gives_quoted_iff.mpr ⟨exe, hexeDoubled, _, gives_quoted_iff.mpr ⟨_, hdescription, _,
      gives_bare_iff.mpr ⟨[], .nil, rfl⟩, rfl⟩, rfl⟩
  · simp only [List.forall_mem_cons, List.not_mem_nil, false_imp_iff, implies_true, and_true]
    exact ⟨hexeSays, hconstant⟩

theorem says_ofChild_iff {app name : String} {isDirectory : Bool} (hone : OneLine c.displayName)
    (hname : Literal c.displayName) :
    let item := FileItem.ofChild c (join app name) name isDirectory
    item.line.Says item.sayings ↔ OneLine item.source ∧ Paired '"' item.source ∧
      ∀ path name, item = .directory path name → Literal name := by
  intro item
  rw [FileItem.says_iff, FileItem.oneLine_render_iff]
  have hfolder : OneLine (join app name) → OneLine name := oneLine_of_join
  by_cases hd : isDirectory = true
  · have hitem : item = .directory (join app name) name := if_pos hd
    have hnames : (∀ path n, item = .directory path n → Literal n) ↔ Literal name :=
      ⟨fun h => h _ _ hitem, fun h _ _ he => (FileItem.directory.inj (hitem.symm.trans he)).2 ▸ h⟩
    rw [hnames, hitem, FileItem.source, FileItem.given?]
    simp only [Option.mem_some_iff, forall_eq']
    tauto
  · by_cases hrenames : c.sourceExe ≠ c.targetExe ∧ name = c.sourceExe
    · have hitem : item = .renamed (join app name) c.targetExe :=
        (if_neg hd).trans (if_pos hrenames)
      simp [hitem, FileItem.given?, oneLine_targetExe hone, literal_targetExe hname]
    · have hitem : item = .plain (join app name) := (if_neg hd).trans (if_neg hrenames)
      simp [hitem, FileItem.given?]

end Shortcuts

end Script

namespace Script.Request

open Text FlutterInstaller.Path

variable {m : Manifest} {o : Overrides} {w : Option String} {h h₀ h₁ h' : Host} {r : Request}
  {text : String}

/-- Whatever a project resolves to, and whatever the app's directory holds: the shortcuts and the offer
to start the app are read for what they were given, where a display name out of the name of the manifest
has no character that means something. An entry of the files is, exactly when its path stands on one
line with its quotation marks in pairs, and for a directory, whose name is its folder as well, this name
has no such mark and opens no brace. -/
theorem entries_read (hr : perform (Project.resolve m o w) h₀ = (.ok r.config, h₁))
    (hname : (Source.tool m "name").Empty → ∀ x ∈ reserved, x ∉ r.config.displayName.toList)
    (ht : perform r.render h = (.ok text, h')) :
    ∃ parts h₂ names, r.Gathers h parts h' ∧ text = parts.text r.config ∧
      perform (r.stageIcon parts.places.staging) h = (.ok parts.icon, h₂) ∧
      h₂.Lists parts.places.app names ∧
      parts.items = names.map (r.child h₂ parts.places.app) ++ parts.staged.map .plain ∧
      (parts.sections r.config).filter (fun s => s.name ∈ ["Files", "Icons", "Run"]) =
        [files parts.items, icons r.config, run r.config] ∧
      (∀ item ∈ parts.items, item.line.Says item.sayings ↔
        OneLine item.source ∧ Paired '"' item.source ∧
          ∀ path name, item = .directory path name → Literal name) ∧
      (∃ menu desktop, (icons r.config).lines = [menu, desktop] ∧
        menu.Says (shortcutSayings r.config "autoprograms") ∧
        desktop.Says (shortcutSayings r.config "autodesktop")) ∧
      ∃ launch constant, (run r.config).lines = [launch] ∧
        launch.Says [("Filename", .constant "app" :: .char '\\' :: literals r.config.targetExe),
          ("Description", [.constant constant])] ∧
        messageOf? constant = some ("cm:LaunchProgram", r.config.displayName) := by
  obtain ⟨b, _, hc⟩ := Project.perform_resolve_eq_ok_iff.mp ⟨h₁, hr⟩
  have hone := hc.oneLine_displayName
  have hnot : ∀ x ∈ reserved, Config.isDisplayChar x = false :=
    forall_mem_reserved.mpr ⟨by decide +kernel, by decide +kernel, by decide +kernel, by decide +kernel⟩
  have hfree : ∀ x ∈ reserved, x ∉ r.config.displayName.toList := fun x hx =>
    hc.not_mem_displayName (hnot x hx) fun hempty => hname hempty x hx
  have hliteral : Literal r.config.displayName := ⟨hfree _ (by decide), hfree _ (by decide)⟩
  obtain ⟨parts, hg, rfl⟩ := perform_render_eq_ok_iff.mp ht
  obtain ⟨names, h₂, hicon, hlists, -, hchildren, -⟩ := hg.lists
  have hitems : parts.items = names.map (r.child h₂ parts.places.app) ++ parts.staged.map .plain := by
    rw [Parts.items, hchildren]
  refine ⟨parts, h₂, names, hg, rfl, hicon, hlists, hitems, ?_, fun item hitem => ?_,
    icons_say hone hliteral, run_says hone hfree⟩
  · simp [Parts.sections, Script.sections, setup, installDelete, languages, tasks, files, icons, run]
  · rw [hitems, List.mem_append, List.mem_map, List.mem_map] at hitem
    rcases hitem with ⟨name, -, rfl⟩ | ⟨path, -, rfl⟩
    · exact says_ofChild_iff hone hliteral
    · rw [FileItem.says_iff, FileItem.oneLine_render_iff]
      simp [FileItem.given?]

theorem name_of_child_eq_directory {app name path n : String}
    (hchild : r.child h app name = .directory path n) : n = name := by
  rw [child, FileItem.ofChild] at hchild
  split_ifs at hchild
  exact (FileItem.directory.inj hchild).2.symm

section Sample

theorem entries_read_mixed :
    ∃ h₀ text h' parts, perform (Project.resolve linkManifest {} none) (folderHost mixedChildren) =
        (.ok linkRequest.config, h₀) ∧
      ((Source.tool linkManifest "name").Empty →
        ∀ x ∈ reserved, x ∉ linkRequest.config.displayName.toList) ∧
      perform linkRequest.render (folderHost mixedChildren) = (.ok text, h') ∧
      linkRequest.Gathers (folderHost mixedChildren) parts h' ∧
      text = parts.text linkRequest.config ∧
      ∀ item ∈ parts.items, item.line.Says item.sayings := by
  have hs := simple_mixedChildren
  obtain ⟨log, hr⟩ := hs.resolve_link
  have hname : ∀ x ∈ reserved, x ∉ linkRequest.config.displayName.toList :=
    forall_mem_reserved.mpr ⟨by decide, by decide, by decide, by decide⟩
  obtain ⟨h', -, hrender⟩ := hs.exists_render suits_link []
  obtain ⟨parts, -, -, hg', htext, -, -, -, -, hfiles, -⟩ := entries_read hr (fun _ => hname) hrender
  refine ⟨_, _, h', parts, hr, fun _ => hname, hrender, hg', htext, fun item hitem => ?_⟩
  have hclear : ∀ n ∈ mixedNames, OneLine (join "/a" n) ∧ '"' ∉ (join "/a" n).toList ∧
      '"' ∉ n.toList ∧ '\x7b' ∉ n.toList := by decide
  obtain ⟨n, hn, rfl⟩ : ∃ n ∈ mixedNames,
      linkRequest.child (folderHost mixedChildren) "/a" n = item := by
    rw [← List.mem_map, hs.map_child]
    rwa [hs.gathers_eq suits_link hg', Parts.items, folderParts,
      if_neg (by decide), List.map_nil, List.append_nil] at hitem
  obtain ⟨hone, hpath, hliteral⟩ := hclear n hn
  refine (hfiles _ hitem).mpr ⟨?_, ?_, fun path name he => ?_⟩
  · rwa [child, FileItem.source_ofChild]
  · rw [child, FileItem.source_ofChild]
    exact paired_of_not_mem hpath
  · rwa [name_of_child_eq_directory he]

def strangeChildren : List (String × Bool) := [("a\x7bb", true), ("c\"d", false)]

/-- A brace in the name of a directory opens a constant that is not closed, and the quotation mark in
that of a file ends its path. -/
theorem entries_misread :
    ∃ h₀ text h' parts, perform (Project.resolve linkManifest {} none) (folderHost strangeChildren) =
        (.ok linkRequest.config, h₀) ∧
      perform linkRequest.render (folderHost strangeChildren) = (.ok text, h') ∧
      linkRequest.Gathers (folderHost strangeChildren) parts h' ∧
      text = parts.text linkRequest.config ∧
      parts.items = [.directory "/a/a\x7bb" "a\x7bb", .plain "/a/c\"d"] ∧
      ∀ item ∈ parts.items, ¬ item.line.Says item.sayings := by
  have hs : Simple strangeChildren ["a\x7bb", "c\"d"] := simple_of_sorted (by decide) (by decide)
  obtain ⟨log, hr⟩ := hs.resolve_link
  obtain ⟨h', hg, hrender⟩ := hs.exists_render suits_link []
  have hitems : (folderParts linkRequest linkPlaces strangeChildren ["a\x7bb", "c\"d"]).items =
      [.directory "/a/a\x7bb" "a\x7bb", .plain "/a/c\"d"] := by decide
  have hbrace : ¬ Literal "a\x7bb" := fun h => absurd h.2 (by decide)
  have hmark : ¬ Paired '"' "/a/c\"d" := fun h => absurd h.two_dvd_count (by decide)
  refine ⟨_, _, h', _, hr, hrender, hg, rfl, hitems, ?_⟩
  simp [hitems, FileItem.says_iff, FileItem.given?, FileItem.source, hbrace, hmark]

end Sample

end Script.Request

end FlutterInstaller
