import FlutterInstaller.Proofs.Config.Variables
import FlutterInstaller.Proofs.Script.InstallFolder
import FlutterInstaller.Proofs.Script.Outline

/-!
Constants in the values of directives. A brace that opens alone starts one, a doubled brace stands for
itself, so a text that is written as it is means itself only if it opens no brace.
-/
namespace FlutterInstaller

namespace Script

open Text

inductive Mark
  | char (c : Char)
  | constant (name : String)
  deriving DecidableEq

/-- Reads a value, where the name of a constant may have begun. A second brace right after the one
that opens makes a character of the two, and a constant that is not closed makes no sense. -/
def readMarks : Option (List Char) → List Char → Option (List Mark)
  | none, [] => some []
  | some _, [] => none
  | none, c :: cs =>
    if c = '\x7b' then readMarks (some []) cs else (readMarks none cs).map (.char c :: ·)
  | some name, c :: cs =>
    if c = '\x7b' ∧ name = [] then (readMarks none cs).map (.char c :: ·)
    else if c = '\x7d' then (readMarks none cs).map (.constant (String.ofList name) :: ·)
    else readMarks (some (name ++ [c])) cs

def marks? (value : String) : Option (List Mark) := readMarks none value.toList

def literals (s : String) : List Mark := s.toList.map .char

theorem head_readMarks {name cs : List Char} {ms : List Mark}
    (halone : name ≠ [] ∨ cs.head? ≠ some '\x7b') (h : readMarks (some name) cs = some ms) :
    ∃ constant, ms.head? = some (.constant constant) := by
  induction cs generalizing name with
  | nil => simp [readMarks] at h
  | cons c cs ih =>
    have hopen : ¬ (c = '\x7b' ∧ name = []) := by
      rintro ⟨rfl, rfl⟩
      simp at halone
    rw [readMarks, if_neg hopen] at h
    split at h
    · obtain ⟨ms', -, rfl⟩ := Option.map_eq_some_iff.mp h
      exact ⟨_, rfl⟩
    · exact ih (.inl (by simp)) h

theorem map_readMarks_eq_some_iff {c : Char} {cs ds : List Char} :
    (readMarks none cs).map (.char c :: ·) = some (ds.map .char) ↔
      ∃ ds', ds = c :: ds' ∧ readMarks none cs = some (ds'.map .char) := by
  rw [Option.map_eq_some_iff]
  constructor
  · rintro ⟨ms, hms, h⟩
    cases ds with
    | nil => cases h
    | cons d ds =>
      cases h
      exact ⟨ds, rfl, hms⟩
  · rintro ⟨ds', rfl, h⟩
    exact ⟨_, h, rfl⟩

theorem readMarks_eq_some_iff (cs : List Char) :
    (∀ ds : List Char, readMarks none cs = some (ds.map .char) ↔ cs = doubleChars '\x7b' ds) ∧
    ∀ ds : List Char, readMarks (some []) cs = some (ds.map .char) ↔
      '\x7b' :: cs = doubleChars '\x7b' ds := by
  induction cs with
  | nil =>
    constructor
    · intro ds
      rw [readMarks, nil_eq_doubleChars_iff, Option.some.injEq, eq_comm, List.map_eq_nil_iff]
    · intro ds
      rw [readMarks, mark_cons_eq_doubleChars_iff]
      simp
  | cons c cs ih =>
    obtain ⟨hplain, hopen⟩ := ih
    constructor
    · intro ds
      by_cases hc : c = '\x7b'
      · subst hc
        rw [readMarks, if_pos rfl, hopen]
      · rw [readMarks, if_neg hc, map_readMarks_eq_some_iff, cons_eq_doubleChars_iff hc]
        simp only [hplain]
    · intro ds
      rw [mark_cons_eq_doubleChars_iff]
      by_cases hc : c = '\x7b'
      · subst hc
        rw [readMarks, if_pos ⟨rfl, rfl⟩, map_readMarks_eq_some_iff]
        simp [hplain, and_comm]
      · constructor
        · intro h
          obtain ⟨constant, hhead⟩ := head_readMarks (.inr (by simpa using hc)) h
          cases ds <;> simp at hhead
        · rintro ⟨cs', ds', h, -⟩
          exact absurd (List.cons.inj h).1 hc

theorem marks?_eq_literals_iff {value s : String} :
    marks? value = some (literals s) ↔ value = double '\x7b' s := by
  rw [marks?, literals, (readMarks_eq_some_iff _).1, double, ← String.toList_inj, String.toList_ofList]

theorem marks?_eq_literals_self_iff {s : String} :
    marks? s = some (literals s) ↔ '\x7b' ∉ s.toList := by
  rw [marks?_eq_literals_iff, eq_comm, double_eq_self_iff]

theorem readMarks_constant {constant name : List Char} (rest : List Char)
    (hclose : '\x7d' ∉ constant) (hopen : name ≠ [] ∨ constant.head? ≠ some '\x7b') :
    readMarks (some name) (constant ++ '\x7d' :: rest) =
      (readMarks none rest).map (.constant (String.ofList (name ++ constant)) :: ·) := by
  induction constant generalizing name with
  | nil =>
    rw [List.nil_append, readMarks, if_neg (by simp), if_pos rfl, List.append_nil]
  | cons c cs ih =>
    rw [List.mem_cons, not_or] at hclose
    have hnot : ¬ (c = '\x7b' ∧ name = []) := by
      rintro ⟨rfl, rfl⟩
      simp at hopen
    rw [List.cons_append, readMarks, if_neg hnot, if_neg (Ne.symm hclose.1), ih hclose.2 (.inl (by simp)),
      List.append_assoc, List.singleton_append]

theorem marks?_below {constant : String} (name : String) (hclose : '\x7d' ∉ constant.toList)
    (hopen : constant.toList.head? ≠ some '\x7b') :
    marks? (below constant name) =
      (marks? name).map fun ms => .constant constant :: .char '\\' :: ms := by
  have hchars : (below constant name).toList =
      '\x7b' :: (constant.toList ++ '\x7d' :: '\\' :: name.toList) := by
    simp [below]
  rw [marks?, hchars, readMarks, if_pos rfl, readMarks_constant _ hclose (.inr hopen), readMarks,
    if_neg (by decide), marks?, Option.map_map, List.nil_append, String.ofList_toList]
  rfl

def directivesOf (text : String) : List (String × String) :=
  (pieces '\n' text).filterMap Config.variableOfLine?

def valueIn? (text key : String) : Option String := (directivesOf text).lookup key

/-- A directive on its first line, and what the further lines of its value are taken for. -/
def spread (key value : String) : List (String × String) :=
  (key, firstLine value) :: (pieces '\n' value).tail.filterMap Config.variableOfLine?

theorem spread_of_oneLine {key value : String} (h : OneLine value) : spread key value = [(key, value)] := by
  rw [spread, firstLine_eq_self h, pieces_eq_singleton h]
  rfl

theorem directivesOf_directive {key : String} (hone : OneLine key) (hkey : '=' ∉ key.toList)
    (value : String) : directivesOf (Line.render (.directive key value)) = spread key value := by
  have hmark : OneLine (key ++ "=") := oneLine_append.mpr ⟨hone, by decide⟩
  have hline : Config.variableOfLine? (key ++ "=" ++ firstLine value) = some (key, firstLine value) :=
    @Config.variableOfLine?_lineOfVariable (key, firstLine value) hkey
  rw [directivesOf, Line.render, pieces_append_of_oneLine hmark, List.filterMap_cons, hline]
  rfl

theorem directivesOf_render {s : Section} (hname : OneLine s.name) (hmark : '=' ∉ s.name.toList) :
    directivesOf s.render = s.lines.flatMap fun l => directivesOf l.render := by
  have hone : OneLine s.block.1 := by
    have hbrackets : OneLine "[" ∧ OneLine "]" := by decide
    simp [Section.block, hname, hbrackets]
  have hheader : directivesOf s.block.1 = [] := by
    have hnone : Config.variableOfLine? s.block.1 = none :=
      Config.variableOfLine?_eq_none (by simp [Section.block, hmark])
    rw [directivesOf, pieces_eq_singleton hone, List.filterMap_cons, hnone]
    rfl
  rw [Section.render_eq, directivesOf, pieces_intercalate rfl (by simp), List.filterMap_flatMap]
  change (s.block.1 :: s.block.2).flatMap (fun l => directivesOf l) = _
  rw [List.flatMap_cons, hheader, List.nil_append, Section.block, List.flatMap_append, List.flatMap_map]
  have hend : [""].flatMap (fun l => directivesOf l) = [] := by decide
  rw [hend, List.append_nil]

section Setup

variable {c : Config} {output icon : String}

theorem directivesOf_setup (output icon : String) (hname : OneLine c.displayName) :
    ∃ rest, directivesOf (setup c output icon).render =
      [("AppId", "\x7b\x7b" ++ c.id.text ++ "\x7d"), ("AppName", freeText c.displayName),
        ("UninstallDisplayName", freeText c.displayName),
        ("UninstallDisplayIcon", below "app" c.targetExe)] ++ spread "AppVersion" c.version ++
      [("AppComments", freeText c.description), ("AppPublisher", freeText c.publisher),
        ("AppPublisherURL", freeText c.url), ("AppSupportURL", freeText c.supportUrl),
        ("AppUpdatesURL", freeText c.updatesUrl), ("DefaultDirName", below "autopf" c.displayName)] ++
      rest := by
  have hid : OneLine ("\x7b\x7b" ++ c.id.text ++ "\x7d") := by
    have hbraces : OneLine "\x7b\x7b" ∧ OneLine "\x7d" := by decide
    simp [hbraces, oneLine_uuid]
  have happ : OneLine (below "app" c.targetExe) :=
    oneLine_below.mpr ⟨by decide, oneLine_targetExe hname⟩
  have hfolder : OneLine (below "autopf" c.displayName) := oneLine_below.mpr ⟨by decide, hname⟩
  have hlines : ∃ more, (setup c output icon).lines =
      [.directive "AppId" ("\x7b\x7b" ++ c.id.text ++ "\x7d"),
       .directive "AppName" (freeText c.displayName),
       .directive "UninstallDisplayName" (freeText c.displayName),
       .directive "UninstallDisplayIcon" (below "app" c.targetExe),
       .directive "AppVersion" c.version,
       .directive "AppComments" (freeText c.description),
       .directive "AppPublisher" (freeText c.publisher),
       .directive "AppPublisherURL" (freeText c.url),
       .directive "AppSupportURL" (freeText c.supportUrl),
       .directive "AppUpdatesURL" (freeText c.updatesUrl),
       .directive "DefaultDirName" (below "autopf" c.displayName)] ++ more := ⟨_, rfl⟩
  obtain ⟨more, hlines⟩ := hlines
  have hsection : (setup c output icon).name = "Setup" := rfl
  refine ⟨more.flatMap fun l => directivesOf l.render, ?_⟩
  rw [directivesOf_render (by rw [hsection]; decide) (by rw [hsection]; decide), hlines,
    List.flatMap_append]
  simp (disch := decide) only [List.flatMap_cons, List.flatMap_nil, directivesOf_directive,
    spread_of_oneLine hid, spread_of_oneLine happ, spread_of_oneLine hfolder,
    spread_of_oneLine (oneLine_freeText _), List.append_assoc, List.cons_append, List.nil_append]

def sayings (c : Config) : List (String × List Mark) :=
  [("AppName", literals (singleLine c.displayName)),
   ("UninstallDisplayName", literals (singleLine c.displayName)),
   ("UninstallDisplayIcon", .constant "app" :: .char '\\' :: literals c.targetExe),
   ("AppVersion", literals (singleLine c.version)),
   ("AppComments", literals (singleLine c.description)),
   ("AppPublisher", literals (singleLine c.publisher)),
   ("AppPublisherURL", literals (singleLine c.url)),
   ("AppSupportURL", literals (singleLine c.supportUrl)),
   ("AppUpdatesURL", literals (singleLine c.updatesUrl)),
   ("DefaultDirName", .constant "autopf" :: .char '\\' :: literals c.displayName)]

/-- Each of them says its text, and no constant but its own. -/
def ReadsBack (c : Config) (text : String) : Prop :=
  ∀ x ∈ sayings c, (valueIn? text x.1).bind marks? = some x.2

theorem marks?_freeText (s : String) : marks? (freeText s) = some (literals (singleLine s)) :=
  marks?_eq_literals_iff.mpr rfl

theorem marks?_below_literals_iff {constant name : String} (hclose : '\x7d' ∉ constant.toList)
    (hopen : constant.toList.head? ≠ some '\x7b') :
    marks? (below constant name) = some (.constant constant :: .char '\\' :: literals name) ↔
      '\x7b' ∉ name.toList := by
  rw [marks?_below name hclose hopen, ← marks?_eq_literals_self_iff]
  simp [Option.map_eq_some_iff]

theorem not_mem_targetExe_iff : '\x7b' ∉ c.targetExe.toList ↔ '\x7b' ∉ c.displayName.toList := by
  simp [Config.targetExe]

theorem marks?_firstLine_iff {version : String} :
    marks? (firstLine version) = some (literals (singleLine version)) ↔
      '\x7b' ∉ version.toList ∧ firstLine version = singleLine version := by
  have hfold : (singleLine version).toList.count '\x7b' = version.toList.count '\x7b' :=
    count_singleLine (by decide) version
  have hkept : '\x7b' ∉ (singleLine version).toList ↔ '\x7b' ∉ version.toList := by
    rw [← List.count_eq_zero, hfold, List.count_eq_zero]
  rw [marks?_eq_literals_iff]
  constructor
  · intro h
    -- doubled, the braces of all lines are no more than those of the first, so there are none
    have hfirst : (firstLine version).toList.count '\x7b' ≤ version.toList.count '\x7b' := by
      rw [firstLine, String.toList_ofList]
      exact (List.takeWhile_sublist _).count_le _
    rw [h, double, String.toList_ofList, count_doubleChars, hfold] at hfirst
    have hnone : '\x7b' ∉ version.toList := List.count_eq_zero.mp (by omega)
    exact ⟨hnone, h.trans (double_eq_self_iff.mpr (hkept.mpr hnone))⟩
  · rintro ⟨hnone, h⟩
    rw [h, double_eq_self_iff.mpr (hkept.mpr hnone)]

theorem spread_of_firstLine {key value : String} (h : firstLine value = singleLine value) :
    spread key value = [(key, firstLine value)] := by
  have hblank : ∀ l ∈ (pieces '\n' value).tail, '=' ∉ l.toList := fun l hl hmark =>
    absurd (blank_of_firstLine h hl _ hmark) (by decide)
  rw [spread, List.filterMap_eq_nil_iff.mpr fun l hl => Config.variableOfLine?_eq_none (hblank l hl)]

theorem readsBack_setup_iff (hname : OneLine c.displayName) :
    ReadsBack c (setup c output icon).render ↔
      '\x7b' ∉ c.version.toList ∧ firstLine c.version = singleLine c.version ∧
        '\x7b' ∉ c.displayName.toList := by
  obtain ⟨rest, hsetup⟩ := directivesOf_setup output icon hname
  have hbelow {constant name : String} (hc : constant = "app" ∨ constant = "autopf") :
      marks? (below constant name) = some (.constant constant :: .char '\\' :: literals name) ↔
        '\x7b' ∉ name.toList := by
    rcases hc with rfl | rfl <;> exact marks?_below_literals_iff (by decide) (by decide)
  constructor
  · intro h
    have hicon := h ("UninstallDisplayIcon", _) (by simp [sayings]; rfl)
    have hversion := h ("AppVersion", _) (by simp [sayings]; rfl)
    simp only [valueIn?, hsetup, spread, List.lookup_cons, List.cons_append, List.nil_append,
      String.reduceBEq, Option.bind_some] at hicon hversion
    rw [hbelow (.inl rfl), not_mem_targetExe_iff] at hicon
    obtain ⟨hbrace, hfirst⟩ := marks?_firstLine_iff.mp hversion
    exact ⟨hbrace, hfirst, hicon⟩
  · rintro ⟨hversion, hfirst, hbrace⟩
    have hicon := (hbelow (.inl rfl)).mpr (not_mem_targetExe_iff.mpr hbrace)
    have hfolder := (hbelow (.inr rfl)).mpr hbrace
    have hsays := marks?_firstLine_iff.mpr ⟨hversion, hfirst⟩
    rw [spread_of_firstLine hfirst] at hsetup
    simp only [ReadsBack, sayings, List.forall_mem_cons, List.not_mem_nil, false_imp_iff, implies_true,
      and_true]
    simp only [valueIn?, hsetup, List.lookup_cons, List.cons_append, List.nil_append, String.reduceBEq,
      Option.bind_some, marks?_freeText, hicon, hfolder, hsays, and_true]

end Setup

end Script

namespace Text

theorem caseless_brace : Caseless [(0x7B, 0x7B)] where
  runs := by decide +kernel
  expansions := by decide +kernel
  runsApart := by decide +kernel
  expansionsApart := by decide +kernel

theorem brace_not_mem_camelCase_iff {s : String} :
    '\x7b' ∉ (camelCase s).toList ↔ '\x7b' ∉ s.toList := by
  have hamong (c : Char) : Among [(0x7B, 0x7B)] c ↔ c = '\x7b' := by
    rw [← Char.toNat_inj]
    simp only [Among, CodeRange.covers, List.mem_singleton, exists_eq_left, Bool.and_eq_true,
      decide_eq_true_eq]
    exact ⟨fun h => le_antisymm h.2 h.1, fun h => ⟨h.ge, h.le⟩⟩
  have hkept : (∀ d ∈ camelCaseChars s.toList, ¬ Among [(0x7B, 0x7B)] d) ↔
      ∀ c ∈ s.toList, isSeparator c = true ∨ ¬ Among [(0x7B, 0x7B)] c :=
    caseless_brace.forall_mem_camelCaseChars_iff
  have hinside : ∀ c, (isSeparator c = true ∨ ¬ c = '\x7b') ↔ ¬ c = '\x7b' := by
    refine fun c => or_iff_right_of_imp ?_
    rintro hc rfl
    exact absurd hc (by decide)
  simp only [hamong, hinside, List.forall_mem_ne'] at hkept
  rw [camelCase, String.toList_ofList, hkept]

end Text

namespace Config

theorem Resolves.brace_not_mem_displayName_iff {r : Request} {c : Config} (h : Resolves r c) :
    '\x7b' ∉ c.displayName.toList ↔ ¬ (r.tool "name").Empty ∨ '\x7b' ∉ c.manifestName.toList := by
  rcases Request.displayName_eq_ok h.displayName with ⟨hchosen, hvalid⟩ | ⟨hempty, heq⟩
  · have hgiven := Source.not_empty_of_chosen_singleton hchosen
    have hnot : isDisplayChar '\x7b' = false := by decide +kernel
    have hbrace : '\x7b' ∉ c.displayName.toList := fun hb => by
      rw [hvalid.2 _ hb] at hnot
      cases hnot
    simp [hgiven, hbrace]
  · rw [heq, Text.brace_not_mem_camelCase_iff]
    simp [hempty]

end Config

/-- Whatever a project resolves to: every directive that carries one of its texts says that text,
folded onto one line, and no constant but the folder that the renderer puts in front, exactly when the
version opens no brace and its first line is all of it, and a display name out of the name of the
manifest opens no brace either. -/
theorem Project.readsBack_setup_resolve_iff {m : Manifest} {o : Overrides} {w : Option String}
    {h h' : Host} {c : Config} (hr : perform (Project.resolve m o w) h = (.ok c, h'))
    (output icon : String) :
    Script.ReadsBack c (Script.setup c output icon).render ↔
      '\x7b' ∉ c.version.toList ∧ Text.firstLine c.version = Text.singleLine c.version ∧
        (¬ (Source.tool m "name").Empty ∨ '\x7b' ∉ c.manifestName.toList) := by
  obtain ⟨b, _, hc⟩ := Project.perform_resolve_eq_ok_iff.mp ⟨h', hr⟩
  rw [Script.readsBack_setup_iff hc.oneLine_displayName, hc.brace_not_mem_displayName_iff]
  rfl

theorem readsBack_setup_broken :
    let c := { sampleConfig with version := "1.0\x7bx\x7d" }
    ∃ h', perform (Project.resolve (sampleManifest "demo_app" []) { version := some "1.0\x7bx\x7d" } none)
        (sampleHost []) = (.ok c, h') ∧
      ¬ Script.ReadsBack c (Script.setup c "" "").render := by
  intro c
  have hc : Config.resolve ⟨sampleManifest "demo_app" [], { version := some "1.0\x7bx\x7d" }, [],
      ⟨[]⟩⟩ = .ok c := rfl
  obtain ⟨h', hr⟩ := Project.perform_resolve_eq_ok_iff.mpr
    ⟨[], perform_base_sampleHost [], Config.resolve_eq_ok_iff.mp hc⟩
  refine ⟨h', hr, fun hread => ?_⟩
  have hversion := ((Project.readsBack_setup_resolve_iff hr "" "").mp hread).1
  exact absurd hversion (by decide)

end FlutterInstaller
