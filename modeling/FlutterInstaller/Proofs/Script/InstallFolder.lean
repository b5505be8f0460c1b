import FlutterInstaller.Proofs.Config.DisplayName
import FlutterInstaller.Script.Sections

/-!
Where an installer puts things. A name leads into its folder, and nowhere else, when it is a component:
not empty, not one of the two names that dots spell, and free of slashes and of control characters.
The folder of an app is emptied before it is filled, so its name has to be one.
-/
namespace FlutterInstaller

namespace Text

def isControl (c : Char) : Bool := c.toNat < 0x20 || (0x7F ≤ c.toNat && c.toNat ≤ 0x9F)

def isSlash (c : Char) : Bool := c = '/' || c = '\\'

def isPlain (c : Char) : Bool := !isSlash c && !isControl c

def specialRanges : List CodeRange := [(0x0, 0x1F), (0x2F, 0x2F), (0x5C, 0x5C), (0x7F, 0x9F)]

theorem isPlain_iff {c : Char} : isPlain c = true ↔ ¬ Among specialRanges c := by
  have hslash : c = '/' ↔ c.toNat = 0x2F := by rw [← Char.toNat_inj]; rfl
  have hbackslash : c = '\\' ↔ c.toNat = 0x5C := by rw [← Char.toNat_inj]; rfl
  simp only [isPlain, isSlash, isControl, Among, specialRanges, CodeRange.covers, Bool.and_eq_true,
    Bool.not_eq_true', Bool.or_eq_false_iff, Bool.and_eq_false_iff, decide_eq_true_eq,
    decide_eq_false_iff_not, List.mem_cons, List.not_mem_nil, or_false, exists_eq_or_imp,
    exists_eq_left, hslash, hbackslash]
  omega

theorem caseless_specialRanges : Caseless specialRanges where
  runs := by decide +kernel
  expansions := by decide +kernel
  runsApart := by decide +kernel
  expansionsApart := by decide +kernel

theorem forall_mem_camelCaseChars_isPlain_iff {cs : List Char} :
    (∀ d ∈ camelCaseChars cs, isPlain d = true) ↔
      ∀ c ∈ cs, isSeparator c = true ∨ isPlain c = true := by
  simp only [isPlain_iff]
  exact caseless_specialRanges.forall_mem_camelCaseChars_iff

end Text

namespace Config

open Text

theorem isPlain_of_isDisplayChar {c : Char} (h : isDisplayChar c = true) : isPlain c = true := by
  have hwords : ∀ r ∈ Word.ranges, ∀ s ∈ specialRanges, s.2 < r.1 ∨ r.2 < s.1 := by decide +kernel
  have hmarks : ∀ d ∈ ['-', '.', '&', ' '], isPlain d = true := List.all_eq_true.mp (by decide)
  simp only [isDisplayChar, Bool.or_eq_true, decide_eq_true_eq] at h
  rcases h with (((h | rfl) | rfl) | rfl) | rfl
  · rw [isPlain_iff]
    rintro ⟨s, hs, hcover⟩
    obtain ⟨r, hr, hword⟩ := List.any_eq_true.mp h
    have hout := hwords r hr s hs
    simp only [CodeRange.covers, Bool.and_eq_true, decide_eq_true_eq] at hcover hword
    omega
  all_goals exact hmarks _ (by decide)

end Config

namespace Script

open Text

/-- A name that leads one level down and nowhere else. -/
structure IsComponent (name : String) : Prop where
  filled : name ≠ ""
  notHere : name ≠ "."
  notAbove : name ≠ ".."
  plain : ∀ x ∈ name.toList, isPlain x = true

def Section.directive? (s : Section) (key : String) : Option String :=
  s.lines.findSome? fun
    | .directive k value => if k = key then some value else none
    | .entry _ => none

/-- The folder of the app, its executable and the installer are named by components. -/
structure Inside (s : Section) : Prop where
  folder : ∃ name, s.directive? "DefaultDirName" = some (below "autopf" name) ∧ IsComponent name
  executable :
    ∃ name, s.directive? "UninstallDisplayIcon" = some (below "app" name) ∧ IsComponent name
  installer : ∃ name, s.directive? "OutputBaseFilename" = some name ∧ IsComponent name

def descend (folder : Location) (name : String) : Location :=
  ((splitBy isSlash name.toList).map String.ofList).foldl Path.step folder

/-- The place that `{app}` stands for by default, where `{autopf}` stands for a folder. What is in it
is removed at every installation. -/
def AppFolder (s : Section) (programs place : Location) : Prop :=
  ∃ name, s.directive? "DefaultDirName" = some (below "autopf" name) ∧ place = descend programs name

theorem below_inj {constant a b : String} : below constant a = below constant b ↔ a = b := by
  simp [below, String.ext_iff]

theorem descend_of_plain {folder : Location} {name : String}
    (h : ∀ x ∈ name.toList, isPlain x = true) : descend folder name = Path.step folder name := by
  have hslash : ∀ x ∈ name.toList, isSlash x = false := by
    intro x hx
    have hp := h x hx
    simp only [isPlain, Bool.and_eq_true, Bool.not_eq_true'] at hp
    exact hp.1
  simp [descend, splitBy_eq_singleton hslash]

theorem IsComponent.descend_eq {folder : Location} {name : String} (h : IsComponent name) :
    descend folder name = folder ++ [name] := by
  rw [descend_of_plain h.plain, Path.step, if_neg (by simp [h.filled, h.notHere]), if_neg h.notAbove]

theorem descend_prefix_iff {folder : Location} {name : String} (hfilled : name ≠ "")
    (h : ∀ x ∈ name.toList, isPlain x = true) :
    descend folder name <+: folder ↔ name = "." ∨ name = ".." := by
  rw [descend_of_plain h, Path.step]
  split
  · next hhere => simp_all
  · next hhere =>
    split
    · next habove => simp [habove, List.dropLast_prefix]
    · next habove =>
      have hlength : ¬ (folder ++ [name]) <+: folder := fun hp => by
        have hle := hp.length_le
        simp only [List.length_append, List.length_singleton] at hle
        omega
      simp_all

section Names

variable {c : Config} {output icon : String}

theorem isComponent_iff_of_length {name : String} (hlength : 2 < name.toList.length) :
    IsComponent name ↔ ∀ x ∈ name.toList, isPlain x = true := by
  refine ⟨IsComponent.plain, fun hplain => ⟨?_, ?_, ?_, hplain⟩⟩
  · rintro rfl
    simp at hlength
  · rintro rfl
    simp at hlength
  · rintro rfl
    simp at hlength

theorem isComponent_targetExe (h : ∀ x ∈ c.displayName.toList, isPlain x = true) :
    IsComponent c.targetExe := by
  have hend : ∀ x ∈ ".exe".toList, isPlain x = true := List.all_eq_true.mp (by decide)
  apply (isComponent_iff_of_length (by simp [Config.targetExe])).mpr
  rw [Config.targetExe, String.toList_append, List.forall_mem_append]
  exact ⟨h, hend⟩

theorem isComponent_installerName_iff (h : ∀ x ∈ c.displayName.toList, isPlain x = true) :
    IsComponent c.installerName ↔ ∀ x ∈ c.version.toList, isPlain x = true := by
  have hmiddle : ∀ x ∈ "-x86_64-".toList, isPlain x = true := List.all_eq_true.mp (by decide)
  have hend : ∀ x ∈ "-Installer".toList, isPlain x = true := List.all_eq_true.mp (by decide)
  have hcamel : ∀ x ∈ c.camelCaseName.toList, isPlain x = true := by
    rw [Config.camelCaseName, camelCase, String.toList_ofList, forall_mem_camelCaseChars_isPlain_iff]
    exact fun x hx => .inr (h x hx)
  have hlength : 2 < c.installerName.toList.length := by
    simp only [Config.installerName, String.toList_append, List.length_append]
    have hmark : "-Installer".toList.length = 10 := rfl
    omega
  rw [isComponent_iff_of_length hlength]
  simp only [Config.installerName, String.toList_append, List.forall_mem_append]
  constructor
  · intro hall
    exact hall.1.2
  · intro hversion
    exact ⟨⟨⟨hcamel, hmiddle⟩, hversion⟩, hend⟩

theorem directive?_defaultDirName :
    (setup c output icon).directive? "DefaultDirName" = some (below "autopf" c.displayName) := by
  simp [Section.directive?, setup]

theorem directive?_uninstallDisplayIcon :
    (setup c output icon).directive? "UninstallDisplayIcon" = some (below "app" c.targetExe) := by
  simp [Section.directive?, setup]

theorem directive?_outputBaseFilename :
    (setup c output icon).directive? "OutputBaseFilename" = some c.installerName := by
  simp [Section.directive?, setup]

theorem inside_setup_iff :
    Inside (setup c output icon) ↔
      IsComponent c.displayName ∧ ∀ x ∈ c.version.toList, isPlain x = true := by
  constructor
  · rintro ⟨⟨folder, hfolder, hcomponent⟩, -, base, hbase, hinstaller⟩
    rw [directive?_defaultDirName, Option.some.injEq, below_inj] at hfolder
    rw [directive?_outputBaseFilename, Option.some.injEq] at hbase
    subst hfolder hbase
    exact ⟨hcomponent, (isComponent_installerName_iff hcomponent.plain).mp hinstaller⟩
  · rintro ⟨hcomponent, hversion⟩
    exact ⟨⟨_, directive?_defaultDirName, hcomponent⟩,
      ⟨_, directive?_uninstallDisplayIcon, isComponent_targetExe hcomponent.plain⟩,
      _, directive?_outputBaseFilename, (isComponent_installerName_iff hcomponent.plain).mpr hversion⟩

theorem appFolder_setup_iff {programs place : Location} :
    AppFolder (setup c output icon) programs place ↔ place = descend programs c.displayName := by
  simp [AppFolder, directive?_defaultDirName, below_inj]

end Names

end Script

namespace Config

theorem Request.displayName_of_first {r : Request} {name d : String}
    (h : Source.first [r.tool "name"] = .ok (some d)) (hd : IsDisplayName d) :
    r.displayName name = .ok d := by
  rw [displayName, h]
  exact if_pos hd

theorem Resolves.isComponent_displayName_iff {r : Request} {c : Config} (h : Resolves r c) :
    Script.IsComponent c.displayName ↔ c.displayName ≠ "." ∧ c.displayName ≠ ".." ∧
      (¬ (r.tool "name").Empty ∨
        (∃ x ∈ c.manifestName.toList, Text.isSeparator x = false) ∧
          ∀ x ∈ c.manifestName.toList, Text.isSeparator x = true ∨ Text.isPlain x = true) := by
  rcases Request.displayName_eq_ok h.displayName with ⟨hchosen, hvalid⟩ | ⟨hempty, heq⟩
  · have hgiven := Source.not_empty_of_chosen_singleton hchosen
    have hfilled : c.displayName ≠ "" := by
      intro he
      exact hvalid.1 (by rw [he]; rfl)
    have hplain := fun x hx => isPlain_of_isDisplayChar (hvalid.2 x hx)
    constructor
    · exact fun hc => ⟨hc.notHere, hc.notAbove, .inl hgiven⟩
    · rintro ⟨hhere, habove, _⟩
      exact ⟨hfilled, hhere, habove, hplain⟩
  · have hfilled : c.displayName ≠ "" ↔ ∃ x ∈ c.manifestName.toList, Text.isSeparator x = false := by
      rw [← Text.camelCaseChars_ne_nil_iff, heq, Text.camelCase, Ne, Ne, String.ofList_eq_empty_iff]
    have hplain : (∀ x ∈ c.displayName.toList, Text.isPlain x = true) ↔
        ∀ x ∈ c.manifestName.toList, Text.isSeparator x = true ∨ Text.isPlain x = true := by
      rw [heq, Text.camelCase, String.toList_ofList, Text.forall_mem_camelCaseChars_isPlain_iff]
    simp only [← hfilled, ← hplain, hempty, not_true_eq_false, false_or]
    constructor
    · exact fun hc => ⟨hc.notHere, hc.notAbove, hc.filled, hc.plain⟩
    · rintro ⟨hhere, habove, hne, hall⟩
      exact ⟨hne, hhere, habove, hall⟩

end Config

/-- Whatever a project resolves to: its folder, its executable and its installer are named by
components exactly when dots alone do not spell the display name, a display name out of the name of
the manifest has only characters for a component, and so has the version. The folder that an
installation empties is then a new one below the programs; a name of its own in the section for
installers leads to the programs themselves, or above them, just if dots spell it. -/
theorem Project.inside_setup_resolve_iff {m : Manifest} {o : Overrides} {w : Option String}
    {h h' : Host} {c : Config} (hr : perform (Project.resolve m o w) h = (.ok c, h'))
    (output icon : String) :
    (Script.Inside (Script.setup c output icon) ↔
      c.displayName ≠ "." ∧ c.displayName ≠ ".." ∧
        (¬ (Source.tool m "name").Empty ∨
          (∃ x ∈ c.manifestName.toList, Text.isSeparator x = false) ∧
            ∀ x ∈ c.manifestName.toList, Text.isSeparator x = true ∨ Text.isPlain x = true) ∧
        ∀ x ∈ c.version.toList, Text.isPlain x = true) ∧
    (Script.Inside (Script.setup c output icon) → ∀ programs place,
      Script.AppFolder (Script.setup c output icon) programs place →
        place = programs ++ [c.displayName]) ∧
    (¬ (Source.tool m "name").Empty → ∀ programs place,
      Script.AppFolder (Script.setup c output icon) programs place →
        (place <+: programs ↔ c.displayName = "." ∨ c.displayName = "..")) := by
  obtain ⟨b, _, hc⟩ := Project.perform_resolve_eq_ok_iff.mp ⟨h', hr⟩
  refine ⟨?_, ?_, ?_⟩
  · rw [Script.inside_setup_iff, hc.isComponent_displayName_iff, and_assoc, and_assoc]
    rfl
  · intro hinside programs place hplace
    rw [Script.appFolder_setup_iff] at hplace
    rw [hplace, (Script.inside_setup_iff.mp hinside).1.descend_eq]
  · intro hgiven programs place hplace
    rw [Script.appFolder_setup_iff] at hplace
    rcases Config.Request.displayName_eq_ok hc.displayName with ⟨_, hfilled, hvalid⟩ | ⟨hempty, _⟩
    · rw [hplace]
      refine Script.descend_prefix_iff (fun he => hfilled (by rw [he]; rfl)) fun x hx => ?_
      exact Config.isPlain_of_isDisplayChar (hvalid x hx)
    · exact absurd hempty hgiven

theorem inside_setup_resolve_above :
    let m := sampleManifest "demo_app" [("name", .string "..")]
    let c := { sampleConfig with displayName := ".." }
    ∃ h', perform (Project.resolve m {} none) (sampleHost []) = (.ok c, h') ∧
      ¬ Script.Inside (Script.setup c "" "") ∧
      ∀ place, Script.AppFolder (Script.setup c "" "") ["C:", "Program Files"] place →
        place <+: ["C:", "Program Files"] := by
  intro m c
  have hvalid : Config.IsDisplayName ".." := by decide +kernel
  have hc : Config.Resolves ⟨m, {}, [], ⟨[]⟩⟩ c := by
    constructor
    case displayName => exact Config.Request.displayName_of_first rfl hvalid
    case supportUrl | updatesUrl =>
      change Config.Request.urlOr _ _ "https://acme.test" = .ok "https://acme.test"
      rfl
    all_goals rfl
  obtain ⟨h', hr⟩ := Project.perform_resolve_eq_ok_iff.mpr ⟨[], perform_base_sampleHost [], hc⟩
  obtain ⟨hiff, -, habove⟩ := Project.inside_setup_resolve_iff hr "" ""
  have hgiven : ¬ (Source.tool m "name").Empty := by
    rw [← Source.offer_eq_none_iff]
    exact nofun
  exact ⟨h', hr, fun hinside => (hiff.mp hinside).2.1 rfl,
    fun place hplace => (habove hgiven _ place hplace).mpr (.inr rfl)⟩

end FlutterInstaller
