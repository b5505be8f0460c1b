import FlutterInstaller.Proofs.Config.Variables
import FlutterInstaller.Proofs.Script.Outline
import FlutterInstaller.Proofs.Text.Returns

/-!
The free texts of a configuration, which may say anything. Each is given by one directive of the script
and by one variable, on a line of its own, and by nothing else: other texts in their place change these
lines and leave every other line, the files, the log and the outcome as they are. What folding does not
keep off its line is a carriage return.
-/
namespace FlutterInstaller

open Text

structure FreeTexts where
  description : String
  publisher : String
  url : String
  supportUrl : String
  updatesUrl : String

def Config.withTexts (c : Config) (t : FreeTexts) : Config :=
  { c with
    description := t.description
    publisher := t.publisher
    url := t.url
    supportUrl := t.supportUrl
    updatesUrl := t.updatesUrl }

structure FreeField where
  key : String
  name : String
  text : Config → String

namespace FreeField

def all : List FreeField :=
  [⟨"AppComments", "APP_DESCRIPTION", Config.description⟩,
   ⟨"AppPublisher", "APP_PUBLISHER", Config.publisher⟩,
   ⟨"AppPublisherURL", "APP_URL", Config.url⟩,
   ⟨"AppSupportURL", "APP_SUPPORT_URL", Config.supportUrl⟩,
   ⟨"AppUpdatesURL", "APP_UPDATES_URL", Config.updatesUrl⟩]

def directiveLine (f : FreeField) (c : Config) : String :=
  f.key ++ "=" ++ Script.freeText (f.text c)

def variableLine (f : FreeField) (c : Config) : String :=
  f.name ++ "=" ++ singleLine (f.text c)

variable {f : FreeField}

theorem plain_keys (hf : f ∈ all) :
    (OneLine f.key ∧ '\r' ∉ f.key.toList) ∧ OneLine f.name ∧ '\r' ∉ f.name.toList := by
  revert f
  decide

theorem oneLine_directiveLine (hf : f ∈ all) (c : Config) : OneLine (f.directiveLine c) := by
  have hmark : OneLine "=" := by decide
  simp [directiveLine, Script.oneLine_freeText, (plain_keys hf).1.1, hmark]

theorem oneLine_variableLine (hf : f ∈ all) (c : Config) : OneLine (f.variableLine c) := by
  have hmark : OneLine "=" := by decide
  simp [variableLine, (plain_keys hf).2.1, hmark]

end FreeField

/-- Lines that are the same, or that both give one of the free texts, each that of its own
configuration. -/
def Counterparts (line : FreeField → Config → String) (c c' : Config) (l l' : String) : Prop :=
  l = l' ∨ ∃ f ∈ FreeField.all, l = line f c ∧ l' = line f c'

/-- Texts with as many lines, of which those that differ give the free texts. -/
def Confined (line : FreeField → Config → String) (c c' : Config) (text text' : String) : Prop :=
  List.Forall₂ (Counterparts line c c') (pieces '\n' text) (pieces '\n' text')

section Counterparts

variable {line : FreeField → Config → String} {c c' : Config}

theorem Counterparts.same (l : String) : Counterparts line c c' l l := .inl rfl

theorem Counterparts.free {f : FreeField} (hf : f ∈ FreeField.all) :
    Counterparts line c c' (line f c) (line f c') := .inr ⟨f, hf, rfl, rfl⟩

theorem forall₂_flatMap_pieces (hline : ∀ f ∈ FreeField.all, ∀ c, OneLine (line f c))
    {ls ls' : List String} (h : List.Forall₂ (Counterparts line c c') ls ls') :
    List.Forall₂ (Counterparts line c c') (ls.flatMap (pieces '\n')) (ls'.flatMap (pieces '\n')) := by
  induction h with
  | nil => exact .nil
  | cons hl hls ih =>
    rw [List.flatMap_cons, List.flatMap_cons]
    refine List.rel_append ?_ ih
    rcases hl with rfl | ⟨f, hf, rfl, rfl⟩
    · exact List.forall₂_same.mpr fun l _ => .same l
    · rw [pieces_eq_singleton (hline f hf c), pieces_eq_singleton (hline f hf c')]
      exact .cons (.free hf) .nil

theorem forall₂_map_free (before after : List String) :
    List.Forall₂ (Counterparts line c c') (before ++ FreeField.all.map (line · c) ++ after)
      (before ++ FreeField.all.map (line · c') ++ after) := by
  have hsame (ls : List String) : List.Forall₂ (Counterparts line c c') ls ls :=
    List.forall₂_same.mpr fun l _ => .same l
  refine List.rel_append (List.rel_append (hsame before) ?_) (hsame after)
  rw [List.forall₂_map_left_iff, List.forall₂_map_right_iff]
  exact List.forall₂_same.mpr fun f hf => .free hf

end Counterparts

namespace Config

theorem environment_confined (c : Config) (t : FreeTexts) :
    Confined FreeField.variableLine c (c.withTexts t) c.environment (c.withTexts t).environment := by
  have hlines (c : Config) : pieces '\n' c.environment =
      (c.environmentVariables.map lineOfVariable ++ [""]).flatMap (pieces '\n') := by
    rw [environment_eq, join_ended, pieces_intercalate rfl (by simp)]
  rw [Confined, hlines, hlines]
  refine forall₂_flatMap_pieces (fun f hf c => f.oneLine_variableLine hf c) ?_
  refine List.rel_append ?_ (.cons (.same "") .nil)
  simp only [environmentVariables, List.map_cons, List.map_nil, List.forall₂_cons]
  simp [Counterparts, FreeField.all, FreeField.variableLine, lineOfVariable, withTexts,
    camelCaseName]

end Config

namespace Script

theorem exists_setup_eq (c : Config) (output icon : String) : ∃ before after,
    (setup c output icon).lines.map Line.render =
      before ++ FreeField.all.map (·.directiveLine c) ++ after ∧
    ∀ t, (setup (c.withTexts t) output icon).lines.map Line.render =
      before ++ FreeField.all.map (·.directiveLine (c.withTexts t)) ++ after :=
  let ls := (setup c output icon).lines.map Line.render
  ⟨ls.take 5, ls.drop 10, rfl, fun _ => rfl⟩

theorem languages_withTexts (c : Config) (t : FreeTexts) :
    languages (c.withTexts t) = languages c := rfl

theorem icons_withTexts (c : Config) (t : FreeTexts) : icons (c.withTexts t) = icons c := rfl

theorem run_withTexts (c : Config) (t : FreeTexts) : run (c.withTexts t) = run c := rfl

theorem scriptLines_sections (c : Config) (output icon : String) (items : List FileItem) :
    scriptLines (sections c output icon items) =
      (commentLines ++ "[Setup]" :: (setup c output icon).lines.map Line.render) ++ "" ::
        ([installDelete, languages c, tasks, files items, icons c, run c].map Section.block).flatMap
          fun b => b.1 :: b.2 := by
  simp [scriptLines, sections, Section.block, setup]

theorem render_confined (c : Config) (t : FreeTexts) (output icon : String) (items : List FileItem) :
    Confined FreeField.directiveLine c (c.withTexts t) (render (sections c output icon items))
      (render (sections (c.withTexts t) output icon items)) := by
  have hne (c : Config) : sections c output icon items ≠ [] := by simp [sections]
  rw [Confined, pieces_render (hne c), pieces_render (hne _)]
  refine forall₂_flatMap_pieces (fun f hf c => f.oneLine_directiveLine hf c) ?_
  obtain ⟨before, after, hc, ht⟩ := exists_setup_eq c output icon
  rw [scriptLines_sections, scriptLines_sections, hc, ht, languages_withTexts, icons_withTexts,
    run_withTexts]
  generalize "" :: _ = rest
  have hlines : List.Forall₂ (Counterparts FreeField.directiveLine c (c.withTexts t)) _ _ :=
    forall₂_map_free (commentLines ++ "[Setup]" :: before) (after ++ rest)
  simpa using hlines

namespace Request

def gather (r : Request) : Action (Places × String × List FileItem) := do
  let p ← r.places
  if (← get).isDirectory p.app then
    let icon ← r.stageIcon p.staging
    return (p, icon, ← r.items p)
  else throw (.file .readingAppDirectory p.app .noAppDirectory)

theorem render_eq_gather (r : Request) :
    r.render = (fun g => Script.render (sections r.config g.1.output g.2.1 g.2.2)) <$> r.gather := by
  simp only [render, renderAt, gather, map_bind]
  congr 1
  funext p
  congr 1
  funext h
  split <;> simp

theorem gather_withTexts (r : Request) (t : FreeTexts) :
    gather { r with config := r.config.withTexts t } = r.gather := rfl

/-- Two configurations that differ in their free texts alone come to the same, and leave the same host
behind: an error, or scripts with as many lines that differ at most in the directives of these texts.
Their environments differ at most in the variables of these texts. -/
theorem freeTexts_confined (r : Request) (t : FreeTexts) (h : Host) :
    let r' := { r with config := r.config.withTexts t }
    (∃ h', (∃ e, perform r.render h = (.error e, h') ∧ perform r'.render h = (.error e, h')) ∨
      ∃ text text', perform r.render h = (.ok text, h') ∧ perform r'.render h = (.ok text', h') ∧
        Confined FreeField.directiveLine r.config r'.config text text') ∧
      Confined FreeField.variableLine r.config r'.config r.config.environment
        r'.config.environment := by
  intro r'
  refine ⟨?_, r.config.environment_confined t⟩
  rw [render_eq_gather r, render_eq_gather r', gather_withTexts, perform_map, perform_map]
  rcases perform r.gather h with ⟨e | g, h'⟩
  · exact ⟨h', .inl ⟨e, rfl, rfl⟩⟩
  · exact ⟨h', .inr ⟨_, _, rfl, rfl, render_confined r.config t g.1.output g.2.1 g.2.2⟩⟩

end Request

section Returns

variable {f : FreeField} {c : Config}

theorem return_mem_freeText_iff {s : String} : '\r' ∈ (freeText s).toList ↔ HoldsReturn s := by
  rw [freeText, return_mem_double_iff, return_mem_singleLine_iff]

theorem readerLines_directiveLine_iff (hf : f ∈ FreeField.all) :
    readerLines (f.directiveLine c) = [f.directiveLine c] ↔ ¬ HoldsReturn (f.text c) := by
  have hkey := (FreeField.plain_keys hf).1.2
  rw [readerLines_eq_singleton_iff, and_iff_right (FreeField.oneLine_directiveLine hf c),
    FreeField.directiveLine]
  simp [hkey, return_mem_freeText_iff]

theorem readerLines_variableLine_iff (hf : f ∈ FreeField.all) :
    readerLines (f.variableLine c) = [f.variableLine c] ↔ ¬ HoldsReturn (f.text c) := by
  have hname := (FreeField.plain_keys hf).2.2
  rw [readerLines_eq_singleton_iff, and_iff_right (FreeField.oneLine_variableLine hf c),
    FreeField.variableLine]
  simp [hname, return_mem_singleLine_iff]

theorem directiveLine_mem_setup (hf : f ∈ FreeField.all) (output icon : String) :
    f.directiveLine c ∈ (setup c output icon).lines.map Line.render := by
  obtain ⟨before, after, hc, _⟩ := exists_setup_eq c output icon
  rw [hc, List.mem_append, List.mem_append]
  exact .inl (.inr (List.mem_map_of_mem hf))

theorem variableLine_mem_environment (hf : f ∈ FreeField.all) :
    f.variableLine c ∈ c.environmentVariables.map Config.lineOfVariable := by
  simp only [FreeField.all, List.mem_cons, List.not_mem_nil, or_false] at hf
  rcases hf with rfl | rfl | rfl | rfl | rfl <;>
    simp [FreeField.variableLine, Config.environmentVariables, Config.lineOfVariable]

end Returns

/-- Folding leaves no line break. It leaves a carriage return exactly where one stands between other
characters of a line, and then the directive and the variable of the text are not on one line for a
reader that ends lines there. -/
theorem freeTexts_folded_iff (s : String) (c : Config) (output icon : String) :
    (OneLine (singleLine s) ∧ OneLine (freeText s) ∧
      ('\r' ∈ (singleLine s).toList ↔ HoldsReturn s) ∧ ('\r' ∈ (freeText s).toList ↔ HoldsReturn s)) ∧
    ∀ f ∈ FreeField.all,
      (f.directiveLine c ∈ (setup c output icon).lines.map Line.render ∧
        (readerLines (f.directiveLine c) = [f.directiveLine c] ↔ ¬ HoldsReturn (f.text c))) ∧
      f.variableLine c ∈ c.environmentVariables.map Config.lineOfVariable ∧
        (readerLines (f.variableLine c) = [f.variableLine c] ↔ ¬ HoldsReturn (f.text c)) := by
  refine ⟨⟨oneLine_singleLine s, oneLine_freeText s, return_mem_singleLine_iff,
    return_mem_freeText_iff⟩, fun f hf => ⟨⟨directiveLine_mem_setup hf output icon,
      readerLines_directiveLine_iff hf⟩, variableLine_mem_environment hf,
      readerLines_variableLine_iff hf⟩⟩

theorem freeTexts_broken :
    let c := { sampleConfig with description := "a\rb" }
    ∃ h', perform (Project.resolve (sampleManifest "demo_app" [("description", .string "a\rb")]) {} none)
        (sampleHost []) = (.ok c, h') ∧
      '\r' ∈ (singleLine c.description).toList ∧ '\r' ∈ (freeText c.description).toList ∧
      ∃ f ∈ FreeField.all, f.text c = c.description ∧
        readerLines (f.directiveLine c) ≠ [f.directiveLine c] ∧
        readerLines (f.variableLine c) ≠ [f.variableLine c] := by
  intro c
  have hc : Config.resolve ⟨sampleManifest "demo_app" [("description", .string "a\rb")], {}, [], ⟨[]⟩⟩ =
      .ok c := rfl
  obtain ⟨h', hr⟩ := Project.perform_resolve_eq_ok_iff.mpr
    ⟨[], perform_base_sampleHost [], Config.resolve_eq_ok_iff.mp hc⟩
  have hreturn : HoldsReturn c.description :=
    ⟨"a\rb", by decide, "a", "b", by decide, by decide, by decide⟩
  obtain ⟨⟨_, _, hsingle, hfree⟩, hlines⟩ := freeTexts_folded_iff c.description c "" ""
  have hf : ⟨"AppComments", "APP_DESCRIPTION", Config.description⟩ ∈ FreeField.all :=
    List.mem_cons_self
  obtain ⟨⟨_, hdirective⟩, _, hvariable⟩ := hlines _ hf
  exact ⟨h', hr, hsingle.mpr hreturn, hfree.mpr hreturn, _, hf, rfl,
    fun h => hdirective.mp h hreturn, fun h => hvariable.mp h hreturn⟩

end Script

end FlutterInstaller
