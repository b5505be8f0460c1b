import FlutterInstaller.Config.Environment
import FlutterInstaller.Proofs.Config.Lines

/-!
Reading the variables of a configuration back from their lines. A line is a name and a value, parted
by its first equals sign. What is read is what was written exactly when no value has a line break,
which folding makes sure of for the free texts; the name of the manifest, the version and the place of
the icon are written as they are.
-/
namespace FlutterInstaller

namespace Config

open Text

def variableOfLine? (l : String) : Option (String × String) :=
  match l.toList.dropWhile (· ≠ '=') with
  | [] => none
  | _ :: value => some (String.ofList (l.toList.takeWhile (· ≠ '=')), String.ofList value)

/-- The variables on the lines of a text, each line ended by a line break. -/
def variablesOfText? (text : String) : Option (List (String × String)) :=
  (pieces '\n' text).dropLast.mapM variableOfLine?

def lineOfVariable (kv : String × String) : String := kv.1 ++ "=" ++ kv.2

theorem variableOfLine?_lineOfVariable {kv : String × String} (hkey : '=' ∉ kv.1.toList) :
    variableOfLine? (lineOfVariable kv) = some kv := by
  have hne : ∀ c ∈ kv.1.toList, decide (c ≠ '=') = true := fun c hc =>
    decide_eq_true fun h => hkey (h ▸ hc)
  have hchars : (lineOfVariable kv).toList = kv.1.toList ++ '=' :: kv.2.toList := by
    simp [lineOfVariable]
  rw [variableOfLine?, hchars, List.dropWhile_append_of_pos hne, List.takeWhile_append_of_pos hne]
  simp

theorem variableOfLine?_eq_none {l : String} (h : '=' ∉ l.toList) : variableOfLine? l = none := by
  have hne : ∀ c ∈ l.toList, decide (c ≠ '=') = true := fun c hc =>
    decide_eq_true fun he => h (he ▸ hc)
  rw [variableOfLine?, ← List.append_nil l.toList, List.dropWhile_append_of_pos hne]
  rfl

theorem length_eq_of_mapM_eq_some {α β : Type} {f : α → Option β} {as : List α} {bs : List β}
    (h : as.mapM f = some bs) : as.length = bs.length := by
  induction as generalizing bs with
  | nil =>
    cases h
    rfl
  | cons a as ih =>
    simp only [List.mapM_cons, Option.bind_eq_bind, Option.bind_eq_some_iff] at h
    obtain ⟨b, _, bs', hbs, h⟩ := h
    cases h
    simp [ih hbs]

theorem mapM_variableOfLine? {kvs : List (String × String)} (hkeys : ∀ kv ∈ kvs, '=' ∉ kv.1.toList) :
    (kvs.map lineOfVariable).mapM variableOfLine? = some kvs := by
  induction kvs with
  | nil => rfl
  | cons kv kvs ih =>
    obtain ⟨hkey, hkeys⟩ := List.forall_mem_cons.mp hkeys
    simp [List.mapM_cons, variableOfLine?_lineOfVariable hkey, ih hkeys]

theorem variablesOfText?_join_iff {kvs : List (String × String)}
    (hkeys : ∀ kv ∈ kvs, '=' ∉ kv.1.toList) :
    variablesOfText? (String.join ((kvs.map lineOfVariable).map fun l => l ++ "\n")) = some kvs ↔
      ∀ kv ∈ kvs, OneLine (lineOfVariable kv) := by
  have hpieces : (pieces '\n' (String.join ((kvs.map lineOfVariable).map fun l => l ++ "\n"))).dropLast
      = (kvs.map lineOfVariable).flatMap (pieces '\n') := by
    rw [join_ended, pieces_intercalate rfl (by simp), List.flatMap_append, List.flatMap_singleton,
      pieces_eq_singleton (by simp), List.dropLast_concat]
  rw [variablesOfText?, hpieces]
  constructor
  · intro h
    have hlength := length_eq_of_mapM_eq_some h
    rw [← List.length_map lineOfVariable] at hlength
    exact List.forall_mem_map.mp (oneLine_of_length_flatMap_pieces hlength)
  · intro h
    rw [flatMap_pieces (List.forall_mem_map.mpr h)]
    exact mapM_variableOfLine? hkeys

theorem oneLine_lineOfVariable {kv : String × String} (hkey : OneLine kv.1) :
    OneLine (lineOfVariable kv) ↔ OneLine kv.2 := by
  have hmark : OneLine "=" := by decide
  simp [lineOfVariable, hkey, hmark]

theorem environment_eq (c : Config) : c.environment =
    String.join ((c.environmentVariables.map lineOfVariable).map fun l => l ++ "\n") := by
  rw [environment, List.map_map]
  rfl

theorem key_environmentVariables (c : Config) :
    ∀ kv ∈ c.environmentVariables, '=' ∉ kv.1.toList ∧ OneLine kv.1 := by
  simp +decide [environmentVariables]

theorem Resolves.oneLine_variables_iff {r : Request} {c : Config} (h : Resolves r c) :
    (∀ kv ∈ c.environmentVariables, OneLine kv.2) ↔
      OneLine c.manifestName ∧ OneLine c.version ∧ OneLine c.icon.variable := by
  have hbool : ∀ b, OneLine (boolText b) := by decide
  have hmode : ∀ m : BuildMode, OneLine m.name := fun m => by cases m <;> decide
  have hlanguages : OneLine (",".intercalate (c.languages.map Language.name)) := by
    rw [oneLine_intercalate (by decide), List.forall_mem_map]
    exact fun l _ => oneLine_languageName l
  simp only [environmentVariables, List.forall_mem_cons, List.not_mem_nil, false_imp_iff,
    implies_true, oneLine_uuid, h.oneLine_displayName, camelCaseName, oneLine_camelCase,
    oneLine_singleLine, hlanguages, hbool, hmode, true_and, and_true]

end Config

/-- Whatever a project resolves to: its variables are read back from their lines, all and in order,
exactly when the name of the manifest, the version and the place of the icon have no line break. -/
theorem Project.variablesOfText?_environment_iff {m : Manifest} {o : Overrides} {w : Option String}
    {h h' : Host} {c : Config} (hr : perform (Project.resolve m o w) h = (.ok c, h')) :
    Config.variablesOfText? c.environment = some c.environmentVariables ↔
      Text.OneLine c.manifestName ∧ Text.OneLine c.version ∧ Text.OneLine c.icon.variable := by
  obtain ⟨b, _, hc⟩ := Project.perform_resolve_eq_ok_iff.mp ⟨h', hr⟩
  have hkeys := Config.key_environmentVariables c
  rw [← hc.oneLine_variables_iff, Config.environment_eq,
    Config.variablesOfText?_join_iff fun kv hkv => (hkeys kv hkv).1]
  exact forall₂_congr fun kv hkv => Config.oneLine_lineOfVariable (hkeys kv hkv).2

theorem variablesOfText?_environment_broken :
    let c := { sampleConfig with version := "1.0\nAPP_ADMIN=true" }
    ∃ h', perform (Project.resolve (sampleManifest "demo_app" [])
        { version := some "1.0\nAPP_ADMIN=true" } none) (sampleHost []) = (.ok c, h') ∧
      Config.variablesOfText? c.environment ≠ some c.environmentVariables := by
  intro c
  have hc : Config.resolve ⟨sampleManifest "demo_app" [], { version := some "1.0\nAPP_ADMIN=true" }, [],
      ⟨[]⟩⟩ = .ok c := rfl
  obtain ⟨h', hr⟩ := Project.perform_resolve_eq_ok_iff.mpr
    ⟨[], perform_base_sampleHost [], Config.resolve_eq_ok_iff.mp hc⟩
  refine ⟨h', hr, fun hread => ?_⟩
  have hversion := ((Project.variablesOfText?_environment_iff hr).mp hread).2.1
  exact absurd hversion (by decide)

end FlutterInstaller
