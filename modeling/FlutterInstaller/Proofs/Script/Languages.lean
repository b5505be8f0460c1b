import FlutterInstaller.Proofs.Config.Languages
import FlutterInstaller.Proofs.Script.Entries

/-!
The languages of an installer, from the list in the manifest to the section of the script. The section
is read back, name by name, for the languages of the configuration, and these are what the list names.
-/
namespace FlutterInstaller

namespace Script

open Text

def languageOf? (line : String) : Option Language :=
  (parameters? line).bind fun ps => (ps.lookup "Name").bind Language.ofName?

/-- The languages that the text of a section is read for. -/
def languagesOf? (text : String) : Option (List Language) :=
  match (Outline.ofText text).sections with
  | [("[Languages]", body)] => (body.filter (· ≠ "")).mapM languageOf?
  | _ => none

def languageLine (l : Language) : Line :=
  .entry [quoted "Name" l.name, quoted "MessagesFile" l.messagesFile]

theorem languageOf?_languageLine (l : Language) : languageOf? (languageLine l).render = some l := by
  obtain ⟨hname, hfile⟩ := not_mem_language l
  have hsettled : Settled [quoted "Name" l.name, quoted "MessagesFile" l.messagesFile] :=
    settled_quoted (by decide) (.inl hname) (settled_quoted (by decide) (.inl hfile) trivial)
  have hread := ((parameters?_entry_iff hsettled).mpr (gives_quoted_iff.mpr
    ⟨l.name, (double_eq_self_iff.mpr hname).symm, _, gives_quoted_iff.mpr
      ⟨l.messagesFile, (double_eq_self_iff.mpr hfile).symm, [], .nil, rfl⟩, rfl⟩)).1
  rw [languageOf?, languageLine, hread, Option.bind_some, List.lookup_cons_self, Option.bind_some,
    Language.ofName?_name]

theorem mapM_languageOf? (ls : List Language) :
    (ls.map fun l => (languageLine l).render).mapM languageOf? = some ls := by
  induction ls with
  | nil => rfl
  | cons l ls ih => simp [languageOf?_languageLine, ih]

theorem render_languageLine (l : Language) : ∃ s, (languageLine l).render = "Name: " ++ s :=
  ⟨_, by simp [languageLine, Line.render, Parameter.render, quoted, String.append_assoc]; rfl⟩

theorem languagesOf?_render (c : Config) : languagesOf? (languages c).render = some c.languages := by
  have hlines : (languages c).lines.map Line.render =
      c.languages.map fun l => (languageLine l).render := by
    rw [languages, List.map_map]
    rfl
  have hnamed : ∀ line ∈ (languages c).lines.map Line.render, ∃ s, line = "Name: " ++ s := by
    rw [hlines]
    intro line hline
    obtain ⟨l, -, rfl⟩ := List.mem_map.mp hline
    exact render_languageLine l
  have hone : ∀ line ∈ (languages c).block.1 :: (languages c).block.2, OneLine line := by
    have hends : OneLine "[Languages]" ∧ OneLine "" := by decide
    simpa [Section.block, languages, or_imp, forall_and, hends] using oneLine_languages (c := c)
  have hbody : ∀ line ∈ (languages c).block.2, isHeader line = false := by
    intro line hline
    rcases List.mem_append.mp hline with hline | hline
    · obtain ⟨s, rfl⟩ := hnamed line hline
      simp [isHeader]
    · rw [List.mem_singleton.mp hline]
      rfl
  have houtline : Outline.ofText (languages c).render = ⟨[], [(languages c).block]⟩ := by
    rw [Outline.ofText, Section.render_eq, pieces_intercalate rfl (by simp), flatMap_pieces hone]
    have hblocks : ∀ b ∈ [(languages c).block],
        isHeader b.1 = true ∧ ∀ l ∈ b.2, isHeader l = false := by
      simpa [isHeader, Section.block, languages] using hbody
    simpa using Outline.ofLines_blocks hblocks
  have hfilter : (languages c).block.2.filter (· ≠ "") = (languages c).lines.map Line.render := by
    rw [Section.block, List.filter_append, List.filter_eq_self.mpr]
    · simp
    · intro line hline
      obtain ⟨s, rfl⟩ := hnamed line hline
      simp
  have hread : languagesOf? (languages c).render =
      ((languages c).block.2.filter (· ≠ "")).mapM languageOf? := by
    rw [languagesOf?, houtline]
    rfl
  rw [hread, hfilter, hlines, mapM_languageOf?]

end Script

namespace Project

open Config Script

variable {m : Manifest} {o : Overrides} {w : Option String} {h : Host} {cwd : Location}

/-- From the manifest to the script: a list of values gives the languages that it names, in the order in
which they come up first, and the script is read for the same ones; the first entry that names none is
what is reported, unless something is wrong with the manifest that is noticed before. -/
theorem resolve_languages (hcwd : h.currentDirectory = .ok cwd) :
    let r : Config.Request := ⟨m, o, w.elim cwd (Path.locate cwd), h.files⟩
    (∀ entries, m.toolField "languages" = some (.sequence entries) →
      ((∃ ls, r.languages = .ok ls) ↔ entries ≠ [] ∧ ∀ v ∈ entries, ∃ l, v.Names l) ∧
      (∀ ls, r.languages = .ok ls ↔ Lists entries ls) ∧
      (∀ e, r.languages = .error e ↔ BadList entries e) ∧
      (∀ e, BadList entries e → ∃ d, perform (resolve m o w) h = (.error (.config d), h) ∧
        r.Reports (LanguagesFault (m.toolField "languages")) e d) ∧
      ∀ c h', perform (resolve m o w) h = (.ok c, h') → Lists entries c.languages ∧
        ∀ v rest, entries = v :: rest → ∃ l, c.languages.head? = some l ∧ v.Names l) ∧
    ∀ c h', perform (resolve m o w) h = (.ok c, h') →
      c.languages ≠ [] ∧ c.languages.Nodup ∧
        languagesOf? (Script.languages c).render = some c.languages ∧
        ∀ (q : Script.Request) g g' text, q.config = c → perform q.render g = (.ok text, g') →
          ∃ before after, text = before ++ (Script.languages c).render ++ after := by
  intro r
  constructor
  · intro entries hv
    have hok : ∀ ls, r.languages = .ok ls ↔ Lists entries ls := fun _ => languages_eq_ok_iff hv
    refine ⟨?_, hok, fun _ => languages_eq_error_iff hv, fun e he => ?_, fun c h' hr => ?_⟩
    · simp only [hok]
      exact exists_lists_iff
    · obtain ⟨d, hfirst, hcause⟩ := Request.exists_reports (languagesFault_mem r)
        ((languagesFault_iff hv).mpr he)
      exact ⟨d, ((resolve_first_fault hcwd).2 _ _).mpr ⟨rfl, d, rfl, hfirst⟩, hcause⟩
    · obtain ⟨b, -, hc⟩ := perform_resolve_eq_ok_iff.mp ⟨h', hr⟩
      have hlists := (languages_eq_ok_iff hv).mp hc.languages
      refine ⟨hlists, ?_⟩
      rintro v rest rfl
      exact hlists.head?
  · intro c h' hr
    obtain ⟨b, -, hc⟩ := perform_resolve_eq_ok_iff.mp ⟨h', hr⟩
    obtain ⟨hne, hnodup⟩ := hc.languages_distinct
    refine ⟨hne, hnodup, languagesOf?_render c, fun q g g' text hq ht => ?_⟩
    subst hq
    obtain ⟨parts, -, rfl⟩ := Request.perform_render_eq_ok_iff.mp ht
    exact exists_append_render (by simp [Parts.sections, Script.sections])

end Project

def languageManifest (entries : List Yaml.Value) : Manifest where
  root := .mapping
    [(.string "name", .string "demo_app"), (.string "version", .string "1.0.0"),
     (.string "description", .string "A demo"), (.string "maintainer", .string "Acme"),
     (.string "homepage", .string "https://acme.test"), (.string "admin", .bool false),
     (.string "inno_bundle", .mapping
       [(.string "id", .string "5c3bd4a2-7e1f-4c8b-a9d6-0f2e3b4c5d6e"),
        (.string "languages", .sequence entries), (.string "vc_redist", .bool false)])]

theorem resolve_languages_sample :
    let entries := [Yaml.Value.string "German", .tagged "!text" (.string "ENGLISH"), .string "german"]
    (sampleHost []).currentDirectory = .ok [] ∧
      ∃ c h', perform (Project.resolve (languageManifest entries) {} none) (sampleHost []) =
          (.ok c, h') ∧
        Config.Lists entries c.languages ∧
        Script.languagesOf? (Script.languages c).render = some [.german, .english] := by
  intro entries
  have hcwd := currentDirectory_sampleHost []
  have hc : Config.resolve ⟨languageManifest entries, {}, [], ⟨[]⟩⟩ =
      .ok { sampleConfig with languages := [.german, .english] } := rfl
  obtain ⟨h', hr⟩ := Project.perform_resolve_eq_ok_iff.mpr
    ⟨[], perform_base_sampleHost [], Config.resolve_eq_ok_iff.mp hc⟩
  obtain ⟨hlists, hall⟩ := Project.resolve_languages (m := languageManifest entries) (o := {})
    (w := none) hcwd
  obtain ⟨-, -, -, -, hlisted⟩ := hlists entries rfl
  exact ⟨hcwd, _, h', hr, (hlisted _ _ hr).1, (hall _ _ hr).2.2.1⟩

end FlutterInstaller
