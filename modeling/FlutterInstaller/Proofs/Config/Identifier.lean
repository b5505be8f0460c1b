import FlutterInstaller.Cli.Run
import FlutterInstaller.Proofs.Config.Faults
import FlutterInstaller.Proofs.Uuid.Spelling

/-!
The identifier of an app. Whichever way a manifest spells it, and whatever white space stands around it,
an identifier is the same one, and its canonical text stands for it; so does what the program prints when
it is asked for one.
-/
namespace FlutterInstaller

open Text (Blank)

namespace Config

variable {r : Request} {s : String} {u : Uuid} {e : ConfigError}

abbrev Unspelt (r : Request) : Fault :=
  Misfit (fun raw => (Uuid.ofText? (Text.trim raw)).isSome = true) .invalidId [r.tool "id"]

theorem unspelt_mem (r : Request) : Unspelt r ∈ r.faults := List.mem_of_getElem? (i := 3) rfl

section Given

variable (hs : r.manifest.toolField "id" = some (.string s)) (hfilled : ¬ Blank s)

include hs hfilled

theorem first_id : Source.first [r.tool "id"] = .ok (some s) := by
  rw [Source.first_eq_some_iff]
  refine ⟨[], r.tool "id", [], rfl, by simp, ?_, hfilled⟩
  rw [Request.tool, Source.tool, hs]
  exact .field _ s

theorem id_eq_ok_iff : r.id = .ok u ↔ u.Spelling (Text.trim s).toList := by
  rw [Request.id, first_id hs hfilled, ← Uuid.ofText?_eq_some_iff]
  cases hu : Uuid.ofText? (Text.trim s) <;> simp [hu]

theorem id_eq_error (hnone : ∀ u : Uuid, ¬ u.Spelling (Text.trim s).toList) :
    r.id = .error (.invalidId s) := by
  have hunread : Uuid.ofText? (Text.trim s) = none :=
    Option.eq_none_iff_forall_ne_some.mpr fun u hu => hnone u (Uuid.ofText?_eq_some_iff.mp hu)
  rw [Request.id, first_id hs hfilled]
  simp only [hunread]

theorem unspelt_iff :
    Unspelt r e ↔ (∀ u : Uuid, ¬ u.Spelling (Text.trim s).toList) ∧ e = .invalidId s := by
  rw [Unspelt, misfit_iff, first_id hs hfilled]
  simp [← Uuid.ofText?_eq_some_iff, Option.eq_none_iff_forall_ne_some]

end Given

theorem not_blank_of_spelling {a t b : String} (h : u.Spelling t.toList) : ¬ Blank (a ++ t ++ b) := by
  obtain ⟨c, hc⟩ := List.exists_mem_of_ne_nil _ h.ne_nil
  intro hblank
  have hc' : Text.isBlank c = true := hblank c (by simp [hc])
  rw [h.not_blank c hc] at hc'
  cases hc'

theorem id_of_spelling {a t b : String} (h : u.Spelling t.toList) (ha : Blank a) (hb : Blank b)
    (hs : r.manifest.toolField "id" = some (.string (a ++ t ++ b))) : r.id = .ok u := by
  rw [id_eq_ok_iff hs (not_blank_of_spelling h), Text.trim_surrounded ha hb h.not_blank]
  exact h

end Config

theorem Cli.run_id {arguments : List String} {space : Option String}
    (hcommand : Cli.Command.ofArguments arguments = .ok (.id space))
    (hspace : (Cli.Command.id space).objection? = none) (h : Host) :
    (Cli.run arguments h).1 = ⟨0, (Cli.makeId space h.entropy).text ++ "\n", ""⟩ := by
  rw [Cli.run, hcommand]
  simp only [Cli.execute, hspace, Cli.runId]
  rfl

namespace Project

open Config

variable {m : Manifest} {o : Overrides} {w : Option String} {h : Host} {cwd : Location} {s : String}

/-- The text that a manifest has for the identifier, trimmed, is one of the spellings of the identifier
that it gives, and is refused as it is written where it is none. All spellings give the same; the
canonical text is one of them, which no other identifier has, and so is what the program prints. -/
theorem resolve_identifier (hcwd : h.currentDirectory = .ok cwd)
    (hs : m.toolField "id" = some (.string s)) (hfilled : ¬ Blank s) :
    let r : Config.Request := ⟨m, o, w.elim cwd (Path.locate cwd), h.files⟩
    (∀ u, r.id = .ok u ↔ u.Spelling (Text.trim s).toList) ∧
    (∀ (u : Uuid) (a t b : String), u.Spelling t.toList → Blank a → Blank b → s = a ++ t ++ b →
      r.id = .ok u ∧ ∀ c h', perform (resolve m o w) h = (.ok c, h') → c.id = u) ∧
    (∀ u : Uuid, u.text.toList.length = 36 ∧
      ∀ t, t = u.text ↔ u.Hyphenated t.toList ∧ ∀ c ∈ t.toList, c.isUpper = false) ∧
    Function.Injective Uuid.text ∧
    ((∀ u : Uuid, ¬ u.Spelling (Text.trim s).toList) → r.id = .error (.invalidId s) ∧
      ∃ d, perform (resolve m o w) h = (.error (.config d), h) ∧
        r.Reports (Unspelt r) (.invalidId s) d) ∧
    (∀ c h', perform (resolve m o w) h = (.ok c, h') → ∀ q : Config.Request,
      q.manifest.toolField "id" = some (.string c.id.text) → q.id = .ok c.id) ∧
    (∀ arguments space, Cli.Command.ofArguments arguments = .ok (.id space) →
      (Cli.Command.id space).objection? = none → ∀ g : Host, ∃ u : Uuid,
        (Cli.run arguments g).1 = ⟨0, u.text ++ "\n", ""⟩ ∧ u = Cli.makeId space g.entropy ∧
          (s = u.text ∨ s = u.text ++ "\n" → r.id = .ok u)) ∧
    ∀ space space' entropy entropy', Text.trim space = Text.trim space' →
      Cli.makeId (some space) entropy = Cli.makeId (some space') entropy' := by
  intro r
  have hr : r.manifest.toolField "id" = some (.string s) := hs
  have hspelt : ∀ (u : Uuid) (a t b : String), u.Spelling t.toList → Blank a → Blank b →
      s = a ++ t ++ b → r.id = .ok u := fun u a t b ht ha hb heq =>
    id_of_spelling ht ha hb (heq ▸ hr)
  have hnone : Blank "" := by decide
  have hline : Blank "\n" := by decide
  refine ⟨fun u => id_eq_ok_iff hr hfilled, ?_, fun u => ⟨u.length_text, fun t => Uuid.eq_text_iff⟩,
    Uuid.text_injective, ?_, ?_, ?_, ?_⟩
  · intro u a t b ht ha hb heq
    refine ⟨hspelt u a t b ht ha hb heq, fun c h' hc => ?_⟩
    obtain ⟨b', -, hresolves⟩ := perform_resolve_eq_ok_iff.mp ⟨h', hc⟩
    have hid := hresolves.id
    rw [id_of_spelling ht ha hb (heq ▸ hs)] at hid
    exact (Except.ok.inj hid).symm
  · intro hforeign
    have hfault := (unspelt_iff hr hfilled).mpr ⟨hforeign, rfl⟩
    obtain ⟨d, hfirst, hreports⟩ := Request.exists_reports (unspelt_mem r) hfault
    exact ⟨id_eq_error hr hfilled hforeign, d, ((resolve_first_fault hcwd).2 _ _).mpr ⟨rfl, d, rfl, hfirst⟩, hreports⟩
  · intro c h' _ q hq
    exact id_of_spelling (.text c.id) hnone hnone (by simpa using hq)
  · intro arguments space hcommand hspace g
    refine ⟨_, Cli.run_id hcommand hspace g, rfl, ?_⟩
    rintro (heq | heq)
    · exact hspelt _ "" _ "" (.text _) hnone hnone (by simpa using heq)
    · exact hspelt _ "" _ "\n" (.text _) hnone hline (by simpa using heq)
  · intro space space' entropy entropy' htrim
    rw [Cli.makeId, Cli.makeId, htrim]

end Project

def identifierManifest (s : String) : Manifest where
  root := .mapping
    [(.string "name", .string "demo_app"), (.string "version", .string "1.0.0"),
     (.string "description", .string "A demo"), (.string "maintainer", .string "Acme"),
     (.string "homepage", .string "https://acme.test"), (.string "admin", .bool false),
     (.string "inno_bundle", .mapping
       [(.string "id", .string s), (.string "languages", .sequence [.string "german"]),
        (.string "vc_redist", .bool false)])]

theorem resolve_identifier_sample :
    let s := "\n \x7b5C3BD4A2-7E1F-4C8B-A9D6-0F2E3B4C5D6E\x7d\t"
    let m := identifierManifest s
    (sampleHost []).currentDirectory = .ok [] ∧ m.toolField "id" = some (.string s) ∧ ¬ Blank s ∧
      (∃ h', perform (Project.resolve m {} none) (sampleHost []) = (.ok sampleConfig, h')) ∧
      sampleConfig.id.Spelling (Text.trim s).toList ∧
      Cli.Command.ofArguments ["id", "--ns", "www.example.com"] = .ok (.id (some "www.example.com")) ∧
      ∃ u : Uuid, (Cli.run ["id", "--ns", "www.example.com"] (sampleHost [])).1.output =
        u.text ++ "\n" := by
  intro s m
  have hcwd := currentDirectory_sampleHost []
  have hblank : ¬ Blank s := by decide
  have hread : Uuid.ofText? (Text.trim s) = some sampleConfig.id := by decide +kernel
  have hresolves : Config.Resolves ⟨m, {}, [], ⟨[]⟩⟩ sampleConfig := by
    constructor
    case id => exact (Config.id_eq_ok_iff rfl hblank).mpr (Uuid.ofText?_eq_some_iff.mp hread)
    all_goals rfl
  have hr := Project.perform_resolve_eq_ok_iff.mpr ⟨[], perform_base_sampleHost [], hresolves⟩
  obtain ⟨hspelt, -, -, -, -, -, hprinted, -⟩ := Project.resolve_identifier (m := m) (o := {})
    (w := none) (s := s) hcwd rfl hblank
  obtain ⟨u, hrun, -⟩ := hprinted ["id", "--ns", "www.example.com"] (some "www.example.com") rfl rfl
    (sampleHost [])
  exact ⟨hcwd, rfl, hblank, hr, (hspelt _).mp hresolves.id, rfl, u, by rw [hrun]⟩

end FlutterInstaller
