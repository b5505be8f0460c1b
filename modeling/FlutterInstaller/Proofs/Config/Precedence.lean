import FlutterInstaller.Proofs.Config.Resolution

/-!
Which source a field takes its value from. A text field holds, as it is written, the first of its
sources with a text that is not blank, and every source before that one is empty; a choice takes what
the section for installers says, or else what stands in for it.
-/
namespace FlutterInstaller

namespace Source

inductive Holds : Source → String → Prop
  | given (t : String) : Holds (.given (some t)) t
  | field (name t : String) : Holds (.field name (some (.string t))) t

/-- A source is absent, null, or holds a blank text. -/
inductive Empty : Source → Prop
  | notGiven : Empty (.given none)
  | absent (name : String) : Empty (.field name none)
  | null (name : String) : Empty (.field name (some .null))
  | blank {s : Source} {t : String} : s.Holds t → Text.Blank t → Empty s

/-- A text is what the first source that is not empty holds. -/
def Chosen (sources : List Source) (t : String) : Prop :=
  ∃ before s after, sources = before ++ s :: after ∧ (∀ e ∈ before, e.Empty) ∧ s.Holds t ∧
    ¬ Text.Blank t

theorem holds_iff {s : Source} {t : String} : s.Holds t ↔ s.text? = .ok (some t) := by
  constructor
  · intro h
    cases h <;> rfl
  · intro h
    unfold text? at h
    split at h
    · cases h
      exact .given t
    · simp at h
    · simp at h
    · cases h
      exact .field _ t
    · simp at h

theorem offer_eq_some_iff {s : Source} {t : String} :
    s.offer = .ok (some t) ↔ s.Holds t ∧ ¬ Text.Blank t := by
  rw [holds_iff, offer]
  cases s.text? with
  | error e => simp [Except.map]
  | ok o =>
    simp only [Except.map, Except.ok.injEq, Option.filter_eq_some_iff, Bool.not_eq_true',
      decide_eq_false_iff_not]

theorem empty_iff {s : Source} :
    s.Empty ↔ s.text? = .ok none ∨ ∃ t, s.text? = .ok (some t) ∧ Text.Blank t := by
  constructor
  · intro h
    cases h with
    | notGiven => exact .inl rfl
    | absent name => exact .inl rfl
    | null name => exact .inl rfl
    | blank ht hb => exact .inr ⟨_, holds_iff.mp ht, hb⟩
  · rintro (h | ⟨t, ht, hb⟩)
    · unfold text? at h
      split at h
      · cases h
        exact .notGiven
      · exact .absent _
      · exact .null _
      · simp at h
      · simp at h
    · exact .blank (holds_iff.mpr ht) hb

theorem offer_eq_none_iff {s : Source} : s.offer = .ok none ↔ s.Empty := by
  rw [empty_iff, offer]
  cases s.text? with
  | error e => simp [Except.map]
  | ok o => cases o <;> simp [Except.map, Option.filter]

theorem first_eq_some_iff {sources : List Source} {t : String} :
    first sources = .ok (some t) ↔ Chosen sources t := by
  induction sources with
  | nil => simp [first, Chosen]
  | cons s rest ih =>
    constructor
    · intro h
      rw [first] at h
      split at h
      · simp at h
      · next u hu =>
        cases h
        obtain ⟨ht, hb⟩ := offer_eq_some_iff.mp hu
        exact ⟨[], s, rest, rfl, by simp, ht, hb⟩
      · next hn =>
        obtain ⟨before, c, after, rfl, hbefore, ht, hb⟩ := ih.mp h
        refine ⟨s :: before, c, after, rfl, ?_, ht, hb⟩
        exact List.forall_mem_cons.mpr ⟨offer_eq_none_iff.mp hn, hbefore⟩
    · rintro ⟨before, c, after, heq, hbefore, ht, hb⟩
      cases before with
      | nil =>
        cases heq
        rw [first, offer_eq_some_iff.mpr ⟨ht, hb⟩]
      | cons e before =>
        cases heq
        obtain ⟨he, hbefore⟩ := List.forall_mem_cons.mp hbefore
        rw [first, offer_eq_none_iff.mpr he]
        exact ih.mpr ⟨before, c, after, rfl, hbefore, ht, hb⟩

theorem first_eq_none_iff {sources : List Source} :
    first sources = .ok none ↔ ∀ s ∈ sources, s.Empty := by
  induction sources with
  | nil => simp [first]
  | cons s rest ih =>
    rw [List.forall_mem_cons, ← ih, ← offer_eq_none_iff, first]
    split <;> simp_all

def Unset (v : Option Yaml.Value) : Prop := v = none ∨ v = some .null

end Source

namespace Config

namespace Request

variable {r : Request}

theorem displayName_eq_ok {name d : String} (h : r.displayName name = .ok d) :
    Source.Chosen [r.tool "name"] d ∧ IsDisplayName d ∨
      (r.tool "name").Empty ∧ d = Text.camelCase name := by
  unfold displayName at h
  split at h
  · simp at h
  · next t ht =>
    split at h
    · next hd =>
      cases h
      exact .inl ⟨Source.first_eq_some_iff.mp ht, hd⟩
    · simp at h
  · next hn =>
    cases h
    exact .inr ⟨Source.first_eq_none_iff.mp hn _ (by simp), rfl⟩

end Request

end Config

def sampleManifest (name : String) (entries : List (String × Yaml.Value)) : Manifest where
  root := .mapping
    [(.string "name", .string name), (.string "version", .string "1.0.0"),
     (.string "description", .string "A demo"), (.string "maintainer", .string "Acme"),
     (.string "homepage", .string "https://acme.test"), (.string "admin", .bool false),
     (.string "inno_bundle", .mapping
       ((.string "id", .string "5c3bd4a2-7e1f-4c8b-a9d6-0f2e3b4c5d6e") ::
         (.string "languages", .sequence [.string "german"]) ::
         (.string "vc_redist", .bool false) :: entries.map fun e => (.string e.1, e.2)))]

def sampleConfig : Config where
  id := ⟨[5, 12, 3, 11, 13, 4, 10, 2, 7, 14, 1, 15, 4, 12, 8, 11, 10, 9, 13, 6, 0, 15, 2, 14, 3, 11, 4,
    12, 5, 13, 6, 14], rfl⟩
  manifestName := "demo_app"
  displayName := "DemoApp"
  description := "A demo"
  version := "1.0.0"
  publisher := "Acme"
  url := "https://acme.test"
  supportUrl := "https://acme.test"
  updatesUrl := "https://acme.test"
  icon := .standard
  license := none
  languages := [.german]
  admin := false
  disableWelcomePage := true
  disableReadyPage := false
  disableFinishedPage := false
  disableReadyMemo := false
  disableDirPage := .auto
  disableProgramGroupPage := .auto
  vcRedist := false
  buildMode := .release
  buildApp := true
  buildInstaller := true

def sampleHost (files : List (Location × Entry)) : Host where
  files := ⟨files⟩
  workingDirectory := .root
  temporaryDirectory := "/tmp"
  systemRoot := none
  searchPath := []
  entropy := []
  exitCode := fun _ _ => none
  log := []
  runs := []

theorem perform_base_sampleHost (files : List (Location × Entry)) :
    perform (Project.base none) (sampleHost files) = (.ok [], sampleHost files) := by
  have hs : Standpoint.root.settle ⟨files⟩ = Standpoint.root :=
    Standpoint.settle_of_hasDirectory rfl
  rw [Project.base, perform_get_bind, Host.currentDirectory]
  simp only [sampleHost, hs]
  rfl

theorem currentDirectory_sampleHost (files : List (Location × Entry)) :
    (sampleHost files).currentDirectory = .ok [] := by
  have hs : Standpoint.root.settle ⟨files⟩ = Standpoint.root := Standpoint.settle_of_hasDirectory rfl
  simp only [Host.currentDirectory, sampleHost, hs]
  rfl

end FlutterInstaller
