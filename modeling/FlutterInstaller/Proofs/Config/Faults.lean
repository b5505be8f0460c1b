import FlutterInstaller.Proofs.Config.Precedence

/-!
Why a manifest is refused. Every rule has its own fault, told from the sources of its field alone, and
a request fails exactly where one of the rules does: with the error of the first one, in the order of
the rules.
-/
namespace FlutterInstaller

namespace Source

def Filled (s : Source) : Prop := ∃ t, s.Holds t ∧ ¬ Text.Blank t

inductive Foreign : Source → String → Prop
  | field (name : String) {v : Yaml.Value} (hnull : v ≠ .null) (htext : ∀ t, v ≠ .string t) :
      Foreign (.field name (some v)) name

/-- The first source that holds something else than a text, unless one before it is filled. -/
def Refused (sources : List Source) (name : String) : Prop :=
  ∃ before s after, sources = before ++ s :: after ∧
    (∀ e ∈ before, ¬ e.Filled ∧ ∀ n, ¬ e.Foreign n) ∧ s.Foreign name

theorem text?_eq_error_iff {s : Source} {e : ConfigError} :
    s.text? = .error e ↔ ∃ name, s.Foreign name ∧ e = .invalidType name .string := by
  constructor
  · intro h
    unfold text? at h
    split at h
    · simp at h
    · simp at h
    · simp at h
    · simp at h
    · next name v hnull htext =>
      cases h
      exact ⟨name, .field name hnull htext, rfl⟩
  · rintro ⟨name, hs, rfl⟩
    cases hs with
    | @field name v hnull htext => cases v <;> simp_all [text?]

theorem offer_eq_error_iff {s : Source} {e : ConfigError} :
    s.offer = .error e ↔ ∃ name, s.Foreign name ∧ e = .invalidType name .string := by
  rw [← text?_eq_error_iff, offer]
  cases s.text? <;> simp [Except.map]

theorem filled_iff {s : Source} : s.Filled ↔ ∃ t, s.offer = .ok (some t) := by
  simp only [offer_eq_some_iff, Filled]

theorem empty_iff_not_filled {s : Source} : s.Empty ↔ ¬ s.Filled ∧ ∀ n, ¬ s.Foreign n := by
  have hforeign : (∃ n, s.Foreign n) ↔ ∃ e, s.offer = .error e := by
    simp only [offer_eq_error_iff]
    constructor
    · rintro ⟨n, hn⟩
      exact ⟨_, n, hn, rfl⟩
    · rintro ⟨_, n, hn, _⟩
      exact ⟨n, hn⟩
  rw [← not_exists, hforeign, filled_iff, ← offer_eq_none_iff]
  cases s.offer with
  | error e => simp
  | ok o => cases o <;> simp

theorem not_refused_nil {name : String} : ¬ Refused [] name := by
  rintro ⟨before, s, after, h, -⟩
  simp at h

theorem refused_cons_iff {s : Source} {rest : List Source} {name : String} :
    Refused (s :: rest) name ↔ s.Foreign name ∨ s.Empty ∧ Refused rest name := by
  rw [empty_iff_not_filled]
  constructor
  · rintro ⟨before, c, after, heq, hbefore, hc⟩
    cases before with
    | nil =>
      cases heq
      exact .inl hc
    | cons b before =>
      cases heq
      obtain ⟨hb, hbefore⟩ := List.forall_mem_cons.mp hbefore
      exact .inr ⟨hb, before, c, after, rfl, hbefore, hc⟩
  · rintro (hs | ⟨hs, before, c, after, rfl, hbefore, hc⟩)
    · exact ⟨[], s, rest, rfl, by simp, hs⟩
    · exact ⟨s :: before, c, after, rfl, List.forall_mem_cons.mpr ⟨hs, hbefore⟩, hc⟩

theorem first_eq_error_iff {sources : List Source} {e : ConfigError} :
    first sources = .error e ↔ ∃ name, Refused sources name ∧ e = .invalidType name .string := by
  induction sources with
  | nil => simp [first, not_refused_nil]
  | cons s rest ih =>
    simp only [refused_cons_iff, or_and_right, exists_or, and_assoc, exists_and_left,
      ← offer_eq_error_iff, ← offer_eq_none_iff, ← ih]
    rw [first]
    cases s.offer with
    | error d => simp
    | ok o => cases o <;> simp

theorem refused_given_iff {s : Source} {u : Option String} {name : String} :
    Refused [s, .given u] name ↔ Refused [s] name := by
  have hgiven : ¬ (Source.given u).Foreign name := nofun
  simp [refused_cons_iff, not_refused_nil, hgiven]

theorem not_unset {v : Yaml.Value} (h : v ≠ .null) : ¬ Unset (some v) := by
  simpa [Unset] using h

end Source

namespace Config

abbrev Fault := ConfigError → Prop

/-- The error of the first fault that there is. -/
inductive FirstFault : List Fault → ConfigError → Prop
  | here {fault : Fault} {e : ConfigError} (rest : List Fault) (h : fault e) :
      FirstFault (fault :: rest) e
  | later {fault : Fault} {rest : List Fault} {e : ConfigError} (hnone : ∀ d, ¬ fault d)
      (h : FirstFault rest e) : FirstFault (fault :: rest) e

namespace FirstFault

variable {fault : Fault} {fs gs : List Fault} {e : ConfigError}

theorem cons_iff :
    FirstFault (fault :: fs) e ↔ fault e ∨ (∀ d, ¬ fault d) ∧ FirstFault fs e := by
  constructor
  · intro h
    cases h with
    | here _ h => exact .inl h
    | later hnone h => exact .inr ⟨hnone, h⟩
  · rintro (h | ⟨hnone, h⟩)
    · exact .here fs h
    · exact .later hnone h

@[simp] theorem not_nil : ¬ FirstFault [] e := nofun

theorem singleton_iff : FirstFault [fault] e ↔ fault e := by simp [cons_iff]

theorem exists_iff : (∃ e, FirstFault fs e) ↔ ∃ fault ∈ fs, ∃ e, fault e := by
  induction fs with
  | nil => simp
  | cons fault fs ih =>
    simp only [List.mem_cons, exists_eq_or_imp, ← ih]
    by_cases hf : ∃ d, fault d
    · obtain ⟨d, hd⟩ := hf
      exact ⟨fun _ => .inl ⟨d, hd⟩, fun _ => ⟨d, .here fs hd⟩⟩
    · simp [cons_iff, not_exists.mp hf]

theorem append_iff :
    FirstFault (fs ++ gs) e ↔ FirstFault fs e ∨ (∀ d, ¬ FirstFault fs d) ∧ FirstFault gs e := by
  -- a first fault that there is decides on both sides, else the induction goes on with the rest
  induction fs with
  | nil => simp
  | cons fault fs ih =>
    rw [List.cons_append, cons_iff, ih]
    by_cases hf : ∃ d, fault d
    · obtain ⟨d, hd⟩ := hf
      have hfirst := FirstFault.here fs hd
      simp only [cons_iff]
      grind
    · simp [cons_iff, not_exists.mp hf]

theorem exists_mem (h : FirstFault fs e) : ∃ fault ∈ fs, fault e := by
  induction h with
  | here rest h => exact ⟨_, List.mem_cons_self, h⟩
  | later _ _ ih =>
    obtain ⟨fault, hmem, hfault⟩ := ih
    exact ⟨fault, List.mem_cons_of_mem _ hmem, hfault⟩

theorem exists_of_fault (h : fault e) (fs gs : List Fault) :
    ∃ d, FirstFault (fs ++ fault :: gs) d ∧
      (FirstFault fs d ∨ (∀ d', ¬ FirstFault fs d') ∧ d = e) := by
  simp only [append_iff]
  by_cases hearlier : ∃ d, FirstFault fs d
  · obtain ⟨d, hd⟩ := hearlier
    exact ⟨d, .inl hd, .inl hd⟩
  · rw [not_exists] at hearlier
    exact ⟨e, .inr ⟨hearlier, .here gs h⟩, .inr ⟨hearlier, rfl⟩⟩

theorem map_iff {α : Type} {f : α → Fault} {as : List α} :
    FirstFault (as.map f) e ↔
      ∃ before a after, as = before ++ a :: after ∧ (∀ b ∈ before, ∀ d, ¬ f b d) ∧ f a e := by
  induction as with
  | nil => simp
  | cons a as ih =>
    rw [List.map_cons, cons_iff, ih]
    constructor
    · rintro (ha | ⟨hnone, before, b, after, rfl, hbefore, hb⟩)
      · exact ⟨[], a, as, rfl, by simp, ha⟩
      · exact ⟨a :: before, b, after, rfl, List.forall_mem_cons.mpr ⟨hnone, hbefore⟩, hb⟩
    · rintro ⟨before, b, after, heq, hbefore, hb⟩
      cases before with
      | nil =>
        cases heq
        exact .inl hb
      | cons c before =>
        cases heq
        obtain ⟨hc, hbefore⟩ := List.forall_mem_cons.mp hbefore
        exact .inr ⟨hc, before, b, after, rfl, hbefore, hb⟩

end FirstFault

/-- A rule fails exactly with the error of its first fault. -/
def FailsBy {α : Type} (x : Rule α) (fs : List Fault) : Prop := ∀ e, x = .error e ↔ FirstFault fs e

section FailsBy

variable {α β : Type} {x : Rule α} {fs gs : List Fault}

theorem failsBy_ok (a : α) : FailsBy (.ok a) [] := by
  intro e
  simp

theorem failsBy_singleton {fault : Fault} (h : ∀ e, x = .error e ↔ fault e) : FailsBy x [fault] :=
  fun e => (h e).trans FirstFault.singleton_iff.symm

theorem FailsBy.bind {f : α → Rule β} (hx : FailsBy x fs) (hf : ∀ a, x = .ok a → FailsBy (f a) gs) :
    FailsBy (x >>= f) (fs ++ gs) := by
  intro e
  rw [FirstFault.append_iff, ← hx e]
  simp only [← hx _]
  cases x with
  | error d => simp [Bind.bind, Except.bind]
  | ok a => simpa [Bind.bind, Except.bind] using hf a rfl e

theorem map_eq_error_iff {f : α → β} {e : ConfigError} : x.map f = .error e ↔ x = .error e := by
  cases x <;> simp [Except.map]

theorem FailsBy.map (f : α → β) (hx : FailsBy x fs) : FailsBy (x.map f) fs :=
  fun e => map_eq_error_iff.trans (hx e)

end FailsBy

inductive TextFault (sources : List Source) : ConfigError → Prop
  | refused {name : String} (h : Source.Refused sources name) :
      TextFault sources (.invalidType name .string)

inductive MissingFault (error : ConfigError) (sources : List Source) : ConfigError → Prop
  | missing (h : ∀ s ∈ sources, s.Empty) : MissingFault error sources error

inductive Misfit (Fits : String → Prop) (error : String → ConfigError) (sources : List Source) :
    ConfigError → Prop
  | chosen {t : String} (h : Source.Chosen sources t) (hfits : ¬ Fits t) :
      Misfit Fits error sources (error t)

inductive SectionFault (m : Manifest) : ConfigError → Prop
  | foreign {v : Yaml.Value} (h : m.toolSection = some v) (hmapping : v.isMapping = false)
      (hnull : v.isNull = false) : SectionFault m (.invalidType Manifest.toolKey .mapping)

inductive LanguageFault (v : Yaml.Value) : ConfigError → Prop
  | foreign (h : v.string? = none) :
      LanguageFault v (.invalidType (Source.toolName "languages") .languageNames)
  | unknown {name : String} (h : v.string? = some name) (hname : Language.ofName? name = none) :
      LanguageFault v (.unknownLanguage name)

inductive LanguagesFault (v : Option Yaml.Value) : ConfigError → Prop
  | foreign (hset : ¬ Source.Unset v) (hlist : ∀ entries, v ≠ some (.sequence entries)) :
      LanguagesFault v (.invalidType (Source.toolName "languages") .languageNames)
  | noEntry (h : v = some (.sequence [])) : LanguagesFault v .emptyLanguages
  | entry {entries : List Yaml.Value} {e : ConfigError} (h : v = some (.sequence entries))
      (he : FirstFault (entries.map LanguageFault) e) : LanguagesFault v e

inductive BooleanFault (name : String) (v : Option Yaml.Value) : ConfigError → Prop
  | foreign (hset : ¬ Source.Unset v) (hbool : ∀ b, v ≠ some (.bool b)) :
      BooleanFault name v (.invalidType name .boolean)

inductive SwitchFault (name : String) (v : Option Yaml.Value) : ConfigError → Prop
  | foreign (hset : ¬ Source.Unset v) (hbool : ∀ b, v ≠ some (.bool b))
      (htext : ∀ s, v ≠ some (.string s)) : SwitchFault name v (.invalidType name .pageSwitch)
  | unknown {s : String} (h : v = some (.string s)) (hs : PageSwitch.ofText? s = none) :
      SwitchFault name v (.invalidSwitch name s)

namespace Request

def HasFile (r : Request) (p : String) : Prop :=
  r.files.isFile .root (Path.text (Path.locate r.base p)) = true

/-- What may be wrong with a manifest, in the order in which it is noticed. -/
def faults (r : Request) : List Fault :=
  let description := [r.tool "description", r.top "description"]
  let version := [.given r.overrides.version, r.tool "version", r.top "version"]
  let publisher := [r.tool "publisher", r.tool "maintainer", r.top "publisher", r.top "maintainer"]
  let boolean (key : String) := BooleanFault (Source.toolName key) (r.manifest.toolField key)
  let switch (key : String) := SwitchFault (Source.toolName key) (r.manifest.toolField key)
  [SectionFault r.manifest,
    TextFault [r.tool "id"],
    MissingFault .missingId [r.tool "id"],
    Misfit (fun raw => (Uuid.ofText? (Text.trim raw)).isSome = true) .invalidId [r.tool "id"],
    TextFault [r.top "name"],
    MissingFault (.missingField "name") [r.top "name"],
    TextFault [r.tool "name"],
    Misfit IsDisplayName .invalidDisplayName [r.tool "name"],
    TextFault description,
    MissingFault (.missingField "description") description,
    TextFault version,
    MissingFault (.missingField "version") version,
    TextFault publisher,
    MissingFault (.missingField "publisher") publisher,
    TextFault [r.tool "url", r.top "homepage"],
    TextFault [r.tool "support_url"],
    TextFault [r.tool "updates_url"],
    TextFault [r.tool "installer_icon"],
    Misfit r.HasFile (fun p => .iconNotFound (Path.locate r.base p)) [r.tool "installer_icon"],
    TextFault [r.tool "license_file"],
    Misfit r.HasFile (fun p => .licenseNotFound (Path.locate r.base p)) [r.tool "license_file"],
    LanguagesFault (r.manifest.toolField "languages"),
    BooleanFault "admin" (r.manifest.field "admin"),
    boolean "admin",
    boolean "disable_welcome_page",
    boolean "disable_ready_page",
    boolean "disable_finished_page",
    boolean "disable_ready_memo",
    switch "disable_dir_page",
    switch "disable_program_group_page",
    boolean "vc_redist"]

end Request

/-- What is reported where a fault gives an error: this one, or that of a fault which is looked for
before. -/
def Request.Reports (r : Request) (fault : Fault) (e d : ConfigError) : Prop :=
  ∃ earlier later, r.faults = earlier ++ fault :: later ∧
    (FirstFault earlier d ∨ (∀ d', ¬ FirstFault earlier d') ∧ d = e)

theorem Request.exists_reports {r : Request} {fault : Fault} {e : ConfigError}
    (hmem : fault ∈ r.faults) (h : fault e) : ∃ d, FirstFault r.faults d ∧ r.Reports fault e d := by
  obtain ⟨earlier, later, hfaults⟩ := List.append_of_mem hmem
  obtain ⟨d, hd, hcause⟩ := FirstFault.exists_of_fault h earlier later
  exact ⟨d, hfaults ▸ hd, earlier, later, hfaults, hcause⟩

section Fields

variable {α : Type} {sources : List Source} {Fits : String → Prop} {error : String → ConfigError}
  {missing e : ConfigError} {t : String}

theorem textFault_iff : TextFault sources e ↔ Source.first sources = .error e := by
  rw [Source.first_eq_error_iff]
  constructor
  · rintro ⟨h⟩
    exact ⟨_, h, rfl⟩
  · rintro ⟨name, h, rfl⟩
    exact .refused h

theorem missingFault_iff :
    MissingFault missing sources e ↔ Source.first sources = .ok none ∧ e = missing := by
  rw [Source.first_eq_none_iff]
  constructor
  · rintro ⟨h⟩
    exact ⟨h, rfl⟩
  · rintro ⟨h, rfl⟩
    exact .missing h

theorem misfit_iff :
    Misfit Fits error sources e ↔
      ∃ t, Source.first sources = .ok (some t) ∧ ¬ Fits t ∧ e = error t := by
  simp only [Source.first_eq_some_iff]
  constructor
  · rintro ⟨h, hfits⟩
    exact ⟨_, h, hfits, rfl⟩
  · rintro ⟨t, h, hfits, rfl⟩
    exact .chosen h hfits

theorem failsBy_required (name : String) (sources : List Source) :
    FailsBy (Source.required name sources)
      [TextFault sources, MissingFault (.missingField name) sources] := by
  intro e
  simp only [FirstFault.cons_iff, textFault_iff, missingFault_iff, Source.required]
  cases Source.first sources with
  | error d => simp
  | ok o =>
    cases o with
    | none => simpa using eq_comm
    | some t => simp

theorem failsBy_first (sources : List Source) :
    FailsBy (Source.first sources) [TextFault sources] :=
  failsBy_singleton fun _ => textFault_iff.symm

end Fields

section Rules

variable (r : Request)

theorem failsBy_checkSection : FailsBy r.checkSection [SectionFault r.manifest] := by
  apply failsBy_singleton
  intro e
  unfold Request.checkSection
  constructor
  · intro h
    split at h
    · simp at h
    · next v hv =>
      split at h
      · simp at h
      · next hn =>
        cases h
        exact .foreign hv (by simp_all) (by simp_all)
  · rintro ⟨hv, hmapping, hnull⟩
    simp [hv, hmapping, hnull]

theorem failsBy_id :
    FailsBy r.id [TextFault [r.tool "id"], MissingFault .missingId [r.tool "id"],
      Misfit (fun raw => (Uuid.ofText? (Text.trim raw)).isSome = true) .invalidId [r.tool "id"]] := by
  intro e
  simp only [FirstFault.cons_iff, textFault_iff, missingFault_iff, misfit_iff, Request.id]
  cases Source.first [r.tool "id"] with
  | error d => simp
  | ok o =>
    cases o with
    | none => simpa using eq_comm
    | some raw =>
      cases hu : Uuid.ofText? (Text.trim raw) with
      | none => simpa [hu] using eq_comm
      | some u => simp [hu]

theorem failsBy_displayName (name : String) :
    FailsBy (r.displayName name)
      [TextFault [r.tool "name"], Misfit IsDisplayName .invalidDisplayName [r.tool "name"]] := by
  intro e
  simp only [FirstFault.cons_iff, textFault_iff, misfit_iff, Request.displayName]
  cases Source.first [r.tool "name"] with
  | error d => simp
  | ok o =>
    cases o with
    | none => simp
    | some d =>
      by_cases hd : IsDisplayName d
      · simp [hd]
      · simpa [hd] using eq_comm

theorem failsBy_urlOr (key u : String) : FailsBy (r.urlOr key u) [TextFault [r.tool key]] := by
  apply FailsBy.map
  apply failsBy_singleton
  intro e
  rw [textFault_iff, Source.first_eq_error_iff, Source.first_eq_error_iff]
  simp only [Source.refused_given_iff]

theorem existing_eq_error_iff {notFound : Location → ConfigError} {p : String} {e : ConfigError} :
    r.existing notFound p = .error e ↔ ¬ r.HasFile p ∧ e = notFound (Path.locate r.base p) := by
  rw [Request.existing, Request.HasFile]
  split
  · next h => simp [h]
  · next h => simpa [h] using eq_comm

theorem failsBy_icon :
    FailsBy r.icon [TextFault [r.tool "installer_icon"],
      Misfit r.HasFile (fun p => .iconNotFound (Path.locate r.base p)) [r.tool "installer_icon"]] := by
  intro e
  simp only [FirstFault.cons_iff, textFault_iff, misfit_iff, Request.icon]
  cases Source.first [r.tool "installer_icon"] with
  | error d => simp
  | ok o => cases o <;> simp [map_eq_error_iff, existing_eq_error_iff]

theorem failsBy_license :
    FailsBy r.license [TextFault [r.tool "license_file"],
      Misfit r.HasFile (fun p => .licenseNotFound (Path.locate r.base p)) [r.tool "license_file"]] := by
  intro e
  simp only [FirstFault.cons_iff, textFault_iff, misfit_iff, Request.license]
  cases Source.first [r.tool "license_file"] with
  | error d => simp
  | ok o => cases o <;> simp [map_eq_error_iff, existing_eq_error_iff]

theorem failsBy_language (v : Yaml.Value) : FailsBy (Request.language v) [LanguageFault v] := by
  apply failsBy_singleton
  intro e
  unfold Request.language
  constructor
  · intro h
    split at h
    · next hv =>
      cases h
      exact .foreign hv
    · next name hv =>
      split at h
      · simp at h
      · next hname =>
        cases h
        exact .unknown hv hname
  · intro h
    cases h with
    | foreign hv => simp [hv]
    | unknown hv hname => simp [hv, hname]

theorem FailsBy.mapM {α β : Type} {f : α → Rule β} {fault : α → Fault}
    (hf : ∀ a, FailsBy (f a) [fault a]) (as : List α) : FailsBy (as.mapM f) (as.map fault) := by
  induction as with
  | nil => exact failsBy_ok []
  | cons a as ih =>
    rw [List.mapM_cons, List.map_cons]
    have hrest : ∀ b : β, FailsBy (as.mapM f >>= fun bs => pure (b :: bs)) (as.map fault ++ []) :=
      fun b => ih.bind fun bs _ => failsBy_ok (b :: bs)
    simpa using (hf a).bind fun b _ => hrest b

theorem failsBy_languages :
    FailsBy r.languages [LanguagesFault (r.manifest.toolField "languages")] := by
  apply failsBy_singleton
  intro e
  have hentries := FailsBy.mapM failsBy_language
  unfold Request.languages
  constructor
  · intro h
    split at h
    · simp at h
    · simp at h
    · next entries hv =>
      split at h
      · next d hd =>
        cases h
        exact .entry hv ((hentries entries _).mp hd)
      · next hnone =>
        cases h
        cases entries with
        | nil => exact .noEntry hv
        | cons v vs =>
          rw [List.mapM_cons, rule_bind_eq_ok] at hnone
          obtain ⟨_, _, hnone⟩ := hnone
          rw [rule_bind_eq_ok] at hnone
          obtain ⟨_, _, hnone⟩ := hnone
          cases hnone
      · simp at h
    · next v hnull hlist hv =>
      cases h
      refine .foreign ?_ fun entries he => hlist entries (by simpa [hv] using he)
      rw [hv]
      exact Source.not_unset hnull
  · intro h
    cases h with
    | foreign hset hlist => split <;> simp_all [Source.Unset]
    | noEntry hv =>
      rw [hv]
      rfl
    | entry hv he =>
      rw [hv]
      simp only [(hentries _ _).mpr he]

theorem failsBy_bool? (name : String) (v : Option Yaml.Value) :
    FailsBy (Source.bool? name v) [BooleanFault name v] := by
  apply failsBy_singleton
  intro e
  unfold Source.bool?
  constructor
  · intro h
    split at h
    · simp at h
    · simp at h
    · simp at h
    · next v hnull hbool =>
      cases h
      exact .foreign (Source.not_unset hnull) (by simpa using hbool)
  · rintro ⟨hset, hbool⟩
    split <;> simp_all [Source.Unset]

theorem failsBy_pageSwitch (name : String) (v : Option Yaml.Value) :
    FailsBy (Source.pageSwitch name v) [SwitchFault name v] := by
  apply failsBy_singleton
  intro e
  unfold Source.pageSwitch
  constructor
  · intro h
    split at h
    · simp at h
    · simp at h
    · simp at h
    · next s =>
      split at h
      · simp at h
      · next hs =>
        cases h
        exact .unknown rfl hs
    · next v hnull hbool htext =>
      cases h
      exact .foreign (Source.not_unset hnull) (by simpa using hbool) (by simpa using htext)
  · intro h
    cases h with
    | foreign hset hbool htext => split <;> simp_all [Source.Unset]
    | unknown hv hs => simp [hv, hs]

theorem failsBy_admin :
    FailsBy r.admin [BooleanFault "admin" (r.manifest.field "admin"),
      BooleanFault (Source.toolName "admin") (r.manifest.toolField "admin")] :=
  (failsBy_bool? _ _).bind fun _ _ => (failsBy_bool? _ _).bind fun _ _ => failsBy_ok _

theorem failsBy_flag (key : String) (standard : Bool) :
    FailsBy (r.flag key standard)
      [BooleanFault (Source.toolName key) (r.manifest.toolField key)] :=
  (failsBy_bool? _ _).map _

theorem failsBy_resolve : FailsBy (resolve r) r.faults :=
  (failsBy_checkSection r).bind fun _ _ =>
  (failsBy_id r).bind fun _ _ =>
  (failsBy_required "name" _).bind fun name _ =>
  (failsBy_displayName r name).bind fun _ _ =>
  (failsBy_required "description" _).bind fun _ _ =>
  (failsBy_required "version" _).bind fun _ _ =>
  (failsBy_required "publisher" _).bind fun _ _ =>
  ((failsBy_first _).map _).bind fun url _ =>
  (failsBy_urlOr r "support_url" url).bind fun _ _ =>
  (failsBy_urlOr r "updates_url" url).bind fun _ _ =>
  (failsBy_icon r).bind fun _ _ =>
  (failsBy_license r).bind fun _ _ =>
  (failsBy_languages r).bind fun _ _ =>
  (failsBy_admin r).bind fun _ _ =>
  (failsBy_flag r "disable_welcome_page" true).bind fun _ _ =>
  (failsBy_flag r "disable_ready_page" false).bind fun _ _ =>
  (failsBy_flag r "disable_finished_page" false).bind fun _ _ =>
  (failsBy_flag r "disable_ready_memo" false).bind fun _ _ =>
  (failsBy_pageSwitch _ _).bind fun _ _ =>
  (failsBy_pageSwitch _ _).bind fun _ _ =>
  (failsBy_flag r "vc_redist" true).bind fun _ _ =>
  failsBy_ok _

end Rules

end Config

/-- Where the working directory can be read, a project is refused exactly if its manifest has a fault:
with the error of the first one, and nothing has changed then. -/
theorem Project.resolve_first_fault {m : Manifest} {o : Overrides} {w : Option String} {h : Host}
    {cwd : Location} (hcwd : h.currentDirectory = .ok cwd) :
    let r : Config.Request :=
      { manifest := m, overrides := o, base := w.elim cwd (Path.locate cwd), files := h.files }
    ((∃ e h', perform (Project.resolve m o w) h = (.error e, h')) ↔ ∃ fault ∈ r.faults, ∃ d, fault d) ∧
      ∀ e h', perform (Project.resolve m o w) h = (.error e, h') ↔
        h' = h ∧ ∃ d, e = .config d ∧ Config.FirstFault r.faults d := by
  intro r
  have herror : ∀ e h', perform (Project.resolve m o w) h = (.error e, h') ↔
      h' = h ∧ ∃ d, e = .config d ∧ Config.FirstFault r.faults d := by
    intro e h'
    simp only [← Config.failsBy_resolve r _]
    rw [Project.resolve, perform_bind_of_ok (Project.perform_base_of_readable hcwd), perform_get_bind]
    rw [show Config.resolve { manifest := m, overrides := o, base := _, files := _ } =
      Config.resolve r from rfl]
    cases hr : Config.resolve r with
    | error d => simp [and_comm, eq_comm]
    | ok c => simp [Action.debug, Action.log, perform_modify_bind, -bind_pure_comp]
  refine ⟨?_, herror⟩
  simp only [herror, ← Config.FirstFault.exists_iff]
  constructor
  · rintro ⟨e, h', -, d, -, hd⟩
    exact ⟨d, hd⟩
  · rintro ⟨d, hd⟩
    exact ⟨.config d, h, rfl, d, rfl, hd⟩

theorem resolve_first_fault_sample :
    let m := sampleManifest "demo_app"
      [("license_file", .string "LICENSE"), ("publisher", .tagged "!text" (.string "Acme"))]
    (sampleHost []).currentDirectory = .ok [] ∧
      perform (Project.resolve m {} none) (sampleHost []) =
        (.error (.config (.invalidType "inno_bundle.publisher" .string)), sampleHost []) := by
  intro m
  have hcwd : (sampleHost []).currentDirectory = .ok [] := by
    have hs : Standpoint.root.settle ⟨[]⟩ = Standpoint.root := Standpoint.settle_of_hasDirectory rfl
    simp only [Host.currentDirectory, sampleHost, hs]
    rfl
  have hfirst := (Config.failsBy_resolve ⟨m, {}, [], ⟨[]⟩⟩ _).mp rfl
  exact ⟨hcwd, ((Project.resolve_first_fault hcwd).2 _ _).mpr ⟨rfl, _, rfl, hfirst⟩⟩

end FlutterInstaller
