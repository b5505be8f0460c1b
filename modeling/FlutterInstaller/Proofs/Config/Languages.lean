import FlutterInstaller.Proofs.Config.Faults
import FlutterInstaller.Proofs.Text.Case
import Mathlib.Data.List.Sort

/-!
The languages that a manifest lists. Each entry has to be the name of a language, in whatever case, and
a language that is named again keeps its first place; the first entry that names none is what is wrong
with a list.
-/
namespace FlutterInstaller

open Text (SameUpToCase)

/-- The elements of a list, each once, in the order in which they come up first. -/
structure Firsts {α : Type} [BEq α] (as bs : List α) : Prop where
  mem_iff : ∀ a, a ∈ bs ↔ a ∈ as
  order : bs.Pairwise fun a b => as.idxOf a < as.idxOf b

namespace Firsts

variable {α : Type} [BEq α] {as bs cs : List α} {a b : α}

theorem nodup (h : Firsts as bs) : bs.Nodup := h.order.imp fun hlt he => by simp [he] at hlt

theorem eq (h : Firsts as bs) (h' : Firsts as cs) : bs = cs :=
  have : Std.Irrefl fun a b : α => as.idxOf a < as.idxOf b := ⟨fun _ => Nat.lt_irrefl _⟩
  h.order.eq_of_mem_iff h'.order fun a => (h.mem_iff a).trans (h'.mem_iff a).symm

variable [LawfulBEq α]

theorem head?_eq (h : Firsts (a :: as) bs) : bs.head? = some a := by
  have hmem : a ∈ bs := (h.mem_iff a).mpr List.mem_cons_self
  have horder := h.order
  cases bs with
  | nil => cases hmem
  | cons b bs =>
    rcases List.mem_cons.mp hmem with rfl | hlater
    · rfl
    · have hlt := List.rel_of_pairwise_cons horder hlater
      simp at hlt

theorem idxOf_lt_of_filter {p : α → Bool} (ha : p a = true) (hb : p b = true)
    (h : (as.filter p).idxOf a < (as.filter p).idxOf b) : as.idxOf a < as.idxOf b := by
  induction as with
  | nil => simp at h
  | cons c as ih =>
    by_cases hc : p c = true
    · rw [List.filter_cons_of_pos hc] at h
      simp only [List.idxOf_cons] at h ⊢
      grind
    · rw [List.filter_cons_of_neg hc] at h
      have hca : (c == a) = false := by grind
      have hcb : (c == b) = false := by grind
      simp only [List.idxOf_cons, hca, hcb]
      grind

theorem eraseDups : ∀ as : List α, Firsts as as.eraseDups
  | [] => ⟨by simp, by simp⟩
  | a :: as => by
    have ih := eraseDups (as.filter fun b => !b == a)
    have hne : ∀ b ∈ (as.filter fun b => !b == a).eraseDups, (a == b) = false := by
      intro b hb
      have hb' := (List.mem_filter.mp ((ih.mem_iff b).mp hb)).2
      grind
    rw [List.eraseDups_cons]
    refine ⟨fun b => ?_, List.pairwise_cons.mpr ⟨fun b hb => ?_, ?_⟩⟩
    · rw [List.mem_cons, ih.mem_iff, List.mem_filter, List.mem_cons]
      grind
    · simp [List.idxOf_cons, hne b hb]
    · refine ih.order.imp_of_mem fun {b c} hb hc hlt => ?_
      have hb' := (List.mem_filter.mp ((ih.mem_iff b).mp hb)).2
      have hc' := (List.mem_filter.mp ((ih.mem_iff c).mp hc)).2
      have hlt' := idxOf_lt_of_filter (p := fun b => !b == a) hb' hc' hlt
      simp only [List.idxOf_cons, hne b hb, hne c hc]
      grind
termination_by as => as.length
decreasing_by exact Nat.lt_succ_of_le (List.length_filter_le _ _)

theorem eq_eraseDups_iff : bs = as.eraseDups ↔ Firsts as bs :=
  ⟨fun h => h ▸ eraseDups as, fun h => h.eq (eraseDups as)⟩

end Firsts

inductive Yaml.Value.IsText : Yaml.Value → String → Prop
  | string (s : String) : IsText (.string s) s
  | tagged (tag : String) {v : Yaml.Value} {s : String} (h : IsText v s) : IsText (.tagged tag v) s

theorem Yaml.Value.string?_eq_some_iff {v : Yaml.Value} {s : String} :
    v.string? = some s ↔ v.IsText s := by
  constructor
  · intro h
    unfold Yaml.Value.string? at h
    fun_induction Yaml.Value.untag v with
    | case1 tag v ih => exact .tagged tag (ih h)
    | case2 v hv =>
      split at h
      · cases h
        exact .string s
      · cases h
  · intro h
    induction h with
    | string s => rfl
    | tagged tag _ ih => exact ih

theorem Language.ofName?_eq_some_iff {s : String} {l : Language} :
    Language.ofName? s = some l ↔ SameUpToCase s l.name := by
  rw [Text.SameUpToCase, Text.forall₂_sameLetter_iff, map_toLower_name]
  constructor
  · intro h
    have hfound := List.find?_some h
    exact (of_decide_eq_true hfound).symm
  · intro h
    rw [← ofName?_name l, ofName?, ofName?, h, map_toLower_name]

def Yaml.Value.Names (v : Yaml.Value) (l : Language) : Prop :=
  ∃ s, v.IsText s ∧ SameUpToCase s l.name

namespace Config

/-- A list of values, not an empty one, names languages, which are these without the later ones of
those that are named again. -/
def Lists (entries : List Yaml.Value) (ls : List Language) : Prop :=
  entries ≠ [] ∧ ∃ named, List.Forall₂ Yaml.Value.Names entries named ∧ Firsts named ls

inductive BadEntry (v : Yaml.Value) : ConfigError → Prop
  | foreign (h : ∀ s, ¬ v.IsText s) : BadEntry v (.invalidType "inno_bundle.languages" .languageNames)
  | unknown {s : String} (h : v.IsText s) (hs : ∀ l : Language, ¬ SameUpToCase s l.name) :
      BadEntry v (.unknownLanguage s)

/-- What is wrong with a list of values: it is empty, or it has an entry that names no language, and
the first one of these counts. -/
inductive BadList (entries : List Yaml.Value) : ConfigError → Prop
  | empty (h : entries = []) : BadList entries .emptyLanguages
  | entry {before after : List Yaml.Value} {v : Yaml.Value} {e : ConfigError}
      (h : entries = before ++ v :: after) (hbefore : ∀ u ∈ before, ∃ l, u.Names l)
      (hv : BadEntry v e) : BadList entries e

variable {r : Request} {entries : List Yaml.Value} {v : Yaml.Value} {l : Language}
  {ls : List Language} {e : ConfigError}

theorem Lists.ne_nil (h : Lists entries ls) : ls ≠ [] := by
  obtain ⟨hne, named, hnamed, hfirsts⟩ := h
  cases hnamed with
  | nil => exact absurd rfl hne
  | cons _ _ =>
    intro hls
    simpa [hls] using hfirsts.head?_eq

theorem Lists.nodup (h : Lists entries ls) : ls.Nodup := by
  obtain ⟨-, named, -, hfirsts⟩ := h
  exact hfirsts.nodup

theorem Lists.head? (h : Lists (v :: entries) ls) : ∃ l, ls.head? = some l ∧ v.Names l := by
  obtain ⟨-, named, hnamed, hfirsts⟩ := h
  cases hnamed with
  | cons hl _ => exact ⟨_, hfirsts.head?_eq, hl⟩

theorem language_eq_ok_iff : Request.language v = .ok l ↔ v.Names l := by
  unfold Request.language Yaml.Value.Names
  simp only [← Yaml.Value.string?_eq_some_iff, ← Language.ofName?_eq_some_iff]
  cases v.string? with
  | none => simp
  | some s => cases hs : Language.ofName? s <;> simp [hs]

theorem languageFault_iff : LanguageFault v e ↔ BadEntry v e := by
  constructor
  · intro h
    cases h with
    | foreign h => exact .foreign fun s hs => by simp [Yaml.Value.string?_eq_some_iff.mpr hs] at h
    | unknown h hname =>
      refine .unknown (Yaml.Value.string?_eq_some_iff.mp h) fun l hl => ?_
      simp [Language.ofName?_eq_some_iff.mpr hl] at hname
  · intro h
    cases h with
    | foreign h =>
      refine .foreign (Option.eq_none_iff_forall_ne_some.mpr fun s hs => ?_)
      exact h s (Yaml.Value.string?_eq_some_iff.mp hs)
    | unknown h hs =>
      refine .unknown (Yaml.Value.string?_eq_some_iff.mpr h) ?_
      exact Option.eq_none_iff_forall_ne_some.mpr fun l hl => hs l (Language.ofName?_eq_some_iff.mp hl)

theorem not_languageFault_iff : (∀ d, ¬ LanguageFault v d) ↔ ∃ l, v.Names l := by
  have hfails : ∀ d, LanguageFault v d ↔ Request.language v = .error d := fun d =>
    FirstFault.singleton_iff.symm.trans (failsBy_language v d).symm
  simp only [← language_eq_ok_iff, hfails]
  cases Request.language v <;> simp

theorem mapM_language_eq_ok_iff :
    entries.mapM Request.language = .ok ls ↔ List.Forall₂ Yaml.Value.Names entries ls := by
  induction entries generalizing ls with
  | nil =>
    rw [List.forall₂_nil_left_iff]
    exact ⟨fun h => (Except.ok.inj h).symm, fun h => h ▸ rfl⟩
  | cons v entries ih =>
    simp only [List.mapM_cons, rule_bind_eq_ok, language_eq_ok_iff, ih, List.forall₂_cons_left_iff]
    constructor
    · rintro ⟨l, hl, ms, hms, hls⟩
      exact ⟨l, ms, hl, hms, (Except.ok.inj hls).symm⟩
    · rintro ⟨l, ms, hl, hms, rfl⟩
      exact ⟨l, hl, ms, hms, rfl⟩

theorem languages_eq_ok_iff (hv : r.manifest.toolField "languages" = some (.sequence entries)) :
    r.languages = .ok ls ↔ Lists entries ls := by
  unfold Request.languages Lists
  simp only [hv, ← mapM_language_eq_ok_iff]
  cases hm : entries.mapM Request.language with
  | error e => simp
  | ok named =>
    have hnamed := mapM_language_eq_ok_iff.mp hm
    cases hnamed with
    | nil => simp
    | cons hl hrest => simp [← Firsts.eq_eraseDups_iff, eq_comm]

theorem languages_eq_error_iff (hv : r.manifest.toolField "languages" = some (.sequence entries)) :
    r.languages = .error e ↔ BadList entries e := by
  rw [failsBy_languages r e, FirstFault.singleton_iff, hv]
  constructor
  · intro h
    cases h with
    | foreign _ hlist => exact absurd rfl (hlist entries)
    | noEntry h => exact .empty (by simpa using h)
    | entry h he =>
      cases h
      obtain ⟨before, v, after, rfl, hbefore, hfault⟩ := FirstFault.map_iff.mp he
      exact .entry rfl (fun u hu => not_languageFault_iff.mp (hbefore u hu))
        (languageFault_iff.mp hfault)
  · intro h
    cases h with
    | empty h => exact .noEntry (by rw [h])
    | entry h hbefore hfault =>
      refine .entry rfl (FirstFault.map_iff.mpr ⟨_, _, _, h, fun u hu => ?_, ?_⟩)
      · exact not_languageFault_iff.mpr (hbefore u hu)
      · exact languageFault_iff.mpr hfault

theorem languagesFault_iff (hv : r.manifest.toolField "languages" = some (.sequence entries)) :
    LanguagesFault (r.manifest.toolField "languages") e ↔ BadList entries e := by
  rw [← languages_eq_error_iff hv, failsBy_languages r e, FirstFault.singleton_iff]

theorem languagesFault_mem (r : Request) :
    LanguagesFault (r.manifest.toolField "languages") ∈ r.faults :=
  List.mem_of_getElem? (i := 21) rfl

theorem exists_forall₂_names_iff :
    (∃ named, List.Forall₂ Yaml.Value.Names entries named) ↔ ∀ v ∈ entries, ∃ l, v.Names l := by
  induction entries with
  | nil => simp
  | cons v entries ih =>
    rw [List.forall_mem_cons, ← ih]
    constructor
    · rintro ⟨_, hnamed⟩
      cases hnamed with
      | cons hl hnamed => exact ⟨⟨_, hl⟩, _, hnamed⟩
    · rintro ⟨⟨l, hl⟩, named, hnamed⟩
      exact ⟨l :: named, .cons hl hnamed⟩

theorem exists_lists_iff :
    (∃ ls, Lists entries ls) ↔ entries ≠ [] ∧ ∀ v ∈ entries, ∃ l, v.Names l := by
  constructor
  · rintro ⟨ls, hne, named, hnamed, -⟩
    exact ⟨hne, exists_forall₂_names_iff.mp ⟨named, hnamed⟩⟩
  · rintro ⟨hne, hall⟩
    obtain ⟨named, hnamed⟩ := exists_forall₂_names_iff.mpr hall
    exact ⟨named.eraseDups, hne, named, hnamed, Firsts.eraseDups named⟩

theorem Resolves.languages_distinct {c : Config} (h : Resolves r c) :
    c.languages ≠ [] ∧ c.languages.Nodup := by
  have hall : Language.all ≠ [] ∧ Language.all.Nodup := by decide
  have hrule := h.languages
  cases hv : r.manifest.toolField "languages" with
  | none =>
    simp only [Request.languages, hv] at hrule
    rwa [← Except.ok.inj hrule]
  | some v =>
    cases v with
    | null =>
      simp only [Request.languages, hv] at hrule
      rwa [← Except.ok.inj hrule]
    | sequence entries =>
      have hlists := (languages_eq_ok_iff hv).mp hrule
      exact ⟨hlists.ne_nil, hlists.nodup⟩
    | _ => simp [Request.languages, hv] at hrule

end Config

end FlutterInstaller
