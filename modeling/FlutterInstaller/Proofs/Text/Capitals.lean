import FlutterInstaller.Proofs.Text.CamelCase

/-!
The laws of camel case. The characters of an upper-case form are in upper case, so a text in camel case
is one word that is left as it is when it is put into camel case again; and a separator parts what
stands before it from what stands after it.
-/
namespace FlutterInstaller.Text

def CaseRun.single (n : Nat) : CaseRun := ⟨n, n, 1, n⟩

/-- The targets of the run lie outside the other run, or between the codes of one that takes every
second. -/
def CaseRun.clears (run r : CaseRun) : Bool :=
  Nat.blt r.last run.target || Nat.blt (run.target + (run.last - run.first)) r.first ||
    Nat.beq r.stride 2 && (Nat.beq run.stride 2 || Nat.beq run.first run.last) &&
      Nat.beq ((run.target + r.first) % 2) 1

theorem CaseRun.covers_single (n : Nat) : (single n).covers n = true := by simp [single, covers]

theorem CaseRun.covers_target_of_clears {run r : CaseRun} (h : run.clears r = true) {n : Nat}
    (hn : run.covers n = true) : r.covers (run.target + (n - run.first)) = false := by
  simp only [clears, Bool.or_eq_true, Bool.and_eq_true, Nat.blt_eq, Nat.beq_eq] at h
  simp only [covers, Bool.and_eq_true, decide_eq_true_eq, beq_iff_eq] at hn
  obtain ⟨⟨hfirst, hlast⟩, hstride⟩ := hn
  rw [← Bool.not_eq_true]
  simp only [covers, Bool.and_eq_true, decide_eq_true_eq, beq_iff_eq]
  rintro ⟨⟨hrfirst, hrlast⟩, hrstride⟩
  rcases h with (hout | hout) | ⟨⟨htwo, htwo' | hsingle⟩, hodd⟩
  · omega
  · omega
  · rw [htwo] at hrstride
    rw [htwo'] at hstride
    omega
  · rw [htwo] at hrstride
    omega

namespace Upper

def cased : List CaseRun := runs ++ expansions.map fun e => .single e.1

def targets : List CaseRun := runs ++ expansions.flatMap fun e => e.2.map .single

def Capital (n : Nat) : Prop := ∀ r ∈ cased, r.covers n = false

theorem capital_of_covers {run : CaseRun} (hrun : run ∈ targets) {n : Nat}
    (hn : run.covers n = true) : Capital (run.target + (n - run.first)) := by
  have hall : (targets.all fun run => cased.all run.clears) = true := by decide +kernel
  intro r hr
  exact CaseRun.covers_target_of_clears (List.all_eq_true.mp (List.all_eq_true.mp hall run hrun) r hr) hn

theorem capital_of_mem_expansions {e : Nat × List Nat} (he : e ∈ expansions) {n : Nat}
    (hn : n ∈ e.2) : Capital n := by
  have hmem : .single n ∈ targets :=
    List.mem_append_right _ (List.mem_flatMap.mpr ⟨e, he, List.mem_map_of_mem hn⟩)
  have hcapital := capital_of_covers hmem (CaseRun.covers_single n)
  rwa [CaseRun.single, Nat.sub_self, Nat.add_zero] at hcapital

end Upper

theorem upper_of_capital {c : Char} (h : Upper.Capital c.toNat) : upper c = [c] := by
  unfold upper
  split
  · next codes hcodes =>
    have hmem : .single c.toNat ∈ Upper.cased :=
      List.mem_append_right _ (List.mem_map_of_mem (mem_expansions hcodes))
    exact absurd (CaseRun.covers_single c.toNat) (by simp [h _ hmem])
  · split
    · next run hrun =>
      have hcovers : run.covers c.toNat = true := by simpa using List.find?_some hrun
      have hmem : run ∈ Upper.cased := List.mem_append_left _ (List.mem_of_find?_eq_some hrun)
      rw [h run hmem] at hcovers
      cases hcovers
    · rfl

theorem upper_of_mem_upper {c d : Char} (hd : d ∈ upper c) : upper d = [d] := by
  rcases toNat_of_mem_upper hd with ⟨codes, he, hn⟩ | ⟨run, hrun, hcovers, hn⟩ | ⟨hself, rfl⟩
  · exact upper_of_capital (Upper.capital_of_mem_expansions he hn)
  · exact upper_of_capital (hn ▸ Upper.capital_of_covers (List.mem_append_left _ hrun) hcovers)
  · exact hself

theorem capitalize_flatMap_capitalize (words : List (List Char)) :
    capitalize (words.flatMap capitalize) = words.flatMap capitalize := by
  induction words with
  | nil => rfl
  | cons word words ih =>
    cases word with
    | nil => exact ih
    | cons c rest =>
      obtain ⟨d, ds, hd⟩ := List.exists_cons_of_ne_nil (upper_ne_nil c)
      have hstable : upper d = [d] := upper_of_mem_upper (hd ▸ List.mem_cons_self)
      rw [List.flatMap_cons, capitalize, hd]
      simp [capitalize, hstable]

theorem camelCaseChars_of_word {cs : List Char} (h : ∀ c ∈ cs, isSeparator c = false) :
    camelCaseChars cs = capitalize cs := by
  rw [camelCaseChars, splitBy_eq_singleton h, List.flatMap_singleton]

theorem camelCaseChars_camelCaseChars (cs : List Char) :
    camelCaseChars (camelCaseChars cs) = camelCaseChars cs := by
  rw [camelCaseChars_of_word fun c hc => not_isSeparator_of_mem_camelCaseChars hc, camelCaseChars,
    capitalize_flatMap_capitalize]

theorem camelCaseChars_append {s : Char} (hs : isSeparator s = true) (as bs : List Char) :
    camelCaseChars (as ++ s :: bs) = camelCaseChars as ++ camelCaseChars bs := by
  rw [camelCaseChars, splitBy_append_cons hs, List.flatMap_append]
  rfl

theorem camelCase_camelCase (t : String) : camelCase (camelCase t) = camelCase t := by
  rw [camelCase, camelCase, String.toList_ofList, camelCaseChars_camelCaseChars]

theorem camelCase_append {s : Char} (hs : isSeparator s = true) (a b : String) :
    camelCase (a ++ String.singleton s ++ b) = camelCase a ++ camelCase b := by
  have hchars : (a ++ String.singleton s ++ b).toList = a.toList ++ s :: b.toList := by simp
  rw [camelCase, hchars, camelCaseChars_append hs, String.ofList_append]
  rfl

theorem camelCase_eq_empty_iff {t : String} :
    camelCase t = "" ↔ ∀ c ∈ t.toList, isSeparator c = true := by
  have hchars : camelCase t = "" ↔ camelCaseChars t.toList = [] := by
    rw [camelCase, ← String.toList_inj, String.toList_ofList]
    rfl
  rw [hchars, ← Decidable.not_iff_not, ← Ne, camelCaseChars_ne_nil_iff]
  simp

end FlutterInstaller.Text
