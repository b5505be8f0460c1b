import FlutterInstaller.Proofs.Text.Pieces
import FlutterInstaller.Text.CamelCase
import FlutterInstaller.Text.Word

/-!
Words and capitals. A capital is never empty and never a separator, so camel case leaves no separator
and is empty for texts of separators alone.
-/
namespace FlutterInstaller.Text

def Among (ranges : List CodeRange) (c : Char) : Prop := ∃ r ∈ ranges, r.covers c.toNat = true

def separatorRanges : List CodeRange :=
  [(0x9, 0xD), (0x20, 0x20), (0x2D, 0x2D), (0x5F, 0x5F), (0x85, 0x85), (0xA0, 0xA0),
    (0x1680, 0x1680), (0x2000, 0x200A), (0x2028, 0x2029), (0x202F, 0x202F), (0x205F, 0x205F),
    (0x3000, 0x3000)]

theorem isSeparator_iff {c : Char} : isSeparator c = true ↔ Among separatorRanges c := by
  have hunderscore : c = '_' ↔ c.toNat = 0x5F := by rw [← Char.toNat_inj]; rfl
  have hhyphen : c = '-' ↔ c.toNat = 0x2D := by rw [← Char.toNat_inj]; rfl
  simp only [isSeparator, isBlank, Among, separatorRanges, CodeRange.covers, Bool.or_eq_true,
    Bool.and_eq_true, decide_eq_true_eq, beq_iff_eq, List.mem_cons, List.not_mem_nil, or_false,
    exists_eq_or_imp, exists_eq_left, hunderscore, hhyphen]
  omega

theorem toNat_ofNat {n : Nat} (h : n.isValidChar) : (Char.ofNat n).toNat = n := by
  rw [Char.ofNat, dif_pos h]
  rfl

theorem mem_expansions {c : Char} {codes : List Nat}
    (h : Upper.expansions.lookup c.toNat = some codes) : (c.toNat, codes) ∈ Upper.expansions := by
  obtain ⟨before, after, heq, _⟩ := List.lookup_eq_some_iff.mp h
  rw [heq]
  exact List.mem_append_right _ List.mem_cons_self

theorem upper_ne_nil (c : Char) : upper c ≠ [] := by
  have hne : ∀ e ∈ Upper.expansions, e.2 ≠ [] := by decide
  unfold upper
  split
  · next codes hc => simpa using hne _ (mem_expansions hc)
  · split <;> simp

theorem toNat_of_mem_upper {c d : Char} (hd : d ∈ upper c) :
    (∃ codes, (c.toNat, codes) ∈ Upper.expansions ∧ d.toNat ∈ codes) ∨
    (∃ run ∈ Upper.runs, run.covers c.toNat = true ∧
      d.toNat = run.target + (c.toNat - run.first)) ∨
    upper c = [c] ∧ d = c := by
  have hrunValid : ∀ run ∈ Upper.runs, run.target + (run.last - run.first) < 0xD800 ∨
      0xDFFF < run.target ∧ run.target + (run.last - run.first) < 0x110000 := by decide +kernel
  have hexpValid : ∀ e ∈ Upper.expansions, ∀ n ∈ e.2, n < 0xD800 ∨ 0xDFFF < n ∧ n < 0x110000 := by
    decide +kernel
  unfold upper at hd ⊢
  split at hd
  · next codes hcodes =>
    obtain ⟨n, hn, rfl⟩ := List.mem_map.mp hd
    have he := mem_expansions hcodes
    rw [toNat_ofNat (hexpValid _ he n hn)]
    exact .inl ⟨codes, he, hn⟩
  · split at hd
    · next run hrun =>
      obtain rfl := List.mem_singleton.mp hd
      have hmem := List.mem_of_find?_eq_some hrun
      have hcovers : run.covers c.toNat = true := by simpa using List.find?_some hrun
      have hvalid := hrunValid run hmem
      have hn : (run.target + (c.toNat - run.first)).isValidChar := by
        simp only [CaseRun.covers, Bool.and_eq_true, decide_eq_true_eq] at hcovers
        unfold Nat.isValidChar
        omega
      exact .inr (.inl ⟨run, hmem, hcovers, toNat_ofNat hn⟩)
    · exact .inr (.inr ⟨rfl, List.mem_singleton.mp hd⟩)

/-- Whichever letter is put in upper case, it does not get into the ranges. -/
structure KeepsOut (ranges : List CodeRange) : Prop where
  runs : ∀ run ∈ Upper.runs, ∀ r ∈ ranges,
    r.2 < run.target ∨ run.target + (run.last - run.first) < r.1
  expansions : ∀ e ∈ Upper.expansions, ∀ n ∈ e.2, ∀ r ∈ ranges, r.2 < n ∨ n < r.1

theorem KeepsOut.not_among_of_mem_upper {ranges : List CodeRange} (h : KeepsOut ranges) {c d : Char}
    (hc : ¬ Among ranges c) (hd : d ∈ upper c) : ¬ Among ranges d := by
  rintro ⟨r, hr, hcover⟩
  simp only [CodeRange.covers, Bool.and_eq_true, decide_eq_true_eq] at hcover
  rcases toNat_of_mem_upper hd with ⟨codes, hcodes, hn⟩ | ⟨run, hrun, hcovers, hn⟩ | ⟨-, rfl⟩
  · have hout := h.expansions _ hcodes _ hn r hr
    omega
  · have hout := h.runs run hrun r hr
    simp only [CaseRun.covers, Bool.and_eq_true, decide_eq_true_eq] at hcovers
    omega
  · exact hc ⟨r, hr, by simpa [CodeRange.covers] using hcover⟩

theorem keepsOut_separatorRanges : KeepsOut separatorRanges where
  runs := by decide +kernel
  expansions := by decide +kernel

theorem not_isSeparator_of_mem_upper {c d : Char} (hc : isSeparator c = false)
    (hd : d ∈ upper c) : isSeparator d = false := by
  rw [← Bool.not_eq_true, isSeparator_iff] at hc ⊢
  exact keepsOut_separatorRanges.not_among_of_mem_upper hc hd

theorem not_isSeparator_of_mem_camelCaseChars {cs : List Char} {d : Char}
    (hd : d ∈ camelCaseChars cs) : isSeparator d = false := by
  obtain ⟨word, hw, hd⟩ := List.mem_flatMap.mp hd
  cases word with
  | nil => simp [capitalize] at hd
  | cons c rest =>
    rw [capitalize, List.mem_append] at hd
    rcases hd with hd | hd
    · exact not_isSeparator_of_mem_upper (not_cut_of_mem_splitBy hw List.mem_cons_self) hd
    · exact not_cut_of_mem_splitBy hw (List.mem_cons_of_mem c hd)

theorem capitalize_eq_nil_iff {word : List Char} : capitalize word = [] ↔ word = [] := by
  cases word with
  | nil => simp [capitalize]
  | cons c rest => simp [capitalize, upper_ne_nil]

/-- No character of the ranges has another upper-case form, and no other one gets into them. -/
structure Caseless (ranges : List CodeRange) : Prop extends KeepsOut ranges where
  runsApart : ∀ run ∈ Upper.runs, ∀ r ∈ ranges, r.2 < run.first ∨ run.last < r.1
  expansionsApart : ∀ e ∈ Upper.expansions, ∀ r ∈ ranges, r.2 < e.1 ∨ e.1 < r.1

section Caseless

variable {ranges : List CodeRange} (h : Caseless ranges)

include h

theorem Caseless.upper_eq {c : Char} (hc : Among ranges c) : upper c = [c] := by
  obtain ⟨r, hr, hcover⟩ := hc
  simp only [CodeRange.covers, Bool.and_eq_true, decide_eq_true_eq] at hcover
  unfold upper
  split
  · next codes hcodes =>
    have hout := h.expansionsApart _ (mem_expansions hcodes) r hr
    omega
  · split
    · next run hrun =>
      have hout := h.runsApart run (List.mem_of_find?_eq_some hrun) r hr
      have hcovers : run.covers c.toNat = true := by simpa using List.find?_some hrun
      simp only [CaseRun.covers, Bool.and_eq_true, decide_eq_true_eq] at hcovers
      omega
    · rfl

theorem Caseless.forall_mem_upper_iff {c : Char} :
    (∀ d ∈ upper c, ¬ Among ranges d) ↔ ¬ Among ranges c := by
  constructor
  · intro hd hc
    rw [h.upper_eq hc] at hd
    exact hd c List.mem_cons_self hc
  · exact fun hc d hd => h.not_among_of_mem_upper hc hd

theorem Caseless.forall_mem_capitalize_iff {word : List Char} :
    (∀ d ∈ capitalize word, ¬ Among ranges d) ↔ ∀ c ∈ word, ¬ Among ranges c := by
  cases word with
  | nil => simp [capitalize]
  | cons c rest =>
    rw [capitalize, List.forall_mem_append, h.forall_mem_upper_iff, List.forall_mem_cons]

theorem Caseless.forall_mem_camelCaseChars_iff {cs : List Char} :
    (∀ d ∈ camelCaseChars cs, ¬ Among ranges d) ↔
      ∀ c ∈ cs, isSeparator c = true ∨ ¬ Among ranges c := by
  have hwords : (∀ d ∈ camelCaseChars cs, ¬ Among ranges d) ↔
      ∀ c ∈ (splitBy isSeparator cs).flatten, ¬ Among ranges c := by
    simp only [camelCaseChars, List.forall_mem_flatMap, h.forall_mem_capitalize_iff,
      List.forall_mem_flatten]
  rw [hwords, flatten_splitBy]
  simp only [List.mem_filter, and_imp, Bool.not_eq_true']
  refine forall₂_congr fun c _ => ?_
  cases isSeparator c <;> simp

end Caseless

theorem camelCaseChars_ne_nil_iff {cs : List Char} :
    camelCaseChars cs ≠ [] ↔ ∃ c ∈ cs, isSeparator c = false := by
  rw [← exists_mem_splitBy_ne_nil_iff, camelCaseChars, Ne, List.flatMap_eq_nil_iff]
  simp only [capitalize_eq_nil_iff, Classical.not_forall, exists_prop, ne_eq]

end FlutterInstaller.Text
