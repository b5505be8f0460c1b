import FlutterInstaller.Text.Blank
import Mathlib.Data.List.Forall2

/-!
Texts that are the same but for the case of ASCII letters.
-/
namespace FlutterInstaller.Text

def SameLetter (c d : Char) : Prop :=
  c = d ∨ c.isUpper = true ∧ d.toNat = c.toNat + 32 ∨ d.isUpper = true ∧ c.toNat = d.toNat + 32

def SameUpToCase (s t : String) : Prop := List.Forall₂ SameLetter s.toList t.toList

theorem isUpper_iff_val {c : Char} : c.isUpper = true ↔ c.val ≥ 'A'.val ∧ c.val ≤ 'Z'.val :=
  decide_eq_true_iff

theorem isUpper_iff {c : Char} : c.isUpper = true ↔ 65 ≤ c.toNat ∧ c.toNat ≤ 90 := by
  rw [isUpper_iff_val, ge_iff_le, UInt32.le_iff_toNat_le, UInt32.le_iff_toNat_le]
  rfl

theorem toNat_toLower (c : Char) :
    c.toLower.toNat = if c.isUpper = true then c.toNat + 32 else c.toNat := by
  unfold Char.toLower
  split
  · next h =>
    have hc := isUpper_iff_val.mpr h
    have hle : c.toNat ≤ 90 := (isUpper_iff.mp hc).2
    have hadd : (c.val + ('a'.val - 'A'.val)).toNat = (c.toNat + 32) % 2 ^ 32 := rfl
    rw [if_pos hc]
    exact hadd.trans (Nat.mod_eq_of_lt (by omega))
  · next h => rw [if_neg fun hc => h (isUpper_iff_val.mp hc)]

theorem toLower_eq_self {c : Char} (h : c.isUpper = false) : c.toLower = c := by
  rw [← Char.toNat_inj, toNat_toLower, if_neg (by simp [h])]

theorem isBlank_toLower (c : Char) : isBlank c.toLower = isBlank c := by
  by_cases hc : c.isUpper = true
  · obtain ⟨hle, hge⟩ := isUpper_iff.mp hc
    have hlower : c.toLower.toNat = c.toNat + 32 := by rw [toNat_toLower, if_pos hc]
    rw [Bool.eq_iff_iff]
    simp only [isBlank, hlower, Bool.or_eq_true, Bool.and_eq_true, decide_eq_true_eq, beq_iff_eq]
    omega
  · rw [toLower_eq_self (Bool.not_eq_true _ ▸ hc)]

theorem sameLetter_iff {c d : Char} : SameLetter c d ↔ c.toLower = d.toLower := by
  rw [← Char.toNat_inj, toNat_toLower, toNat_toLower, SameLetter, ← Char.toNat_inj]
  simp only [isUpper_iff]
  split_ifs <;> omega

theorem forall₂_sameLetter_iff {cs ds : List Char} :
    List.Forall₂ SameLetter cs ds ↔ cs.map Char.toLower = ds.map Char.toLower := by
  rw [← List.forall₂_eq_eq_eq, List.forall₂_map_left_iff, List.forall₂_map_right_iff]
  exact ⟨.imp fun _ _ => sameLetter_iff.mp, .imp fun _ _ => sameLetter_iff.mpr⟩

theorem exists_sameLetter {cs ds : List Char} (h : List.Forall₂ SameLetter cs ds) {c : Char}
    (hc : c ∈ cs) : ∃ d ∈ ds, SameLetter c d := by
  induction h with
  | nil => cases hc
  | cons hcd _ ih =>
    rcases List.mem_cons.mp hc with rfl | hc
    · exact ⟨_, List.mem_cons_self, hcd⟩
    · obtain ⟨d, hd, hsame⟩ := ih hc
      exact ⟨d, List.mem_cons_of_mem _ hd, hsame⟩

theorem SameLetter.isBlank_eq {c d : Char} (h : SameLetter c d) : isBlank c = isBlank d := by
  rw [← isBlank_toLower, sameLetter_iff.mp h, isBlank_toLower]

theorem dropWhile_isBlank_append {cs ds : List Char} (hcs : ∀ c ∈ cs, isBlank c = true)
    (hds : ∀ d, ds.head? = some d → isBlank d = false) : (cs ++ ds).dropWhile isBlank = ds := by
  rw [List.dropWhile_append_of_pos hcs]
  cases ds with
  | nil => rfl
  | cons d ds => rw [List.dropWhile_cons_of_neg (by simp [hds d rfl])]

theorem trim_surrounded {a t b : String} (ha : Blank a) (hb : Blank b)
    (ht : ∀ c ∈ t.toList, isBlank c = false) : trim (a ++ t ++ b) = t := by
  by_cases hempty : t = ""
  · subst hempty
    rw [trim_eq_empty_iff]
    simpa [Blank, or_imp, forall_and] using ⟨ha, hb⟩
  have hne : t.toList ≠ [] := fun h => hempty (String.toList_inj.mp h)
  have hfront : (a.toList ++ (t.toList ++ b.toList)).dropWhile isBlank = t.toList ++ b.toList :=
    dropWhile_isBlank_append ha fun d hd => by
      rw [List.head?_append_of_ne_nil _ hne] at hd
      exact ht d (List.mem_of_head? hd)
  have hback : (b.toList.reverse ++ t.toList.reverse).dropWhile isBlank = t.toList.reverse :=
    dropWhile_isBlank_append (fun c hc => hb c (List.mem_reverse.mp hc)) fun d hd =>
      ht d (List.mem_reverse.mp (List.mem_of_head? hd))
  rw [trim, trimChars, String.toList_append, String.toList_append, List.append_assoc, hfront,
    List.reverse_append, hback, List.reverse_reverse, String.ofList_toList]

end FlutterInstaller.Text
