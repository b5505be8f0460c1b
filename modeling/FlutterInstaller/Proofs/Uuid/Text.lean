import FlutterInstaller.Path
import FlutterInstaller.Uuid.Basic
import Mathlib.Data.List.Basic

/-!
The canonical text of an identifier is a proper name, and no other identifier has it.
-/
namespace FlutterInstaller.Uuid

theorem mem_of_mem_group {c : Char} {cs : List Char} (h : c ∈ group cs) : c = '-' ∨ c ∈ cs := by
  have htake {n : Nat} {ds : List Char} : c ∈ ds.take n → c ∈ ds := fun h => List.take_subset n ds h
  have hdrop {n : Nat} {ds : List Char} : c ∈ ds.drop n → c ∈ ds := fun h => List.drop_subset n ds h
  simp only [group, List.mem_append, List.mem_cons] at h
  grind

theorem filter_group {cs : List Char} (h : '-' ∉ cs) : (group cs).filter (· ≠ '-') = cs := by
  have hkept {ds : List Char} (hds : ds ⊆ cs) : ds.filter (· ≠ '-') = ds :=
    List.filter_eq_self.mpr fun c hc => decide_eq_true fun he => h (hds (he ▸ hc))
  have htake (m n : Nat) : (cs.drop m).take n ⊆ cs := fun c hc =>
    List.drop_subset m cs (List.take_subset n _ hc)
  have hmark : ¬ ('-' : Char) ≠ '-' := by simp
  simp only [group, List.filter_append, List.filter_cons, decide_eq_true_eq, hmark, if_false,
    hkept (htake _ _), hkept (List.take_subset 8 cs), hkept (List.drop_subset 20 cs)]
  have hjoin (m n : Nat) : (cs.drop m).take n ++ cs.drop (m + n) = cs.drop m := by
    rw [← List.drop_drop, List.take_append_drop]
  simp only [List.append_assoc]
  rw [hjoin 16 4, hjoin 12 4, hjoin 8 4, List.take_append_drop]

theorem not_mem_digits (u : Uuid) {c : Char} (hc : ∀ d : HexDigit, d.char ≠ c) :
    c ∉ u.digits.map HexDigit.char := by
  intro h
  obtain ⟨d, _, hd⟩ := List.mem_map.mp h
  exact hc d hd

theorem text_injective : Function.Injective text := by
  intro u v h
  have hchars : u.chars = v.chars := String.ofList_injective h
  have hflat : u.digits.map HexDigit.char = v.digits.map HexDigit.char := by
    rw [← filter_group (u.not_mem_digits (by decide)), ← filter_group (v.not_mem_digits (by decide))]
    exact congrArg (List.filter (· ≠ '-')) hchars
  have hchar : Function.Injective HexDigit.char := by
    intro d e hde
    have hread := HexDigit.ofChar?_char e
    rwa [← hde, HexDigit.ofChar?_char, Option.some_inj] at hread
  have hdigits : u.digits = v.digits := List.map_injective_iff.mpr hchar hflat
  cases u
  cases v
  cases hdigits
  rfl

theorem isName_text (u : Uuid) : Path.IsName u.text := by
  have hlist : u.text.toList = u.chars := String.toList_ofList
  have hmark : '-' ∈ u.text.toList := by simp [hlist, chars, group]
  have hslash : '/' ∉ u.text.toList := by
    intro h
    rw [hlist] at h
    rcases mem_of_mem_group h with h | h
    · exact absurd h (by decide)
    · exact u.not_mem_digits (by decide) h
  refine ⟨?_, ?_, ?_, hslash⟩ <;>
  · intro he
    rw [he] at hmark
    exact absurd hmark (by decide)

end FlutterInstaller.Uuid
