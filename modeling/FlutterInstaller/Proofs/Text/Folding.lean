import FlutterInstaller.Proofs.Text.Lines
import Mathlib.Data.List.DropRight

/-!
The laws of folding a text onto one line. How a line is ended makes no difference, since what ends it is
white space; the result has none at its ends, so folding it again changes nothing, and a line break
parts what is folded before it from what is folded after it.
-/
namespace FlutterInstaller.Text

structure Tight (s : String) : Prop where
  first : ∀ c, s.toList.head? = some c → isBlank c = false
  last : ∀ c, s.toList.getLast? = some c → isBlank c = false

theorem trimChars_eq (cs : List Char) :
    trimChars cs = (cs.dropWhile isBlank).rdropWhile isBlank := rfl

theorem tight_trim (s : String) : Tight (trim s) := by
  rw [trim, trimChars_eq]
  constructor
  · intro c hc
    rw [String.toList_ofList] at hc
    obtain ⟨rest, hrest⟩ := List.rdropWhile_prefix isBlank (l := s.toList.dropWhile isBlank)
    have hhead : (s.toList.dropWhile isBlank).head? = some c := by
      rw [← hrest, List.head?_append, hc, Option.some_or]
    have hnot := List.head?_dropWhile_not isBlank s.toList
    simpa [hhead] using hnot
  · intro c hc
    rw [String.toList_ofList, List.rdropWhile, List.getLast?_reverse] at hc
    have hnot := List.head?_dropWhile_not isBlank (s.toList.dropWhile isBlank).reverse
    simpa [hc] using hnot

theorem dropWhile_isBlank_eq_self {cs : List Char} (h : ∀ c, cs.head? = some c → isBlank c = false) :
    cs.dropWhile isBlank = cs := by
  cases cs with
  | nil => rfl
  | cons c cs => rw [List.dropWhile_cons_of_neg (by simp [h c rfl])]

theorem Tight.trim_eq {s : String} (h : Tight s) : trim s = s := by
  have hback : ∀ c, s.toList.reverse.head? = some c → isBlank c = false := fun c hc =>
    h.last c (by rwa [List.head?_reverse] at hc)
  rw [trim, trimChars, dropWhile_isBlank_eq_self h.first, dropWhile_isBlank_eq_self hback,
    List.reverse_reverse, String.ofList_toList]

theorem blank_iff_solid {s : String} : Blank s ↔ solid s.toList = [] := by
  simp [Blank, solid]

theorem Tight.eq_empty_iff {s : String} (h : Tight s) : s = "" ↔ Blank s := by
  constructor
  · rintro rfl
    simp [Blank]
  · intro hblank
    rw [← h.trim_eq, trim_eq_empty_iff]
    exact hblank

def filled (ls : List String) : List String := (ls.map trim).filter (· ≠ "")

theorem filled_append (ks ls : List String) : filled (ks ++ ls) = filled ks ++ filled ls := by
  rw [filled, List.map_append, List.filter_append]
  rfl

theorem mem_filled {l : String} {ls : List String} (h : l ∈ filled ls) : l ≠ "" ∧ Tight l := by
  obtain ⟨hl, hne⟩ := List.mem_filter.mp h
  obtain ⟨k, -, rfl⟩ := List.mem_map.mp hl
  exact ⟨of_decide_eq_true hne, tight_trim k⟩

theorem singleLine_eq (s : String) : singleLine s = " ".intercalate (filled (pieces '\n' s)) := by
  have htrim : trim ∘ String.ofList = String.ofList ∘ trimChars := by
    funext cs
    simp [trim]
  have hne : (fun l : String => decide (l ≠ "")) ∘ String.ofList = fun cs => decide (cs ≠ []) := by
    funext cs
    simp
  have hlines : filled (pieces '\n' s) = (filledLines s.toList).map String.ofList := by
    rw [filledLines, filled, pieces, List.map_map, htrim, ← List.map_map, List.filter_map, hne]
  rw [hlines, ← String.toList_inj, singleLine, String.toList_ofList, String.toList_intercalate,
    List.map_map]
  simp [singleLineChars]

theorem singleLine_of_oneLine {s : String} (h : OneLine s) : singleLine s = trim s := by
  rw [singleLine_eq, pieces_eq_singleton h, filled]
  by_cases hs : trim s = "" <;> simp [hs]

theorem intercalate_eq_empty_iff {ls : List String} (h : ∀ l ∈ ls, l ≠ "") :
    " ".intercalate ls = "" ↔ ls = [] := by
  cases ls with
  | nil => simp
  | cons l ls =>
    have hl := h l List.mem_cons_self
    by_cases hls : ls = [] <;> simp [hls, hl, String.intercalate_cons_of_ne_nil]

theorem tight_intercalate {ls : List String} (h : ∀ l ∈ ls, l ≠ "" ∧ Tight l) :
    Tight (" ".intercalate ls) := by
  induction ls with
  | nil => exact ⟨by simp, by simp⟩
  | cons l ls ih =>
    obtain ⟨⟨hne, hl⟩, hls⟩ := List.forall_mem_cons.mp h
    by_cases hnil : ls = []
    · simpa [hnil] using hl
    · have hrest : " ".intercalate ls ≠ "" :=
        fun he => hnil ((intercalate_eq_empty_iff fun k hk => (hls k hk).1).mp he)
      rw [String.intercalate_cons_of_ne_nil hnil]
      constructor
      · intro c hc
        refine hl.first c ?_
        rwa [String.toList_append, String.toList_append, List.append_assoc,
          List.head?_append_of_ne_nil _ (by simpa using hne)] at hc
      · intro c hc
        refine (ih hls).last c ?_
        rwa [String.toList_append,
          List.getLast?_append_of_ne_nil _ fun he => hrest (String.toList_inj.mp he)] at hc

theorem tight_singleLine (s : String) : Tight (singleLine s) := by
  rw [singleLine_eq]
  exact tight_intercalate fun l hl => mem_filled hl

theorem singleLine_singleLine (s : String) : singleLine (singleLine s) = singleLine s := by
  rw [singleLine_of_oneLine (oneLine_singleLine s), (tight_singleLine s).trim_eq]

theorem solid_singleLine (s : String) : solid (singleLine s).toList = solid s.toList := by
  rw [singleLine, String.toList_ofList, solid_singleLineChars]

theorem singleLine_eq_empty_iff (s : String) : singleLine s = "" ↔ Blank s := by
  rw [(tight_singleLine s).eq_empty_iff, blank_iff_solid, solid_singleLine, ← blank_iff_solid]

theorem intercalate_filled_append (ks ls : List String) :
    " ".intercalate (filled ks ++ filled ls) =
      " ".intercalate ([" ".intercalate (filled ks), " ".intercalate (filled ls)].filter (· ≠ "")) := by
  have hempty (ls : List String) : " ".intercalate (filled ls) = "" ↔ filled ls = [] :=
    intercalate_eq_empty_iff fun l hl => (mem_filled hl).1
  by_cases hks : filled ks = [] <;> by_cases hls : filled ls = []
  · simp [hks, hls]
  · have hne := mt (hempty ls).mp hls
    simp [hks, hne]
  · have hne := mt (hempty ks).mp hks
    simp [hls, hne]
  · have hks' := mt (hempty ks).mp hks
    have hls' := mt (hempty ls).mp hls
    simp [String.intercalate_append_of_ne_nil hks hls, hks', hls', String.intercalate_cons_of_ne_nil]

theorem singleLine_append (a b : String) :
    singleLine (a ++ "\n" ++ b) =
      " ".intercalate ([singleLine a, singleLine b].filter (· ≠ "")) := by
  rw [singleLine_eq, pieces_append rfl, filled_append, intercalate_filled_append, ← singleLine_eq,
    ← singleLine_eq]

def withoutReturn (l : String) : String :=
  if l.toList.getLast? = some '\r' then String.ofList l.toList.dropLast else l

/-- The lines of a text: a line break ends one, and takes the return right before it along; the last line
may have no end. -/
def lines (s : String) : List String :=
  let ps := pieces '\n' s
  ps.dropLast.map withoutReturn ++ ps.getLast?.toList.filter (· ≠ "")

theorem trim_withoutReturn (l : String) : trim (withoutReturn l) = trim l := by
  unfold withoutReturn
  split
  · next h =>
    obtain ⟨cs, hcs⟩ := List.getLast?_eq_some_iff.mp h
    have hblank : isBlank '\r' = true := by decide
    have hchars : trimChars (cs ++ ['\r']) = trimChars cs := by
      rw [trimChars_eq, trimChars_eq, List.dropWhile_append]
      split
      · next hnil => simp [List.isEmpty_iff.mp hnil, hblank]
      · exact List.rdropWhile_concat_pos _ _ _ hblank
    rw [trim, trim, String.toList_ofList, hcs, List.dropLast_concat, hchars]
  · rfl

theorem filled_lines (s : String) : filled (lines s) = filled (pieces '\n' s) := by
  have hends (ls : List String) : filled (ls.map withoutReturn) = filled ls := by
    rw [filled, List.map_map, show trim ∘ withoutReturn = trim from funext trim_withoutReturn]
    rfl
  have hlast (l : String) : filled ([l].filter (· ≠ "")) = filled [l] := by
    by_cases hl : l = "" <;> simp [filled, hl, show trim "" = "" by decide]
  have hne : pieces '\n' s ≠ [] := by simp [pieces, splitBy_ne_nil]
  rw [lines, filled_append, hends, List.getLast?_eq_some_getLast hne, Option.toList_some, hlast,
    ← filled_append, List.dropLast_concat_getLast]

/-- A text is folded into its lines, however they are ended: each is trimmed, the blank ones are dropped
and a space is put between the others. The result is on one line, with no white space at its ends; it
keeps all that is not white space, in order, and is left as it is when it is folded again. Texts on the
two sides of a line break are folded each for itself, and nothing is left of blank texts alone. -/
theorem singleLine_folds (t : String) :
    singleLine t = " ".intercalate (filled (lines t)) ∧
    OneLine (singleLine t) ∧ Tight (singleLine t) ∧
    solid (singleLine t).toList = solid t.toList ∧
    singleLine (singleLine t) = singleLine t ∧
    (∀ u, singleLine (t ++ "\n" ++ u) =
      " ".intercalate ([singleLine t, singleLine u].filter (· ≠ ""))) ∧
    (singleLine t = "" ↔ Blank t) := by
  refine ⟨?_, oneLine_singleLine t, tight_singleLine t, solid_singleLine t, singleLine_singleLine t,
    singleLine_append t, singleLine_eq_empty_iff t⟩
  rw [filled_lines, singleLine_eq]

example : lines "a\r\n\r\n b\rc\r" = ["a", "", " b\rc\r"] ∧ singleLine "a\r\n\r\n b\rc\r" = "a b\rc" := by
  decide

end FlutterInstaller.Text
