import FlutterInstaller.Proofs.Text.CamelCase
import FlutterInstaller.Script.Escape
import Mathlib.Algebra.GroupWithZero.Nat

/-!
Lines of a text. A text of one line stays one piece when it is cut at line breaks, and each line break
in it makes one piece more; folding, doubling and camel case bring no line break into a text.
-/
namespace FlutterInstaller.Text

def OneLine (s : String) : Prop := '\n' ∉ s.toList

instance : DecidablePred OneLine := fun s => inferInstanceAs (Decidable ('\n' ∉ s.toList))

@[simp] theorem oneLine_append {s t : String} : OneLine (s ++ t) ↔ OneLine s ∧ OneLine t := by
  simp [OneLine]

theorem oneLine_intercalate {sep : String} (hsep : OneLine sep) {ls : List String} :
    OneLine (sep.intercalate ls) ↔ ∀ l ∈ ls, OneLine l := by
  induction ls with
  | nil => simp [OneLine]
  | cons l ls ih =>
    by_cases hls : ls = []
    · simp [hls]
    · simp [String.intercalate_cons_of_ne_nil hls, ih, hsep]

theorem join_ended (ls : List String) :
    String.join (ls.map fun l => l ++ "\n") = "\n".intercalate (ls ++ [""]) := by
  induction ls with
  | nil => rfl
  | cons l ls ih =>
    rw [List.map_cons, String.join_cons, ih, List.cons_append,
      String.intercalate_cons_of_ne_nil (by simp)]

theorem length_flatMap_pieces (ls : List String) :
    (ls.flatMap (pieces '\n')).length = ls.length + (ls.map fun l => l.toList.count '\n').sum := by
  induction ls with
  | nil => rfl
  | cons l ls ih =>
    simp only [List.flatMap_cons, List.length_append, length_pieces, ih, List.length_cons,
      List.map_cons, List.sum_cons]
    omega

theorem oneLine_of_length_flatMap_pieces {ls : List String}
    (h : (ls.flatMap (pieces '\n')).length = ls.length) : ∀ l ∈ ls, OneLine l := by
  rw [length_flatMap_pieces] at h
  have hsum : (ls.map fun l => l.toList.count '\n').sum = 0 := by omega
  intro l hl
  exact List.count_eq_zero.mp (List.sum_eq_zero_iff_forall_eq_nat.mp hsum _ (List.mem_map_of_mem hl))

/-- A text up to its first line break. -/
def firstLine (s : String) : String := String.ofList (s.toList.takeWhile (· ≠ '\n'))

theorem splitBy_newline (cs : List Char) : splitBy (· = '\n') cs =
    cs.takeWhile (· ≠ '\n') :: (splitBy (· = '\n') cs).tail := by
  induction cs with
  | nil => rfl
  | cons c cs ih =>
    by_cases hc : c = '\n'
    · simp [splitBy, hc]
    · rw [splitBy, if_neg (by simpa using hc), ih]
      simp [hc]

theorem pieces_eq_cons (s : String) : pieces '\n' s = firstLine s :: (pieces '\n' s).tail := by
  rw [pieces, splitBy_newline]
  rfl

theorem firstLine_eq_self {s : String} (h : OneLine s) : firstLine s = s := by
  have hpieces := pieces_eq_cons s
  rw [pieces_eq_singleton h] at hpieces
  exact (List.cons.inj hpieces).1.symm

theorem pieces_append_of_oneLine {s : String} (h : OneLine s) (t : String) :
    pieces '\n' (s ++ t) = (s ++ firstLine t) :: (pieces '\n' t).tail := by
  have hsplit (cs ds : List Char) (hcs : '\n' ∉ cs) : splitBy (· = '\n') (cs ++ ds) =
      (cs ++ ds.takeWhile (· ≠ '\n')) :: (splitBy (· = '\n') ds).tail := by
    induction cs with
    | nil => exact splitBy_newline ds
    | cons c cs ih =>
      rw [List.mem_cons, not_or] at hcs
      rw [List.cons_append, splitBy, if_neg (by simpa using Ne.symm hcs.1), ih hcs.2]
      rfl
  rw [pieces, String.toList_append, hsplit _ _ h]
  simp [firstLine, pieces]

theorem mem_of_mem_trimChars {cs : List Char} {c : Char} (h : c ∈ trimChars cs) : c ∈ cs := by
  have hr := (List.dropWhile_sublist isBlank).subset (List.mem_reverse.mp h)
  exact (List.dropWhile_sublist isBlank).subset (List.mem_reverse.mp hr)

theorem mem_intercalate_singleton {d c : Char} {ls : List (List Char)}
    (h : c ∈ [d].intercalate ls) : c = d ∨ ∃ l ∈ ls, c ∈ l := by
  induction ls with
  | nil => simp at h
  | cons l ls ih =>
    by_cases hls : ls = []
    · subst hls
      exact .inr ⟨l, List.mem_cons_self, by simpa using h⟩
    · rw [List.intercalate_cons_of_ne_nil hls, List.mem_append, List.mem_append] at h
      rcases h with (h | h) | h
      · exact .inr ⟨l, List.mem_cons_self, h⟩
      · exact .inl (List.mem_singleton.mp h)
      · exact (ih h).imp_right fun ⟨l', hl', hc⟩ => ⟨l', List.mem_cons_of_mem l hl', hc⟩

@[simp] theorem oneLine_singleLine (s : String) : OneLine (singleLine s) := by
  intro h
  rw [singleLine, String.toList_ofList, singleLineChars] at h
  rcases mem_intercalate_singleton h with h | ⟨l, hl, hc⟩
  · exact absurd h (by decide)
  · obtain ⟨piece, hp, rfl⟩ := List.mem_map.mp (List.mem_filter.mp hl).1
    have hcut := not_cut_of_mem_splitBy hp (mem_of_mem_trimChars hc)
    simp at hcut

def solid (cs : List Char) : List Char := cs.filter fun c => !isBlank c

theorem solid_append (cs ds : List Char) : solid (cs ++ ds) = solid cs ++ solid ds :=
  List.filter_append cs ds

theorem solid_dropWhile (cs : List Char) : solid (cs.dropWhile isBlank) = solid cs := by
  induction cs with
  | nil => rfl
  | cons c cs ih =>
    cases hc : isBlank c with
    | true => simpa [solid, hc] using ih
    | false => simp [hc]

theorem solid_trimChars (cs : List Char) : solid (trimChars cs) = solid cs := by
  have hreverse (ds : List Char) : solid ds.reverse = (solid ds).reverse := List.filter_reverse ..
  rw [trimChars, hreverse, solid_dropWhile, hreverse, List.reverse_reverse, solid_dropWhile]

theorem solid_intercalate (ls : List (List Char)) :
    solid ([' '].intercalate ls) = solid ls.flatten := by
  have hspace : solid [' '] = [] := by decide
  induction ls with
  | nil => rfl
  | cons l ls ih =>
    by_cases hls : ls = []
    · simp [hls]
    · rw [List.intercalate_cons_of_ne_nil hls, solid_append, solid_append, hspace, ih,
        List.flatten_cons, solid_append, List.append_nil]

theorem solid_flatten_splitBy (cs : List Char) :
    solid (splitBy (· = '\n') cs).flatten = solid cs := by
  rw [flatten_splitBy, solid, List.filter_filter, solid]
  refine List.filter_congr fun c _ => ?_
  by_cases hc : c = '\n'
  · subst hc
    rfl
  · simp [hc]

theorem solid_flatten_filledLines (cs : List Char) : solid (filledLines cs).flatten = solid cs := by
  have hlines (ls : List (List Char)) :
      solid ((ls.map trimChars).filter (· ≠ [])).flatten = solid ls.flatten := by
    rw [show (fun l : List Char => decide (l ≠ [])) = fun l => !l.isEmpty by
      funext l; cases l <;> rfl, List.flatten_filter_not_isEmpty]
    induction ls with
    | nil => rfl
    | cons l ls ih =>
      rw [List.map_cons, List.flatten_cons, solid_append, solid_trimChars, ih, List.flatten_cons,
        solid_append]
  rw [filledLines, hlines, solid_flatten_splitBy]

/-- Folding takes away and puts in white space, and nothing else. -/
theorem solid_singleLineChars (cs : List Char) : solid (singleLineChars cs) = solid cs := by
  rw [singleLineChars, solid_intercalate, solid_flatten_filledLines]

theorem mem_doubleChars_iff {d c : Char} {cs : List Char} : c ∈ doubleChars d cs ↔ c ∈ cs := by
  induction cs with
  | nil => simp [doubleChars]
  | cons e cs ih =>
    by_cases he : e = d
    · simp [doubleChars, he, ih]
    · simp [doubleChars, he, ih]

theorem count_singleLine {d : Char} (hd : isBlank d = false) (s : String) :
    (singleLine s).toList.count d = s.toList.count d := by
  have hsolid (cs : List Char) : (solid cs).count d = cs.count d := List.count_filter (by simp [hd])
  rw [singleLine, String.toList_ofList, ← hsolid, solid_singleLineChars, hsolid]

theorem blank_of_firstLine {s l : String} (h : firstLine s = singleLine s)
    (hl : l ∈ (pieces '\n' s).tail) : Blank l := by
  have hfirst : solid (s.toList.takeWhile (· ≠ '\n')) = solid s.toList := by
    rw [← solid_singleLineChars s.toList]
    exact congrArg solid (String.ofList_inj.mp h)
  have hrest : solid (splitBy (· = '\n') s.toList).tail.flatten = [] := by
    have hall := solid_flatten_splitBy s.toList
    rw [splitBy_newline, List.flatten_cons, solid_append, hfirst] at hall
    exact List.append_right_eq_self.mp hall
  rw [pieces, ← List.map_tail] at hl
  obtain ⟨cs, hcs, rfl⟩ := List.mem_map.mp hl
  intro c hc
  rw [String.toList_ofList] at hc
  simpa using List.filter_eq_nil_iff.mp hrest c (List.mem_flatten.mpr ⟨cs, hcs, hc⟩)

theorem nil_eq_doubleChars_iff {d : Char} {cs : List Char} : [] = doubleChars d cs ↔ cs = [] := by
  cases cs with
  | nil => simp [doubleChars]
  | cons c cs => by_cases hc : c = d <;> simp [doubleChars, hc]

theorem cons_eq_doubleChars_iff {d c : Char} (hc : c ≠ d) {cs ds : List Char} :
    c :: cs = doubleChars d ds ↔ ∃ ds', ds = c :: ds' ∧ cs = doubleChars d ds' := by
  cases ds with
  | nil => simp [doubleChars]
  | cons e ds =>
    by_cases he : e = d
    · simp [doubleChars, he, hc, Ne.symm hc]
    · simp [doubleChars, he, and_assoc, eq_comm]

theorem mark_cons_eq_doubleChars_iff {d : Char} {cs ds : List Char} :
    d :: cs = doubleChars d ds ↔
      ∃ cs' ds', cs = d :: cs' ∧ ds = d :: ds' ∧ cs' = doubleChars d ds' := by
  cases ds with
  | nil => simp [doubleChars]
  | cons e ds =>
    by_cases he : e = d
    · subst he
      simp [doubleChars]
    · simp [doubleChars, he, Ne.symm he]

theorem count_doubleChars (d : Char) (cs : List Char) :
    (doubleChars d cs).count d = 2 * cs.count d := by
  induction cs with
  | nil => rfl
  | cons c cs ih =>
    by_cases hc : c = d
    · simp only [doubleChars, hc, if_true, List.count_cons_self, ih]
      omega
    · simp [doubleChars, hc, ih]

theorem doubleChars_of_not_mem {d : Char} {cs : List Char} (h : d ∉ cs) : doubleChars d cs = cs := by
  induction cs with
  | nil => rfl
  | cons c cs ih =>
    rw [List.mem_cons, not_or] at h
    rw [doubleChars, if_neg (Ne.symm h.1), ih h.2]

theorem double_eq_self_iff {d : Char} {s : String} : double d s = s ↔ d ∉ s.toList := by
  constructor
  · intro h
    have hcount := count_doubleChars d s.toList
    rw [show doubleChars d s.toList = s.toList by rw [← String.toList_inj] at h; simpa [double] using h]
      at hcount
    exact List.count_eq_zero.mp (by omega)
  · intro h
    rw [double, doubleChars_of_not_mem h, String.ofList_toList]

@[simp] theorem oneLine_double {d : Char} {s : String} : OneLine (double d s) ↔ OneLine s := by
  simp [OneLine, double, mem_doubleChars_iff]

@[simp] theorem oneLine_camelCase (s : String) : OneLine (camelCase s) := by
  intro h
  rw [camelCase, String.toList_ofList] at h
  exact absurd (not_isSeparator_of_mem_camelCaseChars h) (by decide)

end FlutterInstaller.Text
