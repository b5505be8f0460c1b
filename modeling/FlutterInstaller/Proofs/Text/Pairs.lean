import FlutterInstaller.Proofs.Text.Lines

/-!
Texts in which a mark comes in pairs only. These are the doubled texts; each is the double of one text,
and of itself if it is free of the mark.
-/
namespace FlutterInstaller.Text

def Paired (d : Char) (s : String) : Prop := ∃ t, s = double d t

section Chars

variable {d : Char} {cs ds es : List Char}

theorem append_eq_doubleChars_iff (h : d ∉ cs) :
    cs ++ ds = doubleChars d es ↔ ∃ es', es = cs ++ es' ∧ ds = doubleChars d es' := by
  induction cs generalizing es with
  | nil => simp
  | cons c cs ih =>
    rw [List.mem_cons, not_or] at h
    rw [List.cons_append, cons_eq_doubleChars_iff (Ne.symm h.1)]
    simp only [ih h.2]
    constructor
    · rintro ⟨_, rfl, es', rfl, hds⟩
      exact ⟨es', rfl, hds⟩
    · rintro ⟨es', rfl, hds⟩
      exact ⟨_, rfl, es', rfl, hds⟩

theorem doubleChars_append (d : Char) (cs ds : List Char) :
    doubleChars d (cs ++ ds) = doubleChars d cs ++ doubleChars d ds := by
  induction cs with
  | nil => rfl
  | cons c cs ih => by_cases hc : c = d <;> simp [doubleChars, hc, ih]

theorem exists_doubleChars_of_append (h : d ∉ ds) (he : cs ++ ds = doubleChars d es) :
    ∃ es', cs = doubleChars d es' := by
  induction es generalizing cs with
  | nil => exact ⟨[], (List.append_eq_nil_iff.mp he).1⟩
  | cons e es ih =>
    by_cases hed : e = d
    · rw [doubleChars, if_pos hed] at he
      rcases cs with _ | ⟨c, _ | ⟨c', cs⟩⟩
      · obtain rfl : ds = _ := he
        exact absurd List.mem_cons_self h
      · obtain rfl : ds = _ := (List.cons.inj he).2
        exact absurd List.mem_cons_self h
      · obtain ⟨hc, he⟩ := List.cons.inj he
        obtain ⟨hc', he⟩ := List.cons.inj he
        obtain ⟨es', hes'⟩ := ih he
        exact ⟨d :: es', by rw [doubleChars, if_pos rfl, ← hes', hc, hc']⟩
    · rw [doubleChars, if_neg hed] at he
      rcases cs with _ | ⟨c, cs⟩
      · exact ⟨[], rfl⟩
      · obtain ⟨hc, he⟩ := List.cons.inj he
        obtain ⟨es', hes'⟩ := ih he
        exact ⟨e :: es', by rw [doubleChars, if_neg hed, ← hes', hc]⟩

theorem length_doubleChars (d : Char) (cs : List Char) :
    (doubleChars d cs).length = cs.length + cs.count d := by
  induction cs with
  | nil => rfl
  | cons c cs ih =>
    by_cases hc : c = d
    · simp only [doubleChars, hc, if_true, List.length_cons, List.count_cons_self, ih]
      omega
    · simp only [doubleChars, hc, if_false, List.length_cons, ih, List.count_cons_of_ne hc]
      omega

end Chars

variable {d e : Char} {s t : String}

theorem eq_double_iff_of_not_mem (h : d ∉ s.toList) : s = double d t ↔ t = s := by
  have hs : double d s = s := double_eq_self_iff.mpr h
  constructor
  · intro heq
    rw [← hs, double, double, String.ofList_inj] at heq
    exact (String.toList_inj.mp (doubleChars_injective d heq)).symm
  · rintro rfl
    exact hs.symm

theorem paired_of_not_mem (h : d ∉ s.toList) : Paired d s :=
  ⟨s, (eq_double_iff_of_not_mem h).mpr rfl⟩

theorem Paired.two_dvd_count (h : Paired d s) : 2 ∣ s.toList.count d := by
  obtain ⟨t, rfl⟩ := h
  rw [double, String.toList_ofList, count_doubleChars]
  exact Nat.dvd_mul_right 2 _

theorem paired_append_iff (h : d ∉ t.toList) : Paired d (s ++ t) ↔ Paired d s := by
  constructor
  · rintro ⟨u, hu⟩
    rw [← String.toList_inj, String.toList_append, double, String.toList_ofList] at hu
    obtain ⟨es, hes⟩ := exists_doubleChars_of_append h hu
    exact ⟨String.ofList es, by rw [double, String.toList_ofList, ← hes, String.ofList_toList]⟩
  · rintro ⟨u, rfl⟩
    refine ⟨u ++ t, ?_⟩
    rw [double, double, String.toList_append, doubleChars_append, doubleChars_of_not_mem h,
      String.ofList_append, String.ofList_toList]

theorem eq_double_double_iff : s = double d (double e s) ↔ d ∉ s.toList ∧ e ∉ s.toList := by
  constructor
  · intro h
    have hlength : s.toList.length = (double d (double e s)).toList.length := by rw [← h]
    simp only [double, String.toList_ofList, length_doubleChars] at hlength
    have hcount : (doubleChars e s.toList).count d = 0 ∧ s.toList.count e = 0 := by omega
    rw [List.count_eq_zero, List.count_eq_zero, mem_doubleChars_iff] at hcount
    exact hcount
  · rintro ⟨hd, he⟩
    rw [double_eq_self_iff.mpr he, double_eq_self_iff.mpr hd]

end FlutterInstaller.Text
