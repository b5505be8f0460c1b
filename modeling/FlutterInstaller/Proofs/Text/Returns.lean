import FlutterInstaller.Proofs.Text.Lines

/-!
Readers that end a line at a carriage return as well. Folding cuts a text at its line breaks only and
trims what it gets, so a return that stands between other characters of a line stays, and such a reader
takes the folded text for several lines.
-/
namespace FlutterInstaller.Text

def endsLine (c : Char) : Bool := c = '\n' || c = '\r'

/-- The lines of a text for a reader that ends one at each line break and at each return. -/
def readerLines (s : String) : List String := (splitBy endsLine s.toList).map String.ofList

theorem readerLines_eq_singleton_iff {s : String} :
    readerLines s = [s] ↔ OneLine s ∧ '\r' ∉ s.toList := by
  have hends : (∀ c ∈ s.toList, endsLine c = false) ↔ OneLine s ∧ '\r' ∉ s.toList := by
    simp only [endsLine, OneLine, Bool.or_eq_false_iff, decide_eq_false_iff_not]
    exact ⟨fun h => ⟨fun hc => (h _ hc).1 rfl, fun hc => (h _ hc).2 rfl⟩,
      fun h c hc => ⟨fun he => h.1 (he ▸ hc), fun he => h.2 (he ▸ hc)⟩⟩
  rw [← hends, readerLines]
  constructor
  · intro h
    have hlength := congrArg List.length h
    rw [List.length_map, length_splitBy, List.length_singleton] at hlength
    have hcount : s.toList.countP endsLine = 0 := by omega
    simpa using hcount
  · intro h
    rw [splitBy_eq_singleton h, List.map_singleton, String.ofList_toList]

theorem exists_solid_of_dropWhile {cs before after : List Char} {c : Char} (hc : isBlank c = true)
    (h : cs.dropWhile isBlank = before ++ c :: after) : ∃ x ∈ before, isBlank x = false := by
  have hhead := List.head?_dropWhile_not isBlank cs
  rw [h] at hhead
  cases before with
  | nil => simp [hc] at hhead
  | cons x before => exact ⟨x, List.mem_cons_self, by simpa using hhead⟩

theorem dropWhile_append_of_solid {cs : List Char} (h : ∃ x ∈ cs, isBlank x = false)
    (ds : List Char) : (cs ++ ds).dropWhile isBlank = cs.dropWhile isBlank ++ ds := by
  induction cs with
  | nil => simp at h
  | cons c cs ih =>
    cases hc : isBlank c with
    | true =>
      have hcs : ∃ x ∈ cs, isBlank x = false := by simpa [hc] using h
      simpa [hc] using ih hcs
    | false => simp [hc]

theorem mem_trimChars_iff {cs : List Char} {c : Char} (hc : isBlank c = true) :
    c ∈ trimChars cs ↔ ∃ before after, cs = before ++ c :: after ∧
      (∃ x ∈ before, isBlank x = false) ∧ ∃ x ∈ after, isBlank x = false := by
  rw [trimChars, List.mem_reverse]
  constructor
  · intro h
    obtain ⟨after, before, hsplit⟩ := List.append_of_mem h
    have hafter := exists_solid_of_dropWhile hc hsplit
    obtain ⟨ending, hending⟩ := List.dropWhile_suffix isBlank (l := (cs.dropWhile isBlank).reverse)
    obtain ⟨start, hstart⟩ := List.dropWhile_suffix isBlank (l := cs)
    have hrest : cs.dropWhile isBlank = before.reverse ++ c :: (after.reverse ++ ending.reverse) := by
      rw [← List.reverse_reverse (cs.dropWhile isBlank), ← hending, hsplit]
      simp
    obtain ⟨x, hx, hsolid⟩ := exists_solid_of_dropWhile hc hrest
    refine ⟨start ++ before.reverse, after.reverse ++ ending.reverse, ?_,
      ⟨x, List.mem_append_right _ hx, hsolid⟩, ?_⟩
    · rw [← hstart, hrest]
      simp
    · obtain ⟨y, hy, hsolid⟩ := hafter
      exact ⟨y, List.mem_append_left _ (List.mem_reverse.mpr hy), hsolid⟩
  · rintro ⟨before, after, rfl, hbefore, hafter⟩
    have hafter' : ∃ x ∈ after.reverse, isBlank x = false := by simpa using hafter
    rw [dropWhile_append_of_solid hbefore, List.reverse_append, List.reverse_cons,
      List.append_assoc, dropWhile_append_of_solid hafter']
    simp

/-- A text in which a return stands between other characters of a line. -/
def HoldsReturn (s : String) : Prop :=
  ∃ l ∈ pieces '\n' s, ∃ before after, l = before ++ "\r" ++ after ∧ ¬ Blank before ∧ ¬ Blank after

theorem mem_intercalate_singleton_iff {d c : Char} (hne : c ≠ d) {ls : List (List Char)} :
    c ∈ [d].intercalate ls ↔ ∃ l ∈ ls, c ∈ l := by
  refine ⟨fun h => (mem_intercalate_singleton h).resolve_left hne, ?_⟩
  rintro ⟨l, hl, hc⟩
  induction ls with
  | nil => cases hl
  | cons k ls ih =>
    by_cases hls : ls = []
    · subst hls
      simpa [List.mem_singleton.mp hl] using hc
    · rw [List.intercalate_cons_of_ne_nil hls, List.mem_append, List.mem_append]
      rcases List.mem_cons.mp hl with rfl | hl
      · exact .inl (.inl hc)
      · exact .inr (ih hl)

theorem return_mem_singleLine_iff {s : String} : '\r' ∈ (singleLine s).toList ↔ HoldsReturn s := by
  have hblank : isBlank '\r' = true := by decide
  have hsolid (t : String) : ¬ Blank t ↔ ∃ x ∈ t.toList, isBlank x = false := by simp [Blank]
  rw [singleLine, String.toList_ofList, singleLineChars, mem_intercalate_singleton_iff (by decide)]
  constructor
  · rintro ⟨l, hl, hc⟩
    obtain ⟨cs, hcs, rfl⟩ := List.mem_map.mp (List.mem_filter.mp hl).1
    obtain ⟨before, after, rfl, hbefore, hafter⟩ := (mem_trimChars_iff hblank).mp hc
    refine ⟨_, List.mem_map_of_mem hcs, String.ofList before, String.ofList after, ?_, ?_, ?_⟩
    · rw [← String.toList_inj]
      simp
    · simpa [hsolid] using hbefore
    · simpa [hsolid] using hafter
  · rintro ⟨l, hl, before, after, rfl, hbefore, hafter⟩
    obtain ⟨cs, hcs, heq⟩ := List.mem_map.mp hl
    have hchars : cs = before.toList ++ '\r' :: after.toList := by
      rw [← String.toList_ofList (l := cs), heq]
      simp
    have hmem : '\r' ∈ trimChars cs := (mem_trimChars_iff hblank).mpr
      ⟨before.toList, after.toList, hchars, (hsolid _).mp hbefore, (hsolid _).mp hafter⟩
    exact ⟨_, List.mem_filter.mpr ⟨List.mem_map_of_mem hcs,
      decide_eq_true (List.ne_nil_of_mem hmem)⟩, hmem⟩

theorem return_mem_double_iff {d : Char} {s : String} :
    '\r' ∈ (double d s).toList ↔ '\r' ∈ s.toList := by
  rw [double, String.toList_ofList, mem_doubleChars_iff]

end FlutterInstaller.Text
