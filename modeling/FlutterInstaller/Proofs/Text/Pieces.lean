import FlutterInstaller.Text.Split

/-!
Pieces of texts. No piece holds a character that cuts; texts that are joined by the mark fall apart
into the pieces of each, so joining texts that do not hold the mark loses nothing.
-/
namespace FlutterInstaller.Text

theorem splitBy_eq_singleton {cut : Char → Bool} {cs : List Char} (h : ∀ c ∈ cs, cut c = false) :
    splitBy cut cs = [cs] := by
  induction cs with
  | nil => rfl
  | cons c cs ih =>
    obtain ⟨hc, hcs⟩ := List.forall_mem_cons.mp h
    simp [splitBy, hc, ih hcs]

theorem length_splitBy (cut : Char → Bool) (cs : List Char) :
    (splitBy cut cs).length = cs.countP cut + 1 := by
  induction cs with
  | nil => rfl
  | cons c cs ih =>
    by_cases hc : cut c = true
    · simp [splitBy, hc, ih]
    · obtain ⟨piece, pieces, h⟩ := List.exists_cons_of_ne_nil (splitBy_ne_nil cut cs)
      simp only [h, List.length_cons] at ih
      simp [splitBy, hc, h, ih]

theorem not_cut_of_mem_splitBy {cut : Char → Bool} {cs piece : List Char} {c : Char}
    (hp : piece ∈ splitBy cut cs) (hc : c ∈ piece) : cut c = false := by
  have hf : c ∈ (splitBy cut cs).flatten := List.mem_flatten.mpr ⟨piece, hp, hc⟩
  rw [flatten_splitBy, List.mem_filter] at hf
  simpa using hf.2

theorem exists_mem_splitBy_ne_nil_iff {cut : Char → Bool} {cs : List Char} :
    (∃ piece ∈ splitBy cut cs, piece ≠ []) ↔ ∃ c ∈ cs, cut c = false := by
  constructor
  · rintro ⟨piece, hp, hne⟩
    obtain ⟨c, hc⟩ := List.exists_mem_of_ne_nil piece hne
    have hf : c ∈ (splitBy cut cs).flatten := List.mem_flatten.mpr ⟨piece, hp, hc⟩
    rw [flatten_splitBy, List.mem_filter] at hf
    exact ⟨c, hf.1, by simpa using hf.2⟩
  · rintro ⟨c, hc, hcut⟩
    have hf : c ∈ (splitBy cut cs).flatten := by
      rw [flatten_splitBy, List.mem_filter]
      exact ⟨hc, by simp [hcut]⟩
    obtain ⟨piece, hp, hcp⟩ := List.mem_flatten.mp hf
    exact ⟨piece, hp, List.ne_nil_of_mem hcp⟩

section Pieces

variable {mark : Char} {sep : String}

theorem pieces_eq_singleton {s : String} (h : mark ∉ s.toList) : pieces mark s = [s] := by
  have hs : splitBy (· = mark) s.toList = [s.toList] :=
    splitBy_eq_singleton fun c hc => decide_eq_false fun he => h (he ▸ hc)
  simp [pieces, hs]

theorem not_mem_of_mem_pieces {s piece : String} (h : piece ∈ pieces mark s) :
    mark ∉ piece.toList := by
  obtain ⟨cs, hcs, rfl⟩ := List.mem_map.mp h
  intro hmark
  have hcut := not_cut_of_mem_splitBy hcs (by simpa using hmark)
  simp at hcut

theorem length_pieces (mark : Char) (s : String) :
    (pieces mark s).length = s.toList.count mark + 1 := by
  rw [pieces, List.length_map, length_splitBy, List.count]
  congr 2

theorem pieces_append (hsep : sep.toList = [mark]) (s t : String) :
    pieces mark (s ++ sep ++ t) = pieces mark s ++ pieces mark t := by
  have hs : (s ++ sep ++ t).toList = s.toList ++ mark :: t.toList := by simp [hsep]
  rw [pieces, hs, splitBy_append_cons (by simp), List.map_append]
  rfl

theorem pieces_intercalate (hsep : sep.toList = [mark]) {ls : List String} (h : ls ≠ []) :
    pieces mark (sep.intercalate ls) = ls.flatMap (pieces mark) := by
  induction ls with
  | nil => exact absurd rfl h
  | cons l ls ih =>
    by_cases hls : ls = []
    · simp [hls]
    · rw [String.intercalate_cons_of_ne_nil hls, pieces_append hsep, ih hls, List.flatMap_cons]

theorem flatMap_pieces {ls : List String} (h : ∀ l ∈ ls, mark ∉ l.toList) :
    ls.flatMap (pieces mark) = ls := by
  induction ls with
  | nil => rfl
  | cons l ls ih =>
    obtain ⟨hl, hls⟩ := List.forall_mem_cons.mp h
    rw [List.flatMap_cons, pieces_eq_singleton hl, ih hls, List.singleton_append]

end Pieces

end FlutterInstaller.Text
