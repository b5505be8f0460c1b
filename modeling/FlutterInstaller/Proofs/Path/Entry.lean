import FlutterInstaller.Proofs.FileSystem.Walk
import FlutterInstaller.Proofs.Path.Lineage

/-!
Paths of entries in a directory. A path that is joined from a directory's path and a proper name leads
to that name in the directory, and the path above it leads back to the directory.
-/
namespace FlutterInstaller.Path

variable {base n p q : String}

theorem isAbsolute_of_isName (hn : IsName n) : isAbsolute n = false :=
  congrArg Prod.fst (route_of_no_slash hn.2.2.2)

theorem names_of_isName (hn : IsName n) : names n = [n] := by
  have hroute := route_of_no_slash hn.2.2.2
  rw [List.filter_cons_of_pos (leads_iff.mpr ⟨hn.1, hn.2.1⟩), List.filter_nil] at hroute
  exact congrArg Prod.snd hroute

theorem straight_of_isName (hn : IsName n) : Straight n := by
  rw [Straight, names_of_isName hn, List.mem_singleton]
  exact Ne.symm hn.2.2.1

theorem straight_join (hp : isAbsolute p = false) (hbase : Straight base) (hs : Straight p) :
    Straight (join base p) := by
  rw [Straight, names_join hp, List.mem_append, not_or]
  exact ⟨hbase, hs⟩

theorem straight_entry (hbase : Straight base) (hn : IsName n) : Straight (join base n) :=
  straight_join (isAbsolute_of_isName hn) hbase (straight_of_isName hn)

theorem locate_entry (hbase : Straight base) (hn : IsName n) (w : Location) :
    locate w (join base n) = locate w base ++ [n] := by
  rw [locate_join (isAbsolute_of_isName hn) hbase (straight_of_isName hn), names_of_isName hn]

theorem clean_entry (hn : IsName n) : Clean (join base n) ↔ Clean base := by
  have hpieces : pieces n = [n] := Text.pieces_eq_singleton hn.2.2.2
  refine clean_join (isAbsolute_of_isName hn) ?_ ?_
  · simpa [hpieces] using Ne.symm hn.2.1
  · simpa [hpieces] using Ne.symm hn.2.2.1

theorem intercalate_concat {sep : String} {ls : List String} (h : ls ≠ []) (s : String) :
    sep.intercalate (ls ++ [s]) = sep.intercalate ls ++ sep ++ s := by
  induction ls with
  | nil => exact absurd rfl h
  | cons l ls ih =>
    by_cases hls : ls = []
    · simp [hls]
    · rw [List.cons_append, String.intercalate_cons_of_ne_nil (by simp), ih hls,
        String.intercalate_cons_of_ne_nil hls]
      simp only [String.append_assoc]

theorem join_text {l : Location} (hl : ∀ m ∈ l, IsName m) (hn : IsName n) :
    join (text l) n = text (l ++ [n]) := by
  rw [join, if_neg (by simp [isAbsolute_of_isName hn])]
  by_cases hne : l = []
  · subst hne
    rw [if_pos (by decide)]
    simp [text]
  · have hend : ¬ (text l).toList.getLast?.all (· = '/') = true := by
      intro hend
      rcases ends_in_slash_or hend with hempty | ⟨s, hs⟩
      · exact absurd (congrArg String.toList hempty) (by simp [text])
      · have hpieces := pieces_text hl
        rw [hs, if_neg hne, ← String.append_empty (s := s ++ "/"), pieces,
          Text.pieces_append rfl] at hpieces
        have hlast : l.getLast? = some "" := by
          rw [← List.getLast?_cons_of_ne_nil (x := "") hne, ← hpieces,
            show Text.pieces '/' "" = [""] by decide, List.getLast?_concat]
        exact (hl "" (List.mem_of_getLast? hlast)).1 rfl
    rw [if_neg hend, text, text, intercalate_concat hne]
    simp only [String.append_assoc]

theorem exists_append_of_join (base n : String) : ∃ s, join base n = s ++ n := by
  unfold join
  split
  · exact ⟨"", (String.empty_append).symm⟩
  · split
    · exact ⟨base, rfl⟩
    · exact ⟨base ++ "/", rfl⟩

theorem trimmed_entry (base : String) (hn : IsName n) : Trimmed (join base n) := by
  obtain ⟨s, hs⟩ := exists_append_of_join base n
  have hne : n.toList ≠ [] := fun h => hn.1 (String.toList_inj.mp h)
  rw [hs]
  refine .inl ?_
  rw [String.toList_append, List.getLast?_append_of_ne_nil _ hne]
  exact fun h => hn.2.2.2 (List.mem_of_getLast? h)

theorem exists_pieces_join (base : String) (hn : IsName n) :
    ∃ ps, pieces (join base n) = ps ++ [n] := by
  have hpieces : pieces n = [n] := Text.pieces_eq_singleton hn.2.2.2
  rw [join, if_neg (by simp [isAbsolute_of_isName hn])]
  split
  · next hend =>
    rcases ends_in_slash_or hend with rfl | ⟨s, rfl⟩
    · rw [String.empty_append, hpieces]
      exact ⟨[], rfl⟩
    · rw [pieces, Text.pieces_append rfl]
      exact ⟨pieces s, by rw [← hpieces]; rfl⟩
  · rw [pieces, Text.pieces_append rfl]
    exact ⟨pieces base, by rw [← hpieces]; rfl⟩

theorem endsInName_entry (base : String) (hn : IsName n) :
    FileSystem.EndsInName (pieces (join base n)) := by
  obtain ⟨ps, hps⟩ := exists_pieces_join base hn
  exact ⟨ps, n, hps, leads_iff.mpr ⟨hn.1, hn.2.1⟩⟩

theorem locate_parent? (hs : Straight p) (hne : names p ≠ []) (hq : parent? p = some q)
    (w : Location) : Straight q ∧ locate w q = (locate w p).dropLast := by
  have hroute := route_parent? hq
  have habs : isAbsolute q = isAbsolute p := congrArg Prod.fst hroute
  have hnames : names q = (names p).dropLast := congrArg Prod.snd hroute
  have hsq : Straight q := fun hup => hs (List.dropLast_subset _ (hnames ▸ hup))
  refine ⟨hsq, ?_⟩
  rw [locate_of_straight hsq, locate_of_straight hs, habs, hnames, List.dropLast_append_of_ne_nil hne]

theorem exists_parent? (hne : names p ≠ []) : ∃ q, parent? p = some q := by
  cases hq : parent? p with
  | none => exact absurd (names_of_parent?_eq_none hq) hne
  | some q => exact ⟨q, rfl⟩

theorem reverse_ne_nil_of_isName (hn : IsName n) : n.toList.reverse ≠ [] := by
  simpa using hn.1

theorem stripEnd_name (hn : IsName n) (cs : List Char) :
    stripEnd (n.toList.reverse ++ cs) = n.toList.reverse ++ cs := by
  obtain ⟨c, ds, hc⟩ := List.exists_cons_of_ne_nil (reverse_ne_nil_of_isName hn)
  have hslash : '/' ∉ c :: ds := by
    rw [← hc, List.mem_reverse]
    exact hn.2.2.2
  rw [hc, List.cons_append]
  unfold stripEnd
  split
  · next h =>
    obtain ⟨rfl, -⟩ := List.cons.inj h
    simp at hslash
  · next h =>
    obtain ⟨rfl, hrest⟩ := List.cons.inj h
    cases ds with
    | nil =>
      have hdot : n = "." := by
        rw [← String.ofList_toList (s := n), ← List.reverse_reverse n.toList, hc]
        rfl
      exact absurd hdot hn.2.1
    | cons d ds =>
      obtain ⟨rfl, -⟩ := List.cons.inj hrest
      simp at hslash
  · rfl

theorem join_entry (hn : IsName n) {m : String} (hm : IsName m) :
    join (join base n) m = join base n ++ "/" ++ m := by
  obtain ⟨s, hs⟩ := exists_append_of_join base n
  have hne : n.toList ≠ [] := fun h => hn.1 (String.toList_inj.mp h)
  have hend : ¬ (join base n).toList.getLast?.all (· = '/') = true := by
    rw [hs, String.toList_append, List.getLast?_append_of_ne_nil _ hne,
      List.getLast?_eq_some_getLast hne]
    intro h
    have hlast := List.getLast_mem hne
    rw [show n.toList.getLast hne = '/' by simpa using h] at hlast
    exact hn.2.2.2 hlast
  rw [join, if_neg (by simp [isAbsolute_of_isName hm]), if_neg hend]

theorem parent?_join (hn : IsName n) {m : String} (hm : IsName m) :
    parent? (join (join base n) m) = some (join base n) := by
  obtain ⟨s, hs⟩ := exists_append_of_join base n
  have hreverse : (join (join base n) m).toList.reverse =
      m.toList.reverse ++ '/' :: (n.toList.reverse ++ s.toList.reverse) := by
    rw [join_entry hn hm, hs]
    simp
  have hrest : (m.toList.reverse ++ '/' :: (n.toList.reverse ++ s.toList.reverse)).dropWhile
      (· ≠ '/') = '/' :: (n.toList.reverse ++ s.toList.reverse) := by
    rw [List.dropWhile_append_of_pos]
    · simp
    · intro c hc
      have hne : c ≠ '/' := fun h => hm.2.2.2 (h ▸ List.mem_reverse.mp hc)
      simpa using hne
  obtain ⟨c, ds, hc⟩ := List.exists_cons_of_ne_nil (reverse_ne_nil_of_isName hn)
  have hslash : stripEnd ('/' :: (n.toList.reverse ++ s.toList.reverse)) =
      n.toList.reverse ++ s.toList.reverse := by
    rw [hc, List.cons_append, stripEnd, ← List.cons_append, ← hc, stripEnd_name hn]
  unfold parent?
  rw [hreverse, stripEnd_name hm]
  split
  · next h => simp at h
  · next h =>
    have hlength := congrArg List.length h
    have hne : m.toList.length ≠ 0 := by simpa using hm.1
    simp only [List.length_append, List.length_reverse, List.length_cons, List.length_nil] at hlength
    omega
  · dsimp only
    rw [hrest, hslash, hs]
    simp

end FlutterInstaller.Path
