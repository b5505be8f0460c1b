import FlutterInstaller.Proofs.Path.Names

/-!
The paths above a path. The path of the directory that a path lies in goes through the same names but
the last, and has no slash at its end.
-/
namespace FlutterInstaller.Path

/-- A path that does not end in a slash, unless it is the root. -/
def Trimmed (p : String) : Prop := p.toList.getLast? ≠ some '/' ∨ p = "/"

instance : DecidablePred Trimmed := fun p =>
  inferInstanceAs (Decidable (p.toList.getLast? ≠ some '/' ∨ p = "/"))

theorem withoutSlash_eq_self {p : String} (h : Trimmed p) : FileSystem.withoutSlash p = p := by
  unfold FileSystem.withoutSlash
  split
  · rfl
  · rcases h with h | rfl
    · rcases List.eq_nil_or_concat p.toList with hnil | ⟨cs, c, hc⟩
      · obtain rfl : p = "" := String.toList_inj.mp hnil
        decide
      · have hne : c ≠ '/' := by simpa [hc] using h
        have hp : p = String.ofList (cs ++ [c]) := String.toList_inj.mp (by simpa using hc)
        simp [hp, hne]
    · decide

theorem names_dot : names "." = [] := by decide

theorem route_snoc_slash {cs : List Char} (hcs : cs ≠ []) :
    route (String.ofList (cs ++ ['/'])) = route (String.ofList cs) := by
  have hs : String.ofList (cs ++ ['/']) = String.ofList cs ++ "/" := by simp [String.ofList_append]
  have hne : String.ofList cs ≠ "" := by simpa using hcs
  rw [route, route, hs, names_slash_end, isAbsolute_append hne]

theorem route_snoc_dot (cs : List Char) :
    route (String.ofList (cs ++ ['/', '.'])) = route (String.ofList (cs ++ ['/'])) := by
  have hs : String.ofList (cs ++ ['/', '.']) = String.ofList cs ++ "/" ++ "." :=
    String.toList_inj.mp (by simp)
  have ht : String.ofList (cs ++ ['/']) = String.ofList cs ++ "/" := by simp [String.ofList_append]
  have hne : String.ofList cs ++ "/" ≠ "" := by simp
  rw [route, route, hs, ht, isAbsolute_append hne, names_append_slash, names_dot, names_slash_end,
    List.append_nil]

theorem route_stripEnd (cs : List Char) :
    route (String.ofList (stripEnd cs).reverse) = route (String.ofList cs.reverse) := by
  fun_induction stripEnd cs with
  | case1 c cs ih =>
    rw [ih, List.reverse_cons (a := '/'), route_snoc_slash (by simp)]
  | case2 cs ih =>
    have hdot := route_snoc_dot cs.reverse
    rw [ih, List.reverse_cons, ← hdot]
    simp
  | case3 cs _ _ => rfl

theorem stripEnd_cases (cs : List Char) :
    stripEnd cs = ['/'] ∨ (stripEnd cs).head? ≠ some '/' ∧ ∀ ds, stripEnd cs ≠ '.' :: '/' :: ds := by
  fun_induction stripEnd cs with
  | case1 c cs ih => exact ih
  | case2 cs ih => exact ih
  | case3 cs hslash hdot =>
    refine .imp_right (fun h => ⟨h, hdot⟩) ?_
    cases cs with
    | nil => simp
    | cons c cs =>
      cases cs with
      | nil => simp [or_iff_not_imp_right]
      | cons d cs => exact .inr fun h => hslash d cs (by simpa using h)

theorem mem_stripEnd {c : Char} {cs : List Char} (h : c ∈ cs) :
    c ∈ stripEnd cs ∨ c = '/' ∨ c = '.' := by
  fun_induction stripEnd cs with
  | case1 d cs ih =>
    rcases List.mem_cons.mp h with rfl | h
    · exact .inr (.inl rfl)
    · exact ih h
  | case2 cs ih =>
    rcases List.mem_cons.mp h with rfl | h
    · exact .inr (.inr rfl)
    · exact ih h
  | case3 cs _ _ => exact .inl h

theorem mem_of_parent?_eq_none {p : String} (h : parent? p = none) {c : Char} (hc : c ∈ p.toList) :
    c = '/' ∨ c = '.' := by
  have hmem := mem_stripEnd (List.mem_reverse.mpr hc)
  unfold parent? at h
  split at h
  · next hnil =>
    rw [hnil] at hmem
    simpa using hmem
  · next hroot =>
    rw [hroot] at hmem
    simpa using hmem
  · cases h

theorem names_of_parent?_eq_none {p : String} (h : parent? p = none) : names p = [] := by
  have hroute := route_stripEnd p.toList.reverse
  rw [List.reverse_reverse, String.ofList_toList] at hroute
  have hnames := congrArg Prod.snd hroute
  unfold parent? at h
  split at h
  · next he =>
    rw [he] at hnames
    exact hnames.symm.trans (by decide)
  · next he =>
    rw [he] at hnames
    exact hnames.symm.trans (by decide)
  · simp at h

theorem route_of_no_slash {p : String} (h : '/' ∉ p.toList) :
    route p = (false, [p].filter leads) := by
  have habs : isAbsolute p = false := by
    rw [isAbsolute, beq_eq_false_iff_ne]
    exact fun hhead => h (List.mem_of_mem_head? (Option.mem_def.mpr hhead))
  rw [route, habs, names, pieces, Text.pieces_eq_singleton h]

theorem exists_append_dropWhile (cs : List Char) :
    ∃ last, '/' ∉ last ∧ cs = last ++ cs.dropWhile (· ≠ '/') ∧
      (cs.dropWhile (· ≠ '/') = [] ∨ ∃ rest, cs.dropWhile (· ≠ '/') = '/' :: rest) := by
  induction cs with
  | nil => exact ⟨[], by simp, rfl, .inl rfl⟩
  | cons c cs ih =>
    by_cases hc : c = '/'
    · subst hc
      exact ⟨[], by simp, by simp, .inr ⟨cs, by simp⟩⟩
    · obtain ⟨last, hlast, hcs, hrest⟩ := ih
      have hdrop : (c :: cs).dropWhile (· ≠ '/') = cs.dropWhile (· ≠ '/') := by simp [hc]
      refine ⟨c :: last, by simp [hlast, Ne.symm hc], ?_, by rwa [hdrop]⟩
      rw [hdrop, List.cons_append, ← hcs]

theorem route_parent? {p q : String} (h : parent? p = some q) :
    route q = ((route p).1, (route p).2.dropLast) := by
  have hroute := route_stripEnd p.toList.reverse
  rw [List.reverse_reverse, String.ofList_toList] at hroute
  have hcases := stripEnd_cases p.toList.reverse
  unfold parent? at h
  generalize stripEnd p.toList.reverse = cs at h hroute hcases
  split at h
  · simp at h
  · simp at h
  · next hnil hroot =>
    cases h
    obtain ⟨hhead, hdot⟩ := hcases.resolve_left hroot
    obtain ⟨last, hlast, hcs, hrest | ⟨rest, hrest⟩⟩ := exists_append_dropWhile cs
    · rw [hrest, List.append_nil] at hcs
      subst hcs
      have hdrop : ([String.ofList cs.reverse].filter leads).dropLast = [] := by
        cases hl : leads (String.ofList cs.reverse) <;> simp [hl]
      have hp := route_of_no_slash (p := String.ofList cs.reverse) (by simpa using hlast)
      have hempty : route "" = (false, []) := by decide
      rw [hrest, ← hroute, hp, hdrop]
      exact hempty
    · rw [hrest] at hcs ⊢
      have hlead : leads (String.ofList last.reverse) = true := by
        refine leads_iff.mpr ⟨fun he => ?_, fun he => ?_⟩
        · have hempty : last = [] := by simpa using congrArg String.toList he
          simp [hcs, hempty] at hhead
        · have hsingle : last = ['.'] := by
            simpa [List.reverse_eq_iff] using congrArg String.toList he
          exact hdot rest (by simp [hcs, hsingle])
      have hp : String.ofList cs.reverse =
          String.ofList rest.reverse ++ "/" ++ String.ofList last.reverse :=
        String.toList_inj.mp (by simp [hcs])
      have hq : String.ofList ('/' :: rest).reverse = String.ofList rest.reverse ++ "/" :=
        String.toList_inj.mp (by simp)
      have hne : String.ofList rest.reverse ++ "/" ≠ "" := by simp
      have hend := route_of_no_slash (p := String.ofList last.reverse) (by simpa using hlast)
      have hname : names (String.ofList last.reverse) = [String.ofList last.reverse] := by
        have hnames := congrArg Prod.snd hend
        rwa [List.filter_cons_of_pos hlead, List.filter_nil] at hnames
      rw [route_stripEnd, ← hroute, hp, hq, route, route, isAbsolute_append hne, names_slash_end,
        names_append_slash, hname, List.dropLast_concat]

theorem trimmed_parent? {p q : String} (h : parent? p = some q) : Trimmed q := by
  unfold parent? at h
  split at h
  · simp at h
  · simp at h
  · cases h
    unfold Trimmed
    rcases stripEnd_cases ((stripEnd p.toList.reverse).dropWhile (· ≠ '/')) with he | ⟨he, _⟩
    · rw [he]
      exact .inr rfl
    · exact .inl (by simpa using he)

theorem stripEnd_suffix (cs : List Char) : stripEnd cs <:+ cs := by
  fun_induction stripEnd cs with
  | case1 c cs ih => exact ih.trans (List.suffix_cons _ _)
  | case2 cs ih => exact ih.trans (List.suffix_cons _ _)
  | case3 cs _ _ => exact List.suffix_rfl

theorem parent?_of_slashes {p : String} (h : ∀ c ∈ p.toList, c = '/') : parent? p = none := by
  unfold parent?
  rcases stripEnd_cases p.toList.reverse with hroot | ⟨hhead, -⟩
  · rw [hroot]
    rfl
  · cases hcs : stripEnd p.toList.reverse with
    | nil => rfl
    | cons c cs =>
      have hmem : c ∈ stripEnd p.toList.reverse := hcs ▸ List.mem_cons_self
      have hc := h c (List.mem_reverse.mp ((stripEnd_suffix _).mem hmem))
      rw [hcs, hc] at hhead
      exact absurd rfl hhead

theorem exists_append_of_parent? {p q : String} (h : parent? p = some q) : ∃ s, p = q ++ s := by
  unfold parent? at h
  split at h
  · simp at h
  · simp at h
  · cases h
    have hsuffix := ((stripEnd_suffix _).trans (List.dropWhile_suffix (· ≠ '/'))).trans
      (stripEnd_suffix p.toList.reverse)
    obtain ⟨t, ht⟩ := hsuffix
    refine ⟨String.ofList t.reverse, String.toList_inj.mp ?_⟩
    rw [String.toList_append, String.toList_ofList, String.toList_ofList, ← List.reverse_append, ht,
      List.reverse_reverse]

theorem mem_lineage {fuel : Nat} {p q : String} (h : q ∈ lineage fuel p) :
    isAbsolute q = isAbsolute p ∧ names q <+: names p ∧ (Trimmed p → Trimmed q) := by
  induction fuel generalizing p with
  | zero => simp [lineage] at h
  | succ fuel ih =>
    rw [lineage] at h
    split at h
    · simp at h
    · next above habove =>
      rcases List.mem_cons.mp h with rfl | h
      · exact ⟨rfl, List.prefix_rfl, id⟩
      · obtain ⟨habs, hprefix, htrimmed⟩ := ih h
        have hroute := route_parent? habove
        have habs' : isAbsolute above = isAbsolute p := congrArg Prod.fst hroute
        have hnames : names above = (names p).dropLast := congrArg Prod.snd hroute
        refine ⟨habs.trans habs', ?_, fun _ => htrimmed (trimmed_parent? habove)⟩
        exact (hnames ▸ hprefix).trans (List.dropLast_prefix (names p))

end FlutterInstaller.Path
