import FlutterInstaller.Proofs.FileSystem.Growth

/-!
Removing a directory with all below it. Nothing is left at its place or below, and nothing else
changes.
-/
namespace FlutterInstaller.FileSystem

open FlutterInstaller.Path

variable {fs gs : FileSystem} {w : Location} {p : String}

theorem before_last {init : List String} {n : String} (hp : pieces p = init ++ [n])
    (hn : leads n = true) :
    ((pieces p).filter (· ≠ "")).dropLast.filter (· ≠ ".") = init.filter leads ∧
      lastPiece? p = some n ∧ Path.names p = init.filter leads ++ [n] := by
  obtain ⟨hempty, hdot⟩ := leads_iff.mp hn
  have hleads : ∀ ns : List String, (ns.filter (· ≠ "")).filter (· ≠ ".") = ns.filter leads := by
    intro ns
    rw [List.filter_filter]
    congr 1
    funext m
    simp [leads, Bool.and_comm]
  refine ⟨?_, ?_, ?_⟩
  · rw [hp, List.filter_append, List.filter_cons_of_pos (by simpa using hempty), List.filter_nil,
      List.dropLast_concat, hleads]
  · simp [lastPiece?, hp, hempty]
  · simp [Path.names, hp, hn]

theorem names_eq_before (p : String) :
    Path.names p = ((pieces p).filter (· ≠ "")).dropLast.filter (· ≠ ".") ∨
      ∃ n, leads n = true ∧
        Path.names p = ((pieces p).filter (· ≠ "")).dropLast.filter (· ≠ ".") ++ [n] := by
  have hnames : Path.names p = ((pieces p).filter (· ≠ "")).filter (· ≠ ".") := by
    rw [Path.names, List.filter_filter]
    congr 1
    funext n
    simp [leads, Bool.and_comm]
  rw [hnames]
  rcases List.eq_nil_or_concat' ((pieces p).filter (· ≠ "")) with hnil | ⟨init, n, hn⟩
  · exact .inl (by rw [hnil]; rfl)
  · have hempty : n ≠ "" := by
      have hmem : n ∈ (pieces p).filter (· ≠ "") := hn ▸ List.mem_append_right init List.mem_cons_self
      simpa using (List.mem_filter.mp hmem).2
    rw [hn, List.dropLast_concat, List.filter_append]
    by_cases hdot : n = "."
    · exact .inl (by simp [hdot])
    · exact .inr ⟨n, leads_iff.mpr ⟨hempty, hdot⟩, by simp [hdot]⟩

section Intercalate

variable (absolute : Bool) {ns : List String} (hns : ns ≠ []) (hslash : ∀ n ∈ ns, '/' ∉ n.toList)

include hns hslash

theorem pieces_intercalate_names :
    pieces ("/".intercalate (if absolute then "" :: ns else ns)) =
      if absolute then "" :: ns else ns := by
  have hall : ∀ n ∈ (if absolute then "" :: ns else ns), '/' ∉ n.toList := by
    intro n hn
    split at hn
    · rcases List.mem_cons.mp hn with rfl | hn
      · decide
      · exact hslash n hn
    · exact hslash n hn
  rw [pieces, Text.pieces_intercalate rfl (by split <;> simp [hns]), Text.flatMap_pieces hall]

theorem route_intercalate (hleads : ∀ n ∈ ns, leads n = true) :
    route ("/".intercalate (if absolute then "" :: ns else ns)) = (absolute, ns) := by
  have hnames : Path.names ("/".intercalate (if absolute then "" :: ns else ns)) = ns := by
    rw [Path.names, pieces_intercalate_names absolute hns hslash]
    split
    · rw [List.filter_cons_of_neg (by decide), List.filter_eq_self.mpr hleads]
    · exact List.filter_eq_self.mpr hleads
  have habs : isAbsolute ("/".intercalate (if absolute then "" :: ns else ns)) = absolute := by
    cases absolute with
    | true =>
      rw [if_pos rfl, String.intercalate_cons_of_ne_nil hns]
      exact isAbsolute_append (by decide) _
    | false =>
      obtain ⟨n, rest, rfl⟩ := List.exists_cons_of_ne_nil hns
      have hrel : isAbsolute n = false :=
        congrArg Prod.fst (route_of_no_slash (hslash n List.mem_cons_self))
      rw [if_neg (by simp)]
      by_cases hrest : rest = []
      · rw [hrest, String.intercalate_singleton, hrel]
      · rw [String.intercalate_cons_of_ne_nil hrest, String.append_assoc,
          isAbsolute_append (leads_iff.mp (hleads n List.mem_cons_self)).1, hrel]
  rw [route, habs, hnames]

end Intercalate

theorem Ground.not_stranded (h : Ground fs w) (hs : Straight p) (hend : EndsInName (pieces p))
    (hd : fs.get? (locate w p).dropLast = some .directory) :
    fs.isStranded (.ofPlace w) p = false := by
  obtain ⟨init, n, hp, hn⟩ := hend
  obtain ⟨hbefore, _, hnames⟩ := before_last hp hn
  have hinit : ∀ m ∈ init.filter leads, IsName m := fun m hm =>
    isName_of_mem_names hs (hnames ▸ List.mem_append_left [n] hm)
  unfold isStranded
  rw [hbefore]
  dsimp only
  by_cases hnil : init.filter leads = []
  · simp [hnil]
  · have hroute := route_intercalate (isAbsolute p) hnil (fun m hm => (hinit m hm).2.2.2)
      fun m hm => leads_iff.mpr ⟨(hinit m hm).1, (hinit m hm).2.1⟩
    generalize "/".intercalate (if isAbsolute p then "" :: init.filter leads else init.filter leads) =
      before at hroute ⊢
    have habs : isAbsolute before = isAbsolute p := congrArg Prod.fst hroute
    have hbeforeNames : Path.names before = init.filter leads := congrArg Prod.snd hroute
    have hstraight : Straight before := fun hup => (hinit ".." (hbeforeNames ▸ hup)).2.2.1 rfl
    have hlocate : locate w before = (locate w p).dropLast := by
      rw [locate_eq hstraight, locate_eq hs, origin, origin, habs, hbeforeNames, hnames,
        ← List.append_assoc, List.dropLast_concat]
    have hne : before ≠ "" := by
      rintro rfl
      exact hnil hbeforeNames.symm
    rw [Bool.and_eq_false_iff]
    right
    split
    · next hr =>
      have hfree := (h.resolve_eq_free hstraight hr).2.1
      simp [hlocate, hd] at hfree
    · next hr =>
      have hnone := (h.resolve_eq_notFound hstraight hr).resolve_left hne
      simp [hlocate, hd] at hnone
    · rfl

theorem removeEmptied_of_directory (h : Ground fs w) (hs : Straight p) (ht : Trimmed p)
    (hend : EndsInName (pieces p)) (hv : Valid p)
    (hd : fs.get? (locate w p) = some .directory) (hempty : fs.names (locate w p) = []) :
    perform (removeEmptied (.ofPlace w) p) fs = (.ok (), fs.removeTree (locate w p)) := by
  have hparent : fs.get? (locate w p).dropLast = some .directory :=
    h.directory_of_prefix_directory (List.dropLast_prefix _) hd
  have hstranded := h.not_stranded hs hend hparent
  obtain ⟨init, n, hp, hn⟩ := hend
  obtain ⟨_, hlast, hnames⟩ := before_last hp hn
  have hname : IsName n := isName_of_mem_names hs (hnames ▸ List.mem_append_right _ List.mem_cons_self)
  have hne : locate w p ≠ [] := by simp [locate_eq hs, hnames]
  rw [removeEmptied, perform_get_bind, hstranded, hlast]
  simp only [Bool.false_eq_true, if_false, Option.some.injEq, if_neg hname.2.1, if_neg hname.2.2.1]
  rw [withoutSlash_eq_self ht, h.resolve_of_directory hs hv (by simp) hd]
  obtain ⟨k, l, hl⟩ := List.exists_cons_of_ne_nil hne
  rw [hl] at hempty ⊢
  simp [hempty]

theorem removeDirectories_of_directory (h : Ground fs w) (hs : Straight p) (ht : Trimmed p)
    (hend : EndsInName (pieces p)) (hw : ¬ locate w p <+: w) (hv : Valid p)
    (hd : fs.get? (locate w p) = some .directory) :
    perform (removeDirectories (.ofPlace w) p) fs =
      (.ok (), (fs.removeBelow (locate w p)).removeTree (locate w p)) := by
  have hground : Ground (fs.removeBelow (locate w p)) w := by
    refine ⟨h.toPlain.removeBelow _, ?_⟩
    rw [get?_removeBelow, if_neg fun hp => hw hp.1, h.here]
  have hd' : (fs.removeBelow (locate w p)).get? (locate w p) = some .directory := by
    rw [get?_removeBelow, if_neg (by simp), hd]
  have hempty : (fs.removeBelow (locate w p)).names (locate w p) = [] := by
    rw [List.eq_nil_iff_forall_not_mem]
    intro n hn
    rw [mem_names_iff, get?_removeBelow, if_pos (by simp)] at hn
    exact hn rfl
  rw [removeDirectories, perform_get_bind, h.resolve_of_directory hs hv (by simp) hd]
  dsimp only
  rw [perform_set_bind]
  exact removeEmptied_of_directory hground hs ht hend hv hd' hempty

/-- Once a directory is removed, its place and all below it are free, and the others are as they
were. -/
theorem removeDirectories_eq_ok (h : Ground fs w) (hs : Straight p) (ht : Trimmed p)
    (hend : EndsInName (pieces p)) (hw : ¬ locate w p <+: w)
    (hr : perform (removeDirectories (.ofPlace w) p) fs = (.ok (), gs)) :
    Ground gs w ∧ ∀ m, gs.get? m = if locate w p <+: m then none else fs.get? m := by
  have hne : locate w p ≠ [] := by
    rw [locate_eq hs]
    simp [show Path.names p ≠ [] from hend.filter_ne_nil]
  have hfree : fs.get? (locate w p) = none →
      ∀ m, fs.get? m = if locate w p <+: m then none else fs.get? m := by
    intro hnone m
    split
    · next hm =>
      obtain ⟨t, rfl⟩ := hm
      exact h.none_of_append_none hnone t
    · rfl
  cases hres : fs.resolve (.ofPlace w) .inspect p with
  | error e =>
    rw [removeDirectories, perform_get_bind, hres] at hr
    cases e <;> cases hr
    have hempty : p ≠ "" := by
      rintro rfl
      exact hend.filter_ne_nil (by decide)
    exact ⟨h, hfree ((h.resolve_eq_notFound hs hres).resolve_left hempty)⟩
  | ok place =>
    cases place with
    | removed s => exact absurd hres (h.resolve_ne_removed hs s)
    | free m =>
      rw [removeDirectories, perform_get_bind, hres] at hr
      cases hr
      exact ⟨h, hfree (h.resolve_eq_free hs hres).2.1⟩
    | found m e =>
      obtain ⟨rfl, hget, hv, _⟩ := h.resolve_eq_found hs hres
      cases e with
      | link target => exact absurd hget (h.linkFree _ target)
      | file content executable =>
        rw [removeDirectories, perform_get_bind, hres] at hr
        cases hr
      | directory =>
        rw [removeDirectories_of_directory h hs ht hend hw hv hget] at hr
        cases hr
        have hget : ∀ m, ((fs.removeBelow (locate w p)).removeTree (locate w p)).get? m =
            if locate w p <+: m then none else fs.get? m := by
          intro m
          rw [get?_removeTree _ hne]
          split
          · rfl
          · next hm => rw [get?_removeBelow, if_neg fun hp => hm hp.1]
        refine ⟨⟨(h.toPlain.removeBelow _).removeTree hne, ?_⟩, hget⟩
        rw [hget, if_neg hw, h.here]

end FlutterInstaller.FileSystem
