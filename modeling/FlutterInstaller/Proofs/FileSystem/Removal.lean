import FlutterInstaller.Proofs.FileSystem.Trail

/-!
Removing what a path names, in any tree and through any links. Once it is removed the path leads to no
directory, whatever it ends in, and only what it named and what lay below that is lost.
-/
namespace FlutterInstaller.FileSystem

open FlutterInstaller.Path

variable {fs gs ks : FileSystem} {l : Location} {p q : String} {cwd : Standpoint}

/-- All that stands in one tree stands in another. -/
def Within (fs gs : FileSystem) : Prop := ∀ m e, fs.get? m = some e → gs.get? m = some e

instance : IsPreorder FileSystem Within where
  refl _ _ _ he := he
  trans _ _ _ h h' m e he := h' m e (h m e he)

/-- All that a way to a place can come past in one tree stands in another: the directories and the links,
and what stands at the place. -/
def Conveys (fs gs : FileSystem) (l : Location) : Prop :=
  ∀ m e, fs.get? m = some e → (m = l ∨ ∀ content executable, e ≠ .file content executable) →
    gs.get? m = some e

theorem Within.conveys (h : Within fs gs) (l : Location) : Conveys fs gs l := fun m e he _ => h m e he

theorem Conveys.directory (h : Conveys fs gs l) {m : Location} (hm : fs.get? m = some .directory) :
    gs.get? m = some .directory :=
  h m _ hm (.inr (by simp))

section Walk

theorem walk_of_missing {links : Nat} {s : Standpoint} {n : String} {rest : List String} {m : Location}
    (hskip : ¬ (n = "" ∨ n = ".")) (hup : n ≠ "..") (hl : s.location? = some m)
    (hnone : gs.get? (m ++ [n]) = none) (t : Standpoint) :
    walk gs .follow links (s.settle gs) (n :: rest) ≠ .ok (.standing t) := by
  rcases Standpoint.settle_eq_self_or gs s with hs | hs
  · rw [hs, walk, if_neg hskip, if_neg hup, if_neg (by simp), hl]
    dsimp only
    split
    · simp
    · rw [hnone]
      dsimp only
      split
      · exact fun h => Place.standing_ne_free (Except.ok.inj h).symm
      · simp
  · rw [walk_of_none hskip hup (by simp) hs]
    simp

theorem walk_of_vacated (htree : IsTree gs) (hgone : ∀ m, l <+: m → gs.get? m = none)
    (hkept : ∀ m, ¬ l <+: m → gs.get? m = fs.get? m) {links : Nat} {s : Standpoint}
    {ps : List String} {e : Entry} (hend : EndsBelow ps)
    (hw : walk fs .inspect links s ps = .ok (.found l e)) (t : Standpoint) :
    walk gs .follow links (s.settle gs) ps ≠ .ok (.standing t) := by
  fun_induction walk fs .inspect links s ps with
  | case1 links s => exact absurd rfl hend.endsInName.ne_nil
  | case2 links s n rest hskip ih =>
    rw [walk, if_pos hskip]
    exact ih (hend.of_skip (.inl hskip)) hw
  | case3 links s rest hskip ih =>
    rw [walk, if_neg hskip, if_pos rfl, Standpoint.settle_up htree]
    exact ih (hend.of_skip (.inr rfl)) hw
  | case9 links s n rest hskip hup hslash m hl here hfit hget ih =>
    by_cases hhere : l <+: here
    · exact walk_of_missing hskip hup hl (hgone _ hhere) t
    · have hthere := (hkept _ hhere).trans hget
      have hrest : rest ≠ [] := by
        rintro rfl
        rw [walk] at hw
        obtain ⟨rfl, -⟩ := Place.found.inj (Except.ok.inj hw)
        exact hhere List.prefix_rfl
      have hs := Standpoint.settle_of_entry (n := n) htree hl (by rw [hthere]; simp)
      have hdown := ih (hend.of_cons hrest) hw
      rw [Standpoint.settle_of_hasDirectory ((hasDirectory_iff _ _).mpr hthere)] at hdown
      rw [hs, walk_here hskip hup hl hfit, hthere]
      exact hdown
  | case10 links s n hskip hup m hl here hfit content executable hget hslash =>
    obtain ⟨rfl, -⟩ := Place.found.inj (Except.ok.inj hw)
    exact walk_of_missing hskip hup hl (hgone _ List.prefix_rfl) t
  | case12 links s n rest hskip hup hslash m hl here hfit target hget hinspect =>
    obtain ⟨rfl, -⟩ := Place.found.inj (Except.ok.inj hw)
    exact walk_of_missing hskip hup hl (hgone _ List.prefix_rfl) t
  | case15 s n rest hskip hup hslash m hl here hfit target hget hinspect links htarget ih =>
    by_cases hhere : l <+: here
    · exact walk_of_missing hskip hup hl (hgone _ hhere) t
    · have hthere := (hkept _ hhere).trans hget
      have hrest : rest ≠ [] := fun h => hinspect ⟨h, rfl⟩
      have hs := Standpoint.settle_of_entry (n := n) htree hl (by rw [hthere]; simp)
      have hdown := ih ((hend.of_cons hrest).append _) hw
      rw [dite_eq_ite, Standpoint.settle_ite_root hs] at hdown
      rw [hs, walk_here hskip hup hl hfit, hthere]
      dsimp only
      rw [if_neg htarget]
      exact hdown
  | _ => cases hw

theorem Conveys.walk (h : Conveys fs gs l) (htree : IsTree fs) {purpose : Purpose} {links : Nat}
    {s' : Standpoint} {ps : List String} {e : Entry}
    (hw : walk fs purpose links s' ps = .ok (.found l e)) :
    ∀ s : Standpoint, s.settle fs = s' → walk gs purpose links s ps = .ok (.found l e) := by
  have hself {s s' : Standpoint} {m : Location} (hs : s.settle fs = s') (hl : s'.location? = some m) :
      s = s' := by
    rcases Standpoint.settle_eq_self_or fs s with hsettle | hsettle
    · rw [← hs, hsettle]
    · rw [← hs, hsettle] at hl
      cases hl
  fun_induction FileSystem.walk fs purpose links s' ps with
  | case1 links s' =>
    intro s hs
    cases hl : s'.location? with
    | none =>
      rw [hl] at hw
      cases hw
    | some m =>
      rw [hself hs hl, FileSystem.walk, hl]
      rwa [hl] at hw
  | case2 links s' n rest hskip ih =>
    intro s hs
    rw [FileSystem.walk, if_pos hskip]
    exact ih hw s hs
  | case3 links s' rest hskip ih =>
    intro s hs
    rw [FileSystem.walk, if_neg hskip, if_pos rfl]
    exact ih hw s.up (by rw [← hs, Standpoint.settle_up htree])
  | case9 links s' n rest hskip hup hslash m hl here hfit hget ih =>
    intro s hs
    rw [hself hs hl, walk_at hskip hup hslash hl hfit, h.directory hget]
    exact ih hw _ (Standpoint.settle_of_hasDirectory ((hasDirectory_iff _ _).mpr hget))
  | case10 links s' n hskip hup m hl here hfit content executable hget hslash =>
    intro s hs
    obtain ⟨rfl, -⟩ := Place.found.inj (Except.ok.inj hw)
    rw [hself hs hl, walk_at hskip hup hslash hl hfit, h _ _ hget (.inl rfl)]
    exact (if_pos rfl).trans hw
  | case12 links s' n rest hskip hup hslash m hl here hfit target hget hinspect =>
    intro s hs
    rw [hself hs hl, walk_at hskip hup hslash hl hfit, h _ _ hget (.inr (by simp))]
    exact (if_pos hinspect).trans hw
  | case15 s' n rest hskip hup hslash m hl here hfit target hget hinspect links htarget ih =>
    intro s hs
    rw [hself hs hl, walk_at hskip hup hslash hl hfit, h _ _ hget (.inr (by simp))]
    have hthere := Standpoint.settle_of_entry (n := n) htree hl (by rw [hget]; simp)
    exact ((if_neg hinspect).trans (if_neg htarget)).trans
      (ih hw _ (Standpoint.settle_ite_root hthere))
  | _ => cases hw

end Walk

section Remove

/-- What is left of a tree when what a path names is removed: the path leads to no directory any more,
and only what it named and what lay below that is lost. -/
structure Removed (cwd : Standpoint) (p : String) (fs gs : FileSystem) : Prop where
  isTree : IsTree gs
  gone : gs.isDirectory cwd p = false
  within : Within gs fs
  elsewhere : ∀ m, (∀ l e, fs.resolve cwd .inspect p = .ok (.found l e) → ¬ l <+: m) →
    gs.get? m = fs.get? m

theorem not_isDirectory_of_inspect {r : Except OsError Place} (hr : fs.resolve cwd .inspect p = r)
    (hnot : (∃ l, r = .ok (.free l)) ∨ ∃ e, r = .error e) : fs.isDirectory cwd p = false := by
  rw [Bool.eq_false_iff]
  intro hd
  obtain ⟨t, ht⟩ := isDirectory_iff_standing.mp hd
  rcases hnot with ⟨l, rfl⟩ | ⟨e, rfl⟩
  · rw [resolve_follow_of_inspect hr (by simp)] at ht
    exact Place.standing_ne_free (Except.ok.inj ht).symm
  · rw [resolve_follow_of_inspect hr (by simp)] at ht
    cases ht

theorem not_isDirectory_of_stranded (hstranded : fs.isStranded cwd p = true) :
    fs.isDirectory cwd p = false := by
  unfold isStranded at hstranded
  simp only [Bool.and_eq_true, decide_eq_true_eq] at hstranded
  have hnames := names_eq_before p
  have hslash : ∀ n ∈ ((pieces p).filter (· ≠ "")).dropLast.filter (· ≠ "."), '/' ∉ n.toList := by
    intro n hn
    have hmem := List.mem_of_mem_filter (List.dropLast_subset _ (List.mem_of_mem_filter hn))
    exact Text.not_mem_of_mem_pieces hmem
  have hleads : ∀ n ∈ ((pieces p).filter (· ≠ "")).dropLast.filter (· ≠ "."), leads n = true := by
    intro n hn
    obtain ⟨hn, hdot⟩ := List.mem_filter.mp hn
    have hempty := (List.mem_filter.mp (List.dropLast_subset _ hn)).2
    exact leads_iff.mpr ⟨by simpa using hempty, by simpa using hdot⟩
  generalize ((pieces p).filter (· ≠ "")).dropLast.filter (· ≠ ".") = ns at hstranded hnames hslash hleads
  obtain ⟨hne, hlost⟩ := hstranded
  have hroute := route_intercalate (isAbsolute p) hne hslash hleads
  have hend : EndsInName (pieces ("/".intercalate (if isAbsolute p then "" :: ns else ns))) := by
    rw [pieces_intercalate_names (isAbsolute p) hne hslash]
    obtain ⟨ms, m, hms⟩ := (List.eq_nil_or_concat' ns).resolve_left hne
    have hns : EndsInName ns := ⟨ms, m, hms, hleads m (by simp [hms])⟩
    split
    · exact hns.cons
    · exact hns
  generalize "/".intercalate (if isAbsolute p then "" :: ns else ns) = before at hroute hlost hend
  have habs : isAbsolute before = isAbsolute p := congrArg Prod.fst hroute
  have hbefore : Path.names before = ns := congrArg Prod.snd hroute
  rw [Bool.eq_false_iff]
  intro hd
  obtain ⟨-, t, ht⟩ := isDirectory_iff_walk.mp hd
  have hfound (t : Standpoint) : walk fs .follow linkLimit
      (if isAbsolute p then .root else cwd.settle fs) ns ≠ .ok (.standing t) := by
    intro hw
    rcases resolve_cases (ne_empty_of_names (p := before) (hbefore ▸ hne)) (.inr hend) with
      ⟨e, he, -, hr⟩ | hr
    · rw [hr] at hlost
      split at hlost
      · next hfree => cases hfree
      · next hnot => exact he (Except.error.inj hnot)
      · cases hlost
    · rw [hr, habs, hbefore, hw, Place.standing] at hlost
      cases hl : t.location? <;> rw [hl] at hlost <;> cases hlost
  rcases hnames with hnames | ⟨n, hn, hnames⟩
  · exact hfound t (hnames ▸ ht)
  · have hlast : EndsInName [n] := ⟨[], n, rfl, hn⟩
    rcases walk_append hlast linkLimit (if isAbsolute p then .root else cwd.settle fs) ns with
      ⟨t', -, hw, -⟩ | ⟨-, herror⟩
    · exact hfound t' hw
    · obtain ⟨e, he⟩ := herror .follow
      rw [hnames, he] at ht
      cases ht

theorem Conveys.resolve (h : Conveys fs gs l) (htree : IsTree fs) {purpose : Purpose} {e : Entry}
    (hr : fs.resolve cwd purpose p = .ok (.found l e)) :
    gs.resolve cwd purpose p = .ok (.found l e) := by
  have hsettle := Standpoint.settle_settle (fun m => h.directory) cwd
  rw [resolve_walks hr]
  exact h.walk htree (walk_of_resolve hr) _ (Standpoint.settle_ite_root hsettle)

theorem Within.resolve (h : Within fs gs) (htree : IsTree fs) {purpose : Purpose} {e : Entry}
    (hr : fs.resolve cwd purpose p = .ok (.found l e)) : gs.resolve cwd purpose p = .ok (.found l e) :=
  (h.conveys l).resolve htree hr

theorem removeTree_within (hl : l ≠ []) : Within (fs.removeTree l) fs := by
  intro m e he
  rw [get?_removeTree fs hl] at he
  split at he
  · cases he
  · exact he

theorem removeBelow_within (fs : FileSystem) (l : Location) : Within (fs.removeBelow l) fs := by
  intro m e he
  rw [get?_removeBelow] at he
  split at he
  · cases he
  · exact he

theorem removed_of_removeTree (htree : IsTree fs) (hend : EndsBelow (pieces p)) (hl : l ≠ []) {e : Entry}
    (hr : fs.resolve cwd .inspect p = .ok (.found l e)) : Removed cwd p fs (fs.removeTree l) where
  isTree := htree.removeTree hl
  within := removeTree_within hl
  elsewhere := by
    intro m hm
    rw [get?_removeTree fs hl, if_neg (hm l e hr)]
  gone := by
    rw [Bool.eq_false_iff]
    intro hd
    obtain ⟨t, ht⟩ := isDirectory_iff_standing.mp hd
    have hgone : ∀ m, l <+: m → (fs.removeTree l).get? m = none := fun m hm => by
      rw [get?_removeTree fs hl, if_pos hm]
    have hkept : ∀ m, ¬ l <+: m → (fs.removeTree l).get? m = fs.get? m := fun m hm => by
      rw [get?_removeTree fs hl, if_neg hm]
    have hsettle : (cwd.settle fs).settle (fs.removeTree l) = cwd.settle (fs.removeTree l) :=
      Standpoint.settle_settle (fun m => removeTree_within hl m .directory) cwd
    have hw := walk_of_resolve ht
    rw [← Standpoint.settle_ite_root hsettle] at hw
    exact walk_of_vacated (htree.removeTree hl) hgone hkept hend (walk_of_resolve hr) t hw

theorem Removed.of_gone (htree : IsTree fs) (hgone : fs.isDirectory cwd p = false) :
    Removed cwd p fs fs :=
  ⟨htree, hgone, fun _ _ he => he, fun _ _ => rfl⟩

theorem removed_of_removeEmptied (htree : IsTree fs)
    (hr : perform (removeEmptied cwd p) fs = (.ok (), gs)) : Removed cwd p fs gs := by
  rw [removeEmptied, perform_get_bind] at hr
  split at hr
  · next hstranded =>
    cases hr
    exact .of_gone htree (not_isDirectory_of_stranded hstranded)
  · split at hr
    · cases hr
    · next hdot =>
      split at hr
      · cases hr
      · next hup =>
        split at hr
        · cases hr
        · next l hroot hres =>
          split at hr
          · cases hr
            rcases idle_or_endsBelow (taken_withoutSlash.mp (taken_of_resolve hres)) hdot hup with
              ⟨habs, hidle⟩ | hend
            · have habs' := (congrArg Prod.fst (route_withoutSlash p)).trans habs
              have hw := walk_of_resolve hres
              rw [show isAbsolute (withoutSlash p) = true from habs', if_pos rfl, walk_of_idle hidle] at hw
              exact absurd (Place.found.inj (Except.ok.inj hw)).1.symm hroot
            · obtain ⟨hisTree, hgone, hwithin, helse⟩ := removed_of_removeTree htree hend hroot hres
              refine ⟨hisTree, isDirectory_withoutSlash ▸ hgone, hwithin, fun m hm => helse m ?_⟩
              intro k e hk
              rw [hres] at hk
              cases hk
              exact hm l _ (resolve_of_withoutSlash (t := .ofPlace l) (by decide) hres)
          · cases hr
        · next m hres =>
          cases hr
          exact .of_gone htree
            (isDirectory_withoutSlash ▸ not_isDirectory_of_inspect hres (.inl ⟨m, rfl⟩))
        · next hres =>
          cases hr
          exact .of_gone htree
            (isDirectory_withoutSlash ▸ not_isDirectory_of_inspect hres (.inr ⟨_, rfl⟩))
        · cases hr
        · cases hr

theorem removed_of_removeDirectories (htree : IsTree fs)
    (hr : perform (removeDirectories cwd p) fs = (.ok (), gs)) : Removed cwd p fs gs := by
  rw [removeDirectories, perform_get_bind] at hr
  split at hr
  · next hres =>
    cases hr
    exact .of_gone htree (not_isDirectory_of_inspect hres (.inr ⟨_, rfl⟩))
  · cases hr
  · next m hres =>
    cases hr
    exact .of_gone htree (not_isDirectory_of_inspect hres (.inl ⟨m, rfl⟩))
  · next l target hres =>
    cases hr
    have hl : l ≠ [] := by
      rintro rfl
      cases resolve_eq_found htree hres
    exact removed_of_removeTree htree (endsBelow_of_link hres) hl hres
  · cases hr
  · next l hres =>
    rw [perform_set_bind] at hr
    have hremoved := removed_of_removeEmptied (htree.removeBelow l) hr
    have hbelow := removeBelow_within fs l
    refine ⟨hremoved.isTree, hremoved.gone, IsTrans.trans gs _ fs hremoved.within hbelow, fun m hm => ?_⟩
    have hsame : (fs.removeBelow l).get? m = fs.get? m := by
      rw [get?_removeBelow, if_neg fun hp => hm l .directory hres hp.1]
    rw [← hsame]
    exact hremoved.elsewhere m fun k e hk => hm k e (hbelow.resolve (htree.removeBelow l) hk)
  · exact removed_of_removeEmptied htree hr

end Remove

end FlutterInstaller.FileSystem
