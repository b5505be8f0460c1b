import FlutterInstaller.Proofs.FileSystem.Extension

/-!
Making a directory afresh, in any tree and through any links. What stood at its place or below it may be
lost, and nothing else is.
-/
namespace FlutterInstaller.FileSystem

open FlutterInstaller.Path

variable {fs gs ks : FileSystem} {l : Location} {p : String}

section Walk

theorem not_prefix_up {s : Standpoint} (h : ¬ l <+: s.place) : ¬ l <+: s.up.place := by
  unfold Standpoint.up
  split
  · exact fun hp => h (hp.trans (List.dropLast_prefix _))
  · exact h

/-- Nothing leads on from a place: no directory stands there and no link. -/
structure Blocked (gs : FileSystem) (l : Location) : Prop where
  directory : gs.get? l ≠ some .directory
  link : ∀ target, gs.get? l ≠ some (.link target)

theorem Blocked.walk {links : Nat} {s : Standpoint} {n : String} {rest : List String} {m : Location}
    (h : Blocked gs (m ++ [n])) (hskip : ¬ (n = "" ∨ n = ".")) (hup : n ≠ "..")
    (hl : s.location? = some m) (hfit : ¬ nameLimit < n.utf8ByteSize) (k : Location) :
    walk gs .follow links s (n :: rest) ≠ .ok (.found k .directory) := by
  rw [walk_here hskip hup hl hfit]
  cases he : gs.get? (m ++ [n]) with
  | none =>
    dsimp only
    split <;> simp
  | some e =>
    cases e with
    | directory => exact absurd he h.directory
    | link target => exact absurd he (h.link target)
    | file content executable =>
      dsimp only
      split <;> simp

theorem walk_of_blocked (hblocked : Blocked gs l)
    (hkept : ∀ {m e}, ¬ l <+: m → fs.get? m = some e → ∃ e', gs.get? m = some e' ∧ e.Akin e')
    {links : Nat} {s : Standpoint} {ps : List String} {e : Entry} (hs : ¬ l <+: s.place)
    (hw : walk fs .inspect links s ps = .ok (.found l e)) (k : Location) :
    walk gs .follow links s ps ≠ .ok (.found k .directory) := by
  have hroot : l ≠ [] := by
    rintro rfl
    exact hblocked.directory (get?_root gs)
  fun_induction FileSystem.walk fs .inspect links s ps with
  | case1 links s =>
    cases hl : s.location? with
    | none =>
      rw [hl] at hw
      cases hw
    | some m =>
      rw [hl] at hw
      obtain ⟨rfl, -⟩ := Place.found.inj (Except.ok.inj hw)
      rw [place_eq_of_location? hl] at hs
      exact absurd List.prefix_rfl hs
  | case2 links s n rest hskip ih =>
    rw [FileSystem.walk, if_pos hskip]
    exact ih hs hw
  | case3 links s rest hskip ih =>
    rw [FileSystem.walk, if_neg hskip, if_pos rfl]
    exact ih (not_prefix_up hs) hw
  | case9 links s n rest hskip hup hslash m hl here hfit hget ih =>
    rw [place_eq_of_location? hl] at hs
    by_cases hhere : l <+: here
    · obtain rfl := (List.prefix_concat_iff.mp hhere).resolve_right hs
      exact hblocked.walk hskip hup hl hfit k
    · obtain ⟨e'', he'', hakin⟩ := hkept hhere hget
      cases e'' <;> cases hakin
      rw [walk_here hskip hup hl hfit, he'']
      exact ih hhere hw
  | case10 links s n hskip hup m hl here hfit content executable hget hslash =>
    obtain ⟨rfl, -⟩ := Place.found.inj (Except.ok.inj hw)
    exact hblocked.walk hskip hup hl hfit k
  | case12 links s n rest hskip hup hslash m hl here hfit target hget hinspect =>
    obtain ⟨rfl, -⟩ := Place.found.inj (Except.ok.inj hw)
    exact hblocked.walk hskip hup hl hfit k
  | case15 s n rest hskip hup hslash m hl here hfit target hget hinspect links htarget ih =>
    have hplace := place_eq_of_location? hl
    by_cases hhere : l <+: here
    · obtain rfl := (List.prefix_concat_iff.mp hhere).resolve_right (hplace ▸ hs)
      exact hblocked.walk hskip hup hl hfit k
    · obtain ⟨e'', he'', hakin⟩ := hkept hhere hget
      cases e'' <;> cases hakin
      rw [walk_here hskip hup hl hfit, he'']
      dsimp only
      rw [if_neg htarget]
      refine ih ?_ hw
      split
      · simpa [Standpoint.root] using hroot
      · exact hs
  | _ => cases hw

theorem get?_of_walk (htree : IsTree fs) {purpose : Purpose} {links : Nat} {s : Standpoint}
    {ps : List String} {e : Entry} (hs : fs.get? s.place = some .directory)
    (hw : walk fs purpose links s ps = .ok (.found l e)) : fs.get? l = some e := by
  fun_induction FileSystem.walk fs purpose links s ps with
  | case1 links s =>
    cases hl : s.location? with
    | none =>
      rw [hl] at hw
      cases hw
    | some m =>
      rw [hl] at hw
      obtain ⟨rfl, rfl⟩ := Place.found.inj (Except.ok.inj hw)
      rwa [place_eq_of_location? hl] at hs
  | case2 links s n rest hskip ih => exact ih hs hw
  | case3 links s rest hskip ih => exact ih (htree.directory_up hs) hw
  | case9 links s n rest hskip hup hslash m hl here hfit hget ih => exact ih hget hw
  | case10 links s n hskip hup m hl here hfit content executable hget hslash =>
    obtain ⟨rfl, rfl⟩ := Place.found.inj (Except.ok.inj hw)
    exact hget
  | case12 links s n rest hskip hup hslash m hl here hfit target hget hinspect =>
    obtain ⟨rfl, rfl⟩ := Place.found.inj (Except.ok.inj hw)
    exact hget
  | case15 s n rest hskip hup hslash m hl here hfit target hget hinspect links htarget ih =>
    refine ih ?_ hw
    split
    · rfl
    · exact hs
  | _ => cases hw

end Walk

def emptied (fs : FileSystem) (l : Location) : FileSystem := (fs.removeTree l).insert l .directory

/-- What is left of a tree for sure when the directory of a path is made afresh. -/
def cleared (fs : FileSystem) (p : String) : FileSystem :=
  match fs.resolve .root .inspect p with
  | .ok (.found l _) => fs.emptied l
  | _ => fs

theorem get?_emptied {m : Location} {e : Entry} (h : (fs.emptied l).get? m = some e) :
    m = l ∧ e = .directory ∨ ¬ l <+: m ∧ fs.get? m = some e := by
  by_cases hl : l = []
  · subst hl
    by_cases hm : m = []
    · subst hm
      exact .inl ⟨rfl, (Option.some.inj h).symm⟩
    · have hne : (m == []) = false := by simpa using hm
      simp [emptied, get?, insert, removeTree, hm, List.lookup_cons, hne] at h
  · rw [emptied, get?_insert _ _ hl] at h
    split at h
    · next hm => exact .inl ⟨hm, (Option.some.inj h).symm⟩
    · rw [get?_removeTree _ hl] at h
      split at h
      · cases h
      · next hm => exact .inr ⟨hm, h⟩

structure Emptied (l : Location) (fs gs : FileSystem) : Prop where
  here : gs.get? l = none ∨ gs.get? l = some .directory
  elsewhere : ∀ m, ¬ l <+: m → gs.get? m = fs.get? m

theorem Emptied.removeTree (hl : l ≠ []) : Emptied l fs (fs.removeTree l) where
  here := .inl (by rw [get?_removeTree _ hl, if_pos List.prefix_rfl])
  elsewhere := by
    intro m hm
    rw [get?_removeTree _ hl, if_neg hm]

theorem Emptied.removeBelow (hd : fs.get? l = some .directory) : Emptied l fs (fs.removeBelow l) where
  here := .inr (by rw [get?_removeBelow, if_neg (by simp), hd])
  elsewhere := by
    intro m hm
    rw [get?_removeBelow, if_neg fun hp => hm hp.1]

theorem covers_removeBelow (fs : FileSystem) (l : Location) : Covers (fs.removeBelow l) fs := by
  intro m e he
  rw [get?_removeBelow] at he
  split at he
  · cases he
  · exact ⟨e, he, .refl e⟩

theorem resolve_eq_found (htree : IsTree fs) {cwd : Standpoint} {purpose : Purpose} {e : Entry}
    (hr : fs.resolve cwd purpose p = .ok (.found l e)) : fs.get? l = some e :=
  get?_of_walk htree (directory_start fs cwd p) (walk_of_resolve hr)

section Remove

variable {cwd : Standpoint}

/-- A tree from which something was removed, and which is otherwise the same. -/
def Sheds (fs gs : FileSystem) : Prop := ∀ m, gs.get? m = fs.get? m ∨ gs.get? m = none

instance : IsPreorder FileSystem Sheds where
  refl _ := fun _ => .inl rfl
  trans _ _ _ h h' := fun m => by
    rcases h' m with hm | hm
    · rw [hm]
      exact h m
    · exact .inr hm

theorem sheds_removeTree (fs : FileSystem) (l : Location) : Sheds fs (fs.removeTree l) := by
  intro m
  by_cases hl : l = []
  · by_cases hm : m = []
    · exact .inl (by rw [hm, get?_root, get?_root])
    · refine .inr ?_
      rw [get?, if_neg hm, removeTree, hl, List.lookup_eq_none_iff]
      simp
  · rw [get?_removeTree fs hl]
    split
    · exact .inr rfl
    · exact .inl rfl

theorem sheds_removeBelow (fs : FileSystem) (l : Location) : Sheds fs (fs.removeBelow l) := by
  intro m
  rw [get?_removeBelow]
  split
  · exact .inr rfl
  · exact .inl rfl

theorem removeDirectories_sheds (cwd : Standpoint) (p : String) :
    Advances Sheds (removeDirectories cwd p) := by
  have hemptied : Advances Sheds (removeEmptied cwd p) := by
    refine advances_get_bind fun fs => ?_
    have hsame : Sheds fs fs := Std.Refl.refl fs
    repeat' split
    all_goals first | exact hsame | exact sheds_removeTree fs _
  refine advances_get_bind fun fs => ?_
  have hsame : Sheds fs fs := Std.Refl.refl fs
  split
  · exact hsame
  · exact hsame
  · exact hsame
  · exact sheds_removeTree fs _
  · exact hsame
  · next l _ =>
    rw [perform_set_bind]
    exact IsTrans.trans fs _ _ (sheds_removeBelow fs l) (hemptied _)
  · exact hemptied fs

theorem removeEmptied_cases (ht : Trimmed p) (hr : perform (removeEmptied cwd p) fs = (.ok (), gs)) :
    gs = fs ∨ ∃ l, l ≠ [] ∧ fs.resolve cwd .inspect p = .ok (.found l .directory) ∧
      gs = fs.removeTree l := by
  rw [removeEmptied, perform_get_bind, withoutSlash_eq_self ht] at hr
  split at hr
  · cases hr
    exact .inl rfl
  · split at hr
    · cases hr
    · split at hr
      · cases hr
      · split at hr
        · cases hr
        · next l hroot hres =>
          split at hr
          · cases hr
            exact .inr ⟨l, hroot, hres, rfl⟩
          · cases hr
        · cases hr
          exact .inl rfl
        · cases hr
          exact .inl rfl
        · cases hr
        · cases hr

theorem removeDirectories_cases (htree : IsTree fs) (habs : isAbsolute p = true) (ht : Trimmed p)
    (hr : perform (removeDirectories cwd p) fs = (.ok (), gs)) :
    (gs = fs ∧ ∀ l e, fs.resolve cwd .inspect p ≠ .ok (.found l e)) ∨
      ∃ l e, fs.resolve cwd .inspect p = .ok (.found l e) ∧ Emptied l fs gs := by
  rw [removeDirectories, perform_get_bind] at hr
  cases hres : fs.resolve cwd .inspect p with
  | error e =>
    rw [hres] at hr
    cases e <;> cases hr
    exact .inl ⟨rfl, by simp⟩
  | ok place =>
    rw [hres] at hr
    cases place with
    | free m =>
      cases hr
      exact .inl ⟨rfl, by simp⟩
    | removed t => exact absurd hres (resolve_ne_removed habs)
    | found l e =>
      have hget := resolve_eq_found htree hres
      refine .inr ⟨l, e, rfl, ?_⟩
      cases e with
      | file content executable => cases hr
      | link target =>
        cases hr
        apply Emptied.removeTree
        rintro rfl
        cases hget
      | directory =>
        dsimp only at hr
        rw [perform_set_bind] at hr
        have hbelow := Emptied.removeBelow hget
        rcases removeEmptied_cases ht hr with rfl | ⟨m, hm, hres', rfl⟩
        · exact hbelow
        · obtain ⟨e, hfound, -⟩ := (covers_removeBelow fs l).resolve habs hres'
          rw [hres] at hfound
          cases hfound
          refine ⟨(Emptied.removeTree hm).here, ?_⟩
          intro k hk
          rw [(Emptied.removeTree hm).elsewhere k hk, hbelow.elsewhere k hk]

end Remove

section Make

variable {cwd : Standpoint} (habs : isAbsolute p = true) (ht : Trimmed p)

omit habs ht in
theorem resolve_of_free {purpose : Purpose} (hp : purpose ≠ .write)
    (hcwd : isAbsolute p = true ∨ cwd.settle (fs.insert l .directory) = cwd.settle fs)
    (hr : fs.resolve cwd .inspect p = .ok (.free l)) :
    (fs.insert l .directory).resolve cwd purpose p = .ok (.found l .directory) := by
  have hput : ∀ m, (fs.insert l .directory).get? m = if m = l then some .directory else fs.get? m :=
    fun m => get?_insert fs _ (ne_nil_of_none (resolve_eq_free hr).1)
  have hstart : (if isAbsolute p then Standpoint.root else cwd.settle (fs.insert l .directory)) =
      if isAbsolute p then .root else cwd.settle fs := by
    rcases hcwd with habs | hcwd
    · rw [if_pos habs, if_pos habs]
    · rw [hcwd]
  rw [resolve_walks hr, hstart]
  exact walk_of_free hput hp (walk_of_resolve hr)

include habs ht

theorem isDirectory_of_makeDirectory (hr : perform (makeDirectory cwd p) fs = (.ok (), gs)) :
    gs.isDirectory cwd p = true := by
  rw [makeDirectory, perform_get_bind, withoutSlash_eq_self ht] at hr
  split at hr
  · next l hres =>
    cases hr
    exact (isDirectory_iff_resolve habs).mpr ⟨l, resolve_of_free (by decide) (.inl habs) hres⟩
  · cases hr
  · cases hr

theorem isDirectory_of_ensureDirectory (hr : perform (ensureDirectory cwd p) fs = (.ok (), gs)) :
    gs.isDirectory cwd p = true := by
  rw [ensureDirectory, perform_tryCatch] at hr
  cases hm : perform (makeDirectory cwd p) fs with
  | mk x ks =>
    rw [hm] at hr
    cases x with
    | ok u =>
      cases hr
      exact isDirectory_of_makeDirectory habs ht hm
    | error e =>
      dsimp only at hr
      rw [perform_get_bind] at hr
      split at hr
      · next hexists =>
        cases hr
        exact hexists.2
      · cases hr

omit habs ht in
theorem exists_append_of_anchorLineage {ps below below' : List String}
    (hr : perform (anchorLineage cwd ps below) fs = (.ok below', gs)) :
    ∃ up, below' = up ++ below := by
  induction ps generalizing fs below with
  | nil =>
    cases hr
    exact ⟨[], rfl⟩
  | cons p ps ih =>
    rw [perform_anchorLineage_cons] at hr
    split at hr
    · cases hr
      exact ⟨[], rfl⟩
    · split at hr
      · obtain ⟨up, rfl⟩ := ih hr
        exact ⟨up ++ [p], by simp⟩
      · cases hr

omit habs ht in
theorem exists_ensured (hparent : parent? p ≠ none)
    (hr : perform (makeDirectories cwd p) fs = (.ok (), gs)) :
    ∃ ks, Extends fs ks ∧ perform (ensureDirectory cwd p) ks = (.ok (), gs) := by
  obtain ⟨q, hq⟩ := Option.ne_none_iff_exists'.mp hparent
  rw [makeDirectories, lineage, hq] at hr
  obtain ⟨below, ks, ha, hr⟩ := perform_bind_eq_ok.mp hr
  have hanchored : Extends fs ks :=
    (anchorLineage_advances cwd (fun q _ => ensureDirectory_extends cwd q) []).of_perform ha
  dsimp only at ha
  rw [perform_anchorLineage_cons] at ha
  cases he : perform (ensureDirectory cwd p) fs with
  | mk x ls =>
    rw [he] at ha
    cases x with
    | ok u =>
      cases ha
      cases hr
      exact ⟨fs, Std.Refl.refl fs, he⟩
    | error e =>
      dsimp only at ha
      split at ha
      · obtain ⟨up, rfl⟩ := exists_append_of_anchorLineage ha
        obtain ⟨ms, hup, hlast⟩ := perform_forM_concat hr
        have hmade : Extends ks ms :=
          (Advances.forM_of fun q _ => ensureDirectory_extends cwd q).of_perform hup
        exact ⟨ms, IsTrans.trans fs ks ms hanchored hmade, hlast⟩
      · cases ha

theorem isDirectory_of_makeDirectories (hparent : parent? p ≠ none)
    (hr : perform (makeDirectories cwd p) fs = (.ok (), gs)) : gs.isDirectory cwd p = true := by
  obtain ⟨ks, -, hlast⟩ := exists_ensured hparent hr
  exact isDirectory_of_ensureDirectory habs ht hlast

end Make

theorem directory_of_emptied (hemptied : Emptied l fs gs) (hextends : Extends gs ks)
    (habs : isAbsolute p = true) {e : Entry} (hres : fs.resolve .root .inspect p = .ok (.found l e))
    (hd : ks.isDirectory .root p = true) : ks.get? l = some .directory := by
  by_contra hnot
  have hl : l ≠ [] := by
    rintro rfl
    exact hnot (get?_root ks)
  have hnone : gs.get? l = none :=
    hemptied.here.resolve_right fun hl => hnot (hextends.covers.directory hl)
  have hblocked : Blocked ks l := by
    refine ⟨hnot, ?_⟩
    intro target htarget
    have := hextends.links htarget
    simp [hnone] at this
  have hkept : ∀ {m e}, ¬ l <+: m → fs.get? m = some e → ∃ e', ks.get? m = some e' ∧ e.Akin e' := by
    intro m e hm he
    exact hextends.covers ((hemptied.elsewhere m hm).trans he)
  obtain ⟨k, hk⟩ := (isDirectory_iff_resolve habs).mp hd
  have hw := walk_of_resolve hres
  have hwk := walk_of_resolve hk
  rw [habs, if_pos rfl] at hw hwk
  exact walk_of_blocked hblocked hkept (by simpa [Standpoint.root] using hl) hw k hwk

theorem covers_cleared {cwd cwd' : Standpoint} (htree : IsTree fs) (habs : isAbsolute p = true)
    (ht : Trimmed p) (hparent : parent? p ≠ none)
    (hremove : perform (removeDirectories cwd p) fs = (.ok (), gs))
    (hmake : perform (makeDirectories cwd' p) gs = (.ok (), ks)) : Covers (fs.cleared p) ks := by
  have hextends : Extends gs ks := (makeDirectories_extends cwd' p).of_perform hmake
  have hd : ks.isDirectory .root p = true := by
    rw [← isDirectory_absolute habs cwd']
    exact isDirectory_of_makeDirectories habs ht hparent hmake
  unfold cleared
  rcases removeDirectories_cases htree habs ht hremove with ⟨rfl, hnone⟩ | ⟨l, e, hres, hemptied⟩
  · rw [resolve_absolute habs] at hnone
    split
    · next l e hres => exact absurd hres (hnone l e)
    · exact hextends.covers
  · rw [resolve_absolute habs] at hres
    rw [hres]
    intro m e' he
    rcases get?_emptied he with ⟨rfl, rfl⟩ | ⟨hm, he⟩
    · exact ⟨.directory, directory_of_emptied hemptied hextends habs hres hd, trivial⟩
    · exact hextends.covers ((hemptied.elsewhere m hm).trans he)

end FlutterInstaller.FileSystem
