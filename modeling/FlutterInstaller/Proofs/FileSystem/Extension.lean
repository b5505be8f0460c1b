import FlutterInstaller.Proofs.FileSystem.Absolute
import FlutterInstaller.Proofs.FileSystem.ReadBack

/-!
Changes that only add. Whatever stands before a directory is made or a file is written stands after it,
in any tree and through any links, so a path that led somewhere still leads there.
-/
namespace FlutterInstaller

def Entry.Akin : Entry → Entry → Prop
  | .file .., .file .. => True
  | .directory, .directory => True
  | .link s, .link t => s = t
  | _, _ => False

theorem Entry.Akin.refl (e : Entry) : e.Akin e := by
  cases e <;> trivial

theorem Entry.Akin.trans {e f g : Entry} (h : e.Akin f) (h' : f.Akin g) : e.Akin g := by
  cases e <;> cases f <;> cases h <;> cases g <;> cases h' <;> trivial

namespace FileSystem

variable {fs gs hs : FileSystem} {l : Location} {p : String} {cwd : Standpoint}

/-- Whatever stands in the first tree stands in the second, but for what its files hold. -/
def Covers (fs gs : FileSystem) : Prop :=
  ∀ ⦃l e⦄, fs.get? l = some e → ∃ e', gs.get? l = some e' ∧ e.Akin e'

/-- A tree that was only added to: nothing is gone, and no link is new. -/
structure Extends (fs gs : FileSystem) : Prop where
  covers : Covers fs gs
  links : ∀ {l target}, gs.get? l = some (.link target) → fs.get? l = some (.link target)
  isTree : IsTree fs → IsTree gs

theorem Covers.refl (fs : FileSystem) : Covers fs fs := fun _ e he => ⟨e, he, .refl e⟩

theorem Covers.trans (h : Covers fs gs) (h' : Covers gs hs) : Covers fs hs := by
  intro l e he
  obtain ⟨e', he', hakin⟩ := h he
  obtain ⟨e'', he'', hakin'⟩ := h' he'
  exact ⟨e'', he'', hakin.trans hakin'⟩

theorem Same.covers (h : Same fs gs) : Covers fs gs := fun l e he => ⟨e, h l ▸ he, .refl e⟩

theorem Covers.directory (h : Covers fs gs) (hl : fs.get? l = some .directory) :
    gs.get? l = some .directory := by
  obtain ⟨e, he, hakin⟩ := h hl
  cases e <;> cases hakin
  exact he

instance : IsPreorder FileSystem Extends where
  refl fs := ⟨.refl fs, id, id⟩
  trans _ _ _ h h' := ⟨h.covers.trans h'.covers, fun hl => h.links (h'.links hl), h'.isTree ∘ h.isTree⟩

section Walk

inductive Place.Akin : Place → Place → Prop
  | found {l : Location} {e e' : Entry} (h : e.Akin e') : Akin (.found l e) (.found l e')
  | removed (s : Standpoint) : Akin (.removed s) (.removed s)

theorem Covers.walk_akin (h : Covers fs gs) {purpose : Purpose} {links : Nat} {s : Standpoint}
    {ps : List String} {place : Place} (hw : walk fs purpose links s ps = .ok place)
    (hplace : ∀ l, place ≠ .free l) :
    ∃ place', FileSystem.walk gs purpose links s ps = .ok place' ∧ place.Akin place' := by
  fun_induction FileSystem.walk fs purpose links s ps with
  | case1 links s =>
    refine ⟨place, by rw [FileSystem.walk]; exact hw, ?_⟩
    cases hs : s.location? <;> rw [hs] at hw <;> cases hw
    · exact .removed s
    · exact .found (.refl _)
  | case2 links s n rest hskip ih =>
    rw [FileSystem.walk, if_pos hskip]
    exact ih hw
  | case3 links s rest hskip ih =>
    rw [FileSystem.walk, if_neg hskip, if_pos rfl]
    exact ih hw
  | case7 links s n rest hskip hup hslash m hl here hfit hget hrest =>
    exact absurd (Except.ok.inj hw).symm (hplace here)
  | case9 links s n rest hskip hup hslash m hl here hfit hget ih =>
    obtain ⟨e', he', hakin⟩ := h hget
    cases e' <;> cases hakin
    rw [walk_at hskip hup hslash hl hfit, he']
    exact ih hw
  | case10 links s n hskip hup m hl here hfit content executable hget hslash =>
    cases hw
    obtain ⟨e', he', hakin⟩ := h hget
    rw [walk_at hskip hup hslash hl hfit, he']
    cases e' <;> cases hakin
    exact ⟨_, if_pos rfl, .found trivial⟩
  | case12 links s n rest hskip hup hslash m hl here hfit target hget hinspect =>
    cases hw
    obtain ⟨e', he', hakin⟩ := h hget
    rw [walk_at hskip hup hslash hl hfit, he']
    cases e' <;> cases hakin
    exact ⟨_, if_pos hinspect, .found rfl⟩
  | case15 s n rest hskip hup hslash m hl here hfit target hget hinspect links htarget ih =>
    obtain ⟨e', he', hakin⟩ := h hget
    rw [walk_at hskip hup hslash hl hfit, he']
    cases e' <;> cases hakin
    obtain ⟨place', hw', hakin'⟩ := ih hw
    exact ⟨place', (if_neg hinspect).trans ((if_neg htarget).trans hw'), hakin'⟩
  | _ => cases hw

theorem Covers.walk (h : Covers fs gs) {purpose : Purpose} {links : Nat} {s : Standpoint}
    {ps : List String} {e : Entry} (hw : walk fs purpose links s ps = .ok (.found l e)) :
    ∃ e', FileSystem.walk gs purpose links s ps = .ok (.found l e') ∧ e.Akin e' := by
  obtain ⟨place, hw', hakin⟩ := h.walk_akin hw (by simp)
  cases hakin with
  | found hakin => exact ⟨_, hw', hakin⟩

theorem walk_of_all_empty {purpose : Purpose} {links : Nat} {ps : List String}
    (hps : ps.all (· = "") = true) :
    walk fs purpose links (.ofPlace l) ps = .ok (.found l .directory) := by
  induction ps with
  | nil =>
    rw [walk]
    rfl
  | cons n ps ih =>
    rw [List.all_cons, Bool.and_eq_true, decide_eq_true_eq] at hps
    rw [walk, if_pos (.inl hps.1)]
    exact ih hps.2

theorem get?_of_walk_free {purpose : Purpose} {links : Nat} {s : Standpoint} {ps : List String}
    (hw : walk fs purpose links s ps = .ok (.free l)) : fs.get? l = none := by
  fun_induction walk fs purpose links s ps with
  | case1 links s => cases hs : s.location? <;> rw [hs] at hw <;> cases hw
  | case7 links s n rest hskip hup hslash m hl here hfit hget hrest =>
    obtain rfl := Place.free.inj (Except.ok.inj hw)
    exact hget
  | case2 links s n rest hskip ih => exact ih hw
  | case3 links s rest hskip ih => exact ih hw
  | case9 links s n rest hskip hup hslash m hl here hfit hget ih => exact ih hw
  | case15 s n rest hskip hup hslash m hl here hfit target hget hinspect links htarget ih => exact ih hw
  | _ => cases hw

theorem walk_of_free (hput : ∀ m, gs.get? m = if m = l then some .directory else fs.get? m)
    {purpose : Purpose} (hp : purpose ≠ .write) {links : Nat} {s : Standpoint} {ps : List String}
    (hw : walk fs .inspect links s ps = .ok (.free l)) :
    walk gs purpose links s ps = .ok (.found l .directory) := by
  have hfree := get?_of_walk_free hw
  fun_induction FileSystem.walk fs .inspect links s ps with
  | case1 links s => cases hs : s.location? <;> rw [hs] at hw <;> cases hw
  | case2 links s n rest hskip ih =>
    rw [FileSystem.walk, if_pos hskip]
    exact ih hw
  | case3 links s rest hskip ih =>
    rw [FileSystem.walk, if_neg hskip, if_pos rfl]
    exact ih hw
  | case7 links s n rest hskip hup hslash m hl here hfit hget hrest =>
    obtain rfl := Place.free.inj (Except.ok.inj hw)
    rw [walk_at hskip hup (fun h => hp h.1) hl hfit, hput, if_pos rfl]
    exact walk_of_all_empty hrest
  | case9 links s n rest hskip hup hslash m hl here hfit hget ih =>
    have hne : here ≠ l := by
      intro he
      simp [← he, hget] at hfree
    rw [walk_at hskip hup (fun h => hp h.1) hl hfit, hput, if_neg hne, hget]
    exact ih hw
  | case15 s n rest hskip hup hslash m hl here hfit target hget hinspect links htarget ih =>
    have hne : here ≠ l := by
      intro he
      simp [← he, hget] at hfree
    rw [walk_at hskip hup (fun h => hp h.1) hl hfit, hput, if_neg hne, hget]
    exact (if_neg fun h => hinspect ⟨h.1, rfl⟩).trans ((if_neg htarget).trans (ih hw))
  | _ => cases hw

end Walk

def Seated (fs : FileSystem) (l : Location) : Prop :=
  ∃ m n, l = m ++ [n] ∧ fs.get? m = some .directory ∧ Path.IsName n

theorem IsTree.seated (h : IsTree fs) (hl : l ≠ []) (he : fs.get? l ≠ none) : Seated fs l := by
  rcases List.eq_nil_or_concat' l with hnil | ⟨m, n, rfl⟩
  · exact absurd hnil hl
  · exact ⟨m, n, rfl, h.parent he, h.isName he n (by simp)⟩

theorem IsTree.directory_up (h : IsTree fs) {s : Standpoint} (hs : fs.get? s.place = some .directory) :
    fs.get? s.up.place = some .directory := by
  unfold Standpoint.up
  split
  · exact h.parent_directory (l := s.place) (by simp [hs])
  · exact hs

theorem place_eq_of_location? {s : Standpoint} {m : Location} (h : s.location? = some m) :
    s.place = m := by
  unfold Standpoint.location? at h
  split at h <;> cases h
  rfl

theorem seated_of_walk (htree : IsTree fs) {purpose : Purpose} {links : Nat} {s : Standpoint}
    {ps : List String} (hs : fs.get? s.place = some .directory) (hps : ∀ n ∈ ps, '/' ∉ n.toList)
    (hw : walk fs purpose links s ps = .ok (.free l)) : Seated fs l := by
  fun_induction walk fs purpose links s ps with
  | case1 links s => cases hl : s.location? <;> rw [hl] at hw <;> cases hw
  | case2 links s n rest hskip ih => exact ih hs (List.forall_mem_cons.mp hps).2 hw
  | case3 links s rest hskip ih =>
    exact ih (htree.directory_up hs) (List.forall_mem_cons.mp hps).2 hw
  | case7 links s n rest hskip hup hslash m hl here hfit hget hrest =>
    obtain rfl := Place.free.inj (Except.ok.inj hw)
    rw [place_eq_of_location? hl] at hs
    rw [not_or] at hskip
    exact ⟨m, n, rfl, hs, hskip.1, hskip.2, hup, (List.forall_mem_cons.mp hps).1⟩
  | case9 links s n rest hskip hup hslash m hl here hfit hget ih =>
    exact ih hget (List.forall_mem_cons.mp hps).2 hw
  | case15 s n rest hskip hup hslash m hl here hfit target hget hinspect links htarget ih =>
    refine ih ?_ ?_ hw
    · split
      · rfl
      · exact hs
    · intro k hk
      rcases List.mem_append.mp hk with hk | hk
      · exact Text.not_mem_of_mem_pieces hk
      · exact hps k (List.mem_cons_of_mem n hk)
  | _ => cases hw

theorem resolve_eq_free {purpose : Purpose} (hr : fs.resolve cwd purpose p = .ok (.free l)) :
    fs.get? l = none ∧ (IsTree fs → Seated fs l) := by
  have hw := walk_of_resolve hr
  refine ⟨get?_of_walk_free hw, fun htree => ?_⟩
  exact seated_of_walk htree (directory_start fs cwd p) (fun n hn => Text.not_mem_of_mem_pieces hn) hw

section Insert

variable {e : Entry}

theorem ne_nil_of_none (h : fs.get? l = none) : l ≠ [] := by
  rintro rfl
  cases h

theorem extends_insert (hl : l ≠ []) (hakin : ∀ old, fs.get? l = some old → old.Akin e)
    (hlink : ∀ target, e ≠ .link target) (hseat : IsTree fs → Seated fs l) :
    Extends fs (fs.insert l e) where
  covers := by
    intro m old hold
    by_cases hm : m = l
    · subst hm
      exact ⟨e, by rw [get?_insert fs e hl, if_pos rfl], hakin old hold⟩
    · exact ⟨old, by rw [get?_insert fs e hl, if_neg hm, hold], .refl old⟩
  links := by
    intro m target hm
    rw [get?_insert fs e hl] at hm
    split at hm
    · exact absurd (Option.some.inj hm) (hlink target)
    · exact hm
  isTree := by
    intro htree
    obtain ⟨m, n, rfl, hparent, hname⟩ := hseat htree
    refine htree.insert hparent hname ?_
    by_cases hdir : fs.get? (m ++ [n]) = some .directory
    · have := hakin _ hdir
      cases e <;> cases this
      exact .inl rfl
    · exact .inr hdir

theorem Target.extends {place : Place} (ht : Target fs l place) (hseat : IsTree fs → Seated fs l)
    (content : ByteArray) (executable : Bool) : Extends fs (fs.insert l (.file content executable)) := by
  refine extends_insert ht.ne_nil ?_ (by simp) hseat
  intro old hold
  cases ht with
  | free _ hfree => simp [hfree] at hold
  | found _ hfile =>
    rw [hfile] at hold
    cases hold
    trivial

end Insert

section Changes

section Directories

variable {R : FileSystem → FileSystem → Prop} [IsPreorder FileSystem R] (cwd)

theorem makeDirectory_advances
    (hmake : ∀ fs l, fs.get? l = none → (IsTree fs → Seated fs l) → R fs (fs.insert l .directory))
    (p : String) : Advances R (makeDirectory cwd p) := by
  apply advances_get_bind
  intro fs
  split
  · next l hr =>
    obtain ⟨hfree, hseat⟩ := resolve_eq_free hr
    exact hmake fs l hfree hseat
  · exact Std.Refl.refl fs
  · exact Std.Refl.refl fs

theorem ensureDirectory_advances {p : String} (hp : Advances R (makeDirectory cwd p)) :
    Advances R (ensureDirectory cwd p) := by
  refine hp.tryCatch fun e => advances_get_bind fun fs => ?_
  split
  · exact Std.Refl.refl fs
  · exact Std.Refl.refl fs

theorem anchorLineage_advances {ps : List String}
    (hps : ∀ q ∈ ps, Advances R (ensureDirectory cwd q)) (below : List String) :
    Advances R (anchorLineage cwd ps below) := by
  induction ps generalizing below with
  | nil => exact advances_pure below
  | cons p ps ih =>
    obtain ⟨hp, hps⟩ := List.forall_mem_cons.mp hps
    rw [anchorLineage]
    refine Advances.bind (Advances.tryCatch ?_ ?_) ?_
    · exact hp.bind fun _ => advances_pure false
    · intro e
      split
      · exact advances_pure true
      · exact advances_throw e
    · intro missing
      split
      · exact ih hps (p :: below)
      · exact advances_pure below

theorem makeDirectories_advances {p : String}
    (hp : ∀ q ∈ Path.lineage (p.length + 1) p, Advances R (ensureDirectory cwd q)) :
    Advances R (makeDirectories cwd p) :=
  (anchorLineage_advances cwd hp []).bind_of
    (fun _ _ below hr q hq => (mem_of_anchorLineage cwd hr q hq).resolve_right (by simp))
    fun below hbelow => Advances.forM_of fun q hq => hp q (hbelow q hq)

end Directories

theorem extends_insert_directory (fs : FileSystem) (l : Location) (hfree : fs.get? l = none)
    (hseat : IsTree fs → Seated fs l) : Extends fs (fs.insert l .directory) :=
  extends_insert (ne_nil_of_none hfree) (by simp [hfree]) (by simp) hseat

variable (cwd)

theorem ensureDirectory_extends (p : String) : Advances Extends (ensureDirectory cwd p) :=
  ensureDirectory_advances cwd (makeDirectory_advances cwd extends_insert_directory p)

theorem makeDirectories_extends (p : String) : Advances Extends (makeDirectories cwd p) :=
  makeDirectories_advances cwd fun q _ => ensureDirectory_extends cwd q

theorem seated_of_target {place : Place} (hr : fs.resolve cwd .write p = .ok place)
    (ht : Target fs l place) (htree : IsTree fs) : Seated fs l := by
  cases ht with
  | free _ _ => exact (resolve_eq_free hr).2 htree
  | found hl hfile => exact htree.seated hl (by simp [hfile])

theorem openForWriting_extends (p : String) : Advances Extends (openForWriting cwd p) := by
  apply advances_get_bind
  intro fs
  split
  · exact Std.Refl.refl fs
  · next l hr =>
    obtain ⟨hfree, hseat⟩ := resolve_eq_free hr
    exact (Target.free (ne_nil_of_none hfree) hfree).extends hseat _ _
  · next l old executable hr =>
    rcases target_of_resolve hr with ⟨m, ht⟩ | ⟨m, hm⟩ | ⟨t, ht⟩
    · obtain rfl := ht.eq_of_found
      exact ht.extends (seated_of_target cwd hr ht) _ _
    · cases hm
    · cases ht
  · exact Std.Refl.refl fs

theorem extends_of_opened {o : Location × Bool} {content : ByteArray} {executable : Bool}
    (hr : perform (openForWriting cwd p) fs = (.ok o, gs)) :
    Extends fs (gs.insert o.1 (.file content executable)) := by
  obtain ⟨place, hres, ht, rfl⟩ := openForWriting_eq_ok hr
  have hopened := (openForWriting_extends cwd p).of_perform hr
  have hfile : (fs.insert o.1 (.file ByteArray.empty o.2)).get? o.1 =
      some (.file ByteArray.empty o.2) := by
    rw [get?_insert fs _ ht.ne_nil, if_pos rfl]
  have hfilled := (Target.found ht.ne_nil hfile).extends
    (fun htree => htree.seated ht.ne_nil (by simp [hfile])) content executable
  exact IsTrans.trans fs _ _ hopened hfilled

theorem write_extends (p : String) (content : ByteArray) : Advances Extends (write cwd p content) := by
  intro fs
  rw [write, perform_bind]
  cases hr : perform (openForWriting cwd p) fs with
  | mk x gs =>
    cases x with
    | error e => exact (openForWriting_extends cwd p).of_perform hr
    | ok o => exact extends_of_opened cwd hr

theorem copy_extends (source target : String) : Advances Extends (copy cwd source target) := by
  apply advances_get_bind
  intro fs
  split
  · exact Std.Refl.refl fs
  · next s content executable _ =>
    rw [perform_bind]
    cases hr : perform (openForWriting cwd target) fs with
    | mk x gs =>
      cases x with
      | error e => exact (openForWriting_extends cwd target).of_perform hr
      | ok o =>
        simp only [perform_get_bind]
        split
        · exact extends_of_opened cwd hr
        · exact (openForWriting_extends cwd target).of_perform hr
  · exact Std.Refl.refl fs

end Changes

section Lookup

theorem isFile_iff_resolve : fs.isFile cwd p = true ↔
    ∃ l content executable, fs.resolve cwd .follow p = .ok (.found l (.file content executable)) := by
  unfold isFile find?
  constructor
  · intro h
    split at h
    · next hf =>
      split at hf
      · next l e hr =>
        cases hf
        exact ⟨_, _, _, hr⟩
      · cases hf
      · cases hf
      · cases hf
    · cases h
  · intro h
    obtain ⟨l, content, executable, hr⟩ := h
    rw [hr]

theorem walk_ne_removed {purpose : Purpose} {links : Nat} {s t : Standpoint} {ps : List String}
    (hs : s.removed = 0) : walk fs purpose links s ps ≠ .ok (.removed t) := by
  have hup {s : Standpoint} (hs : s.removed = 0) : s.up.removed = 0 := by
    simp [Standpoint.up, hs, Standpoint.ofPlace]
  fun_induction walk fs purpose links s ps with
  | case1 links s => simp [Standpoint.location?, hs]
  | case2 links s n rest hskip ih => exact ih hs
  | case3 links s rest hskip ih => exact ih (hup hs)
  | case9 links s n rest hskip hup hslash m hl here hfit hget ih => exact ih rfl
  | case15 s n rest hskip hup hslash m hl here hfit target hget hinspect links htarget ih =>
    apply ih
    split
    · rfl
    · exact hs
  | _ => simp

variable (habs : Path.isAbsolute p = true)

include habs

theorem resolve_ne_removed {purpose : Purpose} {t : Standpoint} :
    fs.resolve cwd purpose p ≠ .ok (.removed t) := by
  intro hr
  have hw := walk_of_resolve hr
  rw [habs, if_pos rfl] at hw
  exact walk_ne_removed rfl hw

theorem isDirectory_iff_resolve : fs.isDirectory cwd p = true ↔
    ∃ l, fs.resolve cwd .follow p = .ok (.found l .directory) := by
  unfold isDirectory find?
  constructor
  · intro h
    split at h
    · next hf =>
      split at hf
      · next l e hr =>
        cases hf
        exact ⟨l, hr⟩
      · next t hr => exact absurd hr (resolve_ne_removed habs)
      · cases hf
      · cases hf
    · cases h
  · intro h
    obtain ⟨l, hr⟩ := h
    rw [hr]

theorem Covers.resolve (h : Covers fs gs) {purpose : Purpose} {e : Entry}
    (hr : fs.resolve cwd purpose p = .ok (.found l e)) :
    ∃ e', gs.resolve cwd purpose p = .ok (.found l e') ∧ e.Akin e' := by
  have hw := walk_of_resolve hr
  rw [habs, if_pos rfl] at hw
  rw [resolve_walks hr, habs, if_pos rfl]
  exact h.walk hw

theorem Covers.isFile (h : Covers fs gs) (hf : fs.isFile cwd p = true) : gs.isFile cwd p = true := by
  obtain ⟨l, content, executable, hr⟩ := isFile_iff_resolve.mp hf
  obtain ⟨e, hr', hakin⟩ := h.resolve habs hr
  cases e <;> cases hakin
  exact isFile_iff_resolve.mpr ⟨l, _, _, hr'⟩

theorem Covers.isDirectory (h : Covers fs gs) (hd : fs.isDirectory cwd p = true) :
    gs.isDirectory cwd p = true := by
  obtain ⟨l, hr⟩ := (isDirectory_iff_resolve habs).mp hd
  obtain ⟨e, hr', hakin⟩ := h.resolve habs hr
  cases e <;> cases hakin
  exact (isDirectory_iff_resolve habs).mpr ⟨l, hr'⟩

theorem isFile_of_write {content : ByteArray}
    (hw : perform (write cwd p content) fs = (.ok (), gs)) : gs.isFile cwd p = true := by
  obtain ⟨o, fs₁, hopen, hw⟩ := perform_bind_eq_ok.mp hw
  cases hw
  have hput (m : Location) := get?_insert fs₁ (m := m) (.file content o.2) (ne_nil_of_opened hopen)
  rw [isFile_absolute habs]
  exact isFile_iff_resolve.mpr ⟨o.1, _, _, resolve_of_opened (.inl habs) (by decide) hopen hput⟩

theorem isFile_of_copy {source : String} (hc : perform (copy cwd source p) fs = (.ok (), gs)) :
    gs.isFile cwd p = true := by
  rw [isFile_absolute habs]
  rw [copy, perform_get_bind] at hc
  split at hc
  · cases hc
  · next s old executable _ =>
    obtain ⟨o, fs₁, hopen, hc⟩ := perform_bind_eq_ok.mp hc
    rw [perform_get_bind] at hc
    split at hc
    · next content x _ =>
      cases hc
      have hput (m : Location) :=
        get?_insert fs₁ (m := m) (.file content executable) (ne_nil_of_opened hopen)
      exact isFile_iff_resolve.mpr ⟨o.1, _, _, resolve_of_opened (.inl habs) (by decide) hopen hput⟩
    · cases hc
      obtain ⟨place, _, ht, hfs⟩ := openForWriting_eq_ok hopen
      have hput : ∀ m, gs.get? m =
          if m = o.1 then some (.file ByteArray.empty o.2) else gs.get? m := by
        intro m
        split
        · next hm => rw [hfs, get?_insert fs _ ht.ne_nil, if_pos hm]
        · rfl
      exact isFile_iff_resolve.mpr ⟨o.1, _, _, resolve_of_opened (.inl habs) (by decide) hopen hput⟩
  · cases hc

end Lookup

end FileSystem

end FlutterInstaller
