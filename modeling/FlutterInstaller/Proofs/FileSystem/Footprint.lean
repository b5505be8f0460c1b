import FlutterInstaller.Proofs.FileSystem.Extension
import FlutterInstaller.Proofs.Path.Entry

/-!
Where a change leaves its traces in a tree without links. A path leads to the place it names, also where
it goes up, and also from a directory that was removed. So what is done through it is done there: new
directories stand on its way, and everything else that changes is at its end or below.
-/
namespace FlutterInstaller

/-- A standpoint in a directory that stood at a place, however many of its levels are gone. -/
structure Standpoint.StandsFor (s : Standpoint) (w : Location) : Prop where
  isPrefix : s.place <+: w
  length : s.place.length + s.removed = w.length

namespace Standpoint

variable {s : Standpoint} {w : Location}

theorem standsFor_ofPlace (w : Location) : (ofPlace w).StandsFor w := ⟨List.prefix_rfl, rfl⟩

theorem StandsFor.eq_of_location? (h : s.StandsFor w) {l : Location} (hl : s.location? = some l) :
    l = w := by
  unfold location? at hl
  split at hl
  · next hr =>
    cases hl
    have hlength := h.length
    rw [hr, Nat.add_zero] at hlength
    exact h.isPrefix.eq_of_length hlength
  · cases hl

theorem StandsFor.up (h : s.StandsFor w) : s.up.StandsFor w.dropLast := by
  unfold Standpoint.up
  split
  · next hr =>
    have hl : s.location? = some s.place := by rw [location?, if_pos hr]
    rw [h.eq_of_location? hl]
    exact standsFor_ofPlace _
  · next hr =>
    have hlength := h.length
    refine ⟨?_, ?_⟩
    · rw [List.dropLast_eq_take]
      exact List.prefix_take_iff.mpr ⟨h.isPrefix, by dsimp only; omega⟩
    · simp only [List.length_dropLast]
      omega

theorem StandsFor.settle (h : s.StandsFor w) (fs : FileSystem) : (s.settle fs).StandsFor w := by
  fun_induction Standpoint.settle fs s with
  | case1 s hd => exact h
  | case2 s hd hlt ih =>
    have hlength := h.length
    refine ih ⟨(List.dropLast_prefix _).trans h.isPrefix, ?_⟩
    simp only [List.length_dropLast] at hlt ⊢
    omega

end Standpoint

namespace FileSystem

open FlutterInstaller.Path

def LinkFree (fs : FileSystem) : Prop := ∀ l target, fs.get? l ≠ some (.link target)

section Walk

variable {fs : FileSystem} {w : Location} {p : String} {cwd : Standpoint} {purpose : Purpose}

def EndsAt (fs : FileSystem) (l : Location) : Except OsError Place → Prop
  | .ok (.found m e) => m = l ∧ ∀ target, e ≠ .link target
  | .ok (.free m) => m = l ∧ fs.get? m = none
  | _ => True

theorem foldl_step_of_all_empty {ps : List String} (h : ps.all (· = "") = true) :
    ps.foldl step w = w := by
  have hfilter := filter_leads_of_all_empty h
  rw [foldl_step_of_straight w (by simp [hfilter]), hfilter, List.append_nil]

theorem step_of_name {n : String} (hskip : ¬ (n = "" ∨ n = ".")) (hup : n ≠ "..") :
    step w n = w ++ [n] := by rw [step, if_neg hskip, if_neg hup]

theorem walk_endsAt (hfree : LinkFree fs) {links : Nat} {s : Standpoint} {ps : List String}
    (hs : s.StandsFor w) : EndsAt fs (ps.foldl step w) (walk fs purpose links s ps) := by
  generalize hw : walk fs purpose links s ps = r
  fun_induction FileSystem.walk fs purpose links s ps generalizing w with
  | case1 links s =>
    subst hw
    cases hl : s.location? with
    | none => exact trivial
    | some l => exact ⟨hs.eq_of_location? hl, by simp⟩
  | case2 links s n rest hskip ih =>
    rw [List.foldl_cons, step, if_pos hskip]
    exact ih hs hw
  | case3 links s rest hskip ih =>
    rw [List.foldl_cons, step, if_neg hskip, if_pos rfl]
    exact ih hs.up hw
  | case7 links s n rest hskip hup hslash l hl here hfit hget =>
    rename_i hall
    subst hw
    obtain rfl := hs.eq_of_location? hl
    rw [List.foldl_cons, step_of_name hskip hup, foldl_step_of_all_empty hall]
    exact ⟨rfl, hget⟩
  | case9 links s n rest hskip hup hslash l hl here hfit hget =>
    rename_i ih
    obtain rfl := hs.eq_of_location? hl
    rw [List.foldl_cons, step_of_name hskip hup]
    exact ih (Standpoint.standsFor_ofPlace here) hw
  | case10 links s n hskip hup l hl here hfit content executable hget =>
    subst hw
    obtain rfl := hs.eq_of_location? hl
    rw [List.foldl_cons, step_of_name hskip hup]
    exact ⟨rfl, by simp⟩
  | case12 links s n rest hskip hup hslash l hl here hfit target hget =>
    exact absurd hget (hfree here target)
  | case15 s n rest hskip hup hslash l hl here hfit target hget =>
    exact absurd hget (hfree here target)
  | _ =>
    subst hw
    exact trivial

theorem resolve_endsAt (hfree : LinkFree fs) (hs : cwd.StandsFor w) :
    EndsAt fs (locate w p) (fs.resolve cwd purpose p) := by
  unfold resolve
  split
  · exact trivial
  · split
    · exact trivial
    · split
      · exact trivial
      · refine walk_endsAt hfree ?_
        split
        · exact Standpoint.standsFor_ofPlace []
        · exact hs.settle fs

end Walk

section Way

variable {w m : Location} {p q base n : String}

/-- A place that a path goes through, or ends at. -/
def OnTheWay (w : Location) (p : String) (m : Location) : Prop :=
  ∃ ns, ns <+: Path.names p ∧ m = ns.foldl step (origin w p)

theorem foldl_step_filter (l : Location) (ps : List String) :
    (ps.filter leads).foldl step l = ps.foldl step l := by
  induction ps generalizing l with
  | nil => rfl
  | cons n ps ih =>
    cases hn : leads n with
    | true => rw [List.filter_cons_of_pos hn, List.foldl_cons, List.foldl_cons, ih]
    | false =>
      rw [List.filter_cons_of_neg (by simp [hn]), List.foldl_cons, step,
        if_pos (not_leads_iff.mp hn), ih]

theorem locate_eq_foldl (w : Location) (p : String) :
    locate w p = (Path.names p).foldl step (origin w p) := (foldl_step_filter _ _).symm

theorem onTheWay_of_prefix (habs : isAbsolute q = isAbsolute p)
    (hnames : Path.names q <+: Path.names p) (hm : OnTheWay w q m) : OnTheWay w p m := by
  obtain ⟨ns, hns, rfl⟩ := hm
  exact ⟨ns, hns.trans hnames, by rw [origin, origin, habs]⟩

theorem onTheWay_locate (w : Location) (p : String) : OnTheWay w p (locate w p) :=
  ⟨_, List.prefix_rfl, locate_eq_foldl w p⟩

theorem onTheWay_of_mem_lineage {fuel : Nat} (hq : q ∈ lineage fuel p) :
    OnTheWay w p (locate w q) := by
  obtain ⟨habs, hnames, _⟩ := mem_lineage hq
  exact onTheWay_of_prefix habs hnames (onTheWay_locate w q)

theorem OnTheWay.isPrefix (hm : OnTheWay w p m) (hs : Straight p) : m <+: locate w p := by
  obtain ⟨ns, hns, rfl⟩ := hm
  have hup : ".." ∉ ns.filter leads := fun h => hs (hns.subset (List.mem_of_mem_filter h))
  have hall : ns.filter leads = ns := List.filter_eq_self.mpr fun n hn =>
    (List.mem_filter.mp (hns.subset hn)).2
  rw [foldl_step_of_straight _ hup, hall, locate_eq hs]
  exact (List.prefix_append_right_inj _).mpr hns

theorem locate_join_name (hn : IsName n) (w : Location) (base : String) :
    locate w (join base n) = locate w base ++ [n] := by
  have hrel := isAbsolute_of_isName hn
  rw [locate_eq_foldl, locate_eq_foldl, names_join hrel, names_of_isName hn, List.foldl_append,
    origin, origin, isAbsolute_join hrel, List.foldl_cons, List.foldl_nil]
  rw [step, if_neg (by simp [hn.1, hn.2.1]), if_neg hn.2.2.1]

theorem onTheWay_join_name (hn : IsName n) (hm : OnTheWay w (join base n) m) :
    OnTheWay w base m ∨ m = locate w base ++ [n] := by
  have hrel := isAbsolute_of_isName hn
  obtain ⟨ns, hns, rfl⟩ := hm
  rw [names_join hrel, names_of_isName hn] at hns
  rcases List.prefix_concat_iff.mp hns with rfl | hns
  · refine .inr ?_
    rw [← locate_join_name hn, locate_eq_foldl, names_join hrel, names_of_isName hn]
  · exact .inl ⟨ns, hns, by rw [origin, origin, isAbsolute_join hrel]⟩

theorem onTheWay_parent? (hn : IsName n) (hq : parent? (join base n) = some q)
    (hm : OnTheWay w q m) : OnTheWay w base m := by
  have hrel := isAbsolute_of_isName hn
  have hroute := route_parent? hq
  have habs : isAbsolute q = isAbsolute base :=
    (congrArg Prod.fst hroute).trans (isAbsolute_join hrel)
  have hnames : Path.names q = (Path.names (join base n)).dropLast := congrArg Prod.snd hroute
  rw [names_join hrel, names_of_isName hn, List.dropLast_concat] at hnames
  exact onTheWay_of_prefix habs (hnames ▸ List.prefix_rfl) hm

end Way

/-- A tree after a change: directories were made at free places of the first kind, places of the second
kind may hold anything but a link, and all others are as they were. -/
structure Affected (made touched : Location → Prop) (fs gs : FileSystem) : Prop where
  linkFree : LinkFree gs
  changed : ∀ m, gs.get? m = fs.get? m ∨
    (made m ∧ fs.get? m = none ∧ gs.get? m = some .directory) ∨ touched m

def Affects (made touched : Location → Prop) (fs gs : FileSystem) : Prop :=
  LinkFree fs → Affected made touched fs gs

section Affects

variable {made touched : Location → Prop} {fs gs ks : FileSystem} {l : Location}

theorem Affected.refl (hfree : LinkFree fs) : Affected made touched fs fs :=
  ⟨hfree, fun _ => .inl rfl⟩

theorem Affected.trans (h : Affected made touched fs gs) (h' : Affected made touched gs ks) :
    Affected made touched fs ks where
  linkFree := h'.linkFree
  changed := by
    intro m
    rcases h.changed m with hm | ⟨hmade, hnone, hdir⟩ | hm
    · rcases h'.changed m with hm' | ⟨hmade, hnone, hdir⟩ | hm'
      · exact .inl (hm'.trans hm)
      · exact .inr (.inl ⟨hmade, hm ▸ hnone, hdir⟩)
      · exact .inr (.inr hm')
    · rcases h'.changed m with hm' | ⟨_, hnone', _⟩ | hm'
      · exact .inr (.inl ⟨hmade, hnone, hm'.trans hdir⟩)
      · simp [hdir] at hnone'
      · exact .inr (.inr hm')
    · exact .inr (.inr hm)

instance (made touched : Location → Prop) : IsPreorder FileSystem (Affects made touched) where
  refl _ := Affected.refl
  trans _ _ _ h h' := fun hfree => (h hfree).trans (h' (h hfree).linkFree)

theorem get?_insert_of_ne (fs : FileSystem) (e : Entry) {m : Location} (hm : m ≠ l) :
    (fs.insert l e).get? m = fs.get? m := by
  have hne : (m == l) = false := by simpa using hm
  rw [get?, get?, insert, List.lookup_cons, hne]
  simp only
  rw [lookup_filter (p := fun k => decide (k ≠ l)), if_pos (decide_eq_true hm)]

theorem LinkFree.insert (hfree : LinkFree fs) {e : Entry} (he : ∀ target, e ≠ .link target) :
    LinkFree (fs.insert l e) := by
  intro m target
  by_cases hl : l = []
  · by_cases hm : m = []
    · simp [hm, get?]
    · rw [get?_insert_of_ne fs e (hl ▸ hm)]
      exact hfree m target
  · rw [get?_insert fs e hl]
    split
    · simpa using he target
    · exact hfree m target

theorem Affected.insert_directory (hfree : LinkFree fs) (hnone : fs.get? l = none)
    (hl : made l ∨ touched l) : Affected made touched fs (fs.insert l .directory) where
  linkFree := hfree.insert (by simp)
  changed := by
    intro m
    rw [get?_insert fs _ (ne_nil_of_none hnone)]
    split
    · next hm =>
      subst hm
      exact .inr (hl.imp_left fun hmade => ⟨hmade, hnone, rfl⟩)
    · exact .inl rfl

theorem Affected.insert_file (hfree : LinkFree fs) {content : ByteArray} {executable : Bool}
    (hl : touched l) : Affected made touched fs (fs.insert l (.file content executable)) where
  linkFree := hfree.insert (by simp)
  changed := by
    intro m
    by_cases hm : m = l
    · exact .inr (.inr (hm ▸ hl))
    · exact .inl (get?_insert_of_ne fs _ hm)

theorem Affected.removeTree (hfree : LinkFree fs) (hne : l ≠ []) (hl : ∀ m, l <+: m → touched m) :
    Affected made touched fs (fs.removeTree l) where
  linkFree := by
    intro m target
    rw [get?_removeTree fs hne]
    split
    · simp
    · exact hfree m target
  changed := by
    intro m
    rw [get?_removeTree fs hne]
    split
    · next hm => exact .inr (.inr (hl m hm))
    · exact .inl rfl

theorem Affected.removeBelow (hfree : LinkFree fs) (hl : ∀ m, l <+: m → touched m) :
    Affected made touched fs (fs.removeBelow l) where
  linkFree := by
    intro m target
    rw [get?_removeBelow]
    split
    · simp
    · exact hfree m target
  changed := by
    intro m
    rw [get?_removeBelow]
    split
    · next hm => exact .inr (.inr (hl m hm.1))
    · exact .inl rfl

end Affects

section Changes

variable {made touched : Location → Prop} {w : Location} {cwd : Standpoint} {p : String}

theorem makeDirectory_affects (hs : cwd.StandsFor w) (ht : Trimmed p)
    (hmade : made (locate w p) ∨ touched (locate w p)) :
    Advances (Affects made touched) (makeDirectory cwd p) := by
  intro fs hfree
  have hend : EndsAt fs (locate w p) (fs.resolve cwd .inspect p) := resolve_endsAt hfree hs
  rw [makeDirectory, perform_get_bind, withoutSlash_eq_self ht]
  split
  · next m hr =>
    rw [hr] at hend
    obtain ⟨rfl, hnone⟩ := hend
    exact .insert_directory hfree hnone hmade
  · exact .refl hfree
  · exact .refl hfree

theorem makeDirectories_affects (hs : cwd.StandsFor w) (ht : Trimmed p)
    (hmade : ∀ m, OnTheWay w p m → made m ∨ touched m) :
    Advances (Affects made touched) (makeDirectories cwd p) :=
  makeDirectories_advances cwd fun _ hq => ensureDirectory_advances cwd
    (makeDirectory_affects hs ((mem_lineage hq).2.2 ht) (hmade _ (onTheWay_of_mem_lineage hq)))

theorem removeEmptied_affects (hs : cwd.StandsFor w) (ht : Trimmed p)
    (htouched : ∀ m, locate w p <+: m → touched m) :
    Advances (Affects made touched) (removeEmptied cwd p) := by
  intro fs hfree
  have hend : EndsAt fs (locate w p) (fs.resolve cwd .inspect p) := resolve_endsAt hfree hs
  rw [removeEmptied, perform_get_bind, withoutSlash_eq_self ht]
  split
  · exact .refl hfree
  · split
    · exact .refl hfree
    · split
      · exact .refl hfree
      · split
        · exact .refl hfree
        · next l hroot hr =>
          rw [hr] at hend
          split
          · exact .removeTree hfree hroot (hend.1 ▸ htouched)
          · exact .refl hfree
        · exact .refl hfree
        · exact .refl hfree
        · exact .refl hfree
        · exact .refl hfree

theorem removeDirectories_affects (hs : cwd.StandsFor w) (ht : Trimmed p)
    (htouched : ∀ m, locate w p <+: m → touched m) :
    Advances (Affects made touched) (removeDirectories cwd p) := by
  intro fs hfree
  have hend : EndsAt fs (locate w p) (fs.resolve cwd .inspect p) := resolve_endsAt hfree hs
  rw [removeDirectories, perform_get_bind]
  split
  · exact .refl hfree
  · exact .refl hfree
  · exact .refl hfree
  · next l target hr =>
    rw [hr] at hend
    exact absurd rfl (hend.2 target)
  · exact .refl hfree
  · next l hr =>
    rw [hr] at hend
    rw [perform_set_bind]
    have hbelow : Affected made touched fs (fs.removeBelow l) := .removeBelow hfree (hend.1 ▸ htouched)
    exact hbelow.trans (removeEmptied_affects hs ht htouched _ hbelow.linkFree)
  · exact removeEmptied_affects hs ht htouched fs hfree

theorem openForWriting_cases {fs : FileSystem} (hfree : LinkFree fs) (hs : cwd.StandsFor w) :
    (∃ e, perform (openForWriting cwd p) fs = (.error e, fs)) ∨
      ∃ executable, perform (openForWriting cwd p) fs =
        (.ok (locate w p, executable), fs.insert (locate w p) (.file ByteArray.empty executable)) := by
  have hend : EndsAt fs (locate w p) (fs.resolve cwd .write p) := resolve_endsAt hfree hs
  rw [openForWriting, perform_get_bind]
  split
  · next e _ => exact .inl ⟨e, rfl⟩
  · next l hr =>
    rw [hr] at hend
    obtain ⟨rfl, _⟩ := hend
    exact .inr ⟨false, rfl⟩
  · next l content executable hr =>
    rw [hr] at hend
    obtain ⟨rfl, _⟩ := hend
    exact .inr ⟨executable, rfl⟩
  · exact .inl ⟨.isDirectory, rfl⟩

theorem write_affects (hs : cwd.StandsFor w) (htouched : touched (locate w p))
    (content : ByteArray) : Advances (Affects made touched) (write cwd p content) := by
  intro fs hfree
  rw [write, perform_bind]
  rcases openForWriting_cases hfree hs (p := p) with ⟨e, he⟩ | ⟨executable, ho⟩
  · rw [he]
    exact .refl hfree
  · rw [ho]
    have hopened : Affected made touched fs
        (fs.insert (locate w p) (.file ByteArray.empty executable)) := .insert_file hfree htouched
    exact hopened.trans (.insert_file hopened.linkFree htouched)

theorem copy_affects (hs : cwd.StandsFor w) (htouched : touched (locate w p)) (source : String) :
    Advances (Affects made touched) (copy cwd source p) := by
  intro fs hfree
  rw [copy, perform_get_bind]
  split
  · exact .refl hfree
  · rw [perform_bind]
    rcases openForWriting_cases hfree hs (p := p) with ⟨e, he⟩ | ⟨executable, ho⟩
    · rw [he]
      exact .refl hfree
    · rw [ho]
      have hopened : Affected made touched fs
          (fs.insert (locate w p) (.file ByteArray.empty executable)) := .insert_file hfree htouched
      dsimp only
      rw [perform_get_bind]
      split
      · exact hopened.trans (.insert_file hopened.linkFree htouched)
      · exact hopened
  · exact .refl hfree

end Changes

end FileSystem

end FlutterInstaller
