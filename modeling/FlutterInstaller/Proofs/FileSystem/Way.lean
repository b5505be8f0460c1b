import FlutterInstaller.Proofs.FileSystem.Clearing

/-!
What a path depends on. The system looks at one place after the other when it follows a path; in a tree
where the same stands at these places, the path leads to the same file, also from a directory that the
tree has lost.
-/
namespace FlutterInstaller

namespace Standpoint

variable {fs gs : FileSystem}

theorem settle_up (htree : gs.IsTree) (s : Standpoint) : (s.settle gs).up = s.up.settle gs := by
  fun_induction settle gs s with
  | case1 s hd =>
    rw [FileSystem.hasDirectory_iff] at hd
    rw [settle_of_hasDirectory ((FileSystem.hasDirectory_iff _ _).mpr (htree.directory_up hd))]
  | case2 s hd hlt ih =>
    rw [ih]
    by_cases hr : s.removed = 0
    · simp [up, hr, ofPlace]
    · have hup : s.up = ⟨s.place, s.removed - 1⟩ := if_neg hr
      have hdown : (⟨s.place.dropLast, s.removed + 1⟩ : Standpoint).up = ⟨s.place.dropLast, s.removed⟩ :=
        rfl
      have hsettle : settle gs ⟨s.place, s.removed - 1⟩ =
          settle gs ⟨s.place.dropLast, s.removed - 1 + 1⟩ := by
        conv_lhs => unfold settle
        rw [dif_neg hd]
      rw [hup, hdown, hsettle, Nat.sub_add_cancel (Nat.pos_of_ne_zero hr)]

theorem settle_settle (hd : ∀ l, gs.get? l = some .directory → fs.get? l = some .directory)
    (s : Standpoint) : (s.settle fs).settle gs = s.settle gs := by
  fun_induction settle fs s with
  | case1 s h => rfl
  | case2 s h hlt ih =>
    rw [FileSystem.hasDirectory_iff] at h
    have hnot : ¬ gs.hasDirectory s.place = true := fun hgs =>
      h (hd _ ((FileSystem.hasDirectory_iff _ _).mp hgs))
    rw [ih]
    conv_rhs => unfold settle
    rw [dif_neg hnot]

theorem settle_root (fs : FileSystem) : root.settle fs = root := settle_of_hasDirectory rfl

theorem settle_ite_root {c : Prop} [Decidable c] {s t : Standpoint} (h : s.settle fs = t) :
    (if c then root else s).settle fs = if c then root else t := by
  split
  · exact settle_root fs
  · exact h

theorem settle_eq_self_or (gs : FileSystem) (s : Standpoint) :
    s.settle gs = s ∨ (s.settle gs).location? = none := by
  cases hs : (s.settle gs).location? with
  | none => exact .inr rfl
  | some m =>
    obtain ⟨rfl, hm⟩ := FileSystem.location?_settle_eq_some hs
    exact .inl (settle_of_hasDirectory ((FileSystem.hasDirectory_iff _ _).mpr hm))

theorem settle_of_entry (htree : gs.IsTree) {s : Standpoint} {l : Location} {n : String}
    (hl : s.location? = some l) (he : gs.get? (l ++ [n]) ≠ none) : s.settle gs = s := by
  rw [← FileSystem.place_eq_of_location? hl] at he
  exact settle_of_hasDirectory ((FileSystem.hasDirectory_iff _ _).mpr (htree.parent he))

end Standpoint

namespace FileSystem

open FlutterInstaller.Path

variable {fs gs : FileSystem} {l : Location}

def Place.standing (s : Standpoint) : Place := s.location?.elim (.removed s) fun l => .found l .directory

theorem Place.standing_injective {s t : Standpoint} (h : standing s = standing t) : s = t := by
  unfold standing at h
  cases hs : s.location? with
  | none =>
    cases ht : t.location? with
    | none => simpa [hs, ht] using h
    | some m => simp [hs, ht] at h
  | some l =>
    cases ht : t.location? with
    | none => simp [hs, ht] at h
    | some m =>
      obtain rfl : l = m := by simpa [hs, ht] using h
      unfold Standpoint.location? at hs ht
      split at hs
      · next hs0 =>
        split at ht
        · next ht0 =>
          cases s
          cases t
          simp_all
        · cases ht
      · cases hs

theorem Covers.walk_standing (h : Covers fs gs) {purpose : Purpose} {links : Nat} {s t : Standpoint}
    {ps : List String} (hw : FileSystem.walk fs purpose links s ps = .ok (.standing t)) :
    FileSystem.walk gs purpose links s ps = .ok (.standing t) := by
  unfold Place.standing at hw ⊢
  cases ht : t.location? with
  | none =>
    rw [ht] at hw
    obtain ⟨place, hw', hakin⟩ := h.walk_akin hw (by simp)
    cases hakin with
    | removed => exact hw'
  | some l =>
    rw [ht] at hw
    obtain ⟨e, hw', hakin⟩ := h.walk hw
    cases e <;> cases hakin
    exact hw'

/-- The places at which a walk looks, links followed. -/
def way (fs : FileSystem) (links : Nat) (s : Standpoint) (pieces : List String) : List Location :=
  match pieces with
  | [] => []
  | n :: rest =>
    if n = "" ∨ n = "." then way fs links s rest
    else if n = ".." then way fs links s.up rest
    else match s.location? with
      | none => []
      | some l =>
        (l ++ [n]) :: match fs.get? (l ++ [n]) with
          | some .directory => way fs links (.ofPlace (l ++ [n])) rest
          | some (.link target) =>
            match links with
            | 0 => []
            | links + 1 =>
              way fs links (if isAbsolute target then .root else s) (Path.pieces target ++ rest)
          | _ => []
termination_by (links, pieces.length)

def wayOf (fs : FileSystem) (cwd : Standpoint) (p : String) : List Location :=
  fs.way linkLimit (if isAbsolute p then .root else cwd.settle fs) (pieces p)

section Walk

theorem walk_of_none {purpose : Purpose} {links : Nat} {s : Standpoint} {n : String}
    {rest : List String} (hskip : ¬ (n = "" ∨ n = ".")) (hup : n ≠ "..")
    (hslash : ¬ (purpose = .write ∧ rest ≠ [] ∧ rest.all (· = ""))) (hl : s.location? = none) :
    walk gs purpose links s (n :: rest) = .error .notFound := by
  rw [walk, if_neg hskip, if_neg hup, if_neg hslash, hl]

theorem way_at {links : Nat} {s : Standpoint} {n : String} {rest : List String} {m : Location}
    (hskip : ¬ (n = "" ∨ n = ".")) (hup : n ≠ "..") (hl : s.location? = some m) :
    fs.way links s (n :: rest) = (m ++ [n]) :: match fs.get? (m ++ [n]) with
      | some .directory => fs.way links (.ofPlace (m ++ [n])) rest
      | some (.link target) =>
        match links with
        | 0 => []
        | links + 1 =>
          fs.way links (if isAbsolute target then .root else s) (Path.pieces target ++ rest)
      | _ => [] := by
  rw [way, if_neg hskip, if_neg hup, hl]

theorem kept_of_way (htree : IsTree gs) {links : Nat} {s : Standpoint} {n : String}
    {rest : List String} {m : Location} (hskip : ¬ (n = "" ∨ n = ".")) (hup : n ≠ "..")
    (hl : s.location? = some m)
    (hway : ∀ k ∈ fs.way links s (n :: rest), gs.get? k = fs.get? k) {e : Entry}
    (hget : fs.get? (m ++ [n]) = some e) : s.settle gs = s ∧ gs.get? (m ++ [n]) = some e := by
  rw [way_at hskip hup hl] at hway
  have hhere := (List.forall_mem_cons.mp hway).1.trans hget
  exact ⟨Standpoint.settle_of_entry (n := n) htree hl (by simp [hhere]), hhere⟩

theorem Place.standing_eq_found_iff {t : Standpoint} {e : Entry} :
    standing t = .found l e ↔ t.location? = some l ∧ e = .directory := by
  unfold standing
  cases t.location? <;> simp [eq_comm]

theorem Place.standing_ne_file {t : Standpoint} {content : ByteArray} {executable : Bool} :
    standing t ≠ .found l (.file content executable) := fun h => nomatch (standing_eq_found_iff.mp h).2

theorem Place.standing_ne_link {t : Standpoint} {target : String} :
    standing t ≠ .found l (.link target) := fun h => nomatch (standing_eq_found_iff.mp h).2

theorem Place.standing_ne_free {t : Standpoint} : standing t ≠ .free l := by
  unfold standing
  cases t.location? <;> simp

/-- A walk depends on what stands at the places at which it looks, and on the directory in which it
ends, if it does not end at a file. -/
theorem walk_of_way (htree : IsTree gs) {links : Nat} {s : Standpoint} {ps : List String} {e : Entry}
    (hend : e = .directory → gs.get? l = some .directory)
    (hway : ∀ m ∈ fs.way links s ps, gs.get? m = fs.get? m)
    (hw : FileSystem.walk fs .follow links s ps = .ok (.found l e)) :
    FileSystem.walk gs .follow links (s.settle gs) ps = .ok (.found l e) := by
  fun_induction FileSystem.walk fs .follow links s ps with
  | case1 links s =>
    obtain ⟨hl, rfl⟩ := Place.standing_eq_found_iff.mp (Except.ok.inj hw)
    have hd := hend rfl
    rw [← place_eq_of_location? hl] at hd
    rw [Standpoint.settle_of_hasDirectory ((hasDirectory_iff _ _).mpr hd), FileSystem.walk]
    exact hw
  | case2 links s n rest hskip ih =>
    rw [FileSystem.way, if_pos hskip] at hway
    rw [FileSystem.walk, if_pos hskip]
    exact ih hway hw
  | case3 links s rest hskip ih =>
    rw [FileSystem.way, if_neg hskip, if_pos rfl] at hway
    rw [FileSystem.walk, if_neg hskip, if_pos rfl, Standpoint.settle_up htree]
    exact ih hway hw
  | case9 links s n rest hskip hup hslash m hl here hfit hget ih =>
    obtain ⟨hs, hhere⟩ := kept_of_way htree hskip hup hl hway hget
    rw [way_at hskip hup hl, hget] at hway
    have hrest := ih (List.forall_mem_cons.mp hway).2 hw
    rw [Standpoint.settle_of_hasDirectory ((hasDirectory_iff _ _).mpr hhere)] at hrest
    rw [hs, walk_here hskip hup hl hfit, hhere]
    exact hrest
  | case10 links s n hskip hup m hl here hfit old executable hget hslash =>
    obtain ⟨hs, hhere⟩ := kept_of_way htree hskip hup hl hway hget
    rw [hs, walk_here hskip hup hl hfit, hhere]
    exact (if_pos rfl).trans hw
  | case12 links s n rest hskip hup hslash m hl here hfit target hget hinspect =>
    exact absurd hinspect.2 (by decide)
  | case15 s n rest hskip hup hslash m hl here hfit target hget hinspect links htarget ih =>
    obtain ⟨hs, hhere⟩ := kept_of_way htree hskip hup hl hway hget
    rw [way_at hskip hup hl, hget] at hway
    have hrest := ih (List.forall_mem_cons.mp hway).2 hw
    rw [dite_eq_ite, Standpoint.settle_ite_root hs] at hrest
    rw [hs, walk_here hskip hup hl hfit, hhere]
    exact (if_neg htarget).trans hrest
  | _ => cases hw

theorem forall_prefix_of_walk {P : Location → Prop} {links : Nat} {s : Standpoint} {ps : List String}
    {e : Entry} (hs : ∀ k, k <+: s.place → k ≠ [] → P k) (hway : ∀ m ∈ fs.way links s ps, P m)
    (hw : FileSystem.walk fs .follow links s ps = .ok (.found l e)) : ∀ k, k <+: l → k ≠ [] → P k := by
  have hbelow {s : Standpoint} {m : Location} {n : String} (hl : s.location? = some m)
      (hs : ∀ k, k <+: s.place → k ≠ [] → P k) (hhere : P (m ++ [n])) :
      ∀ k, k <+: m ++ [n] → k ≠ [] → P k := by
    intro k hk hne
    rcases List.prefix_concat_iff.mp hk with rfl | hk
    · exact hhere
    · exact hs k (place_eq_of_location? hl ▸ hk) hne
  fun_induction FileSystem.walk fs .follow links s ps with
  | case1 links s =>
    obtain ⟨hl, rfl⟩ := Place.standing_eq_found_iff.mp (Except.ok.inj hw)
    exact place_eq_of_location? hl ▸ hs
  | case2 links s n rest hskip ih =>
    rw [FileSystem.way, if_pos hskip] at hway
    exact ih hs hway hw
  | case3 links s rest hskip ih =>
    rw [FileSystem.way, if_neg hskip, if_pos rfl] at hway
    refine ih (fun k hk => hs k (hk.trans ?_)) hway hw
    unfold Standpoint.up
    split
    · exact List.dropLast_prefix _
    · exact List.prefix_rfl
  | case9 links s n rest hskip hup hslash m hl here hfit hget ih =>
    rw [way_at hskip hup hl, hget] at hway
    obtain ⟨hhere, hway⟩ := List.forall_mem_cons.mp hway
    exact ih (hbelow hl hs hhere) hway hw
  | case10 links s n hskip hup m hl here hfit old executable hget hslash =>
    rw [way_at hskip hup hl, hget] at hway
    obtain ⟨rfl, -⟩ := Place.found.inj (Except.ok.inj hw)
    exact hbelow hl hs (List.forall_mem_cons.mp hway).1
  | case12 links s n rest hskip hup hslash m hl here hfit target hget hinspect =>
    exact absurd hinspect.2 (by decide)
  | case15 s n rest hskip hup hslash m hl here hfit target hget hinspect links htarget ih =>
    rw [way_at hskip hup hl, hget] at hway
    refine ih ?_ (List.forall_mem_cons.mp hway).2 hw
    split
    · exact fun k hk hne => absurd (List.prefix_nil.mp hk) hne
    · exact hs
  | _ => cases hw

end Walk

theorem resolve_of_way {cwd cwd' : Standpoint} {p : String} {content : ByteArray} {executable : Bool}
    (htree : IsTree gs) (hcwd : (cwd.settle fs).settle gs = cwd'.settle gs)
    (hway : ∀ m ∈ fs.wayOf cwd p, gs.get? m = fs.get? m)
    (hr : fs.resolve cwd .follow p = .ok (.found l (.file content executable))) :
    gs.resolve cwd' .follow p = .ok (.found l (.file content executable)) := by
  rw [resolve_walks hr, ← Standpoint.settle_ite_root hcwd]
  exact walk_of_way htree nofun hway (walk_of_resolve hr)

theorem resolve_root_of_way {p : String} {e : Entry} (htree : IsTree fs) (htree' : IsTree gs)
    (hway : ∀ m ∈ fs.wayOf .root p, gs.get? m = fs.get? m)
    (hr : fs.resolve .root .follow p = .ok (.found l e)) :
    gs.resolve .root .follow p = .ok (.found l e) := by
  have hstart (ks : FileSystem) : (if isAbsolute p then Standpoint.root else Standpoint.root.settle ks) =
      .root := by rw [Standpoint.settle_root, ite_self]
  have hw := walk_of_resolve hr
  rw [wayOf, hstart] at hway
  rw [hstart] at hw
  have habove : ∀ k, k <+: l → k ≠ [] → gs.get? k = fs.get? k :=
    forall_prefix_of_walk (fun k hk hne => absurd (List.prefix_nil.mp hk) hne) hway hw
  have hend : e = .directory → gs.get? l = some .directory := by
    rintro rfl
    by_cases hl : l = []
    · rw [hl, get?_root]
    · rw [habove l List.prefix_rfl hl, resolve_eq_found htree hr]
  have hgs := walk_of_way htree' hend hway hw
  rw [Standpoint.settle_root] at hgs
  rwa [resolve_walks hr, hstart]

section Evading

variable {p q : String}

/-- On its way from the root a path comes past nothing below what another path names, nor past that
itself unless it is a directory. -/
def Evades (fs : FileSystem) (p q : String) : Prop :=
  ∀ l e, fs.resolve .root .inspect p = .ok (.found l e) →
    ∀ m ∈ fs.wayOf .root q, l <+: m → m = l ∧ e = .directory

theorem get?_emptied_of_not_prefix {m : Location} (h : ¬ l <+: m) : (fs.emptied l).get? m = fs.get? m := by
  have hl : l ≠ [] := by
    rintro rfl
    exact h m.nil_prefix
  have hne : m ≠ l := fun he => h (he ▸ List.prefix_rfl)
  rw [emptied, get?_insert _ _ hl, if_neg hne, get?_removeTree _ hl, if_neg h]

theorem get?_emptied_self (fs : FileSystem) (l : Location) : (fs.emptied l).get? l = some .directory := by
  by_cases hl : l = []
  · rw [hl, get?_root]
  · rw [emptied, get?_insert _ _ hl, if_pos rfl]

theorem isTree_emptied (htree : IsTree fs) (hl : fs.get? l ≠ none) : IsTree (fs.emptied l) := by
  rcases List.eq_nil_or_concat l with rfl | ⟨k, n, rfl⟩
  · have hget {m : Location} (hm : (fs.emptied []).get? m ≠ none) : m = [] := by
      obtain ⟨e, he⟩ := Option.ne_none_iff_exists'.mp hm
      exact (get?_emptied he).elim And.left fun h => absurd m.nil_prefix h.1
    constructor
    · intro m hm
      simp [hget hm]
    · intro m n hm
      exact absurd (hget hm) (by simp)
  · rw [List.concat_eq_append] at hl ⊢
    have hn : IsName n := htree.isName hl n (by simp)
    have hk : (fs.removeTree (k ++ [n])).get? k = some .directory := by
      rw [get?_removeTree _ (by simp), if_neg fun h => absurd h.length_le (by simp), htree.parent hl]
    exact (htree.removeTree (by simp)).insert hk hn (.inl rfl)

theorem Evades.resolve_cleared {e : Entry} (hev : fs.Evades p q) (htree : IsTree fs)
    (hr : fs.resolve .root .follow q = .ok (.found l e)) :
    (fs.cleared p).resolve .root .follow q = .ok (.found l e) := by
  unfold cleared
  split
  · next k d hp =>
    have hk := resolve_eq_found htree hp
    refine resolve_root_of_way htree (isTree_emptied htree (by simp [hk])) (fun m hm => ?_) hr
    by_cases hbelow : k <+: m
    · obtain ⟨rfl, rfl⟩ := hev k d hp m hm hbelow
      rw [get?_emptied_self, hk]
    · exact get?_emptied_of_not_prefix hbelow
  · exact hr

theorem Evades.isFile_cleared (hev : fs.Evades p q) (htree : IsTree fs)
    (hfile : fs.isFile .root q = true) : (fs.cleared p).isFile .root q = true := by
  obtain ⟨l, content, executable, hr⟩ := isFile_iff_resolve.mp hfile
  exact isFile_iff_resolve.mpr ⟨l, content, executable, hev.resolve_cleared htree hr⟩

theorem Evades.isDirectory_cleared (hev : fs.Evades p q) (htree : IsTree fs)
    (habs : isAbsolute q = true) (hd : fs.isDirectory .root q = true) :
    (fs.cleared p).isDirectory .root q = true := by
  obtain ⟨l, hr⟩ := (isDirectory_iff_resolve habs).mp hd
  exact (isDirectory_iff_resolve habs).mpr ⟨l, hev.resolve_cleared htree hr⟩

theorem prefix_of_mem_way (hlinks : ∀ m target, fs.get? m ≠ some (.link target)) {links : Nat}
    {k : Location} {ps : List String} (hup : ".." ∉ ps.filter leads) :
    ∀ m ∈ fs.way links (.ofPlace k) ps, m <+: k ++ ps.filter leads := by
  induction ps generalizing k with
  | nil => simp [way]
  | cons n rest ih =>
    by_cases hskip : n = "" ∨ n = "."
    · have hlead : leads n = false := by rcases hskip with rfl | rfl <;> rfl
      rw [List.filter_cons_of_neg (by simp [hlead])] at hup ⊢
      rw [way, if_pos hskip]
      exact ih hup
    · have hlead : leads n = true := leads_iff.mpr (not_or.mp hskip)
      rw [List.filter_cons_of_pos hlead] at hup ⊢
      rw [List.mem_cons, not_or] at hup
      have hl : (Standpoint.ofPlace k).location? = some k := rfl
      have hplace : k ++ n :: rest.filter leads = k ++ [n] ++ rest.filter leads := by simp
      rw [way_at hskip (Ne.symm hup.1) hl, List.forall_mem_cons, hplace]
      refine ⟨List.prefix_append _ _, ?_⟩
      cases hget : fs.get? (k ++ [n]) with
      | none => simp
      | some e =>
        cases e with
        | file content executable => simp
        | link target => exact absurd hget (hlinks _ target)
        | directory => exact ih hup.2

theorem Ground.evades (h : Ground fs []) (hp : Straight p) (hq : Straight q)
    (hapart : ¬ locate [] p <+: locate [] q) : Evades fs p q := by
  intro l e hr m hm hl
  obtain ⟨rfl, -⟩ := h.resolve_eq_found hp hr
  have hstart : (if isAbsolute q then Standpoint.root else Standpoint.root.settle fs) = .ofPlace [] := by
    rw [Standpoint.settle_root, ite_self]
    rfl
  rw [wayOf, hstart] at hm
  have hprefix := prefix_of_mem_way h.linkFree hq m hm
  have horigin : origin [] q = [] := ite_self _
  rw [locate_eq hq, horigin] at hapart
  exact absurd (hl.trans hprefix) hapart

end Evading

end FileSystem

end FlutterInstaller
