import FlutterInstaller.Proofs.FileSystem.Passage
import Mathlib.Data.List.TakeWhile

/-!
What follows the last name of a path. Slashes and `.` pieces at its end lead on to the same directory and
to nothing else, so a path leads to a directory exactly when its names do, if the system takes it.
-/
namespace FlutterInstaller.FileSystem

open FlutterInstaller.Path

variable {fs gs : FileSystem} {purpose : Purpose} {links : Nat} {s t : Standpoint}
  {ps tail : List String} {l : Location}

section Walk

theorem exists_trail (ps : List String) :
    ∃ init tail, ps = init ++ tail ∧ tail.filter leads = [] ∧ (init = [] ∨ EndsInName init) := by
  induction ps using List.reverseRecOn with
  | nil => exact ⟨[], [], rfl, rfl, .inl rfl⟩
  | append_singleton ps n ih =>
    obtain ⟨init, tail, rfl, htail, hinit⟩ := ih
    cases hn : leads n with
    | true => exact ⟨init ++ tail ++ [n], [], by simp, rfl, .inr ⟨_, n, rfl, hn⟩⟩
    | false => exact ⟨init, tail ++ [n], by simp, by simp [htail, hn], hinit⟩

theorem walk_of_idle (htail : tail.filter leads = []) :
    walk fs purpose links s tail = .ok (.standing s) := by
  induction tail with
  | nil => rw [walk, Place.standing]
  | cons n tail ih =>
    have hn : leads n = false := by
      by_contra hn
      simp [hn] at htail
    rw [walk_skip hn]
    exact ih (by simpa [hn] using htail)

theorem walk_trail (htail : tail.filter leads = []) :
    walk fs .follow links s (ps ++ tail) = .ok (.standing t) ↔
      walk fs .follow links s ps = .ok (.standing t) := by
  have hslash (qs : List String) : ¬ (Purpose.follow = .write ∧ qs ≠ [] ∧ qs.all (· = "")) := by simp
  have hfree (b : Bool) (m : Location) :
      (if b = true then (.ok (.free m) : Except OsError Place) else .error .notFound) ≠
        .ok (.standing t) := by
    split
    · exact fun h => Place.standing_ne_free (Except.ok.inj h).symm
    · simp
  have hfile {content : ByteArray} {executable : Bool} (qs : List String) (m : Location) :
      (if qs = [] then (.ok (.found m (.file content executable)) : Except OsError Place)
        else .error .notDirectory) ≠ .ok (.standing t) := by
    split
    · exact fun h => Place.standing_ne_file (Except.ok.inj h).symm
    · simp
  fun_induction walk fs .follow links s ps with
  | case1 links s => rw [List.nil_append, walk_of_idle htail, Place.standing]
  | case2 links s n ps hskip ih =>
    rw [List.cons_append, walk, if_pos hskip]
    exact ih
  | case3 links s ps hskip ih =>
    rw [List.cons_append, walk, if_neg hskip, if_pos rfl]
    exact ih
  | case4 links s n ps hskip hup hwrite => exact absurd hwrite.1 (by decide)
  | case5 links s n ps hskip hup hwrite hl =>
    rw [List.cons_append, walk_of_none hskip hup (hslash _) hl]
  | case6 links s n ps hskip hup hwrite m hl hlong =>
    rw [List.cons_append, walk, if_neg hskip, if_neg hup, if_neg (hslash _), hl]
    dsimp only
    rw [if_pos hlong]
  | case7 links s n ps hskip hup hwrite m hl here hfit hget hall =>
    rw [List.cons_append, walk_here hskip hup hl hfit, hget]
    exact iff_of_false (hfree _ _) fun h => Place.standing_ne_free (Except.ok.inj h).symm
  | case8 links s n ps hskip hup hwrite m hl here hfit hget hall =>
    rw [List.cons_append, walk_here hskip hup hl hfit, hget]
    exact iff_of_false (hfree _ _) (by simp)
  | case9 links s n ps hskip hup hwrite m hl here hfit hget ih =>
    rw [List.cons_append, walk_here hskip hup hl hfit, hget]
    exact ih
  | case10 links s n hskip hup m hl here hfit content executable hget hwrite =>
    rw [List.cons_append, walk_here hskip hup hl hfit, hget]
    exact iff_of_false (hfile _ _) fun h => Place.standing_ne_file (Except.ok.inj h).symm
  | case11 links s n ps hskip hup hwrite m hl here hfit content executable hget hps =>
    rw [List.cons_append, walk_here hskip hup hl hfit, hget]
    exact iff_of_false (hfile _ _) (by simp)
  | case12 links s n ps hskip hup hwrite m hl here hfit target hget hinspect =>
    exact absurd hinspect.2 (by decide)
  | case13 s n ps hskip hup hwrite m hl here hfit target hget hinspect =>
    rw [List.cons_append, walk_here hskip hup hl hfit, hget]
  | case14 s n ps hskip hup hwrite m hl here hfit hinspect links hget =>
    rw [List.cons_append, walk_here hskip hup hl hfit, hget]
    simp
  | case15 s n ps hskip hup hwrite m hl here hfit target hget hinspect links htarget ih =>
    rw [List.cons_append, walk_here hskip hup hl hfit, hget]
    dsimp only
    rw [if_neg htarget, ← List.append_assoc]
    exact ih

theorem EndsInName.of_append {qs : List String} (h : EndsInName (qs ++ ps)) (hps : ps ≠ []) :
    EndsInName ps := by
  induction qs with
  | nil => exact h
  | cons q qs ih => exact ih (h.of_cons (by simp [hps]))

theorem EndsBelow.of_append {qs : List String} (h : EndsBelow (qs ++ ps)) (hps : ps ≠ []) :
    EndsBelow ps := by
  induction qs with
  | nil => exact h
  | cons q qs ih => exact ih (h.of_cons (by simp [hps]))

theorem walk_inspect_eq_follow (h : ¬ EndsInName ps) :
    walk fs .inspect links s ps = walk fs .follow links s ps := by
  fun_induction walk fs .inspect links s ps with
  | case1 links s => rw [walk]
  | case2 links s n ps hskip ih =>
    rw [walk, if_pos hskip]
    exact ih fun hend => h hend.cons
  | case3 links s ps hskip ih =>
    rw [walk, if_neg hskip, if_pos rfl]
    exact ih fun hend => h hend.cons
  | case4 links s n ps hskip hup hwrite => exact absurd hwrite.1 (by decide)
  | case5 links s n ps hskip hup hwrite hl => rw [walk_of_none hskip hup (by simp) hl]
  | case6 links s n ps hskip hup hwrite m hl hlong =>
    rw [walk, if_neg hskip, if_neg hup, if_neg (by simp), hl]
    exact (if_pos hlong).symm
  | case7 links s n ps hskip hup hwrite m hl here hfit hget hall =>
    rw [walk_here hskip hup hl hfit, hget]
    exact (if_pos hall).symm
  | case8 links s n ps hskip hup hwrite m hl here hfit hget hall =>
    rw [walk_here hskip hup hl hfit, hget]
    exact (if_neg hall).symm
  | case9 links s n ps hskip hup hwrite m hl here hfit hget ih =>
    rw [walk_here hskip hup hl hfit, hget]
    exact ih fun hend => h hend.cons
  | case10 links s n hskip hup m hl here hfit content executable hget hwrite =>
    rw [walk_here hskip hup hl hfit, hget]
    exact (if_pos rfl).symm
  | case11 links s n ps hskip hup hwrite m hl here hfit content executable hget hps =>
    rw [walk_here hskip hup hl hfit, hget]
    exact (if_neg hps).symm
  | case12 links s n ps hskip hup hwrite m hl here hfit target hget hinspect =>
    rw [hinspect.1] at h
    exact absurd ⟨[], n, rfl, leads_iff.mpr (not_or.mp hskip)⟩ h
  | case13 s n ps hskip hup hwrite m hl here hfit target hget hinspect =>
    rw [walk_here hskip hup hl hfit, hget]
  | case14 s n ps hskip hup hwrite m hl here hfit hinspect links hget =>
    rw [walk_here hskip hup hl hfit, hget]
    exact (if_pos rfl).symm
  | case15 s n ps hskip hup hwrite m hl here hfit target hget hinspect links htarget ih =>
    rw [walk_here hskip hup hl hfit, hget]
    have hps : ps ≠ [] := fun hps => hinspect ⟨hps, rfl⟩
    exact (ih fun hend => h (hend.of_append hps).cons).trans (if_neg htarget).symm

theorem endsBelow_of_walk {place : Place} (hw : walk fs .inspect links s ps = .ok place)
    (hplace : ∀ t, place ≠ .standing t) (hlast : ∀ l, place = .free l → ps.getLast? ≠ some "") :
    EndsBelow ps := by
  have hrest {links : Nat} {s : Standpoint} {n : String} {ps : List String}
      (hw : walk fs .inspect links s ps = .ok place)
      (hlast : ∀ l, place = .free l → (n :: ps).getLast? ≠ some "") :
      ∀ l, place = .free l → ps.getLast? ≠ some "" := by
    have hps : ps ≠ [] := by
      rintro rfl
      rw [walk] at hw
      exact hplace s (Except.ok.inj hw).symm
    rwa [List.getLast?_cons_of_ne_nil hps] at hlast
  have hname {n : String} (hskip : ¬ (n = "" ∨ n = ".")) (hup : n ≠ "..") : EndsBelow [n] :=
    ⟨[], n, rfl, leads_iff.mpr (not_or.mp hskip), hup⟩
  fun_induction walk fs .inspect links s ps with
  | case1 links s => exact absurd (Except.ok.inj hw).symm (hplace s)
  | case2 links s n ps hskip ih => exact (ih hw (hrest hw hlast)).append [n]
  | case3 links s ps hskip ih => exact (ih hw (hrest hw hlast)).append [".."]
  | case7 links s n ps hskip hup hwrite m hl here hfit hget hall =>
    have hps : ps = [] := by
      by_contra hne
      have hslash := hlast here (Except.ok.inj hw).symm
      rw [List.getLast?_cons_of_ne_nil hne, List.getLast?_eq_some_getLast hne] at hslash
      have hempty := List.all_eq_true.mp hall _ (List.getLast_mem hne)
      exact hslash (by simpa using hempty)
    exact hps ▸ hname hskip hup
  | case9 links s n ps hskip hup hwrite m hl here hfit hget ih =>
    exact (ih hw (hrest hw hlast)).append [n]
  | case10 links s n hskip hup m hl here hfit content executable hget hwrite => exact hname hskip hup
  | case12 links s n ps hskip hup hwrite m hl here hfit target hget hinspect =>
    exact hinspect.1 ▸ hname hskip hup
  | case15 s n ps hskip hup hwrite m hl here hfit target hget hinspect links htarget ih =>
    have hps : ps ≠ [] := fun hps => hinspect ⟨hps, rfl⟩
    have hend : ∀ l, place = .free l → (pieces target ++ ps).getLast? ≠ some "" := by
      rw [List.getLast?_cons_of_ne_nil hps] at hlast
      rwa [List.getLast?_append_of_ne_nil _ hps]
    exact ((ih hw hend).of_append hps).append [n]
  | _ => cases hw

end Walk

section Slash

variable {p q : String}

theorem pieces_append_slashes (s : String) (k : Nat) :
    pieces (s ++ String.ofList (List.replicate k '/')) = pieces s ++ List.replicate k "" := by
  induction k with
  | zero => simp
  | succ k ih =>
    have hslash : s ++ String.ofList (List.replicate (k + 1) '/') =
        s ++ String.ofList (List.replicate k '/') ++ "/" ++ "" :=
      String.toList_inj.mp (by simp [List.replicate_succ'])
    have hempty : pieces "" = [""] := by decide
    rw [hslash, pieces, Text.pieces_append rfl, ← pieces, ih, ← pieces, hempty, List.append_assoc,
      List.replicate_succ']

theorem pieces_ne_nil (p : String) : pieces p ≠ [] :=
  List.ne_nil_of_length_pos (by rw [pieces, Text.length_pieces]; exact Nat.succ_pos _)

theorem pieces_of_slashes (h : ∀ c ∈ p.toList, c = '/') :
    pieces p = List.replicate (p.toList.length + 1) "" := by
  have hp : p = "" ++ String.ofList (List.replicate p.toList.length '/') :=
    String.toList_inj.mp (by simpa using List.eq_replicate_of_mem h)
  have hempty : pieces "" = [""] := by decide
  conv_lhs => rw [hp, pieces_append_slashes, hempty]
  rfl

theorem getLast?_pieces_ne_empty {s : String} (hs : s ≠ "") (hlast : s.toList.getLast? ≠ some '/') :
    (pieces s).getLast? ≠ some "" := by
  obtain ⟨last, hslash, hcs, hrest⟩ := exists_append_dropWhile s.toList.reverse
  have hs' : s.toList = (s.toList.reverse.dropWhile (· ≠ '/')).reverse ++ last.reverse := by
    rw [← List.reverse_append, ← hcs, List.reverse_reverse]
  have hslash' : '/' ∉ (String.ofList last.reverse).toList := by simpa using hslash
  have hne : String.ofList last.reverse ≠ "" := by
    intro hempty
    obtain rfl : last = [] := by simpa using hempty
    rcases hrest with hrest | ⟨rest, hrest⟩
    · rw [hrest] at hs'
      exact hs (String.toList_inj.mp hs')
    · exact hlast (by rw [hs', hrest]; simp)
  rcases hrest with hrest | ⟨rest, hrest⟩
  · rw [hrest] at hs'
    obtain rfl : s = String.ofList last.reverse := String.toList_inj.mp (by simpa using hs')
    rw [pieces, Text.pieces_eq_singleton hslash']
    simpa using hne
  · have hsplit : s = String.ofList rest.reverse ++ "/" ++ String.ofList last.reverse :=
      String.toList_inj.mp (by rw [hs', hrest]; simp)
    rw [hsplit, pieces, Text.pieces_append rfl, Text.pieces_eq_singleton hslash', List.getLast?_concat]
    simpa using hne

theorem withoutSlash_cases (p : String) :
    withoutSlash p = p ∧ (pathLimit ≤ p.utf8ByteSize ∨ ∀ c ∈ p.toList, c = '/') ∨
      p.utf8ByteSize < pathLimit ∧
        (∃ k, p = withoutSlash p ++ String.ofList (List.replicate k '/')) ∧
        withoutSlash p ≠ "" ∧ (withoutSlash p).toList.getLast? ≠ some '/' := by
  have hsplit : p.toList = (p.toList.reverse.dropWhile (· = '/')).reverse ++
      (p.toList.reverse.takeWhile (· = '/')).reverse := by
    rw [← List.reverse_append, List.takeWhile_append_dropWhile, List.reverse_reverse]
  have hslashes : ∀ c ∈ (p.toList.reverse.takeWhile (· = '/')).reverse, c = '/' := by
    intro c hc
    simpa using List.mem_takeWhile_imp (List.mem_reverse.mp hc)
  have hhead : (p.toList.reverse.dropWhile (· = '/')).reverse.getLast? ≠ some '/' := by
    rw [List.getLast?_reverse]
    intro h
    have hnot := List.head?_dropWhile_not (· = '/') p.toList.reverse
    rw [h] at hnot
    simp at hnot
  unfold withoutSlash
  split
  · next hlong => exact .inl ⟨rfl, .inl hlong⟩
  · next hshort =>
    generalize (p.toList.reverse.dropWhile (· = '/')).reverse = cs at hsplit hhead
    generalize (p.toList.reverse.takeWhile (· = '/')).reverse = slashes at hsplit hslashes
    cases cs with
    | nil =>
      refine .inl ⟨String.ofList_toList, .inr fun c hc => hslashes c ?_⟩
      rwa [hsplit] at hc
    | cons c cs =>
      refine .inr ⟨Nat.not_le.mp hshort, ⟨slashes.length, String.toList_inj.mp ?_⟩, by simp,
        by simpa using hhead⟩
      rw [hsplit, ← List.eq_replicate_of_mem hslashes]
      simp

theorem withoutSlash_ne_empty (h : p ≠ "") : withoutSlash p ≠ "" := by
  rcases withoutSlash_cases p with ⟨heq, -⟩ | ⟨-, -, hne, -⟩
  · rwa [heq]
  · exact hne

theorem exists_pieces_withoutSlash (p : String) :
    ∃ k, pieces p = pieces (withoutSlash p) ++ List.replicate k "" := by
  rcases withoutSlash_cases p with ⟨heq, -⟩ | ⟨-, ⟨k, hk⟩, -⟩
  · exact ⟨0, by rw [heq, List.replicate_zero, List.append_nil]⟩
  · exact ⟨k, by rw [← pieces_append_slashes, ← hk]⟩

theorem route_withoutSlash (p : String) : route (withoutSlash p) = route p := by
  obtain ⟨k, hk⟩ := exists_pieces_withoutSlash p
  have hnames : Path.names (withoutSlash p) = Path.names p := by
    have hempty : leads "" = false := rfl
    rw [Path.names, Path.names, hk, List.filter_append, List.filter_replicate, if_neg (by simp [hempty]),
      List.append_nil]
  have habs : isAbsolute p = isAbsolute (withoutSlash p) := by
    rcases withoutSlash_cases p with ⟨heq, -⟩ | ⟨-, ⟨k, hk⟩, hne, -⟩
    · rw [heq]
    · conv_lhs => rw [hk, isAbsolute_append hne]
  rw [route, route, hnames, habs]

end Slash

section Lookup

variable {cwd : Standpoint} {p q : String}

/-- A path that the system walks. -/
structure Taken (p : String) : Prop where
  noNul : '\x00' ∉ p.toList
  nonempty : p ≠ ""
  short : p.utf8ByteSize < pathLimit

theorem Taken.resolve_eq (h : Taken p) (fs : FileSystem) (cwd : Standpoint) (purpose : Purpose) :
    fs.resolve cwd purpose p =
      walk fs purpose linkLimit (if isAbsolute p then .root else cwd.settle fs) (pieces p) := by
  rw [resolve, if_neg (by simp [h.noNul]), if_neg h.nonempty, if_neg h.short.not_ge]

theorem taken_of_resolve {place : Place} (hr : fs.resolve cwd purpose p = .ok place) : Taken p := by
  unfold resolve at hr
  split at hr
  · cases hr
  · next hnul =>
    split at hr
    · cases hr
    · next hne =>
      split at hr
      · cases hr
      · next hshort => exact ⟨by simpa using hnul, hne, Nat.not_le.mp hshort⟩

theorem taken_withoutSlash : Taken (withoutSlash p) ↔ Taken p := by
  rcases withoutSlash_cases p with ⟨heq, -⟩ | ⟨hshort, ⟨k, hk⟩, hne, -⟩
  · rw [heq]
  · have hsize : (withoutSlash p).utf8ByteSize ≤ p.utf8ByteSize := by
      conv_rhs => rw [hk, String.utf8ByteSize_append]
      exact Nat.le_add_right _ _
    have hnul : '\x00' ∈ p.toList ↔ '\x00' ∈ (withoutSlash p).toList := by
      conv_lhs => rw [hk]
      simp
    have hempty : p ≠ "" := by
      rintro rfl
      exact hne (by decide)
    exact ⟨fun h => ⟨fun hp => h.noNul (hnul.mp hp), hempty, hshort⟩,
      fun h => ⟨fun hp => h.noNul (hnul.mpr hp), hne, hsize.trans_lt hshort⟩⟩

theorem resolve_eq_standing_iff : fs.resolve cwd .follow p = .ok (.standing t) ↔
    Taken p ∧ walk fs .follow linkLimit (if isAbsolute p then .root else cwd.settle fs)
      (Path.names p) = .ok (.standing t) := by
  obtain ⟨init, tail, hp, htail, hinit⟩ := exists_trail (pieces p)
  have hnames : Path.names p = init.filter leads := by
    rw [Path.names, hp, List.filter_append, htail, List.append_nil]
  have hempty : init.filter leads = [] ∨ EndsInName init :=
    hinit.imp_left fun h => by rw [h, List.filter_nil]
  have hwalk (s : Standpoint) : walk fs .follow linkLimit s (pieces p) = .ok (.standing t) ↔
      walk fs .follow linkLimit s (Path.names p) = .ok (.standing t) := by
    rw [hp, walk_trail htail, walk_filter hempty, hnames]
  constructor
  · intro hr
    have htaken := taken_of_resolve hr
    rw [htaken.resolve_eq, hwalk] at hr
    exact ⟨htaken, hr⟩
  · rintro ⟨htaken, ht⟩
    rwa [htaken.resolve_eq, hwalk]

theorem isDirectory_iff_walk : fs.isDirectory cwd p = true ↔
    Taken p ∧ ∃ t, walk fs .follow linkLimit (if isAbsolute p then .root else cwd.settle fs)
      (Path.names p) = .ok (.standing t) := by
  rw [isDirectory_iff_standing]
  simp only [resolve_eq_standing_iff, exists_and_left]

theorem isDirectory_of_parent?_eq_none (hparent : parent? p = none) (hne : p ≠ "")
    (hshort : p.utf8ByteSize < pathLimit) : fs.isDirectory cwd p = true := by
  have htaken : Taken p := ⟨fun hnul => by simpa using mem_of_parent?_eq_none hparent hnul, hne, hshort⟩
  rw [isDirectory_iff_walk, names_of_parent?_eq_none hparent, walk_of_idle rfl]
  exact ⟨htaken, _, rfl⟩

theorem isDirectory_of_route (hroute : route q = route p) (hq : Taken q)
    (hd : fs.isDirectory cwd p = true) : fs.isDirectory cwd q = true := by
  obtain ⟨-, t, ht⟩ := isDirectory_iff_walk.mp hd
  have habs : isAbsolute q = isAbsolute p := congrArg Prod.fst hroute
  have hnames : Path.names q = Path.names p := congrArg Prod.snd hroute
  exact isDirectory_iff_walk.mpr ⟨hq, t, by rwa [habs, hnames]⟩

theorem isDirectory_withoutSlash : fs.isDirectory cwd (withoutSlash p) = fs.isDirectory cwd p := by
  have hroute := route_withoutSlash p
  rw [Bool.eq_iff_iff]
  constructor <;> intro hd
  · exact isDirectory_of_route hroute.symm (taken_withoutSlash.mp (isDirectory_iff_walk.mp hd).1) hd
  · exact isDirectory_of_route hroute (taken_withoutSlash.mpr (isDirectory_iff_walk.mp hd).1) hd

theorem resolve_of_withoutSlash (hp : purpose ≠ .write)
    (hr : fs.resolve cwd purpose (withoutSlash p) = .ok (.standing t)) :
    fs.resolve cwd purpose p = .ok (.standing t) := by
  have htaken := taken_of_resolve hr
  have habs : isAbsolute (withoutSlash p) = isAbsolute p := congrArg Prod.fst (route_withoutSlash p)
  obtain ⟨k, hk⟩ := exists_pieces_withoutSlash p
  rw [htaken.resolve_eq, habs] at hr
  rw [(taken_withoutSlash.mp htaken).resolve_eq, hk]
  cases k with
  | zero => rwa [List.replicate_zero, List.append_nil]
  | succ k =>
    have hslash : ¬ EndsInName (pieces (withoutSlash p) ++ List.replicate (k + 1) "") := by
      intro hend
      obtain ⟨init, n, hn, hleads⟩ := hend.of_append (by simp)
      rw [List.replicate_succ'] at hn
      rw [← (List.cons.inj (List.append_inj' hn rfl).2).1] at hleads
      cases hleads
    have hidle : (List.replicate (k + 1) "").filter leads = [] := by
      rw [List.filter_replicate, if_neg (by decide)]
    have hfollow : walk fs .follow linkLimit (if isAbsolute p then .root else cwd.settle fs)
        (pieces (withoutSlash p)) = .ok (.standing t) := by
      cases purpose with
      | follow => exact hr
      | inspect =>
        exact walk_follow_of_inspect hr fun l target h =>
          Place.standing_ne_link (Except.ok.inj h)
      | write => exact absurd rfl hp
    have hwalk := (walk_trail hidle).mpr hfollow
    cases purpose with
    | follow => exact hwalk
    | inspect => rwa [walk_inspect_eq_follow hslash]
    | write => exact absurd rfl hp

theorem lastPiece?_eq {init : List String} {n : String} (hn : n ≠ "")
    (hp : pieces (withoutSlash p) = init ++ [n]) : lastPiece? p = some n := by
  obtain ⟨k, hk⟩ := exists_pieces_withoutSlash p
  rw [lastPiece?, hk, hp, List.filter_append, List.filter_replicate, if_neg (by simp), List.append_nil,
    List.filter_append, List.filter_cons_of_pos (by simpa using hn), List.filter_nil, List.getLast?_concat]

theorem lastPiece?_of_endsBelow (h : EndsBelow (pieces (withoutSlash p))) :
    lastPiece? p ≠ some "." ∧ lastPiece? p ≠ some ".." := by
  obtain ⟨init, n, hp, hn, hup⟩ := h
  obtain ⟨hempty, hdot⟩ := leads_iff.mp hn
  rw [lastPiece?_eq hempty hp]
  exact ⟨by simpa using hdot, by simpa using hup⟩

theorem idle_or_endsBelow (h : Taken p) (hdot : lastPiece? p ≠ some ".")
    (hup : lastPiece? p ≠ some "..") :
    isAbsolute p = true ∧ (pieces (withoutSlash p)).filter leads = [] ∨
      EndsBelow (pieces (withoutSlash p)) := by
  rcases withoutSlash_cases p with ⟨heq, hlong | hslashes⟩ | ⟨-, -, hne, hlast⟩
  · exact absurd h.short hlong.not_gt
  · refine .inl ⟨?_, ?_⟩
    · cases hp : p.toList with
      | nil => exact absurd (String.toList_inj.mp hp) h.nonempty
      | cons c cs =>
        have hc := hslashes c (by simp [hp])
        simp [isAbsolute, hp, hc]
    · rw [heq, pieces_of_slashes hslashes, List.filter_replicate, if_neg (by decide)]
  · obtain ⟨init, n, hn⟩ := (List.eq_nil_or_concat' (pieces (withoutSlash p))).resolve_left
      (pieces_ne_nil _)
    have hempty := getLast?_pieces_ne_empty hne hlast
    rw [hn, List.getLast?_concat] at hempty
    have hname : n ≠ "" := by simpa using hempty
    rw [lastPiece?_eq hname hn] at hdot hup
    exact .inr ⟨init, n, hn, leads_iff.mpr ⟨hname, by simpa using hdot⟩, by simpa using hup⟩

theorem endsBelow_of_free (hr : fs.resolve cwd .inspect (withoutSlash p) = .ok (.free l)) :
    EndsBelow (pieces (withoutSlash p)) := by
  have hw := walk_of_resolve hr
  refine endsBelow_of_walk hw (fun t => Place.standing_ne_free.symm) fun _ _ => ?_
  rcases withoutSlash_cases p with ⟨heq, hlong | hslashes⟩ | ⟨-, -, hne, hlast⟩
  · exact absurd (heq ▸ taken_of_resolve hr).short hlong.not_gt
  · have hidle : (pieces (withoutSlash p)).filter leads = [] := by
      rw [heq, pieces_of_slashes hslashes, List.filter_replicate, if_neg (by decide)]
    rw [walk_of_idle hidle] at hw
    exact absurd (Except.ok.inj hw) Place.standing_ne_free
  · exact getLast?_pieces_ne_empty hne hlast

theorem endsBelow_of_link {target : String}
    (hr : fs.resolve cwd .inspect p = .ok (.found l (.link target))) : EndsBelow (pieces p) :=
  endsBelow_of_walk (walk_of_resolve hr) (fun t => Place.standing_ne_link.symm) fun _ h => by cases h

end Lookup

end FlutterInstaller.FileSystem
