import FlutterInstaller.Proofs.FileSystem.Way
import FlutterInstaller.Proofs.Path.Entry

/-!
Following a path in two parts. What stands before the last name of a path is followed first, through any
links; the name is then looked up in the directory to which that leads.
-/
namespace FlutterInstaller.FileSystem

open FlutterInstaller.Path

variable {fs : FileSystem} {purpose : Purpose} {links : Nat} {s : Standpoint} {ps rest : List String}

def EndsBelow (ps : List String) : Prop := ∃ init n, ps = init ++ [n] ∧ leads n = true ∧ n ≠ ".."

namespace EndsBelow

theorem endsInName (h : EndsBelow ps) : EndsInName ps := by
  obtain ⟨init, n, hps, hn, -⟩ := h
  exact ⟨init, n, hps, hn⟩

theorem of_cons {n : String} (h : EndsBelow (n :: ps)) (hps : ps ≠ []) : EndsBelow ps := by
  obtain ⟨init, last, heq, hlast⟩ := h
  cases init with
  | nil => exact absurd (List.cons.inj heq).2 hps
  | cons m init => exact ⟨init, last, (List.cons.inj heq).2, hlast⟩

theorem of_skip {n : String} (h : EndsBelow (n :: ps)) (hskip : (n = "" ∨ n = ".") ∨ n = "..") :
    EndsBelow ps := by
  refine h.of_cons ?_
  rintro rfl
  obtain ⟨init, last, heq, hlast, hup⟩ := h
  have hn : n = last := by
    rw [← List.nil_append [n]] at heq
    simpa using (List.append_inj' heq rfl).2
  rcases hskip with hskip | hskip
  · rw [← hn, not_leads_iff.mpr hskip] at hlast
    cases hlast
  · exact hup (hn ▸ hskip)

theorem append (h : EndsBelow ps) (qs : List String) : EndsBelow (qs ++ ps) := by
  obtain ⟨init, n, rfl, hn⟩ := h
  exact ⟨qs ++ init, n, by simp, hn⟩

end EndsBelow

theorem EndsInName.append (h : EndsInName ps) (qs : List String) : EndsInName (qs ++ ps) := by
  obtain ⟨init, n, rfl, hn⟩ := h
  exact ⟨qs ++ init, n, by simp, hn⟩

theorem EndsInName.ne_nil (h : EndsInName ps) : ps ≠ [] := by
  rintro rfl
  exact h.filter_ne_nil rfl

theorem EndsInName.filter (h : EndsInName ps) : EndsInName (ps.filter leads) := by
  obtain ⟨init, n, rfl, hn⟩ := h
  exact ⟨init.filter leads, n, by simp [hn], hn⟩

theorem walk_congr_rest {n : String} {rest' : List String} (hrest : EndsInName rest)
    (hrest' : EndsInName rest')
    (hdown : ∀ t, walk fs purpose links t rest = walk fs purpose links t rest')
    (hlinks : ∀ k < links, ∀ t target, walk fs purpose k t (pieces target ++ rest) =
      walk fs purpose k t (pieces target ++ rest')) :
    walk fs purpose links s (n :: rest) = walk fs purpose links s (n :: rest') := by
  have hslash {ps : List String} (hps : EndsInName ps) :
      ¬ (purpose = .write ∧ ps ≠ [] ∧ ps.all (· = "") = true) := by
    rw [hps.not_all_empty]
    simp
  rw [walk, walk, hdown s, hdown s.up, if_neg (hslash hrest), if_neg (hslash hrest')]
  cases s.location? with
  | none => rfl
  | some l =>
    dsimp only
    cases fs.get? (l ++ [n]) with
    | none => simp only [hrest.not_all_empty, hrest'.not_all_empty]
    | some e =>
      cases e with
      | directory => simp only [hdown]
      | file content executable => simp only [hrest.ne_nil, hrest'.ne_nil]
      | link target =>
        cases links with
        | zero => simp only [hrest.ne_nil, hrest'.ne_nil]
        | succ k => simp only [hrest.ne_nil, hrest'.ne_nil, hlinks k (Nat.lt_succ_self k)]

theorem walk_filter (h : ps.filter leads = [] ∨ EndsInName ps) :
    walk fs purpose links s ps = walk fs purpose links s (ps.filter leads) := by
  induction links using Nat.strong_induction_on generalizing s ps with
  | _ links ihLinks =>
    induction ps generalizing s with
    | nil => rfl
    | cons n ps ih =>
      cases hn : leads n with
      | false =>
        rw [List.filter_cons_of_neg (by simp [hn])] at h ⊢
        rw [walk_skip hn]
        by_cases hps : ps = []
        · rw [hps]
          rfl
        · exact ih (h.imp_right fun h => h.of_cons hps)
      | true =>
        rw [List.filter_cons_of_pos hn]
        by_cases hps : ps = []
        · rw [hps]
          rfl
        · have hend := (h.resolve_left (by simp [hn])).of_cons hps
          refine walk_congr_rest hend hend.filter (fun t => ih (.inr hend)) fun k hk t target => ?_
          have hfilter : (pieces target ++ ps.filter leads).filter leads =
              (pieces target ++ ps).filter leads := by simp
          rw [ihLinks k hk (.inr (hend.append _)), ihLinks k hk (.inr (hend.filter.append _)), hfilter]

theorem walk_append (hrest : EndsInName rest) (links : Nat) (s : Standpoint) (ps : List String) :
    (∃ t k, walk fs .follow links s ps = .ok (.standing t) ∧
        ∀ purpose, walk fs purpose links s (ps ++ rest) = walk fs purpose k t rest) ∨
      (∀ t, walk fs .follow links s ps ≠ .ok (.standing t)) ∧
        ∀ purpose, ∃ e, walk fs purpose links s (ps ++ rest) = .error e := by
  have hslash (qs : List String) (purpose : Purpose) :
      ¬ (purpose = .write ∧ qs ++ rest ≠ [] ∧ (qs ++ rest).all (· = "") = true) := by
    rw [(hrest.append qs).not_all_empty]
    simp
  fun_induction walk fs .follow links s ps with
  | case1 links s => exact .inl ⟨s, links, rfl, fun _ => rfl⟩
  | case2 links s n ps hskip ih =>
    simp only [List.cons_append, walk_skip (not_leads_iff.mpr hskip)]
    exact ih
  | case3 links s ps hskip ih =>
    have hup (purpose : Purpose) : walk fs purpose links s (".." :: ps ++ rest) =
        walk fs purpose links s.up (ps ++ rest) := by
      rw [List.cons_append, walk, if_neg hskip, if_pos rfl]
    simp only [hup]
    exact ih
  | case4 links s n ps hskip hup hwrite => exact absurd hwrite.1 (by decide)
  | case5 links s n ps hskip hup hwrite hl =>
    exact .inr ⟨by simp, fun purpose => ⟨_, walk_of_none hskip hup (hslash ps purpose) hl⟩⟩
  | case6 links s n ps hskip hup hwrite m hl hlong =>
    refine .inr ⟨by simp, fun purpose => ⟨.nameTooLong, ?_⟩⟩
    rw [List.cons_append, walk, if_neg hskip, if_neg hup, if_neg (hslash ps purpose), hl]
    exact if_pos hlong
  | case7 links s n ps hskip hup hwrite m hl here hfit hget hall =>
    refine .inr ⟨fun t ht => Place.standing_ne_free (Except.ok.inj ht).symm,
      fun purpose => ⟨.notFound, ?_⟩⟩
    rw [List.cons_append, walk_at hskip hup (hslash ps purpose) hl hfit, hget]
    exact if_neg (by simp [(hrest.append ps).not_all_empty])
  | case8 links s n ps hskip hup hwrite m hl here hfit hget hall =>
    refine .inr ⟨by simp, fun purpose => ⟨.notFound, ?_⟩⟩
    rw [List.cons_append, walk_at hskip hup (hslash ps purpose) hl hfit, hget]
    exact if_neg (by simp [(hrest.append ps).not_all_empty])
  | case9 links s n ps hskip hup hwrite m hl here hfit hget ih =>
    have hdown (purpose : Purpose) : walk fs purpose links s (n :: ps ++ rest) =
        walk fs purpose links (.ofPlace here) (ps ++ rest) := by
      rw [List.cons_append, walk_at hskip hup (hslash ps purpose) hl hfit, hget]
    simp only [hdown]
    exact ih
  | case10 links s n hskip hup m hl here hfit content executable hget hwrite =>
    refine .inr ⟨fun t ht => Place.standing_ne_file (Except.ok.inj ht).symm,
      fun purpose => ⟨.notDirectory, ?_⟩⟩
    rw [List.cons_append, walk_at hskip hup (hslash [] purpose) hl hfit, hget]
    exact if_neg (hrest.append []).ne_nil
  | case11 links s n ps hskip hup hwrite m hl here hfit content executable hget hps =>
    refine .inr ⟨by simp, fun purpose => ⟨.notDirectory, ?_⟩⟩
    rw [List.cons_append, walk_at hskip hup (hslash ps purpose) hl hfit, hget]
    exact if_neg (hrest.append ps).ne_nil
  | case12 links s n ps hskip hup hwrite m hl here hfit target hget hinspect =>
    exact absurd hinspect.2 (by decide)
  | case13 s n ps hskip hup hwrite m hl here hfit target hget hinspect =>
    refine .inr ⟨by simp, fun purpose => ⟨.tooManyLinks, ?_⟩⟩
    rw [List.cons_append, walk_at hskip hup (hslash ps purpose) hl hfit, hget]
    exact if_neg fun h => (hrest.append ps).ne_nil h.1
  | case14 s n ps hskip hup hwrite m hl here hfit hinspect links hget =>
    refine .inr ⟨by simp, fun purpose => ⟨.notFound, ?_⟩⟩
    rw [List.cons_append, walk_at hskip hup (hslash ps purpose) hl hfit, hget]
    exact if_neg fun h => (hrest.append ps).ne_nil h.1
  | case15 s n ps hskip hup hwrite m hl here hfit target hget hinspect links htarget ih =>
    have hdown (purpose : Purpose) : walk fs purpose (links + 1) s (n :: ps ++ rest) =
        walk fs purpose links (if isAbsolute target then .root else s)
          (pieces target ++ ps ++ rest) := by
      rw [List.cons_append, walk_at hskip hup (hslash ps purpose) hl hfit, hget, List.append_assoc]
      exact (if_neg fun h => (hrest.append ps).ne_nil h.1).trans (if_neg htarget)
    simp only [hdown]
    exact ih

theorem walk_follow_of_inspect {r : Except OsError Place}
    (hw : walk fs .inspect links s ps = r) (hr : ∀ l target, r ≠ .ok (.found l (.link target))) :
    walk fs .follow links s ps = r := by
  fun_induction walk fs .inspect links s ps with
  | case1 links s => rw [walk, hw]
  | case2 links s n rest hskip ih =>
    rw [walk, if_pos hskip]
    exact ih hw
  | case3 links s rest hskip ih =>
    rw [walk, if_neg hskip, if_pos rfl]
    exact ih hw
  | case4 links s n rest hskip hup hslash => exact absurd hslash.1 (by decide)
  | case5 links s n rest hskip hup hslash hl => rw [walk_of_none hskip hup (by simp) hl, hw]
  | case6 links s n rest hskip hup hslash m hl hlong =>
    rw [walk, if_neg hskip, if_neg hup, if_neg (by simp), hl]
    exact (if_pos hlong).trans hw
  | case7 links s n rest hskip hup hslash m hl here hfit hget hall =>
    rw [walk_here hskip hup hl hfit, hget]
    exact (if_pos hall).trans hw
  | case8 links s n rest hskip hup hslash m hl here hfit hget hall =>
    rw [walk_here hskip hup hl hfit, hget]
    exact (if_neg hall).trans hw
  | case9 links s n rest hskip hup hslash m hl here hfit hget ih =>
    rw [walk_here hskip hup hl hfit, hget]
    exact ih hw
  | case10 links s n hskip hup m hl here hfit content executable hget hslash =>
    rw [walk_here hskip hup hl hfit, hget]
    exact (if_pos rfl).trans hw
  | case11 links s n rest hskip hup hslash m hl here hfit content executable hget hrest =>
    rw [walk_here hskip hup hl hfit, hget]
    exact (if_neg hrest).trans hw
  | case12 links s n rest hskip hup hslash m hl here hfit target hget hinspect =>
    exact absurd hw.symm (hr here target)
  | case13 s n rest hskip hup hslash m hl here hfit target hget hinspect =>
    rw [walk_here hskip hup hl hfit, hget]
    exact hw
  | case14 s n rest hskip hup hslash m hl here hfit hinspect links hget =>
    rw [walk_here hskip hup hl hfit, hget]
    exact (if_pos rfl).trans hw
  | case15 s n rest hskip hup hslash m hl here hfit target hget hinspect links htarget ih =>
    rw [walk_here hskip hup hl hfit, hget]
    exact (if_neg htarget).trans (ih hw)

theorem location?_of_walk_removed {t : Standpoint}
    (hw : walk fs purpose links s ps = .ok (.removed t)) : t.location? = none := by
  fun_induction walk fs purpose links s ps with
  | case1 links s =>
    cases hl : s.location? with
    | none =>
      rw [hl] at hw
      cases hw
      exact hl
    | some m =>
      rw [hl] at hw
      cases hw
  | case2 links s n rest hskip ih => exact ih hw
  | case3 links s rest hskip ih => exact ih hw
  | case9 links s n rest hskip hup hslash m hl here hfit hget ih => exact ih hw
  | case15 s n rest hskip hup hslash m hl here hfit target hget hinspect links htarget ih => exact ih hw
  | _ => cases hw

section Lookup

variable {cwd : Standpoint} {p q : String}

theorem isDirectory_iff_standing :
    fs.isDirectory cwd p = true ↔ ∃ t, fs.resolve cwd .follow p = .ok (.standing t) := by
  unfold isDirectory find?
  constructor
  · intro hd
    split at hd
    · next hf =>
      split at hf
      · next l e hr =>
        cases hf
        exact ⟨.ofPlace l, hr⟩
      · next t hr =>
        refine ⟨t, hr.trans ?_⟩
        have hnone : t.location? = none := location?_of_walk_removed (walk_of_resolve hr)
        rw [Place.standing, hnone]
        rfl
      · cases hf
      · cases hf
    · cases hd
  · rintro ⟨t, hr⟩
    rw [hr]
    unfold Place.standing
    cases t.location? <;> rfl

theorem resolve_follow_of_inspect {r : Except OsError Place}
    (hr : fs.resolve cwd .inspect p = r) (hlink : ∀ l target, r ≠ .ok (.found l (.link target))) :
    fs.resolve cwd .follow p = r := by
  unfold resolve at hr ⊢
  split at hr
  · next hnul => rw [if_pos hnul, hr]
  · next hnul =>
    rw [if_neg hnul]
    split at hr
    · next hempty => rw [if_pos hempty, hr]
    · next hempty =>
      rw [if_neg hempty]
      split at hr
      · next hlong => rw [if_pos hlong, hr]
      · next hlong =>
        rw [if_neg hlong]
        exact walk_follow_of_inspect hr hlink

/-- The system takes a path by its names, or does not take it at all. -/
theorem resolve_cases (hne : p ≠ "") (hp : Path.names p = [] ∨ EndsInName (pieces p)) :
    (∃ e, e ≠ .notFound ∧ e ≠ .alreadyExists ∧
        ∀ fs cwd purpose, FileSystem.resolve fs cwd purpose p = .error e) ∨
      ∀ fs cwd purpose, FileSystem.resolve fs cwd purpose p =
        walk fs purpose linkLimit (if isAbsolute p then .root else cwd.settle fs) (Path.names p) := by
  by_cases hnul : p.toList.contains '\x00' = true
  · refine .inl ⟨.nulInName, by decide, by decide, fun _ _ _ => ?_⟩
    rw [resolve, if_pos hnul]
  · by_cases hlong : pathLimit ≤ p.utf8ByteSize
    · refine .inl ⟨.nameTooLong, by decide, by decide, fun _ _ _ => ?_⟩
      rw [resolve, if_neg hnul, if_neg hne, if_pos hlong]
    · refine .inr fun fs cwd purpose => ?_
      rw [resolve, if_neg hnul, if_neg hne, if_neg hlong]
      exact walk_filter hp

theorem ne_empty_of_names (hp : Path.names p ≠ []) : p ≠ "" := by
  rintro rfl
  exact hp Path.names_empty

theorem ne_empty_of_resolve {place : Place} (hr : fs.resolve cwd purpose p = .ok place) : p ≠ "" := by
  rintro rfl
  cases hr

theorem resolve_entry {t : Standpoint} {n : String} (habs : isAbsolute q = isAbsolute p)
    (hnames : Path.names q = Path.names p ++ [n]) (hq : EndsInName (pieces q))
    (hp : Path.names p = [] ∨ EndsInName (pieces p))
    (hr : fs.resolve cwd .follow p = .ok (.standing t)) :
    (∃ e, ∀ fs cwd purpose, FileSystem.resolve fs cwd purpose q = .error e) ∨
      ∃ k, ∀ purpose, fs.resolve cwd purpose q = walk fs purpose k t [n] := by
  have hn : leads n = true := by
    have hmem : n ∈ Path.names q := by simp [hnames]
    exact (List.mem_filter.mp hmem).2
  rcases resolve_cases (ne_empty_of_names (p := q) (by simp [hnames])) (.inr hq) with
    ⟨e, -, -, hq⟩ | hq
  · exact .inl ⟨e, hq⟩
  · refine .inr ?_
    rcases resolve_cases (ne_empty_of_resolve hr) hp with ⟨e, -, -, hp⟩ | hp
    · rw [hp] at hr
      cases hr
    · rw [hp] at hr
      have hend : EndsInName [n] := ⟨[], n, rfl, hn⟩
      rcases walk_append hend linkLimit (if isAbsolute p then .root else cwd.settle fs)
        (Path.names p) with ⟨t', k, ht, happend⟩ | ⟨hnot, -⟩
      · obtain rfl : t' = t := Place.standing_injective (Except.ok.inj (ht.symm.trans hr))
        refine ⟨k, fun purpose => ?_⟩
        rw [hq, habs, hnames, happend]
      · exact absurd hr (hnot t)

end Lookup

end FlutterInstaller.FileSystem
