import FlutterInstaller.Proofs.FileSystem.Tree
import FlutterInstaller.Proofs.Path.Names

/-!
Walking a straight path in a tree without links. The walk ends at the place that the path names; what
it finds there is what the tree holds, and nothing else decides whether it succeeds but the lengths of
the names and what stands at the end of the path.
-/
namespace FlutterInstaller.FileSystem

open FlutterInstaller.Path

def Fits (ps : List String) : Prop := ∀ n ∈ ps.filter leads, n.utf8ByteSize ≤ nameLimit

instance (ps : List String) : Decidable (Fits ps) :=
  inferInstanceAs (Decidable (∀ n ∈ ps.filter leads, n.utf8ByteSize ≤ nameLimit))

theorem Fits.mono {ps qs : List String} (h : Fits qs) (hsub : ps ⊆ qs) : Fits ps := fun n hn =>
  h n (List.filter_subset leads hsub hn)

def EndsInName (ps : List String) : Prop := ∃ init n, ps = init ++ [n] ∧ leads n = true

theorem EndsInName.cons {n : String} {ps : List String} (h : EndsInName ps) :
    EndsInName (n :: ps) := by
  obtain ⟨init, last, rfl, hlast⟩ := h
  exact ⟨n :: init, last, rfl, hlast⟩

theorem EndsInName.of_cons {n : String} {ps : List String} (h : EndsInName (n :: ps)) (hps : ps ≠ []) :
    EndsInName ps := by
  obtain ⟨init, last, heq, hlast⟩ := h
  cases init with
  | nil => exact absurd (List.cons.inj heq).2 hps
  | cons m init => exact ⟨init, last, (List.cons.inj heq).2, hlast⟩

theorem EndsInName.filter_ne_nil {ps : List String} (h : EndsInName ps) : ps.filter leads ≠ [] := by
  obtain ⟨init, n, rfl, hn⟩ := h
  simp [hn]

theorem EndsInName.not_all_empty {ps : List String} (h : EndsInName ps) :
    ps.all (· = "") = false := by
  obtain ⟨init, n, rfl, hn⟩ := h
  simp [(leads_iff.mp hn).1]

section Walk

variable {fs : FileSystem} {purpose : Purpose} {links : Nat} {l : Location} {ps : List String}

theorem walk_skip {n : String} (hn : leads n = false) (s : Standpoint) :
    walk fs purpose links s (n :: ps) = walk fs purpose links s ps := by
  rw [walk, if_pos (not_leads_iff.mp hn)]

theorem walk_name {n : String} (hn : leads n = true) (hup : n ≠ "..") :
    walk fs purpose links (.ofPlace l) (n :: ps) =
      if purpose = .write ∧ ps ≠ [] ∧ ps.all (· = "") then .error .isDirectory
      else if nameLimit < n.utf8ByteSize then .error .nameTooLong
      else match fs.get? (l ++ [n]) with
        | none => if ps.all (· = "") then .ok (.free (l ++ [n])) else .error .notFound
        | some .directory => walk fs purpose links (.ofPlace (l ++ [n])) ps
        | some (.file content executable) =>
          if ps = [] then .ok (.found (l ++ [n]) (.file content executable)) else .error .notDirectory
        | some (.link target) =>
          if ps = [] ∧ purpose = .inspect then .ok (.found (l ++ [n]) (.link target))
          else match links with
            | 0 => .error .tooManyLinks
            | links + 1 =>
              if target = "" then .error .notFound
              else walk fs purpose links (if isAbsolute target then .root else .ofPlace l)
                (pieces target ++ ps) := by
  obtain ⟨hempty, hdot⟩ := leads_iff.mp hn
  rw [walk, if_neg (by simp [hempty, hdot]), if_neg hup]
  rfl

theorem walk_up : walk fs purpose links (.ofPlace l) (".." :: ps) =
    walk fs purpose links (.ofPlace l.dropLast) ps := by
  rw [walk, if_neg (by decide), if_pos rfl]
  rfl

theorem walk_directories (h : IsTree fs) {ns : List String} (hns : ∀ n ∈ ns, IsName n)
    (hfits : Fits ns) (hpurpose : purpose = .write → ps.all (· = "") = false)
    (hd : fs.get? (l ++ ns) = some .directory) :
    walk fs purpose links (.ofPlace l) (ns ++ ps) =
      walk fs purpose links (.ofPlace (l ++ ns)) ps := by
  induction ns generalizing l with
  | nil => simp
  | cons n ns ih =>
    obtain ⟨hn, hns⟩ := List.forall_mem_cons.mp hns
    have hlead : leads n = true := leads_iff.mpr ⟨hn.1, hn.2.1⟩
    rw [Fits, List.filter_cons_of_pos hlead] at hfits
    obtain ⟨hfit, hfits⟩ := List.forall_mem_cons.mp hfits
    have hl : l ++ n :: ns = l ++ [n] ++ ns := by simp
    have hhere : fs.get? (l ++ [n]) = some .directory :=
      h.directory_of_prefix_directory (List.prefix_append _ ns) (hl ▸ hd)
    have hslash : ¬ (purpose = .write ∧ ns ++ ps ≠ [] ∧ (ns ++ ps).all (· = "") = true) := by
      rintro ⟨hwrite, _, hempty⟩
      simp [List.all_append, hpurpose hwrite] at hempty
    rw [List.cons_append, walk_name hlead hn.2.2.1, if_neg hslash, if_neg (Nat.not_lt.mpr hfit), hhere,
      hl]
    exact ih hns hfits (hl ▸ hd)

/-- Going up as often as it went down, a walk is back where it was. -/
theorem walk_ups {t : Location} :
    walk fs purpose links (.ofPlace (l ++ t)) (List.replicate t.length ".." ++ ps) =
      walk fs purpose links (.ofPlace l) ps := by
  induction t using List.reverseRecOn with
  | nil => simp
  | append_singleton t n ih =>
    rw [List.length_append, List.length_singleton, List.replicate_succ, List.cons_append, walk_up,
      ← List.append_assoc, List.dropLast_concat, ih]

def Outcome (fs : FileSystem) (purpose : Purpose) (l : Location) (ps : List String) :
    Except OsError Place → Prop
  | .ok (.found m e) => m = l ++ ps.filter leads ∧ fs.get? m = some e ∧ Fits ps ∧
      (e ≠ .directory → EndsInName ps)
  | .ok (.free m) => m = l ++ ps.filter leads ∧ fs.get? m = none ∧
      fs.get? m.dropLast = some .directory ∧ Fits ps ∧ (purpose = .write → EndsInName ps)
  | .ok (.removed _) => False
  | .error e => e = .notFound → fs.get? (l ++ ps.filter leads) = none

theorem Outcome.skip {n : String} (hn : leads n = false) {r : Except OsError Place}
    (h : Outcome fs purpose l ps r) : Outcome fs purpose l (n :: ps) r := by
  have hfilter : (n :: ps).filter leads = ps.filter leads :=
    List.filter_cons_of_neg (by simp [hn])
  unfold Outcome Fits at *
  rw [hfilter]
  split at h
  · exact ⟨h.1, h.2.1, h.2.2.1, fun he => (h.2.2.2 he).cons⟩
  · exact ⟨h.1, h.2.1, h.2.2.1, h.2.2.2.1, fun hw => (h.2.2.2.2 hw).cons⟩
  · exact h
  · exact h

theorem Outcome.descend {n : String} (hn : leads n = true) (hfit : n.utf8ByteSize ≤ nameLimit)
    {r : Except OsError Place} (h : Outcome fs purpose (l ++ [n]) ps r) :
    Outcome fs purpose l (n :: ps) r := by
  have hfilter : l ++ (n :: ps).filter leads = l ++ [n] ++ ps.filter leads := by
    simp [List.filter_cons_of_pos hn]
  have hfits : Fits ps → Fits (n :: ps) := fun h => by
    rw [Fits, List.filter_cons_of_pos hn, List.forall_mem_cons]
    exact ⟨hfit, h⟩
  unfold Outcome at *
  rw [hfilter]
  split at h
  · exact ⟨h.1, h.2.1, hfits h.2.2.1, fun he => (h.2.2.2 he).cons⟩
  · exact ⟨h.1, h.2.1, h.2.2.1, hfits h.2.2.2.1, fun hw => (h.2.2.2.2 hw).cons⟩
  · exact h
  · exact h

theorem filter_leads_of_all_empty (h : ps.all (· = "") = true) : ps.filter leads = [] := by
  rw [List.filter_eq_nil_iff]
  intro n hn
  have hempty : n = "" := by simpa using List.all_eq_true.mp h n hn
  simp [leads, hempty]

theorem walk_outcome (hfs : Plain fs) (hl : fs.get? l = some .directory)
    (hs : ".." ∉ ps.filter leads) :
    Outcome fs purpose l ps (walk fs purpose links (.ofPlace l) ps) := by
  induction ps generalizing l with
  | nil =>
    rw [walk]
    exact ⟨by simp [Standpoint.ofPlace], hl, by simp [Fits], by simp⟩
  | cons n ps ih =>
    cases hn : leads n with
    | false =>
      rw [List.filter_cons_of_neg (by simp [hn])] at hs
      rw [walk_skip hn]
      exact (ih hl hs).skip hn
    | true =>
      rw [List.filter_cons_of_pos hn, List.mem_cons, not_or] at hs
      have hend : EndsInName [n] := ⟨[], n, rfl, hn⟩
      rw [walk_name hn (Ne.symm hs.1)]
      split
      · simp [Outcome]
      · next hwrite =>
        split
        · simp [Outcome]
        · next hfit =>
          have hfit : n.utf8ByteSize ≤ nameLimit := Nat.le_of_not_lt hfit
          cases hget : fs.get? (l ++ [n]) with
          | none =>
            dsimp only
            split
            · next hall =>
              refine ⟨?_, hget, by simp [hl], ?_, fun hw => ?_⟩
              · simp [List.filter_cons_of_pos hn, filter_leads_of_all_empty hall]
              · simp [Fits, List.filter_cons_of_pos hn, filter_leads_of_all_empty hall, hfit]
              · have hps : ps = [] := by
                  by_contra hne
                  exact hwrite ⟨hw, hne, hall⟩
                rwa [hps]
            · intro _
              have hnone := hfs.none_of_append_none hget (ps.filter leads)
              rwa [List.append_assoc, List.singleton_append, ← List.filter_cons_of_pos hn] at hnone
          | some e =>
            cases e with
            | directory => exact (ih hget hs.2).descend hn hfit
            | file content executable =>
              dsimp only
              split
              · next hps =>
                subst hps
                refine ⟨by simp [List.filter_cons_of_pos hn], hget, ?_, fun _ => hend⟩
                simpa [Fits, List.filter_cons_of_pos hn] using hfit
              · simp [Outcome]
            | link target => exact absurd hget (hfs.linkFree _ target)

theorem walk_of_directory (hfs : Plain fs) (hs : ".." ∉ ps.filter leads) (hfits : Fits ps)
    (hpurpose : purpose ≠ .write) (hd : fs.get? (l ++ ps.filter leads) = some .directory) :
    walk fs purpose links (.ofPlace l) ps = .ok (.found (l ++ ps.filter leads) .directory) := by
  induction ps generalizing l with
  | nil =>
    rw [walk]
    simp [Standpoint.ofPlace, Standpoint.location?]
  | cons n ps ih =>
    cases hn : leads n with
    | false =>
      have hfilter : (n :: ps).filter leads = ps.filter leads :=
        List.filter_cons_of_neg (by simp [hn])
      unfold Fits at hfits
      rw [hfilter] at hs hfits hd ⊢
      rw [walk_skip hn]
      exact ih hs hfits hd
    | true =>
      have hfilter : l ++ (n :: ps).filter leads = l ++ [n] ++ ps.filter leads := by
        simp [List.filter_cons_of_pos hn]
      rw [hfilter] at hd ⊢
      rw [List.filter_cons_of_pos hn, List.mem_cons, not_or] at hs
      rw [Fits, List.filter_cons_of_pos hn, List.forall_mem_cons] at hfits
      have hget : fs.get? (l ++ [n]) = some .directory :=
        hfs.directory_of_prefix_directory (List.prefix_append _ _) hd
      rw [walk_name hn (Ne.symm hs.1), if_neg (by simp [hpurpose]), if_neg (Nat.not_lt.mpr hfits.1),
        hget]
      exact ih hs.2 hfits.2 hd

theorem walk_of_endsInName (hfs : Plain fs) (hs : ".." ∉ ps.filter leads) (hfits : Fits ps)
    (hend : EndsInName ps) (hd : fs.get? (l ++ (ps.filter leads).dropLast) = some .directory) :
    walk fs purpose links (.ofPlace l) ps =
      .ok ((fs.get? (l ++ ps.filter leads)).elim (.free (l ++ ps.filter leads))
        (.found (l ++ ps.filter leads))) := by
  induction ps generalizing l with
  | nil => exact absurd rfl hend.filter_ne_nil
  | cons n ps ih =>
    have hrest : ps ≠ [] → EndsInName ps := hend.of_cons
    cases hn : leads n with
    | false =>
      have hfilter : (n :: ps).filter leads = ps.filter leads :=
        List.filter_cons_of_neg (by simp [hn])
      have hps : ps ≠ [] := by
        rintro rfl
        exact hend.filter_ne_nil (by rw [hfilter, List.filter_nil])
      unfold Fits at hfits
      rw [hfilter] at hs hfits hd ⊢
      rw [walk_skip hn]
      exact ih hs hfits (hrest hps) hd
    | true =>
      have hfilter := List.filter_cons_of_pos (l := ps) hn
      rw [hfilter, List.mem_cons, not_or] at hs
      rw [Fits, hfilter, List.forall_mem_cons] at hfits
      have hwrite : ¬ (purpose = .write ∧ ps ≠ [] ∧ ps.all (· = "") = true) := by
        rintro ⟨_, hne, hall⟩
        rw [(hrest hne).not_all_empty] at hall
        exact Bool.false_ne_true hall
      rw [walk_name hn (Ne.symm hs.1), if_neg hwrite, if_neg (Nat.not_lt.mpr hfits.1), hfilter]
      by_cases hps : ps = []
      · subst hps
        cases hget : fs.get? (l ++ [n]) with
        | none => simp [hget]
        | some e =>
          cases e with
          | directory => simp [hget, walk, Standpoint.ofPlace, Standpoint.location?]
          | file content executable => simp [hget]
          | link target => exact absurd hget (hfs.linkFree _ target)
      · have hne := (hrest hps).filter_ne_nil
        rw [hfilter, List.dropLast_cons_of_ne_nil hne, ← List.singleton_append,
          ← List.append_assoc] at hd
        have hget : fs.get? (l ++ [n]) = some .directory :=
          hfs.directory_of_prefix_directory (List.prefix_append _ _) hd
        have happend : l ++ n :: ps.filter leads = l ++ [n] ++ ps.filter leads := by simp
        rw [hget, happend]
        exact ih hs.2 hfits.2 (hrest hps) hd

end Walk

end FlutterInstaller.FileSystem
