import FlutterInstaller.Proofs.FileSystem.Sameness

/-!
Reading back what was written, in any tree and through any links. The walk to a file that is written
passes directories and links alone, so it ends at the same place once the file is there.
-/
namespace FlutterInstaller.FileSystem

variable {fs gs : FileSystem} {l : Location} {content : ByteArray} {executable : Bool}

/-- A walk to a file that may be written ends at a place: nothing stands there, or a file. -/
inductive Target (fs : FileSystem) (l : Location) : Place → Prop
  | free (hl : l ≠ []) (h : fs.get? l = none) : Target fs l (.free l)
  | found {old : ByteArray} {executable : Bool} (hl : l ≠ [])
      (h : fs.get? l = some (.file old executable)) : Target fs l (.found l (.file old executable))

theorem Target.not_directory {place : Place} (h : Target fs l place) :
    fs.get? l ≠ some .directory := by
  cases h with
  | free _ h => simp [h]
  | found _ h => simp [h]

theorem Target.not_link {place : Place} (h : Target fs l place) (target : String) :
    fs.get? l ≠ some (.link target) := by
  cases h with
  | free _ h => simp [h]
  | found _ h => simp [h]

theorem Target.eq_of_free {m : Location} (h : Target fs l (.free m)) : m = l := by
  cases h
  rfl

theorem Target.eq_of_found {m : Location} {e : Entry} (h : Target fs l (.found m e)) : m = l := by
  cases h
  rfl

theorem target_of_walk {links : Nat} {s : Standpoint} {ps : List String} {place : Place}
    (hw : walk fs .write links s ps = .ok place) :
    (∃ l, Target fs l place) ∨ (∃ m, place = .found m .directory) ∨ ∃ t, place = .removed t := by
  fun_induction walk fs .write links s ps with
  | case1 links s =>
    cases hw
    cases s.location? with
    | none => exact .inr (.inr ⟨s, rfl⟩)
    | some m => exact .inr (.inl ⟨m, rfl⟩)
  | case7 links s n rest hskip hup hslash l hl here hfit hget hrest =>
    cases hw
    exact .inl ⟨here, .free (by simp [here]) hget⟩
  | case10 links s n hskip hup l hl here hfit content executable hget =>
    cases hw
    exact .inl ⟨here, .found (by simp [here]) hget⟩
  | _ => simp_all

theorem walk_at {purpose : Purpose} {links : Nat} {s : Standpoint} {n : String} {rest : List String}
    {m : Location}     (hskip : ¬ (n = "" ∨ n = ".")) (hup : n ≠ "..")
    (hslash : ¬ (purpose = .write ∧ rest ≠ [] ∧ rest.all (· = ""))) (hl : s.location? = some m)
    (hfit : ¬ nameLimit < n.utf8ByteSize) :
    walk gs purpose links s (n :: rest) =
      match gs.get? (m ++ [n]) with
      | none => if rest.all (· = "") then .ok (.free (m ++ [n])) else .error .notFound
      | some .directory => walk gs purpose links (.ofPlace (m ++ [n])) rest
      | some (.file content executable) =>
        if rest = [] then .ok (.found (m ++ [n]) (.file content executable)) else .error .notDirectory
      | some (.link target) =>
        if rest = [] ∧ purpose = .inspect then .ok (.found (m ++ [n]) (.link target))
        else match links with
        | 0 => .error .tooManyLinks
        | links + 1 =>
          if target = "" then .error .notFound
          else walk gs purpose links (if Path.isAbsolute target then .root else s)
            (Path.pieces target ++ rest) := by
  rw [walk, if_neg hskip, if_neg hup, if_neg hslash, hl]
  dsimp only
  cases gs.get? (m ++ [n]) with
  | none => exact if_neg hfit
  | some e => cases e <;> exact if_neg hfit

theorem walk_here {links : Nat} {s : Standpoint} {n : String} {rest : List String} {m : Location}
    (hskip : ¬ (n = "" ∨ n = ".")) (hup : n ≠ "..") (hl : s.location? = some m)
    (hfit : ¬ nameLimit < n.utf8ByteSize) :
    walk gs .follow links s (n :: rest) =
      match gs.get? (m ++ [n]) with
      | none => if rest.all (· = "") then .ok (.free (m ++ [n])) else .error .notFound
      | some .directory => walk gs .follow links (.ofPlace (m ++ [n])) rest
      | some (.file content executable) =>
        if rest = [] then .ok (.found (m ++ [n]) (.file content executable)) else .error .notDirectory
      | some (.link target) =>
        match links with
        | 0 => .error .tooManyLinks
        | links + 1 =>
          if target = "" then .error .notFound
          else walk gs .follow links (if Path.isAbsolute target then .root else s)
            (Path.pieces target ++ rest) := by
  rw [walk_at hskip hup (by simp) hl hfit]
  cases gs.get? (m ++ [n]) with
  | none => rfl
  | some e =>
    cases e with
    | file content executable => rfl
    | directory => rfl
    | link target => exact if_neg (by simp)

theorem walk_of_target
    (hput : ∀ m, gs.get? m = if m = l then some (.file content executable) else fs.get? m)
    {purpose : Purpose} (hp : purpose ≠ .inspect) {links : Nat} {s : Standpoint} {ps : List String}
    {place : Place} (ht : Target fs l place) (hw : walk fs .write links s ps = .ok place) :
    walk gs purpose links s ps = .ok (.found l (.file content executable)) := by
  -- on the way there is only what differs from `l`, a directory or a link, and that is kept
  fun_induction walk fs .write links s ps with
  | case1 links s =>
    exfalso
    cases hw
    cases hs : s.location? <;> rw [hs] at ht <;> cases ht
  | case2 links s n rest hskip ih =>
    rw [walk, if_pos hskip]
    exact ih hw
  | case3 links s rest hskip ih =>
    rw [walk, if_neg hskip, if_pos rfl]
    exact ih hw
  | case7 links s n rest hskip hup hslash m hl here hfit hget hrest =>
    cases hw
    obtain rfl := ht.eq_of_free
    have hnil : rest = [] := by
      by_contra hne
      exact hslash ⟨rfl, hne, hrest⟩
    rw [walk_at hskip hup (fun h => hslash ⟨rfl, h.2⟩) hl hfit, hput, if_pos rfl]
    exact if_pos hnil
  | case9 links s n rest hskip hup hslash m hl here hfit hget ih =>
    have hne : here ≠ l := fun he => ht.not_directory (he ▸ hget)
    rw [walk_at hskip hup (fun h => hslash ⟨rfl, h.2⟩) hl hfit, hput, if_neg hne, hget]
    exact ih hw
  | case10 links s n hskip hup m hl here hfit old oldExecutable hget hslash =>
    cases hw
    obtain rfl := ht.eq_of_found
    rw [walk_at hskip hup (fun h => hslash ⟨rfl, h.2⟩) hl hfit, hput, if_pos rfl]
    exact if_pos rfl
  | case12 links s n rest hskip hup hslash m hl here hfit target hget hinspect =>
    exact absurd hinspect.2 (by decide)
  | case15 s n rest hskip hup hslash m hl here hfit target hget hinspect links htarget ih =>
    have hne : here ≠ l := fun he => ht.not_link target (he ▸ hget)
    rw [walk_at hskip hup (fun h => hslash ⟨rfl, h.2⟩) hl hfit, hput, if_neg hne, hget]
    exact (if_neg fun h => hp h.2).trans ((if_neg htarget).trans (ih hw))
  | _ => cases hw

section Write

variable {p : String} {cwd : Standpoint} {purpose : Purpose} {place : Place}

theorem resolve_walks (hr : fs.resolve cwd purpose p = .ok place) (gs : FileSystem) (cwd' : Standpoint)
    (purpose' : Purpose) : gs.resolve cwd' purpose' p =
      walk gs purpose' linkLimit (if Path.isAbsolute p then .root else cwd'.settle gs)
        (Path.pieces p) := by
  unfold resolve at hr ⊢
  split at hr
  · cases hr
  · next hnul =>
    split at hr
    · cases hr
    · next hempty =>
      split at hr
      · cases hr
      · next hlong => rw [if_neg hnul, if_neg hempty, if_neg hlong]

theorem walk_of_resolve (hr : fs.resolve cwd purpose p = .ok place) :
    walk fs purpose linkLimit (if Path.isAbsolute p then .root else cwd.settle fs) (Path.pieces p) =
      .ok place :=
  (resolve_walks hr fs cwd purpose).symm.trans hr

theorem directory_start (fs : FileSystem) (cwd : Standpoint) (p : String) :
    fs.get? (if Path.isAbsolute p then Standpoint.root else cwd.settle fs).place = some .directory := by
  split
  · rfl
  · exact (hasDirectory_iff _ _).mp (Standpoint.hasDirectory_settle fs cwd)

theorem resolve_of_target {cwd' : Standpoint}
    (hcwd : Path.isAbsolute p = true ∨ cwd'.settle gs = cwd.settle fs) (hp : purpose ≠ .inspect)
    (hput : ∀ m, gs.get? m = if m = l then some (.file content executable) else fs.get? m)
    (ht : Target fs l place) (hr : fs.resolve cwd .write p = .ok place) :
    gs.resolve cwd' purpose p = .ok (.found l (.file content executable)) := by
  have hstart : (if Path.isAbsolute p then Standpoint.root else cwd'.settle gs) =
      if Path.isAbsolute p then .root else cwd.settle fs := by
    rcases hcwd with habs | hcwd
    · rw [if_pos habs, if_pos habs]
    · rw [hcwd]
  rw [resolve_walks hr, hstart]
  exact walk_of_target hput hp ht (walk_of_resolve hr)

theorem target_of_resolve (hr : fs.resolve cwd .write p = .ok place) :
    (∃ l, Target fs l place) ∨ (∃ m, place = .found m .directory) ∨ ∃ t, place = .removed t :=
  target_of_walk (walk_of_resolve hr)

theorem openForWriting_eq_ok {o : Location × Bool}
    (hr : perform (openForWriting cwd p) fs = (.ok o, gs)) :
    ∃ place, fs.resolve cwd .write p = .ok place ∧ Target fs o.1 place ∧
      gs = fs.insert o.1 (.file ByteArray.empty o.2) := by
  rw [openForWriting, perform_get_bind] at hr
  split at hr
  · cases hr
  · next l hres =>
    cases hr
    refine ⟨_, hres, ?_, rfl⟩
    rcases target_of_resolve hres with ⟨m, hm⟩ | ⟨m, hm⟩ | ⟨t, ht⟩
    · exact hm.eq_of_free ▸ hm
    · cases hm
    · cases ht
  · next l old executable hres =>
    cases hr
    refine ⟨_, hres, ?_, rfl⟩
    rcases target_of_resolve hres with ⟨m, hm⟩ | ⟨m, hm⟩ | ⟨t, ht⟩
    · exact hm.eq_of_found ▸ hm
    · cases hm
    · cases ht
  · cases hr

theorem Target.ne_nil {place : Place} (h : Target fs l place) : l ≠ [] := by
  cases h with
  | free hl _ => exact hl
  | found hl _ => exact hl

theorem ne_nil_of_opened {o : Location × Bool}
    (hr : perform (openForWriting cwd p) fs = (.ok o, gs)) : o.1 ≠ [] := by
  obtain ⟨place, _, ht, _⟩ := openForWriting_eq_ok hr
  exact ht.ne_nil

theorem resolve_of_opened {ks : FileSystem} {cwd' : Standpoint}
    (hcwd : Path.isAbsolute p = true ∨ cwd'.settle ks = cwd.settle fs) (hp : purpose ≠ .inspect)
    {o : Location × Bool} (hr : perform (openForWriting cwd p) fs = (.ok o, gs))
    (hput : ∀ m, ks.get? m = if m = o.1 then some (.file content executable) else gs.get? m) :
    ks.resolve cwd' purpose p = .ok (.found o.1 (.file content executable)) := by
  obtain ⟨place, hres, ht, rfl⟩ := openForWriting_eq_ok hr
  refine resolve_of_target hcwd hp ?_ ht hres
  intro m
  rw [hput, get?_insert _ _ ht.ne_nil]
  split <;> rfl

/-- What was written through an absolute path is read back, whatever links lead there. -/
theorem read_of_write (habs : Path.isAbsolute p = true)
    (hw : perform (write cwd p content) fs = (.ok (), gs)) : gs.read .root p = .ok content := by
  obtain ⟨⟨l, executable⟩, fs₁, hopen, hw⟩ := perform_bind_eq_ok.mp hw
  cases hw
  have hput (m : Location) := get?_insert fs₁ (m := m) (.file content executable) (ne_nil_of_opened hopen)
  rw [read, find?, resolve_of_opened (.inl habs) (by decide) hopen hput]

end Write

end FlutterInstaller.FileSystem
