import FlutterInstaller.Proofs.FileSystem.Growth

/-!
Writing and copying files. A file that is written holds what was written, keeps its right to run, and
nothing else changes; a copy of another file holds what that one holds, with its right to run.
-/
namespace FlutterInstaller.FileSystem

open FlutterInstaller.Path

def executableAt (fs : FileSystem) (l : Location) : Bool :=
  match fs.get? l with
  | some (.file _ executable) => executable
  | _ => false

/-- A path that a file can be written to: its directory is there, and is not itself one. -/
structure Writable (fs : FileSystem) (w : Location) (p : String) : Prop where
  valid : Valid p
  endsInName : EndsInName (pieces p)
  parent : fs.get? (locate w p).dropLast = some .directory
  notDirectory : fs.get? (locate w p) ≠ some .directory

variable {fs gs : FileSystem} {w : Location} {p source target : String} {content : ByteArray}

theorem openForWriting_of_writable (h : Ground fs w) (hs : Straight p) (hp : Writable fs w p) :
    perform (openForWriting (.ofPlace w) p) fs =
      (.ok (locate w p, fs.executableAt (locate w p)),
        fs.insert (locate w p) (.file ByteArray.empty (fs.executableAt (locate w p)))) := by
  rw [openForWriting, perform_get_bind, h.resolve_of_endsInName hs hp.valid hp.endsInName hp.parent]
  cases hget : fs.get? (locate w p) with
  | none =>
    rw [executableAt, hget]
    rfl
  | some e =>
    cases e with
    | directory => exact absurd hget hp.notDirectory
    | file old executable =>
      rw [executableAt, hget]
      rfl
    | link target => exact absurd hget (h.linkFree _ target)

theorem writable_of_openForWriting (h : Ground fs w) (hs : Straight p) {r : Location × Bool}
    (hr : perform (openForWriting (.ofPlace w) p) fs = (.ok r, gs)) : Writable fs w p := by
  rw [openForWriting, perform_get_bind] at hr
  cases hres : fs.resolve (.ofPlace w) .write p with
  | error e =>
    rw [hres] at hr
    cases hr
  | ok place =>
    cases place with
    | removed s => exact absurd hres (h.resolve_ne_removed hs s)
    | free m =>
      obtain ⟨_, hget, hparent, hv, hend⟩ := h.resolve_eq_free hs hres
      exact ⟨hv, hend rfl, hparent, by simp [hget]⟩
    | found m e =>
      obtain ⟨_, hget, hv, hend⟩ := h.resolve_eq_found hs hres
      have hne : e ≠ .directory := by
        rintro rfl
        rw [hres] at hr
        cases hr
      exact ⟨hv, hend hne, h.parent_directory (by simp [hget]), by simp [hget, hne]⟩

theorem Writable.exists_name (hp : Writable fs w p) (hs : Straight p) :
    ∃ l n, locate w p = l ++ [n] ∧ IsName n := by
  rcases List.eq_nil_or_concat' (Path.names p) with hnil | ⟨ns, n, hns⟩
  · exact absurd hnil hp.endsInName.filter_ne_nil
  · refine ⟨origin w p ++ ns, n, by rw [locate_eq hs, hns, List.append_assoc], ?_⟩
    exact isName_of_mem_names hs (hns ▸ List.mem_append_right ns List.mem_cons_self)

theorem Writable.plain_insert (hp : Writable fs w p) (h : Plain fs) (hs : Straight p)
    (executable : Bool) : Plain (fs.insert (locate w p) (.file content executable)) := by
  obtain ⟨l, n, hl, hname⟩ := hp.exists_name hs
  have hparent := hp.parent
  have hfree := hp.notDirectory
  rw [hl] at hparent hfree ⊢
  rw [List.dropLast_concat] at hparent
  exact h.insert hparent hname (.inr hfree) (by simp)

theorem Writable.ne_nil (hp : Writable fs w p) : locate w p ≠ [] := by
  intro hnil
  exact hp.notDirectory (by rw [hnil]; rfl)

structure Written (fs gs : FileSystem) (l : Location) (content : ByteArray) (executable : Bool) :
    Prop where
  plain : Plain gs
  get?_eq : ∀ m, gs.get? m = if m = l then some (.file content executable) else fs.get? m

theorem Writable.written (hp : Writable fs w p) (h : Plain fs) (hs : Straight p)
    (old : Entry) (executable : Bool) :
    Written fs ((fs.insert (locate w p) old).insert (locate w p) (.file content executable))
      (locate w p) content executable := by
  have hget : ∀ m, ((fs.insert (locate w p) old).insert (locate w p)
      (.file content executable)).get? m =
      if m = locate w p then some (.file content executable) else fs.get? m := by
    intro m
    rw [get?_insert _ _ hp.ne_nil, get?_insert _ _ hp.ne_nil]
    split <;> rfl
  have hplain : Plain (fs.insert (locate w p) (.file content executable)) :=
    hp.plain_insert h hs executable
  refine ⟨hplain.of_same fun m => ?_, hget⟩
  rw [hget, get?_insert _ _ hp.ne_nil]

theorem write_of_writable (h : Ground fs w) (hs : Straight p) (hp : Writable fs w p)
    (content : ByteArray) :
    ∃ gs, perform (write (.ofPlace w) p content) fs = (.ok (), gs) ∧
      Written fs gs (locate w p) content (fs.executableAt (locate w p)) := by
  rw [write, perform_bind_of_ok (openForWriting_of_writable h hs hp)]
  exact ⟨_, rfl, hp.written h.toPlain hs _ _⟩

theorem write_eq_ok (h : Ground fs w) (hs : Straight p)
    (hr : perform (write (.ofPlace w) p content) fs = (.ok (), gs)) :
    Writable fs w p ∧ Written fs gs (locate w p) content (fs.executableAt (locate w p)) := by
  obtain ⟨_, _, hopen, _⟩ := perform_bind_eq_ok.mp hr
  have hp := writable_of_openForWriting h hs hopen
  obtain ⟨gs', hr', hwritten⟩ := write_of_writable h hs hp content
  rw [hr] at hr'
  cases hr'
  exact ⟨hp, hwritten⟩

section Copy

variable {executable : Bool}

theorem copy_of_find {l : Location} (h : Ground fs w) (htarget : Straight target)
    (hfind : fs.find? (.ofPlace w) source = .ok (some l, .file content executable))
    (hget : fs.get? l = some (.file content executable)) (hne : l ≠ locate w target)
    (hp : Writable fs w target) :
    ∃ gs, perform (copy (.ofPlace w) source target) fs = (.ok (), gs) ∧
      Written fs gs (locate w target) content executable := by
  rw [copy, perform_get_bind, hfind]
  dsimp only
  rw [perform_bind_of_ok (openForWriting_of_writable h htarget hp), perform_get_bind,
    get?_insert _ _ hp.ne_nil, if_neg hne, hget]
  exact ⟨_, rfl, hp.written h.toPlain htarget _ _⟩

theorem copy_eq_ok (h : Ground fs w) (hsource : Straight source) (htarget : Straight target)
    (hapart : locate w source ≠ locate w target)
    (hr : perform (copy (.ofPlace w) source target) fs = (.ok (), gs)) :
    Writable fs w target ∧ ∃ content executable, Valid source ∧ EndsInName (pieces source) ∧
      fs.get? (locate w source) = some (.file content executable) ∧
      Written fs gs (locate w target) content executable := by
  rw [copy, perform_get_bind] at hr
  split at hr
  · cases hr
  · next s content executable hfind =>
    obtain ⟨hs, hv, hend, hget⟩ := (h.find?_eq_file_iff hsource).mp hfind
    obtain ⟨_, _, hopen, _⟩ := perform_bind_eq_ok.mp hr
    have hp := writable_of_openForWriting h htarget hopen
    obtain ⟨gs', hr', hwritten⟩ := copy_of_find h htarget (hs ▸ hfind) hget hapart hp
    rw [copy, perform_get_bind, hfind] at hr'
    dsimp only at hr'
    rw [hr] at hr'
    cases hr'
    exact ⟨hp, content, executable, hv, hend, hget, hwritten⟩
  · cases hr

end Copy

end FlutterInstaller.FileSystem
