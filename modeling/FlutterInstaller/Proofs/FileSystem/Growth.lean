import FlutterInstaller.Proofs.FileSystem.Lookup
import FlutterInstaller.Proofs.Path.Lineage
import FlutterInstaller.Proofs.Steps

/-!
Making directories. Whatever comes of it, a tree only grows: free places above the new directory and
at it may become directories, and nothing else changes. Where the directory stands already, nothing
changes at all.
-/
namespace FlutterInstaller.FileSystem

open FlutterInstaller.Path

/-- A tree that differs from another only by new directories at a place and above it. -/
structure Grows (l : Location) (fs gs : FileSystem) : Prop where
  plain : Plain gs
  changed : ∀ m, gs.get? m = fs.get? m ∨
    fs.get? m = none ∧ gs.get? m = some .directory ∧ m <+: l

section Grows

variable {l m w : Location} {fs gs hs : FileSystem}

theorem Grows.refl (h : Plain fs) (l : Location) : Grows l fs fs := ⟨h, fun _ => .inl rfl⟩

theorem Grows.trans (h : Grows l fs gs) (h' : Grows l gs hs) : Grows l fs hs where
  plain := h'.plain
  changed := by
    intro m
    rcases h.changed m with hm | ⟨hnone, hdir, hm⟩
    · rcases h'.changed m with hm' | ⟨hnone', hdir', hm'⟩
      · exact .inl (hm'.trans hm)
      · exact .inr ⟨hm ▸ hnone', hdir', hm'⟩
    · rcases h'.changed m with hm' | ⟨hnone', _, _⟩
      · exact .inr ⟨hnone, hm'.trans hdir, hm⟩
      · simp [hdir] at hnone'

theorem Grows.mono (h : Grows m fs gs) (hm : m <+: l) : Grows l fs gs where
  plain := h.plain
  changed := fun k => (h.changed k).imp_right fun ⟨hnone, hdir, hk⟩ => ⟨hnone, hdir, hk.trans hm⟩

theorem Grows.directory (h : Grows l fs gs) (hm : fs.get? m = some .directory) :
    gs.get? m = some .directory := by
  rcases h.changed m with he | ⟨hnone, _, _⟩
  · rw [he, hm]
  · simp [hm] at hnone

theorem Grows.ground (h : Grows l fs gs) (hw : Ground fs w) : Ground gs w where
  toPlain := h.plain
  here := h.directory hw.here

theorem Grows.get?_eq (h : Grows l fs gs) (hl : gs.get? l = some .directory) (m : Location) :
    gs.get? m = if m <+: l then some .directory else fs.get? m := by
  split
  · next hm => exact h.plain.directory_of_prefix_directory hm hl
  · next hm =>
    rcases h.changed m with he | ⟨_, _, hm'⟩
    · exact he
    · exact absurd hm' hm

end Grows

variable {fs gs : FileSystem} {w : Location} {p : String}

theorem isName_of_mem_names (hs : Straight p) {n : String} (hn : n ∈ Path.names p) :
    IsName n := by
  obtain ⟨hpiece, hleads⟩ := List.mem_filter.mp hn
  obtain ⟨hempty, hdot⟩ := leads_iff.mp hleads
  exact ⟨hempty, hdot, fun hup => hs (hup ▸ hn), Text.not_mem_of_mem_pieces hpiece⟩

theorem Ground.exists_name (h : Ground fs w) (hs : Straight p) (hfree : fs.get? (locate w p) = none) :
    ∃ l n, locate w p = l ++ [n] ∧ IsName n := by
  rw [locate_eq hs] at hfree ⊢
  rcases List.eq_nil_or_concat' (Path.names p) with hnil | ⟨ns, n, hns⟩
  · rw [hnil, List.append_nil, h.directory_origin p] at hfree
    simp at hfree
  · refine ⟨origin w p ++ ns, n, by rw [hns, List.append_assoc], ?_⟩
    exact isName_of_mem_names hs (hns ▸ List.mem_append_right ns List.mem_cons_self)

theorem Plain.grows_insert (h : Plain fs) {l : Location} {n : String} (hname : IsName n)
    (hfree : fs.get? (l ++ [n]) = none) (hparent : fs.get? l = some .directory) :
    Grows (l ++ [n]) fs (fs.insert (l ++ [n]) .directory) where
  plain := h.insert hparent hname (.inl rfl) (by simp)
  changed := by
    intro m
    rw [get?_insert fs _ (by simp)]
    split
    · next hm =>
      subst hm
      exact .inr ⟨hfree, rfl, List.prefix_rfl⟩
    · exact .inl rfl

theorem perform_makeDirectory (h : Ground fs w) (hs : Straight p) (ht : Trimmed p) :
    (∃ gs, perform (makeDirectory (.ofPlace w) p) fs = (.ok (), gs) ∧ Valid p ∧
        Grows (locate w p) fs gs ∧ gs.get? (locate w p) = some .directory) ∨
      ∃ e, perform (makeDirectory (.ofPlace w) p) fs = (.error e, fs) := by
  rw [makeDirectory, perform_get_bind, withoutSlash_eq_self ht]
  cases hr : fs.resolve (.ofPlace w) .inspect p with
  | error e => exact .inr ⟨e, rfl⟩
  | ok place =>
    cases place with
    | found m e => exact .inr ⟨.alreadyExists, rfl⟩
    | removed s => exact .inr ⟨.alreadyExists, rfl⟩
    | free m =>
      obtain ⟨rfl, hfree, hparent, hv, _⟩ := h.resolve_eq_free hs hr
      refine .inl ⟨_, rfl, hv, ?_⟩
      obtain ⟨l, n, hl, hname⟩ := h.exists_name hs hfree
      rw [hl] at hfree hparent ⊢
      rw [List.dropLast_concat] at hparent
      exact ⟨h.grows_insert hname hfree hparent, by simp [get?_insert]⟩

theorem perform_ensureDirectory (h : Ground fs w) (hs : Straight p) (ht : Trimmed p) :
    (∃ gs, perform (ensureDirectory (.ofPlace w) p) fs = (.ok (), gs) ∧ Valid p ∧
        Grows (locate w p) fs gs ∧ gs.get? (locate w p) = some .directory) ∨
      ∃ e, perform (ensureDirectory (.ofPlace w) p) fs = (.error e, fs) := by
  rw [ensureDirectory, perform_tryCatch]
  rcases perform_makeDirectory h hs ht with ⟨gs, hm, hspec⟩ | ⟨e, hm⟩
  · rw [hm]
    exact .inl ⟨gs, rfl, hspec⟩
  · rw [hm]
    simp only [perform_get_bind]
    split
    · next hexists =>
      obtain ⟨hv, hd⟩ := (h.isDirectory_iff hs).mp hexists.2
      exact .inl ⟨fs, rfl, hv, .refl h.toPlain _, hd⟩
    · exact .inr ⟨e, rfl⟩

section Ensure

variable {cwd : Standpoint} {l : Location}

theorem ensureDirectory_of_free (ht : Trimmed p) (hr : fs.resolve cwd .inspect p = .ok (.free l)) :
    perform (ensureDirectory cwd p) fs = (.ok (), fs.insert l .directory) := by
  rw [ensureDirectory, perform_tryCatch, makeDirectory, perform_get_bind, withoutSlash_eq_self ht, hr]
  rfl

theorem ensureDirectory_of_error {e : OsError} (ht : Trimmed p)
    (hr : fs.resolve cwd .inspect p = .error e) (he : e ≠ .alreadyExists) :
    perform (ensureDirectory cwd p) fs = (.error e, fs) := by
  rw [ensureDirectory, perform_tryCatch, makeDirectory, perform_get_bind, withoutSlash_eq_self ht, hr]
  dsimp only
  rw [perform_throw]
  dsimp only
  rw [perform_get_bind, if_neg (by simp [he])]
  rfl

theorem ensureDirectory_of_found {e : Entry} (ht : Trimmed p)
    (hr : fs.resolve cwd .inspect p = .ok (.found l e)) :
    perform (ensureDirectory cwd p) fs =
      (if fs.isDirectory cwd p then .ok () else .error .alreadyExists, fs) := by
  rw [ensureDirectory, perform_tryCatch, makeDirectory, perform_get_bind, withoutSlash_eq_self ht, hr]
  dsimp only
  rw [perform_throw]
  dsimp only
  rw [perform_get_bind]
  by_cases hd : fs.isDirectory cwd p = true <;> simp [hd]

end Ensure

theorem ensureDirectory_of_directory (h : Ground fs w) (hs : Straight p) (ht : Trimmed p)
    (hv : Valid p) (hd : fs.get? (locate w p) = some .directory) :
    perform (ensureDirectory (.ofPlace w) p) fs = (.ok (), fs) := by
  have hfound : fs.resolve (.ofPlace w) .inspect p = .ok (.found (locate w p) .directory) :=
    h.resolve_of_directory hs hv (by simp) hd
  rw [ensureDirectory_of_found ht hfound, if_pos ((h.isDirectory_iff hs).mpr ⟨hv, hd⟩)]

structure Above (w l : Location) (q : String) : Prop where
  straight : Straight q
  trimmed : Trimmed q
  isPrefix : locate w q <+: l

theorem above_of_mem_lineage (hs : Straight p) (ht : Trimmed p) {fuel : Nat} {q : String}
    (hq : q ∈ lineage fuel p) : Above w (locate w p) q := by
  obtain ⟨habs, hnames, htrimmed⟩ := mem_lineage hq
  have hsq : Straight q := fun hup => hs (hnames.subset hup)
  refine ⟨hsq, htrimmed ht, ?_⟩
  rw [locate_eq hs, locate_eq hsq, origin, origin, habs]
  exact (List.prefix_append_right_inj _).mpr hnames

theorem ensureDirectories_eq_ok {l : Location} {qs : List String} (h : Ground fs w)
    (hqs : ∀ q ∈ qs, Above w l q)
    (hr : perform (qs.forM (ensureDirectory (.ofPlace w))) fs = (.ok (), gs)) :
    Grows l fs gs ∧ ∀ q ∈ qs, Valid q ∧ gs.get? (locate w q) = some .directory := by
  induction qs generalizing fs with
  | nil =>
    cases hr
    exact ⟨.refl h.toPlain l, by simp⟩
  | cons q qs ih =>
    obtain ⟨hq, hqs⟩ := List.forall_mem_cons.mp hqs
    rw [List.forM] at hr
    obtain ⟨_, hs, he, hr⟩ := perform_bind_eq_ok.mp hr
    rcases perform_ensureDirectory h hq.straight hq.trimmed with ⟨hs', he', hv, hgrows, hd⟩ | ⟨e, he'⟩
    · rw [he'] at he
      cases he
      obtain ⟨hgrows', hrest⟩ := ih (hgrows.ground h) hqs hr
      refine ⟨(hgrows.mono hq.isPrefix).trans hgrows', ?_⟩
      exact List.forall_mem_cons.mpr ⟨⟨hv, hgrows'.directory hd⟩, hrest⟩
    · rw [he'] at he
      cases he

theorem perform_anchorLineage_cons (cwd : Standpoint) (q : String) (qs below : List String) :
    perform (anchorLineage cwd (q :: qs) below) fs =
      match perform (ensureDirectory cwd q) fs with
      | (.ok _, gs) => (.ok below, gs)
      | (.error e, gs) =>
        if e = .notFound then perform (anchorLineage cwd qs (q :: below)) gs
        else (.error e, gs) := by
  rw [anchorLineage, perform_bind, perform_tryCatch, perform_bind]
  rcases perform (ensureDirectory cwd q) fs with ⟨r, gs⟩
  cases r with
  | ok u => rfl
  | error e =>
    by_cases he : e = .notFound
    · subst he
      rfl
    · simp only [if_neg he]
      rfl

theorem anchorLineage_eq_ok {l : Location} {qs below below' : List String} (h : Ground fs w)
    (hqs : ∀ q ∈ qs, Above w l q)
    (hr : perform (anchorLineage (.ofPlace w) qs below) fs = (.ok below', gs)) :
    Grows l fs gs ∧ ∃ up, below' = up ++ below ∧ ∀ q ∈ up, Above w l q := by
  induction qs generalizing below with
  | nil =>
    cases hr
    exact ⟨.refl h.toPlain l, [], rfl, by simp⟩
  | cons q qs ih =>
    obtain ⟨hq, hqs⟩ := List.forall_mem_cons.mp hqs
    rw [perform_anchorLineage_cons] at hr
    rcases perform_ensureDirectory h hq.straight hq.trimmed with ⟨hs', he, hv, hgrows, hd⟩ | ⟨e, he⟩
    · rw [he] at hr
      cases hr
      exact ⟨hgrows.mono hq.isPrefix, [], rfl, by simp⟩
    · rw [he] at hr
      dsimp only at hr
      split at hr
      · obtain ⟨hgrows, up, rfl, hup⟩ := ih hqs hr
        refine ⟨hgrows, up ++ [q], by simp, ?_⟩
        simpa [or_imp, forall_and, hq] using hup
      · cases hr

def Makeable (p : String) : Prop := parent? p = none ∨ Valid p

theorem Valid.makeable_parent? {q : String} (hv : Valid p) (hq : parent? p = some q) :
    Makeable q := by
  by_cases hempty : q = ""
  · exact .inl (hempty ▸ rfl)
  · obtain ⟨s, hs⟩ := exists_append_of_parent? hq
    have hnames : Path.names q = (Path.names p).dropLast := congrArg Prod.snd (route_parent? hq)
    refine .inr ⟨fun hnul => hv.noNul ?_, hempty, lt_of_le_of_lt ?_ hv.short, fun n hn => hv.fits n ?_⟩
    · rw [hs, String.toList_append]
      exact List.mem_append_left _ hnul
    · rw [hs, String.utf8ByteSize_append]
      exact Nat.le_add_right _ _
    · exact List.dropLast_subset _ (hnames ▸ hn)

/-- Once a directory is made, it and all places above it are directories, and the others are as they
were. -/
theorem makeDirectories_eq_ok (h : Ground fs w) (hs : Straight p) (ht : Trimmed p)
    (hr : perform (makeDirectories (.ofPlace w) p) fs = (.ok (), gs)) :
    Ground gs w ∧ Makeable p ∧
      ∀ m, gs.get? m = if m <+: locate w p then some .directory else fs.get? m := by
  have habove : ∀ {fuel q}, q ∈ lineage fuel p → Above w (locate w p) q :=
    fun hq => above_of_mem_lineage hs ht hq
  have hself : Above w (locate w p) p := ⟨hs, ht, List.prefix_rfl⟩
  suffices hsuff : Grows (locate w p) fs gs ∧ Makeable p ∧
      gs.get? (locate w p) = some .directory from
    ⟨hsuff.1.ground h, hsuff.2.1, hsuff.1.get?_eq hsuff.2.2⟩
  rw [makeDirectories] at hr
  obtain ⟨below, hs₁, ha, hr⟩ := perform_bind_eq_ok.mp hr
  cases hp : parent? p with
  | none =>
    rw [lineage, hp] at ha
    cases ha
    cases hr
    refine ⟨.refl h.toPlain _, .inl hp, ?_⟩
    rw [locate_eq hs, names_of_parent?_eq_none hp, List.append_nil]
    exact h.directory_origin p
  | some q =>
    rw [lineage, hp, perform_anchorLineage_cons] at ha
    rcases perform_ensureDirectory h hs ht with ⟨hs', he, hv, hgrows, hd⟩ | ⟨e, he⟩
    · rw [he] at ha
      cases ha
      cases hr
      exact ⟨hgrows, .inr hv, hd⟩
    · rw [he] at ha
      dsimp only at ha
      split at ha
      · have hrest : ∀ x ∈ lineage p.length q, Above w (locate w p) x := fun x hx => by
          have hmem : x ∈ lineage (p.length + 1) p := by
            rw [lineage, hp]
            exact List.mem_cons_of_mem p hx
          exact habove hmem
        obtain ⟨hgrows, up, rfl, hup⟩ := anchorLineage_eq_ok h hrest ha
        have hall : ∀ x ∈ up ++ [p], Above w (locate w p) x := by
          simpa [or_imp, forall_and, hself] using hup
        obtain ⟨hgrows', hdirs⟩ := ensureDirectories_eq_ok (hgrows.ground h) hall hr
        obtain ⟨hv, hd⟩ := hdirs p (by simp)
        exact ⟨hgrows.trans hgrows', .inr hv, hd⟩
      · cases ha

theorem makeDirectories_of_directory (h : Ground fs w) (hs : Straight p) (ht : Trimmed p)
    (hp : Makeable p) (hd : fs.get? (locate w p) = some .directory) :
    perform (makeDirectories (.ofPlace w) p) fs = (.ok (), fs) := by
  rw [makeDirectories]
  cases hparent : parent? p with
  | none =>
    rw [lineage, hparent]
    rfl
  | some q =>
    have hv : Valid p := hp.resolve_left (by simp [hparent])
    have hanchor : perform (anchorLineage (.ofPlace w) (p :: lineage p.length q) []) fs =
        (.ok [], fs) := by
      rw [perform_anchorLineage_cons, ensureDirectory_of_directory h hs ht hv hd]
    rw [lineage, hparent, perform_bind_of_ok hanchor]
    rfl

theorem makeDirectories_of_free (h : Ground fs w) (hs : Straight p) (ht : Trimmed p)
    (hend : EndsInName (pieces p)) (hv : Valid p) (hfree : fs.get? (locate w p) = none)
    (hparent : fs.get? (locate w p).dropLast = some .directory) :
    perform (makeDirectories (.ofPlace w) p) fs = (.ok (), fs.insert (locate w p) .directory) := by
  have hr : fs.resolve (.ofPlace w) .inspect p = .ok (.free (locate w p)) := by
    rw [h.resolve_of_endsInName hs hv hend hparent, hfree]
    rfl
  cases hp : parent? p with
  | none => exact absurd (names_of_parent?_eq_none hp) hend.filter_ne_nil
  | some q =>
    have hanchor : perform (anchorLineage (.ofPlace w) (p :: lineage p.length q) []) fs =
        (.ok [], fs.insert (locate w p) .directory) := by
      rw [perform_anchorLineage_cons, ensureDirectory_of_free ht hr]
    rw [makeDirectories, lineage, hp, perform_bind_of_ok hanchor]
    rfl

end FlutterInstaller.FileSystem
