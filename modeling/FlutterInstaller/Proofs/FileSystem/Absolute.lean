import FlutterInstaller.Proofs.FileSystem.Erasure
import FlutterInstaller.Proofs.FileSystem.Writing

/-!
Absolute paths. They mean the same from everywhere, also from a directory that was removed.
-/
namespace FlutterInstaller.FileSystem

open FlutterInstaller.Path

section Everywhere

variable {p : String} (hp : isAbsolute p = true) (cwd : Standpoint)

include hp

theorem resolve_absolute (fs : FileSystem) (purpose : Purpose) :
    fs.resolve cwd purpose p = fs.resolve .root purpose p := by
  unfold resolve
  rw [hp, if_pos rfl, if_pos rfl]

theorem find?_absolute (fs : FileSystem) : fs.find? cwd p = fs.find? .root p := by
  rw [find?, find?, resolve_absolute hp]

theorem isFile_absolute (fs : FileSystem) : fs.isFile cwd p = fs.isFile .root p := by
  rw [isFile, isFile, find?_absolute hp]

theorem isDirectory_absolute (fs : FileSystem) : fs.isDirectory cwd p = fs.isDirectory .root p := by
  rw [isDirectory, isDirectory, find?_absolute hp]

theorem isStranded_absolute (fs : FileSystem) : fs.isStranded cwd p = fs.isStranded .root p := by
  simp only [isStranded, hp, if_true]
  generalize ((pieces p).filter (· ≠ "")).dropLast.filter (· ≠ ".") = ns
  cases ns with
  | nil => simp
  | cons n ns =>
    have habs : isAbsolute ("/".intercalate ("" :: n :: ns)) = true := by
      rw [String.intercalate_cons_of_ne_nil (by simp), String.empty_append]
      exact isAbsolute_append (by decide) _
    rw [resolve_absolute habs]

theorem openForWriting_absolute : openForWriting cwd p = openForWriting .root p := by
  simp only [openForWriting, resolve_absolute hp cwd]

theorem write_absolute (content : ByteArray) : write cwd p content = write .root p content := by
  rw [write, write, openForWriting_absolute hp]

variable (ht : Trimmed p)

include ht

theorem makeDirectory_absolute : makeDirectory cwd p = makeDirectory .root p := by
  simp only [makeDirectory, withoutSlash_eq_self ht, resolve_absolute hp cwd]

theorem ensureDirectory_absolute : ensureDirectory cwd p = ensureDirectory .root p := by
  simp only [ensureDirectory, makeDirectory_absolute hp cwd ht, isDirectory_absolute hp cwd]

theorem removeEmptied_absolute : removeEmptied cwd p = removeEmptied .root p := by
  simp only [removeEmptied, isStranded_absolute hp cwd, withoutSlash_eq_self ht,
    resolve_absolute hp cwd]

theorem removeDirectories_absolute : removeDirectories cwd p = removeDirectories .root p := by
  simp only [removeDirectories, resolve_absolute hp cwd, removeEmptied_absolute hp cwd ht]

omit hp ht in
theorem mem_of_anchorLineage {fs gs : FileSystem} {ps below below' : List String}
    (hr : perform (anchorLineage cwd ps below) fs = (.ok below', gs)) :
    ∀ q ∈ below', q ∈ ps ∨ q ∈ below := by
  induction ps generalizing fs below with
  | nil =>
    cases hr
    exact fun q hq => .inr hq
  | cons p ps ih =>
    obtain ⟨missing, fs', _, hr⟩ := perform_bind_eq_ok.mp hr
    cases missing with
    | false =>
      cases hr
      exact fun q hq => .inr hq
    | true =>
      intro q hq
      rcases ih hr q hq with hq | hq
      · exact .inl (List.mem_cons_of_mem p hq)
      · rcases List.mem_cons.mp hq with rfl | hq
        · exact .inl List.mem_cons_self
        · exact .inr hq

omit hp ht in
theorem anchorLineage_absolute {ps : List String}
    (hps : ∀ q ∈ ps, isAbsolute q = true ∧ Trimmed q) (below : List String) :
    anchorLineage cwd ps below = anchorLineage .root ps below := by
  induction ps generalizing below with
  | nil => rfl
  | cons p ps ih =>
    obtain ⟨⟨hp, ht⟩, hps⟩ := List.forall_mem_cons.mp hps
    simp only [anchorLineage, ensureDirectory_absolute hp cwd ht, ih hps]

omit hp ht in
theorem ensureDirectories_absolute {qs : List String}
    (hqs : ∀ q ∈ qs, isAbsolute q = true ∧ Trimmed q) :
    qs.forM (ensureDirectory cwd) = qs.forM (ensureDirectory .root) := by
  induction qs with
  | nil => simp only [List.forM]
  | cons q qs ih =>
    obtain ⟨⟨hq, ht⟩, hqs⟩ := List.forall_mem_cons.mp hqs
    simp only [List.forM, ensureDirectory_absolute hq cwd ht, ih hqs]

theorem perform_makeDirectories_absolute (fs : FileSystem) :
    perform (makeDirectories cwd p) fs = perform (makeDirectories .root p) fs := by
  have hlineage : ∀ q ∈ lineage (p.length + 1) p, isAbsolute q = true ∧ Trimmed q := by
    intro q hq
    obtain ⟨habs, _, htrimmed⟩ := mem_lineage hq
    exact ⟨habs.trans hp, htrimmed ht⟩
  rw [makeDirectories, makeDirectories, anchorLineage_absolute cwd hlineage, perform_bind,
    perform_bind]
  cases hr : perform (anchorLineage .root (lineage (p.length + 1) p) []) fs with
  | mk r gs =>
    cases r with
    | error e => rfl
    | ok below =>
      have hbelow : ∀ q ∈ below, isAbsolute q = true ∧ Trimmed q := fun q hq =>
        hlineage q ((mem_of_anchorLineage .root hr q hq).resolve_right (by simp))
      dsimp only
      rw [ensureDirectories_absolute cwd hbelow]

end Everywhere

section Places

variable {fs : FileSystem} {l : Location} {n : String} (htree : IsTree fs) (hl : ∀ n ∈ l, IsName n)
  (hd : fs.get? l = some .directory)

theorem resolve_eq_walk {p : String} (habs : isAbsolute p = true) (hv : Valid p) (cwd : Standpoint)
    (purpose : Purpose) :
    fs.resolve cwd purpose p = walk fs purpose linkLimit (.ofPlace []) (pieces p) := by
  rw [resolve, if_neg (by simp [hv.noNul]), if_neg hv.nonempty, if_neg (Nat.not_le.mpr hv.short),
    habs, if_pos rfl]
  rfl

theorem walk_free (hn : IsName n) (hfit : n.utf8ByteSize ≤ nameLimit)
    (hfree : fs.get? (l ++ [n]) = none) (purpose : Purpose) (links : Nat) :
    walk fs purpose links (.ofPlace l) [n] = .ok (.free (l ++ [n])) := by
  rw [walk_name (leads_iff.mpr ⟨hn.1, hn.2.1⟩) hn.2.2.1, if_neg (by simp),
    if_neg (Nat.not_lt.mpr hfit), hfree]
  rfl

include htree hl hd

theorem walk_text (hfits : Fits (pieces (text l))) {purpose : Purpose} (hpurpose : purpose ≠ .write)
    (links : Nat) : walk fs purpose links (.ofPlace []) (pieces (text l)) =
      .ok (.found l .directory) := by
  rw [Fits, show (pieces (text l)).filter leads = l from names_text hl] at hfits
  rw [pieces_text hl, walk_skip rfl]
  by_cases hne : l = []
  · subst hne
    rw [if_pos rfl, walk_skip rfl, walk]
    rfl
  · have hdown : walk fs purpose links (.ofPlace []) (l ++ []) =
        walk fs purpose links (.ofPlace l) [] :=
      walk_directories htree hl (fun n hn => hfits n (List.mem_of_mem_filter hn))
        (fun hw => absurd hw hpurpose) hd
    rw [List.append_nil] at hdown
    rw [if_neg hne, hdown, walk]
    rfl

theorem resolve_text (hv : Valid (text l)) (cwd : Standpoint) {purpose : Purpose}
    (hpurpose : purpose ≠ .write) :
    fs.resolve cwd purpose (text l) = .ok (.found l .directory) := by
  rw [resolve_eq_walk (isAbsolute_text l) hv, walk_text htree hl hd hv.fits hpurpose]

theorem isDirectory_text (hv : Valid (text l)) (cwd : Standpoint) :
    fs.isDirectory cwd (text l) = true := by
  rw [isDirectory, find?, resolve_text htree hl hd hv cwd (by decide)]

theorem walk_text_concat (hn : IsName n) (hfits : Fits (pieces (text (l ++ [n]))))
    (purpose : Purpose) (links : Nat) :
    walk fs purpose links (.ofPlace []) (pieces (text (l ++ [n]))) =
        walk fs purpose links (.ofPlace l) [n] ∧ n.utf8ByteSize ≤ nameLimit := by
  have hnames : ∀ m ∈ l ++ [n], IsName m := by simpa [or_imp, forall_and, hn] using hl
  rw [Fits, show (pieces (text (l ++ [n]))).filter leads = l ++ [n] from names_text hnames] at hfits
  refine ⟨?_, hfits n (by simp)⟩
  rw [pieces_text hnames, if_neg (by simp), walk_skip rfl]
  exact walk_directories htree hl
    (fun m hm => hfits m (List.mem_append_left _ (List.mem_of_mem_filter hm)))
    (fun _ => by simp [hn.1]) hd

theorem walk_text_entry (hn : IsName n) (hfits : Fits (pieces (text (l ++ [n]))))
    (hfree : fs.get? (l ++ [n]) = none) (purpose : Purpose) (links : Nat) :
    walk fs purpose links (.ofPlace []) (pieces (text (l ++ [n]))) = .ok (.free (l ++ [n])) := by
  obtain ⟨hdown, hfit⟩ := walk_text_concat htree hl hd hn hfits purpose links
  rw [hdown, walk_free hn hfit hfree]

theorem resolve_text_entry (hn : IsName n) (hv : Valid (text (l ++ [n])))
    (hfree : fs.get? (l ++ [n]) = none) (cwd : Standpoint) (purpose : Purpose) :
    fs.resolve cwd purpose (text (l ++ [n])) = .ok (.free (l ++ [n])) := by
  rw [resolve_eq_walk (isAbsolute_text _) hv, walk_text_entry htree hl hd hn hv.fits hfree]

section Found

variable {content : ByteArray} {executable : Bool}

theorem walk_text_file (hn : IsName n) (hfits : Fits (pieces (text (l ++ [n]))))
    (hfile : fs.get? (l ++ [n]) = some (.file content executable)) (purpose : Purpose) (links : Nat) :
    walk fs purpose links (.ofPlace []) (pieces (text (l ++ [n]))) =
      .ok (.found (l ++ [n]) (.file content executable)) := by
  obtain ⟨hdown, hfit⟩ := walk_text_concat htree hl hd hn hfits purpose links
  rw [hdown, walk_name (leads_iff.mpr ⟨hn.1, hn.2.1⟩) hn.2.2.1, if_neg (by simp),
    if_neg (Nat.not_lt.mpr hfit), hfile]
  rfl

theorem isFile_text (hn : IsName n) (hv : Valid (text (l ++ [n])))
    (hfile : fs.get? (l ++ [n]) = some (.file content executable)) (cwd : Standpoint) :
    fs.isFile cwd (text (l ++ [n])) = true := by
  rw [isFile, find?, resolve_eq_walk (isAbsolute_text _) hv,
    walk_text_file htree hl hd hn hv.fits hfile]

end Found

theorem resolve_text_link (hn : IsName n) (hv : Valid (text (l ++ [n]))) {target : String}
    (hlink : fs.get? (l ++ [n]) = some (.link target)) (htarget : target ≠ "") (cwd : Standpoint)
    {purpose : Purpose} (hpurpose : purpose ≠ .inspect) :
    fs.resolve cwd purpose (text (l ++ [n])) =
      walk fs purpose (linkLimit - 1) (.ofPlace (if isAbsolute target then [] else l))
        (pieces target) := by
  obtain ⟨hdown, hfit⟩ := walk_text_concat htree hl hd hn hv.fits purpose linkLimit
  rw [resolve_eq_walk (isAbsolute_text _) hv, hdown, walk_name (leads_iff.mpr ⟨hn.1, hn.2.1⟩)
    hn.2.2.1, if_neg (by simp), if_neg (Nat.not_lt.mpr hfit), hlink]
  simp only [linkLimit, htarget, hpurpose, if_false, List.append_nil, and_false]
  split <;> rfl

theorem resolve_through {p : String} {ps : List String} (habs : isAbsolute p = true)
    (hv : Valid p) (hp : pieces p = "" :: (l ++ ps)) (cwd : Standpoint) {purpose : Purpose}
    (hpurpose : purpose ≠ .write) :
    fs.resolve cwd purpose p = walk fs purpose linkLimit (.ofPlace l) ps ∧ Fits ps := by
  have hfits := hv.fits
  rw [hp] at hfits
  have hdown : walk fs purpose linkLimit (.ofPlace []) (l ++ ps) =
      walk fs purpose linkLimit (.ofPlace l) ps :=
    walk_directories htree hl (hfits.mono fun m hm => by simp [hm])
      (fun hw => absurd hw hpurpose) hd
  refine ⟨?_, hfits.mono fun m hm => by simp [hm]⟩
  rw [resolve_eq_walk habs hv, hp, walk_skip rfl, hdown]

theorem resolve_of_missing {p : String} {ps : List String} (habs : isAbsolute p = true)
    (hv : Valid p) (hp : pieces p = "" :: (l ++ n :: ps)) (hn : IsName n)
    (hps : ps.all (· = "") = false) (hfree : fs.get? (l ++ [n]) = none) (cwd : Standpoint)
    {purpose : Purpose} (hpurpose : purpose ≠ .write) :
    fs.resolve cwd purpose p = .error .notFound := by
  obtain ⟨hwalk, hfits⟩ := resolve_through htree hl hd habs hv hp cwd hpurpose
  have hlead : leads n = true := leads_iff.mpr ⟨hn.1, hn.2.1⟩
  have hfit : ¬ nameLimit < n.utf8ByteSize := Nat.not_lt.mpr (hfits n (by simp [hlead]))
  rw [hwalk, walk_name hlead hn.2.2.1, if_neg (by simp [hpurpose]), if_neg hfit, hfree]
  dsimp only
  rw [if_neg (by simp [hps])]

theorem makeDirectories_text (hv : Valid (text l)) (ht : Trimmed (text l)) (cwd : Standpoint) :
    perform (makeDirectories cwd (text l)) fs = (.ok (), fs) := by
  have hthere : fs.isDirectory cwd (text l) = true := by
    rw [isDirectory, find?, resolve_text htree hl hd hv cwd (by simp)]
  have hensure : perform (ensureDirectory cwd (text l)) fs = (.ok (), fs) := by
    rw [ensureDirectory_of_found ht (resolve_text htree hl hd hv cwd (by simp)), if_pos hthere]
  rw [makeDirectories, lineage]
  split
  · rfl
  · rw [perform_bind, perform_anchorLineage_cons, hensure]
    rfl

theorem makeDirectories_text_entry (hn : IsName n) (hv : Valid (text (l ++ [n])))
    (ht : Trimmed (text (l ++ [n]))) (hfree : fs.get? (l ++ [n]) = none) (cwd : Standpoint) :
    perform (makeDirectories cwd (text (l ++ [n]))) fs =
      (.ok (), fs.insert (l ++ [n]) .directory) := by
  have hensure : perform (ensureDirectory cwd (text (l ++ [n]))) fs =
      (.ok (), fs.insert (l ++ [n]) .directory) :=
    ensureDirectory_of_free ht (resolve_text_entry htree hl hd hn hv hfree cwd .inspect)
  rw [makeDirectories, lineage]
  split
  · next hp =>
    have hnames : ∀ m ∈ l ++ [n], IsName m := by simpa [or_imp, forall_and, hn] using hl
    have hnone := names_of_parent?_eq_none hp
    rw [names_text hnames] at hnone
    simp at hnone
  · rw [perform_bind, perform_anchorLineage_cons, hensure]
    rfl

theorem write_text_entry (hn : IsName n) (hv : Valid (text (l ++ [n])))
    (hfree : fs.get? (l ++ [n]) = none) (cwd : Standpoint) (content : ByteArray) :
    perform (write cwd (text (l ++ [n])) content) fs =
      (.ok (), (fs.insert (l ++ [n]) (.file ByteArray.empty false)).insert (l ++ [n])
        (.file content false)) := by
  have hopen : perform (openForWriting cwd (text (l ++ [n]))) fs =
      (.ok (l ++ [n], false), fs.insert (l ++ [n]) (.file ByteArray.empty false)) := by
    rw [openForWriting, perform_get_bind, resolve_text_entry htree hl hd hn hv hfree]
    rfl
  rw [write, perform_bind_of_ok hopen]
  rfl

end Places

/-- A path that goes down into a directory and up again leads on from where it left. -/
theorem resolve_of_ups {fs : FileSystem} {l t : Location} {p : String} {ps : List String}
    (hplain : Plain fs) (hlt : ∀ n ∈ l ++ t, IsName n) (hd : fs.get? (l ++ t) = some .directory)
    (habs : isAbsolute p = true) (hv : Valid p)
    (hp : pieces p = "" :: (l ++ t ++ (List.replicate t.length ".." ++ ps)))
    (hs : ".." ∉ ps.filter leads) (hend : EndsInName ps)
    (hparent : fs.get? (l ++ (ps.filter leads).dropLast) = some .directory) (cwd : Standpoint)
    {purpose : Purpose} (hpurpose : purpose ≠ .write) :
    fs.resolve cwd purpose p = .ok ((fs.get? (l ++ ps.filter leads)).elim
      (.free (l ++ ps.filter leads)) (.found (l ++ ps.filter leads))) := by
  obtain ⟨hwalk, hfits⟩ := resolve_through hplain.toIsTree hlt hd habs hv hp cwd hpurpose
  rw [hwalk, walk_ups]
  exact walk_of_endsInName hplain hs (hfits.mono (List.subset_append_right _ _)) hend hparent

end FlutterInstaller.FileSystem
