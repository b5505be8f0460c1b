import FlutterInstaller.Proofs.FileSystem.Absolute
import FlutterInstaller.Proofs.Host.Likeness
import FlutterInstaller.Proofs.Path.Entry

/-!
Changing the files of a host that stands in a tree without links. An action that succeeds does to what
stands at each place what is said here, and changes nothing else of the host.
-/
namespace FlutterInstaller

open FileSystem FlutterInstaller.Path

/-- What stands at each place. -/
abbrev View := Location → Option Entry

namespace View

def raise (v : View) (l : Location) : View := fun m => if m <+: l then some .directory else v m

def erase (v : View) (l : Location) : View := fun m => if l <+: m then none else v m

def put (v : View) (l : Location) (e : Entry) : View := fun m => if m = l then some e else v.raise l m

theorem raise_of_not_prefix {v : View} {l m : Location} (h : ¬ m <+: l) : v.raise l m = v m :=
  if_neg h

theorem put_of_not_prefix {v : View} {l m : Location} {e : Entry} (h : ¬ m <+: l) :
    v.put l e m = v m := by
  rw [put, if_neg, raise_of_not_prefix h]
  rintro rfl
  exact h List.prefix_rfl

theorem put_of_apart {v : View} {l m : Location} {e : Entry} (h : Apart l m) : v.put l e m = v m :=
  put_of_not_prefix h.2

theorem put_self (v : View) (l : Location) (e : Entry) : v.put l e l = some e := if_pos rfl

theorem raise_erase_of_apart {v : View} {l m : Location} (h : Apart l m) :
    (v.erase l).raise l m = v m := by
  rw [raise, if_neg h.2, erase, if_neg h.1]

theorem raise_erase_below {v : View} {l m : Location} (h : l <+: m) (hne : m ≠ l) :
    (v.erase l).raise l m = none := by
  rw [raise, if_neg fun hm => hne (hm.eq_of_length_le h.length_le), erase, if_pos h]

end View

namespace FileSystem

variable {fs gs hs : FileSystem} {l w : Location} {content : ByteArray} {executable : Bool}

theorem prefix_iff_dropLast {m : Location} (hl : l ≠ []) : m <+: l ↔ m = l ∨ m <+: l.dropLast := by
  rcases List.eq_nil_or_concat' l with rfl | ⟨k, n, rfl⟩
  · exact absurd rfl hl
  · rw [List.dropLast_concat, List.prefix_concat_iff]

theorem IsTree.put_eq (h : IsTree fs) {n : String} {e : Entry}
    (hd : fs.get? l = some .directory) (m : Location) :
    View.put fs.get? (l ++ [n]) e m = if m = l ++ [n] then some e else fs.get? m := by
  rw [View.put, View.raise]
  split
  · rfl
  · next hne =>
    split
    · next hm =>
      exact (h.directory_of_prefix_directory ((List.prefix_concat_iff.mp hm).resolve_left hne)
        hd).symm
    · rfl

theorem IsTree.raise_same (h : IsTree fs) (hd : fs.get? l = some .directory) :
    View.raise fs.get? l = fs.get? := by
  funext m
  rw [View.raise]
  split
  · next hm => exact (h.directory_of_prefix_directory hm hd).symm
  · rfl

theorem IsTree.put_same (h : IsTree fs) {e : Entry} (hl : fs.get? l = some e) :
    View.put fs.get? l e = fs.get? := by
  funext m
  rw [View.put, View.raise]
  split
  · next hm => rw [hm, hl]
  · next hne =>
    split
    · next hm => exact (h.directory_of_prefix hm hne (by simp [hl])).symm
    · rfl

theorem Written.get?_eq_put (hl : l ≠ []) (hparent : gs.get? = View.raise fs.get? l.dropLast)
    (h : Written gs hs l content executable) :
    hs.get? = View.put fs.get? l (.file content executable) := by
  funext m
  rw [h.get?_eq, hparent, View.put, View.raise, View.raise]
  by_cases hm : m = l
  · simp [hm]
  · simp [hm, prefix_iff_dropLast hl]

theorem Written.ground (h : Written fs gs l content executable) (hg : Ground fs w)
    (hl : fs.get? l ≠ some .directory) : Ground gs w where
  toPlain := h.plain
  here := by
    rw [h.get?_eq, if_neg, hg.here]
    rintro rfl
    exact hl hg.here

theorem not_prefix_dropLast (hl : l ≠ []) : ¬ l <+: l.dropLast := by
  intro h
  have hle := h.length_le
  have hpos := List.length_pos_iff.mpr hl
  rw [List.length_dropLast] at hle
  omega

variable {path : String}

theorem locate_ne_nil (hs : Straight path) (hend : EndsInName (pieces path)) (w : Location) :
    locate w path ≠ [] := by
  rw [locate_of_straight hs]
  exact List.append_ne_nil_of_right_ne_nil _ hend.filter_ne_nil

theorem erase_of_directory (h : Ground fs w) (hs : Straight path) (ht : Trimmed path)
    (hend : EndsInName (pieces path)) (hw : ¬ locate w path <+: w) (hv : Valid path)
    (hd : fs.get? (locate w path) = some .directory) :
    ∃ gs gs', perform (removeDirectories (.ofPlace w) path) fs = (.ok (), gs) ∧
      perform (makeDirectories (.ofPlace w) path) gs = (.ok (), gs') ∧
      Ground gs w ∧ gs.get? = View.erase fs.get? (locate w path) ∧
      Ground gs' w ∧ gs'.get? = View.raise (View.erase fs.get? (locate w path)) (locate w path) := by
  have hremove := removeDirectories_of_directory h hs ht hend hw hv hd
  obtain ⟨hg, hget⟩ := removeDirectories_eq_ok h hs ht hend hw hremove
  generalize (fs.removeBelow (locate w path)).removeTree (locate w path) = gs at *
  have hview : gs.get? = View.erase fs.get? (locate w path) := funext hget
  have hfree : gs.get? (locate w path) = none := by rw [hget, if_pos List.prefix_rfl]
  have hparent : gs.get? (locate w path).dropLast = some .directory := by
    rw [hget, if_neg (not_prefix_dropLast (locate_ne_nil hs hend w))]
    exact h.directory_of_prefix_directory (List.dropLast_prefix _) hd
  have hmake := makeDirectories_of_free hg hs ht hend hv hfree hparent
  obtain ⟨hg', _, hget'⟩ := makeDirectories_eq_ok hg hs ht hmake
  exact ⟨gs, _, hremove, hmake, hg, hview, hg', hview ▸ funext hget'⟩

end FileSystem

namespace Host

/-- A host that stands in a directory of a tree without links. -/
structure Standing (h : Host) (w : Location) : Prop where
  workingDirectory : h.workingDirectory = .ofPlace w
  ground : Ground h.files w

/-- A host differs from another only by its log and by what stands at each place, and still stands
in its directory. -/
structure Becomes (h : Host) (w : Location) (v : View) (h' : Host) : Prop where
  standing : h'.Standing w
  rest : h' = { h with files := h'.files, log := h'.log }
  view : h'.files.get? = v

variable {h h' h'' : Host} {w : Location} {v v' : View} {gs : FileSystem}

theorem Standing.withFiles (hst : h.Standing w) (hg : Ground gs w) :
    h.withFiles gs = { h with files := gs } := by
  rw [Host.withFiles, hst.workingDirectory, hg.settle, ← hst.workingDirectory]

theorem Standing.becomes (hst : h.Standing w) (hg : Ground gs w) (hv : gs.get? = v) :
    h.Becomes w v { h with files := gs } where
  standing := ⟨hst.workingDirectory, hg⟩
  rest := rfl
  view := hv

theorem Standing.becomes_self (hst : h.Standing w) : h.Becomes w h.files.get? h :=
  hst.becomes hst.ground rfl

theorem Becomes.trans (hh : h.Becomes w v h') (hh' : h'.Becomes w v' h'') : h.Becomes w v' h'' where
  standing := hh'.standing
  rest := by
    rw [hh'.rest, hh.rest]
  view := hh'.view

theorem Becomes.log (hh : h.Becomes w v h') (lines : List LogLine) :
    h.Becomes w v { h' with log := lines } where
  standing := ⟨hh.standing.workingDirectory, hh.standing.ground⟩
  rest := by
    rw [hh.rest]
  view := hh.view

theorem currentDirectory_eq_ok (hw : h.currentDirectory = .ok w) :
    h.workingDirectory = .ofPlace w ∧ h.files.get? w = some .directory := by
  apply location?_settle_eq_some
  rw [currentDirectory] at hw
  cases hl : (h.workingDirectory.settle h.files).location? with
  | none =>
    rw [hl] at hw
    cases hw
  | some l =>
    rw [hl] at hw
    cases hw
    rfl

theorem standing_of_currentDirectory (hp : Plain h.files) (hw : h.currentDirectory = .ok w) :
    h.Standing w := by
  obtain ⟨hplace, hhere⟩ := currentDirectory_eq_ok hw
  exact ⟨hplace, ⟨hp, hhere⟩⟩

theorem isName_currentDirectory (htree : IsTree h.files) (hw : h.currentDirectory = .ok w) :
    ∀ n ∈ w, IsName n :=
  htree.isName (by simp [(currentDirectory_eq_ok hw).2])

theorem Standing.currentDirectory (hst : h.Standing w) : h.currentDirectory = .ok w := by
  rw [Host.currentDirectory, hst.workingDirectory, hst.ground.settle]
  rfl

theorem Becomes.alike (hh : h.Becomes w v h') (hv : v = h.files.get?) : h.Alike h' where
  files := fun l => by rw [hh.view, hv]
  rest := hh.rest

theorem Becomes.alike_of_becomes (hh : h.Becomes w v h') (hh' : h.Becomes w v h'') :
    h'.Alike h'' where
  files := fun l => by rw [hh.view, hh'.view]
  rest := by
    rw [hh'.rest, hh.rest]

theorem Becomes.of_alike (hh : h.Becomes w v h') (hlike : h'.Alike h'') : h.Becomes w v h'' where
  standing := by
    have hst := hh.standing
    refine ⟨hlike.workingDirectory ▸ hst.workingDirectory, hst.ground.toPlain.of_same hlike.files, ?_⟩
    rw [← hlike.files, hst.ground.here]
  rest := by
    rw [hlike.rest, hh.rest]
  view := by
    rw [← hh.view]
    exact funext fun l => (hlike.files l).symm

theorem removed_withFiles (hw : 0 < h.workingDirectory.removed) (gs : FileSystem) :
    0 < (h.withFiles gs).workingDirectory.removed :=
  hw.trans_le (removed_le_settle gs h.workingDirectory)

theorem removed_withFiles_of_not_directory {gs : FileSystem}
    (hw : gs.hasDirectory h.workingDirectory.place = false) :
    0 < (h.withFiles gs).workingDirectory.removed := by
  have hle := removed_le_settle gs
    ⟨h.workingDirectory.place.dropLast, h.workingDirectory.removed + 1⟩
  rw [Host.withFiles, Standpoint.settle, dif_neg (by simp [hw])]
  exact (Nat.succ_pos _).trans_le hle

theorem currentDirectory_of_removed (hw : 0 < h.workingDirectory.removed) :
    h.currentDirectory = .error .notFound := by
  have hle := removed_le_settle h.files h.workingDirectory
  rw [currentDirectory, Standpoint.location?, if_neg (by omega)]
  rfl

end Host

namespace Action

variable {h h' : Host} {w : Location} {path source target : String} {content : ByteArray}

section Edit

variable {α : Type} {action : FileAction} {change : Standpoint → Edit α} {a : α} {gs : FileSystem}

theorem edit_of_ok (hst : h.Standing w) (hc : perform (change (.ofPlace w)) h.files = (.ok a, gs))
    (hg : Ground gs w) :
    perform (edit action path change) h = (.ok a, { h with files := gs }) := by
  have hc' : perform (change h.workingDirectory) h.files = (.ok a, gs) := by
    rw [hst.workingDirectory, hc]
  rw [perform_edit, hc', hst.withFiles hg]
  rfl

theorem edit_absolute (hc : perform (change .root) h.files = (.ok a, gs))
    (habs : perform (change h.workingDirectory) h.files = perform (change .root) h.files) :
    perform (edit action path change) h = (.ok a, h.withFiles gs) := by
  rw [perform_edit, habs, hc]
  rfl

theorem edit_eq_ok (hst : h.Standing w) (hr : perform (edit action path change) h = (.ok a, h')) :
    ∃ gs, perform (change (.ofPlace w)) h.files = (.ok a, gs) ∧ h' = h.withFiles gs := by
  obtain ⟨gs, hc, rfl⟩ := perform_edit_eq_ok.mp hr
  rw [hst.workingDirectory] at hc
  exact ⟨gs, hc, rfl⟩

end Edit

def ParentMakeable (path : String) : Prop := ∀ q, parent? path = some q → Makeable q

theorem makeParent_eq_ok (hst : h.Standing w) (hs : Straight path) (hne : Path.names path ≠ [])
    (hr : perform (makeParent path) h = (.ok (), h')) :
    h.Becomes w (View.raise h.files.get? (Path.locate w path).dropLast) h' ∧ ParentMakeable path := by
  obtain ⟨q, hq⟩ := exists_parent? hne
  obtain ⟨hsq, hlocate⟩ := locate_parent? hs hne hq w
  rw [makeParent, hq] at hr
  obtain ⟨gs, hc, rfl⟩ := edit_eq_ok hst hr
  obtain ⟨hg, hmakeable, hget⟩ := makeDirectories_eq_ok hst.ground hsq (trimmed_parent? hq) hc
  rw [hlocate] at hget
  rw [hst.withFiles hg]
  refine ⟨hst.becomes hg (funext hget), fun q' hq' => ?_⟩
  rw [hq] at hq'
  cases hq'
  exact hmakeable

theorem makeParent_of_directory (hst : h.Standing w) (hs : Straight path)
    (hne : Path.names path ≠ []) (hp : ParentMakeable path)
    (hd : h.files.get? (Path.locate w path).dropLast = some .directory) :
    perform (makeParent path) h = (.ok (), h) := by
  obtain ⟨q, hq⟩ := exists_parent? hne
  obtain ⟨hsq, hlocate⟩ := locate_parent? hs hne hq w
  rw [← hlocate] at hd
  have hmake := makeDirectories_of_directory hst.ground hsq (trimmed_parent? hq) (hp q hq) hd
  rw [makeParent, hq]
  exact edit_of_ok hst hmake hst.ground

/-- A path that a file can be written to again, as far as the path goes. -/
structure Storable (path : String) : Prop where
  valid : Valid path
  parent : ParentMakeable path

theorem storable_of_valid {path : String} (hv : Valid path) : Storable path :=
  ⟨hv, fun _ hq => hv.makeable_parent? hq⟩

theorem writeFile_eq_ok (hst : h.Standing w) (hs : Straight path) (hend : EndsInName (pieces path))
    (hr : perform (writeFile path content) h = (.ok (), h')) :
    h.Becomes w (View.put h.files.get? (Path.locate w path)
        (.file content (h.files.executableAt (Path.locate w path)))) h' ∧ Storable path ∧
      h.files.get? (Path.locate w path) ≠ some .directory := by
  have hne := locate_ne_nil hs hend w
  obtain ⟨_, h₁, hparent, hr⟩ := perform_bind_eq_ok.mp hr
  obtain ⟨hbecomes, hmakeable⟩ := makeParent_eq_ok hst hs hend.filter_ne_nil hparent
  obtain ⟨gs, hc, rfl⟩ := edit_eq_ok hbecomes.standing hr
  obtain ⟨hwritable, hwritten⟩ := write_eq_ok hbecomes.standing.ground hs hc
  have hsame : h₁.files.get? (Path.locate w path) = h.files.get? (Path.locate w path) := by
    rw [hbecomes.view, View.raise_of_not_prefix (not_prefix_dropLast hne)]
  have hg := hwritten.ground hbecomes.standing.ground hwritable.notDirectory
  rw [hbecomes.standing.withFiles hg]
  refine ⟨hbecomes.trans (hbecomes.standing.becomes hg ?_), ⟨hwritable.valid, hmakeable⟩,
    hsame ▸ hwritable.notDirectory⟩
  rw [hwritten.get?_eq_put hne hbecomes.view, executableAt, hsame, executableAt]

theorem writeFile_of_storable (hst : h.Standing w) (hs : Straight path)
    (hend : EndsInName (pieces path)) (hp : Storable path)
    (hd : h.files.get? (Path.locate w path).dropLast = some .directory)
    (hfree : h.files.get? (Path.locate w path) ≠ some .directory) (content : ByteArray) :
    ∃ h', perform (writeFile path content) h = (.ok (), h') := by
  have hparent := makeParent_of_directory hst hs hend.filter_ne_nil hp.parent hd
  have hwritable : Writable h.files w path := ⟨hp.valid, hend, hd, hfree⟩
  obtain ⟨gs, hc, hwritten⟩ := write_of_writable hst.ground hs hwritable content
  refine ⟨{ h with files := gs }, ?_⟩
  rw [writeFile, perform_bind_of_ok hparent]
  exact edit_of_ok hst hc (hwritten.ground hst.ground hfree)

theorem writeFile_entry {l : Location} {n : String} (hst : h.Standing w) (hl : ∀ m ∈ l, IsName m)
    (hn : IsName n) (hv : Valid (join (text l) n)) (hd : h.files.get? l = some .directory)
    (hfree : h.files.get? (l ++ [n]) = none) (content : ByteArray) :
    ∃ h', perform (writeFile (join (text l) n) content) h = (.ok (), h') ∧ h'.Standing w ∧
      ∀ m, ¬ m <+: l ++ [n] → h'.files.get? m = h.files.get? m := by
  have hs := straight_entry (straight_text hl) hn
  have hend := endsInName_entry (text l) hn
  have hlocate : Path.locate w (join (text l) n) = l ++ [n] := by
    rw [locate_entry (straight_text hl) hn, locate_text hl]
  obtain ⟨h', hw⟩ := writeFile_of_storable hst hs hend (storable_of_valid hv)
    (by simpa [hlocate] using hd) (by simp [hlocate, hfree]) content
  obtain ⟨hbecomes, _⟩ := writeFile_eq_ok hst hs hend hw
  refine ⟨h', hw, hbecomes.standing, fun m hm => ?_⟩
  rw [hbecomes.view, hlocate, View.put_of_not_prefix hm]

theorem read_of_writeFile (hst : h.Standing w) (hs : Straight path) (hend : EndsInName (pieces path))
    (hr : perform (writeFile path content) h = (.ok (), h')) :
    h'.files.read h'.workingDirectory path = .ok content := by
  obtain ⟨hbecomes, hstorable, _⟩ := writeFile_eq_ok hst hs hend hr
  rw [hbecomes.standing.workingDirectory, hbecomes.standing.ground.read_eq_ok_iff hs, hbecomes.view,
    View.put_self]
  exact ⟨hstorable.valid, hend, _, rfl⟩

theorem writeFile_again (hst : h.Standing w) (hs : Straight path) (hend : EndsInName (pieces path))
    (hp : Storable path) {executable : Bool}
    (hget : h.files.get? (Path.locate w path) = some (.file content executable)) :
    ∃ h', perform (writeFile path content) h = (.ok (), h') ∧ h.Becomes w h.files.get? h' := by
  have hparent := hst.ground.parent_directory (l := Path.locate w path) (by simp [hget])
  obtain ⟨h', hwrite⟩ := writeFile_of_storable hst hs hend hp hparent (by simp [hget]) content
  obtain ⟨hbecomes, _, _⟩ := writeFile_eq_ok hst hs hend hwrite
  have hexecutable : h.files.executableAt (Path.locate w path) = executable := by
    rw [executableAt, hget]
  rw [hexecutable, hst.ground.put_same hget] at hbecomes
  exact ⟨h', hwrite, hbecomes⟩

theorem copyFile_eq_ok (hst : h.Standing w) (hsource : Straight source) (htarget : Straight target)
    (hend : EndsInName (pieces target)) (hapart : Path.locate w source ≠ Path.locate w target)
    (hr : perform (copyFile source target) h = (.ok (), h')) :
    (∃ e, h.files.get? (Path.locate w source) = some e ∧
        h.Becomes w (View.put h.files.get? (Path.locate w target) e) h') ∧ Storable target := by
  have hne := locate_ne_nil htarget hend w
  rw [copyFile, perform_get_bind] at hr
  split at hr
  · obtain ⟨_, h₁, hparent, hr⟩ := perform_bind_eq_ok.mp hr
    obtain ⟨hbecomes, hmakeable⟩ := makeParent_eq_ok hst htarget hend.filter_ne_nil hparent
    obtain ⟨gs, hc, rfl⟩ := edit_eq_ok hbecomes.standing hr
    obtain ⟨hwritable, content, executable, _, _, hget, hwritten⟩ :=
      copy_eq_ok hbecomes.standing.ground hsource htarget hapart hc
    have hg := hwritten.ground hbecomes.standing.ground hwritable.notDirectory
    rw [hbecomes.standing.withFiles hg]
    refine ⟨⟨.file content executable, ?_, ?_⟩, ⟨hwritable.valid, hmakeable⟩⟩
    · rw [hbecomes.view, View.raise] at hget
      split at hget
      · cases hget
      · exact hget
    · exact hbecomes.trans (hbecomes.standing.becomes hg (hwritten.get?_eq_put hne hbecomes.view))
  · cases hr

theorem copyFile_of_find {l : Location} {executable : Bool} (hst : h.Standing w)
    (htarget : Straight target) (hend : EndsInName (pieces target))
    (hfind : h.files.find? (.ofPlace w) source = .ok (some l, .file content executable))
    (hget : h.files.get? l = some (.file content executable)) (hne : l ≠ Path.locate w target)
    (hp : Storable target) (hd : h.files.get? (Path.locate w target).dropLast = some .directory)
    (hfree : h.files.get? (Path.locate w target) ≠ some .directory) :
    ∃ h', perform (copyFile source target) h = (.ok (), h') ∧
      h.Becomes w (View.put h.files.get? (Path.locate w target) (.file content executable)) h' := by
  have hparent := makeParent_of_directory hst htarget hend.filter_ne_nil hp.parent hd
  have hwritable : Writable h.files w target := ⟨hp.valid, hend, hd, hfree⟩
  have hfile : h.isFile source = true := by
    rw [Host.isFile, hst.workingDirectory, FileSystem.isFile, hfind]
  obtain ⟨gs, hc, hwritten⟩ := copy_of_find hst.ground htarget hfind hget hne hwritable
  have hg := hwritten.ground hst.ground hfree
  refine ⟨{ h with files := gs }, ?_, hst.becomes hg
    (hwritten.get?_eq_put (locate_ne_nil htarget hend w) (hst.ground.raise_same hd).symm)⟩
  rw [copyFile, perform_get_bind, if_pos hfile, perform_bind_of_ok hparent]
  exact edit_of_ok hst hc hg

theorem copyFile_of_storable (hst : h.Standing w) (hsource : Straight source)
    (htarget : Straight target) (hend : EndsInName (pieces target))
    (hapart : Path.locate w source ≠ Path.locate w target)
    (hfile : h.isFile source = true) (hp : Storable target)
    (hd : h.files.get? (Path.locate w target).dropLast = some .directory)
    (hfree : h.files.get? (Path.locate w target) ≠ some .directory) :
    ∃ h', perform (copyFile source target) h = (.ok (), h') := by
  rw [Host.isFile, hst.workingDirectory] at hfile
  obtain ⟨hv, hendSource, content, executable, hget⟩ := (hst.ground.isFile_iff hsource).mp hfile
  have hfind := (hst.ground.find?_eq_file_iff hsource).mpr ⟨rfl, hv, hendSource, hget⟩
  obtain ⟨h', hcopy, _⟩ := copyFile_of_find hst htarget hend hfind hget hapart hp hd hfree
  exact ⟨h', hcopy⟩

section Erase

variable (hst : h.Standing w) (hs : Straight path) (ht : Trimmed path)
  (hend : EndsInName (pieces path)) (hw : ¬ Path.locate w path <+: w)

include hst hs ht hend hw

theorem makeDirectories_erase_eq_ok (hr : perform (makeDirectories path true) h = (.ok (), h')) :
    h.Becomes w (View.raise (View.erase h.files.get? (Path.locate w path)) (Path.locate w path)) h' ∧
      Valid path := by
  obtain ⟨_, h₁, hremove, hr⟩ := perform_bind_eq_ok.mp hr
  obtain ⟨gs, hc, rfl⟩ := edit_eq_ok hst hremove
  obtain ⟨hg, hget⟩ := removeDirectories_eq_ok hst.ground hs ht hend hw hc
  have hview : gs.get? = View.erase h.files.get? (Path.locate w path) := funext hget
  rw [hst.withFiles hg] at hr
  have hbecomes := hst.becomes hg hview
  obtain ⟨gs', hc', rfl⟩ := edit_eq_ok hbecomes.standing hr
  obtain ⟨hg', hmakeable, hget'⟩ := makeDirectories_eq_ok hbecomes.standing.ground hs ht hc'
  obtain ⟨q, hq⟩ := exists_parent? (p := path) hend.filter_ne_nil
  rw [hbecomes.standing.withFiles hg']
  refine ⟨hbecomes.trans (hbecomes.standing.becomes hg' ?_), hmakeable.resolve_left (by simp [hq])⟩
  funext m
  rw [hget', ← hview]
  rfl

theorem makeDirectories_erase_of_directory (hv : Valid path)
    (hd : h.files.get? (Path.locate w path) = some .directory) :
    ∃ h', perform (makeDirectories path true) h = (.ok (), h') := by
  obtain ⟨gs, gs', hremove, hmake, hg, _, hg', _⟩ :=
    erase_of_directory hst.ground hs ht hend hw hv hd
  have hstanding : ({ h with files := gs } : Host).Standing w := ⟨hst.workingDirectory, hg⟩
  refine ⟨{ h with files := gs' }, ?_⟩
  rw [makeDirectories, if_pos rfl, perform_bind_of_ok (edit_of_ok hst hremove hg)]
  exact edit_of_ok hstanding hmake hg'

end Erase

section Absolute

variable (hg : Ground h.files []) (hs : Straight path) (habs : isAbsolute path = true)
  (hend : EndsInName (pieces path)) (hv : Valid path)

include hg hs habs hend hv

theorem makeDirectories_erase_absolute (ht : Trimmed path)
    (hd : h.files.get? (Path.locate [] path) = some .directory) :
    ∃ h', perform (makeDirectories path true) h = (.ok (), h') ∧ Ground h'.files [] ∧
      h'.files.get? =
        View.raise (View.erase h.files.get? (Path.locate [] path)) (Path.locate [] path) ∧
      (Path.locate [] path <+: h.workingDirectory.place → 0 < h'.workingDirectory.removed) := by
  have hne := locate_ne_nil hs hend []
  have hw : ¬ Path.locate [] path <+: [] := fun hp => hne (List.prefix_nil.mp hp)
  obtain ⟨gs, gs', hremove, hmake, _, hget, hg', hget'⟩ :=
    erase_of_directory hg hs ht hend hw hv hd
  have hfirst : perform (edit .removingDirectory path fun cwd =>
      FileSystem.removeDirectories cwd path) h = (.ok (), h.withFiles gs) :=
    edit_absolute hremove (by rw [removeDirectories_absolute habs _ ht])
  refine ⟨(h.withFiles gs).withFiles gs', ?_, hg', hget', fun hin => ?_⟩
  · rw [makeDirectories, if_pos rfl, perform_bind_of_ok hfirst]
    exact edit_absolute hmake (perform_makeDirectories_absolute habs _ ht _)
  · refine Host.removed_withFiles (Host.removed_withFiles_of_not_directory ?_) gs'
    rw [Bool.eq_false_iff, Ne, hasDirectory_iff, hget, View.erase, if_pos hin]
    simp

theorem writeFile_absolute {q : String} (hq : parent? path = some q)
    (hendq : EndsInName (pieces q)) (hvq : Valid q)
    (hfree : h.files.get? (Path.locate [] q) = none)
    (hd : h.files.get? (Path.locate [] q).dropLast = some .directory) (content : ByteArray) :
    ∃ h', perform (writeFile path content) h = (.ok (), h') ∧
      (0 < h.workingDirectory.removed → 0 < h'.workingDirectory.removed) := by
  obtain ⟨hsq, hlocate⟩ := locate_parent? hs hend.filter_ne_nil hq []
  have habsq : isAbsolute q = true := (congrArg Prod.fst (route_parent? hq)).trans habs
  have htq := trimmed_parent? hq
  have hne := locate_ne_nil hs hend []
  have hmake := makeDirectories_of_free hg hsq htq hendq hvq hfree hd
  obtain ⟨hg', _, hget⟩ := makeDirectories_eq_ok hg hsq htq hmake
  generalize h.files.insert (Path.locate [] q) .directory = gs at hmake hg' hget
  have hparent : perform (makeParent path) h = (.ok (), h.withFiles gs) := by
    rw [makeParent, hq]
    exact edit_absolute hmake (perform_makeDirectories_absolute habsq _ htq _)
  have hnone : gs.get? (Path.locate [] path) = none := by
    rw [hget, hlocate, if_neg (not_prefix_dropLast hne), ← List.dropLast_append_getLast hne,
      ← hlocate]
    exact hg.none_of_append_none hfree _
  have hwritable : Writable gs [] path := by
    refine ⟨hv, hend, ?_, by simp [hnone]⟩
    rw [← hlocate, hget, if_pos List.prefix_rfl]
  obtain ⟨gs', hwrite, _⟩ := write_of_writable hg' hs hwritable content
  refine ⟨(h.withFiles gs).withFiles gs', ?_,
    fun hw => Host.removed_withFiles (Host.removed_withFiles hw gs) gs'⟩
  rw [writeFile, perform_bind_of_ok hparent]
  exact edit_absolute hwrite (by rw [write_absolute habs])

end Absolute

end Action

end FlutterInstaller
