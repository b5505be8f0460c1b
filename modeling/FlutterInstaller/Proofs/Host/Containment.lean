import FlutterInstaller.Proofs.Config.Precedence
import FlutterInstaller.Proofs.Host.Directories
import FlutterInstaller.Proofs.Host.Files

/-!
Making a directory, afresh or not, is contained in what its path names: no more is removed, and no more is
made than what is missing on the way. A directory that is made afresh is empty, and so it is when it is made
afresh again.
-/
namespace FlutterInstaller

open FileSystem FlutterInstaller.Path

theorem Host.Standing.footing {h : Host} {w : Location} (hst : h.Standing w) :
    Footing h.files h.workingDirectory where
  toIsTree := hst.ground.toIsTree
  here := by
    rw [hst.workingDirectory]
    exact hst.ground.here

theorem Host.Contained.kept_of_link {h h' : Host} {path target : String} {erase : Bool} {k : Location}
    (hcontained : h.Contained path erase h') (htree : h.files.IsTree)
    (hlink : h.files.resolve h.workingDirectory .inspect path = .ok (.found k (.link target)))
    {m : Location} {e : Entry} (hm : m ≠ k) (he : h.files.get? m = some e) :
    h'.files.get? m = some e := by
  refine hcontained.kept m e (fun _ l d hl hprefix => ?_) he
  rw [hlink] at hl
  cases hl
  obtain ⟨t, rfl⟩ := hprefix
  have ht : t ≠ [] := by
    rintro rfl
    exact hm (List.append_nil k)
  have hget : h.files.get? k = some (.link target) := resolve_eq_found htree hlink
  have hnone : h.files.get? (k ++ t) = none := htree.none_of_append ht (by simp [hget])
  rw [hnone] at he
  cases he

namespace Action

variable {h h' : Host} {path : String} {erase : Bool}

theorem isDirectory_of_makeDirectories (hf : Footing h.files h.workingDirectory) (hne : path ≠ "")
    (hshort : parent? path = none → path.utf8ByteSize < pathLimit)
    (hr : perform (makeDirectories path erase) h = (.ok (), h')) : h'.isDirectory path = true := by
  cases erase with
  | false => exact isDirectory_of_made hf hne hshort hr
  | true =>
    obtain ⟨hremove, hmade⟩ := makeDirectories_erase_iff.mp hr
    exact isDirectory_of_made (footing_without hf.toIsTree hremove).2 hne hshort hmade

/-- A directory that was made is there, and nothing else changed but what its path named and what was
missing on the way. Making it once more changes nothing; when it is made afresh, this takes that its path
goes up only from directories that are there once what it names is removed, and then it is empty. -/
theorem makeDirectories_contained (hf : Footing h.files h.workingDirectory) (hne : path ≠ "")
    (hshort : parent? path = none → path.utf8ByteSize < pathLimit)
    (hr : perform (makeDirectories path erase) h = (.ok (), h')) :
    h'.isDirectory path = true ∧ h.Contained path erase h' ∧
      (∀ k target, h.files.resolve h.workingDirectory .inspect path = .ok (.found k (.link target)) →
        ∀ m e, m ≠ k → h.files.get? m = some e → h'.files.get? m = some e) ∧
      (erase = false → Within h.files h'.files ∧
        perform (makeDirectories path erase) h' = (.ok (), h')) ∧
      (erase = true →
        (∀ q ∈ lineage (path.length + 1) path, (Path.names q).getLast? = some ".." →
          (h.without path).isDirectory q = true) →
        (∃ l, Fresh h'.files h'.workingDirectory path l) ∧
          ∃ g, perform (makeDirectories path erase) h' = (.ok (), g) ∧ h'.Alike g) := by
  have hd := isDirectory_of_makeDirectories hf hne hshort hr
  have hcontained := contained_of_makeDirectories hf hr
  refine ⟨hd, hcontained, fun k target hlink m e => hcontained.kept_of_link hf.toIsTree hlink, ?_, ?_⟩
  · rintro rfl
    have hf' := (makeDirectories_eq_ok_of_footing hf hr).2.2
    exact ⟨fun m e => hcontained.kept m e (by simp), makeDirectories_of_made hf' (.inr hd)⟩
  · rintro rfl hup
    -- The second run is told from where the first one ends: the directory was put in its place last.
    have hparent := parent?_ne_none_of_erased hf.toIsTree hne hshort hr
    obtain ⟨l, hrenewed⟩ := renewed_of_makeDirectories hf.toIsTree hparent hup hr
    exact ⟨⟨l, hrenewed.founded.fresh⟩, makeDirectories_of_founded hrenewed.founded⟩

theorem not_up_of_straight {q : String} {fuel : Nat} (hs : Straight path) (hq : q ∈ lineage fuel path) :
    (Path.names q).getLast? ≠ some ".." := by
  obtain ⟨-, hnames, -⟩ := mem_lineage hq
  intro hlast
  exact hs (hnames.mem (List.mem_of_getLast? hlast))

section Sample

def supplyTree : FileSystem :=
  ((ofDirectories [["a"], ["q"], ["s"], ["t"], ["t", "b"], ["t", "b", "vcruntime"]]).insert
    ["s", "msvcp140.dll"] (.file .empty false)).insert ["t", "b", "vcruntime", "old.dll"]
      (.file .empty false)

def supplyHost : Host := { sampleHost [] with files := supplyTree }

theorem plain_supplyTree : Plain supplyTree := by
  have hplain : Plain
      (ofDirectories [["a"], ["q"], ["s"], ["t"], ["t", "b"], ["t", "b", "vcruntime"]]) :=
    plain_ofDirectories (by decide) (by decide)
  have hlibrary := hplain.insert (l := ["s"]) (n := "msvcp140.dll") (e := .file .empty false) rfl
    (by decide) (.inr (by simp [get?_ofDirectories])) (by simp)
  refine hlibrary.insert (l := ["t", "b", "vcruntime"]) (n := "old.dll") rfl (by decide) (.inr ?_)
    (by simp)
  simp [get?_insert, get?_ofDirectories]

theorem standing_supplyHost : supplyHost.Standing [] := ⟨rfl, plain_supplyTree, rfl⟩

theorem makeDirectories_contained_sample :
    let path := "/t/b/vcruntime"
    ∃ g, perform (makeDirectories path true) supplyHost = (.ok (), g) ∧
      g.isDirectory path = true ∧ supplyHost.Contained path true g ∧
      (∃ l, Fresh g.files g.workingDirectory path l) ∧
      ∃ k, perform (makeDirectories path true) g = (.ok (), k) ∧ g.Alike k := by
  intro path
  have hs : Straight path := by decide
  have hplace : Path.locate [] path = ["t", "b", "vcruntime"] := by decide
  have hthere : supplyHost.files.get? (Path.locate [] path) = some .directory := by
    rw [hplace]
    rfl
  have hend : EndsInName (pieces path) := ⟨["", "t", "b"], "vcruntime", by decide, by decide⟩
  obtain ⟨g, hr⟩ := makeDirectories_erase_of_directory standing_supplyHost hs (by decide) hend
    (by rw [hplace]; decide) (by decide) hthere
  obtain ⟨hd, hcontained, -, -, hagain⟩ := makeDirectories_contained
    standing_supplyHost.footing (by decide) (by decide) hr
  obtain ⟨hfresh, hsecond⟩ := hagain rfl fun q hq hlast => absurd hlast (not_up_of_straight hs hq)
  exact ⟨g, hr, hd, hcontained, hfresh, hsecond⟩

def manySlashes : String := String.ofList (List.replicate pathLimit '/')

theorem le_utf8ByteSize_slashes (n : Nat) :
    n ≤ (String.ofList (List.replicate n '/')).utf8ByteSize := by
  induction n with
  | zero => exact Nat.zero_le _
  | succ n ih =>
    have hcons : String.ofList (List.replicate (n + 1) '/') =
        "/" ++ String.ofList (List.replicate n '/') :=
      String.toList_inj.mp (by simp [List.replicate_succ])
    have hslash : "/".utf8ByteSize = 1 := by decide
    rw [hcons, String.utf8ByteSize_append, hslash]
    omega

theorem makeDirectories_manySlashes (hf : Footing h.files h.workingDirectory) :
    manySlashes ≠ "" ∧ perform (makeDirectories manySlashes false) h = (.ok (), h) ∧
      h.isDirectory manySlashes = false := by
  have hslashes : ∀ c ∈ manySlashes.toList, c = '/' := by
    intro c hc
    rw [manySlashes, String.toList_ofList] at hc
    exact List.eq_of_mem_replicate hc
  have hlong : pathLimit ≤ manySlashes.utf8ByteSize := le_utf8ByteSize_slashes pathLimit
  have hne : manySlashes ≠ "" := by
    intro hempty
    rw [hempty] at hlong
    exact absurd hlong (by decide)
  refine ⟨hne, makeDirectories_of_made hf (.inl (parent?_of_slashes hslashes)), ?_⟩
  rw [Bool.eq_false_iff]
  intro hd
  exact hlong.not_gt (isDirectory_iff_walk.mp hd).1.short

def climbing : String := "/t/n/../b/vcruntime"

def dugTree : FileSystem := supplyTree.insert ["t", "n"] .directory

theorem plain_dugTree : Plain dugTree :=
  plain_supplyTree.insert (l := ["t"]) (n := "n") rfl (by decide) (.inl rfl) (by simp)

theorem lineage_climbing : lineage (climbing.length + 1) climbing =
    [climbing, "/t/n/../b", "/t/n/..", Path.text ["t", "n"], "/t"] := by
  decide +kernel

theorem resolve_climbing : ∀ q ∈ [climbing, "/t/n/../b", "/t/n/.."],
    Trimmed q ∧ supplyTree.resolve .root .inspect q = .error .notFound ∧
      dugTree.isDirectory .root q = true := by
  have hmissing {q : String} {ps : List String} (habs : isAbsolute q = true) (hv : Valid q)
      (hp : pieces q = "" :: "t" :: "n" :: ".." :: ps) :
      supplyTree.resolve .root .inspect q = .error .notFound :=
    resolve_of_missing (l := ["t"]) (n := "n") plain_supplyTree.toIsTree (by decide) rfl habs hv hp
      (by decide) rfl rfl _ (by decide)
  have hback {q : String} {ps : List String} (habs : isAbsolute q = true) (hv : Valid q)
      (hp : pieces q = "" :: "t" :: "n" :: ".." :: ps) (hs : ".." ∉ ps.filter leads)
      (hend : EndsInName ps)
      (hparent : dugTree.get? (["t"] ++ (ps.filter leads).dropLast) = some .directory)
      (hd : dugTree.get? (["t"] ++ ps.filter leads) = some .directory) :
      dugTree.isDirectory .root q = true := by
    refine isDirectory_iff_standing.mpr ⟨.ofPlace (["t"] ++ ps.filter leads), ?_⟩
    rw [resolve_of_ups (l := ["t"]) (t := ["n"]) plain_dugTree (by decide) rfl habs hv hp hs hend
      hparent .root (by decide), hd]
    rfl
  have hlibraries : pieces climbing = "" :: "t" :: "n" :: ".." :: ["b", "vcruntime"] := rfl
  have hstaging : pieces "/t/n/../b" = "" :: "t" :: "n" :: ".." :: ["b"] := rfl
  have hup : pieces "/t/n/.." = "" :: "t" :: "n" :: ".." :: [] := rfl
  simp only [List.forall_mem_cons]
  refine ⟨⟨by decide, hmissing (by decide) (by decide) hlibraries, ?_⟩,
    ⟨by decide, hmissing (by decide) (by decide) hstaging, ?_⟩,
    ⟨by decide, hmissing (by decide) (by decide) hup, ?_⟩, by simp⟩
  · exact hback (by decide) (by decide) hlibraries (by decide) ⟨["b"], "vcruntime", rfl, by decide⟩
      rfl rfl
  · exact hback (by decide) (by decide) hstaging (by decide) ⟨[], "b", rfl, by decide⟩ rfl rfl
  · have hfollow : Purpose.follow ≠ .write := by decide
    obtain ⟨hwalk, -⟩ := resolve_through (l := ["t", "n"]) plain_dugTree.toIsTree (by decide) rfl
      (by decide) (by decide) hup .root hfollow
    refine isDirectory_iff_standing.mpr ⟨.ofPlace ["t"], ?_⟩
    rw [hwalk, walk_up, walk]
    rfl

theorem makeDirectories_climbing :
    perform (FileSystem.makeDirectories .root climbing) supplyTree = (.ok (), dugTree) := by
  have hclimbing := resolve_climbing
  simp only [List.forall_mem_cons] at hclimbing
  obtain ⟨⟨ht₀, hmissing₀, hthere₀⟩, ⟨ht₁, hmissing₁, hthere₁⟩, ⟨ht₂, hmissing₂, hthere₂⟩, -⟩ :=
    hclimbing
  have hmade : perform (ensureDirectory .root (Path.text ["t", "n"])) supplyTree = (.ok (), dugTree) :=
    ensureDirectory_of_free (by decide) (resolve_text_entry (l := ["t"]) (n := "n")
      plain_supplyTree.toIsTree (by decide) rfl (by decide) (by decide) rfl _ _)
  have hanchor : perform (anchorLineage .root (lineage (climbing.length + 1) climbing) [])
      supplyTree = (.ok ["/t/n/..", "/t/n/../b", climbing], dugTree) := by
    rw [lineage_climbing, perform_anchorLineage_cons,
      ensureDirectory_of_error ht₀ hmissing₀ (by simp)]
    dsimp only
    rw [if_pos rfl, perform_anchorLineage_cons, ensureDirectory_of_error ht₁ hmissing₁ (by simp)]
    dsimp only
    rw [if_pos rfl, perform_anchorLineage_cons, ensureDirectory_of_error ht₂ hmissing₂ (by simp)]
    dsimp only
    rw [if_pos rfl, perform_anchorLineage_cons, hmade]
  rw [FileSystem.makeDirectories, perform_bind_of_ok hanchor, List.forM,
    perform_bind_of_ok (ensureDirectory_of_isDirectory hthere₂), List.forM,
    perform_bind_of_ok (ensureDirectory_of_isDirectory hthere₁), List.forM,
    perform_bind_of_ok (ensureDirectory_of_isDirectory hthere₀)]
  rfl

theorem renewed_climbing (hst : h.Standing []) (hfiles : h.files = supplyTree) :
    perform (makeDirectories climbing true) h = (.ok (), { h with files := dugTree }) := by
  have hmissing : supplyTree.resolve .root .inspect climbing = .error .notFound :=
    (resolve_climbing climbing (by simp)).2.1
  have hremove : perform (FileSystem.removeDirectories .root climbing) h.files = (.ok (), h.files) := by
    rw [hfiles, FileSystem.removeDirectories, perform_get_bind, hmissing]
    rfl
  have hmake : perform (FileSystem.makeDirectories .root climbing) h.files = (.ok (), dugTree) :=
    hfiles ▸ makeDirectories_climbing
  rw [makeDirectories, if_pos rfl, perform_bind_of_ok (edit_of_ok hst hremove hst.ground)]
  exact edit_of_ok hst hmake ⟨plain_dugTree, rfl⟩

theorem resolve_dug {purpose : Purpose} (hp : purpose ≠ .write) :
    dugTree.resolve .root purpose climbing = .ok (.found ["t", "b", "vcruntime"] .directory) := by
  have hpieces : pieces climbing = "" :: "t" :: "n" :: ".." :: ["b", "vcruntime"] := rfl
  exact resolve_of_ups (l := ["t"]) (t := ["n"]) plain_dugTree (by decide) rfl (by decide) (by decide)
    hpieces (by decide) ⟨["b"], "vcruntime", rfl, by decide⟩ rfl .root hp

/-- Nothing is removed through a path on which a directory is missing, and once that is made, the path
leads to what was there: the directory keeps what it holds. A path of too many slashes is taken for the
root, though it leads nowhere. -/
theorem makeDirectories_not_contained :
    Footing supplyHost.files supplyHost.workingDirectory ∧
    (∃ g, perform (makeDirectories climbing true) supplyHost = (.ok (), g) ∧
      g.files.get? ["t", "b", "vcruntime", "old.dll"] = some (.file .empty false) ∧
      g.files.resolve g.workingDirectory .follow climbing =
        .ok (.found ["t", "b", "vcruntime"] .directory)) ∧
    manySlashes ≠ "" ∧ perform (makeDirectories manySlashes false) supplyHost = (.ok (), supplyHost) ∧
      supplyHost.isDirectory manySlashes = false := by
  have hf := standing_supplyHost.footing
  exact ⟨hf, ⟨_, renewed_climbing standing_supplyHost rfl, rfl, resolve_dug (by decide)⟩,
    makeDirectories_manySlashes hf⟩

end Sample

end Action

end FlutterInstaller
