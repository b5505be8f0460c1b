import FlutterInstaller.Proofs.FileSystem.Filling
import FlutterInstaller.Proofs.Host.Containment
import FlutterInstaller.Proofs.Script.Repeat

/-!
Shipping the runtime libraries from any tree, whatever links there are and whatever stands where they are
staged. The libraries are copied one after the other into a directory that was made anew, and it holds
them as the system does, and nothing else.
-/
namespace FlutterInstaller

open FileSystem FlutterInstaller.Path

def Host.Outside (h : Host) (p q : String) : Prop :=
  ∀ l e, h.files.resolve h.workingDirectory .inspect p = .ok (.found l e) →
    ∀ s content executable, h.HasFile q s content executable → ¬ l <+: s

namespace Action

variable {h h' : Host} {directory target : String} {l : Location}

theorem copyFile_of_leads {source name : String} (hleads : h.Leads directory l)
    (hend : EndsInName (pieces directory))
    (hparent : parent? (join directory name) = some directory) (hn : IsName name)
    (hfit : name.utf8ByteSize ≤ nameLimit) (hfree : h.files.get? (l ++ [name]) = none)
    (hr : perform (copyFile source (join directory name)) h = (.ok (), h')) :
    h'.Leads directory l ∧ h'.workingDirectory = h.workingDirectory ∧
      ∃ s content executable, h.HasFile source s content executable ∧
        h'.HasFile (join directory name) (l ++ [name]) content executable ∧
        ∀ m, h'.files.get? m =
          if m = l ++ [name] then some (.file content executable) else h.files.get? m := by
  rw [copyFile, perform_get_bind] at hr
  split at hr
  · obtain ⟨_, h₁, hmake, hedit⟩ := perform_bind_eq_ok.mp hr
    rw [makeParent_of_leads hleads hparent] at hmake
    cases hmake
    obtain ⟨gs, hcopy, rfl⟩ := perform_edit_eq_ok.mp hedit
    obtain ⟨s, content, executable, hsource, hcopied, hleads', hput⟩ :=
      hleads.copy hend hn hfit hfree hcopy
    have hcwd : (h.withFiles gs).workingDirectory = h.workingDirectory := hleads'.settle
    refine ⟨?_, hcwd, s, content, executable, hsource, ?_, hput⟩
    · rw [Host.Leads, hcwd]
      exact hleads'
    · rw [Host.HasFile, hcwd]
      exact hcopied
  · cases hr

end Action

namespace Script.Request

open FlutterInstaller.Action

variable {h h₁ h' : Host} {l : Location} {staging system : String} {names libs libs' : List String}

structure Shipped (system directory : String) (l : Location) (libs : List String) (h h' : Host) :
    Prop where
  leads : h'.Leads directory l
  workingDirectory : h'.workingDirectory = h.workingDirectory
  within : Within h.files h'.files
  elsewhere : ∀ m, (∀ name ∈ libs, m ≠ l ++ [name]) → h'.files.get? m = h.files.get? m
  copies : ∀ name ∈ libs, ∃ s content executable,
    h'.HasFile (join system name) s content executable ∧
      h'.HasFile (join directory name) (l ++ [name]) content executable

theorem Shipped.trans {directory : String} (hfirst : Shipped system directory l libs h h₁)
    (hrest : Shipped system directory l libs' h₁ h') :
    Shipped system directory l (libs ++ libs') h h' where
  leads := hrest.leads
  workingDirectory := hrest.workingDirectory.trans hfirst.workingDirectory
  within := IsTrans.trans h.files _ h'.files hfirst.within hrest.within
  elsewhere := by
    intro m hm
    rw [hrest.elsewhere m fun name hname => hm name (List.mem_append_right _ hname),
      hfirst.elsewhere m fun name hname => hm name (List.mem_append_left _ hname)]
  copies := by
    intro name hname
    rcases List.mem_append.mp hname with hname | hname
    · obtain ⟨s, content, executable, hsource, hcopy⟩ := hfirst.copies name hname
      exact ⟨s, content, executable,
        hsource.of_within hfirst.leads.toIsTree hrest.within hrest.workingDirectory,
        hcopy.of_within hfirst.leads.toIsTree hrest.within hrest.workingDirectory⟩
    · exact hrest.copies name hname

theorem Shipped.hasFile_iff {directory path : String} {s : Location} {content : ByteArray}
    {executable : Bool} (hshipped : Shipped system directory l libs h h') (htree : h.files.IsTree)
    (hout : h'.Outside directory path) :
    h.HasFile path s content executable ↔ h'.HasFile path s content executable := by
  refine ⟨fun hfile => hfile.of_within htree hshipped.within hshipped.workingDirectory, fun hfile => ?_⟩
  have hs := hout l .directory (hshipped.leads.found .inspect (by decide)) s content executable hfile
  have hconveys : Conveys h'.files h.files s := by
    intro m e he hm
    rw [← hshipped.elsewhere m, he]
    rintro name hname rfl
    obtain ⟨_, content, executable, -, hcopy⟩ := hshipped.copies name hname
    rcases hm with rfl | hm
    · exact hs (List.prefix_append l [name])
    · exact hm content executable (Option.some.inj
        (he.symm.trans (hcopy.get? hshipped.leads.toIsTree)))
  rw [Host.HasFile, ← hshipped.workingDirectory]
  exact hconveys.resolve hshipped.leads.toIsTree hfile

theorem fits_libraries : ∀ name ∈ Layout.runtimeLibraries, name.utf8ByteSize ≤ nameLimit := by
  decide

theorem shipped_of_stageLibrary {name : String} {staged : List String}
    (hleads : h.Leads (Layout.libraryDirectory staging) l) (hname : name ∈ Layout.runtimeLibraries)
    (hfree : h.files.get? (l ++ [name]) = none)
    (hr : perform (stageLibrary system (Layout.libraryDirectory staging) name) h = (.ok staged, h')) :
    staged = (librariesIn h system [name]).map (join (Layout.libraryDirectory staging)) ∧
      Shipped system (Layout.libraryDirectory staging) l (librariesIn h system [name]) h h' := by
  have hn := isName_libraries name hname
  have hparent : parent? (join (Layout.libraryDirectory staging) name) =
      some (Layout.libraryDirectory staging) := parent?_join isName_libraryDirectory hn
  rw [stageLibrary, perform_get_bind] at hr
  split at hr
  · next hfile =>
    obtain ⟨_, h₁, hcopy, hr⟩ := perform_bind_eq_ok.mp hr
    simp only [Action.debug, Action.log, perform_modify_bind, perform_pure] at hr
    cases hr
    obtain ⟨hleads', hcwd, s, content, executable, hsource, hcopied, hput⟩ :=
      copyFile_of_leads hleads (endsInName_libraryDirectory staging) hparent hn
        (fits_libraries name hname) hfree hcopy
    have hlibs : librariesIn h system [name] = [name] := by simp [librariesIn, hfile]
    have hwithin : Within h.files h₁.files := by
      intro m e he
      rw [hput, if_neg, he]
      rintro rfl
      simp [hfree] at he
    rw [hlibs]
    refine ⟨rfl, hleads', hcwd, hwithin, ?_, ?_⟩
    · intro m hm
      exact (hput m).trans (if_neg (hm name List.mem_cons_self))
    · intro k hk
      obtain rfl := List.mem_singleton.mp hk
      exact ⟨s, content, executable, hsource.of_within hleads.toIsTree hwithin hcwd, hcopied⟩
  · next hfile =>
    simp only [Action.debug, Action.log, perform_modify_bind, perform_pure] at hr
    cases hr
    have hlibs : librariesIn h system [name] = [] := by simp [librariesIn, hfile]
    rw [hlibs]
    exact ⟨rfl, hleads, rfl, Std.Refl.refl h.files, fun _ _ => rfl, by simp⟩

theorem shipped_of_stageEach {staged : List (List String)}
    (hleads : h.Leads (Layout.libraryDirectory staging) l)
    (hnames : ∀ name ∈ names, name ∈ Layout.runtimeLibraries) (hnodup : names.Nodup)
    (hfree : ∀ name ∈ names, h.files.get? (l ++ [name]) = none)
    (hout : ∀ name ∈ names, h'.Outside (Layout.libraryDirectory staging) (join system name))
    (hr : perform (names.mapM (stageLibrary system (Layout.libraryDirectory staging))) h =
      (.ok staged, h')) :
    staged.flatten =
        (librariesIn h' system names).map (join (Layout.libraryDirectory staging)) ∧
      Shipped system (Layout.libraryDirectory staging) l (librariesIn h' system names) h h' := by
  induction names generalizing h staged with
  | nil =>
    cases hr
    exact ⟨rfl, hleads, rfl, Std.Refl.refl h'.files, fun _ _ => rfl, by simp [librariesIn]⟩
  | cons name names ih =>
    obtain ⟨hname, hnames⟩ := List.forall_mem_cons.mp hnames
    obtain ⟨hfreeName, hfreeNames⟩ := List.forall_mem_cons.mp hfree
    obtain ⟨houtName, houtNames⟩ := List.forall_mem_cons.mp hout
    obtain ⟨hnew, hnodup⟩ := List.nodup_cons.mp hnodup
    rw [List.mapM_cons] at hr
    obtain ⟨first, h₁, hfirst, hr⟩ := perform_bind_eq_ok.mp hr
    obtain ⟨rest, h₂, hrest, hr⟩ := perform_bind_eq_ok.mp hr
    cases hr
    obtain ⟨hstaged, hshipped⟩ := shipped_of_stageLibrary hleads hname hfreeName hfirst
    have hfree₁ : ∀ k ∈ names, h₁.files.get? (l ++ [k]) = none := by
      intro k hk
      rw [hshipped.elsewhere, hfreeNames k hk]
      intro k' hk' he
      have hkk : k = k' := by simpa using he
      have hname' : k' = name := List.mem_singleton.mp (List.mem_of_mem_filter hk')
      exact hnew (hname' ▸ hkk ▸ hk)
    obtain ⟨hflatten, hshipped'⟩ := ih hshipped.leads hnames hnodup hfree₁ houtNames hrest
    have hboth := hshipped.trans hshipped'
    -- What was found when its turn came is what is found in the end.
    have hsame : librariesIn h system [name] = librariesIn h' system [name] := by
      refine List.filter_congr fun k hk => ?_
      obtain rfl := List.mem_singleton.mp hk
      rw [Bool.eq_iff_iff, Host.isFile_iff_hasFile, Host.isFile_iff_hasFile]
      simp only [hboth.hasFile_iff hleads.toIsTree houtName]
    rw [librariesIn_cons h' system name names, ← hsame]
    refine ⟨?_, hboth⟩
    rw [List.flatten_cons, hstaged, hflatten, List.map_append]

/-- A directory holds the libraries that the system has, each as a copy of one that stands elsewhere, and
nothing else. -/
structure Supplied (h : Host) (directory system : String) (l : Location) : Prop where
  leads : h.files.resolve h.workingDirectory .follow directory = .ok (.found l .directory)
  copies : ∀ name ∈ librariesIn h system Layout.runtimeLibraries, ∃ s content executable,
    h.HasFile (join system name) s content executable ∧ ¬ l <+: s ∧
      h.HasFile (join directory name) (l ++ [name]) content executable
  nothing_else : ∀ t, t ≠ [] →
    (∀ name ∈ librariesIn h system Layout.runtimeLibraries, t ≠ [name]) → h.files.get? (l ++ t) = none

theorem Shipped.supplied {directory : String} (hfresh : Fresh h.files h.workingDirectory directory l)
    (hshipped : Shipped system directory l (librariesIn h' system Layout.runtimeLibraries) h h')
    (hout : ∀ name ∈ Layout.runtimeLibraries, h'.Outside directory (join system name)) :
    Supplied h' directory system l where
  leads := hshipped.leads.follow
  copies := by
    intro name hname
    obtain ⟨s, content, executable, hsource, hcopy⟩ := hshipped.copies name hname
    refine ⟨s, content, executable, hsource, ?_, hcopy⟩
    exact hout name (List.mem_of_mem_filter hname) l .directory
      (hshipped.leads.found .inspect (by decide)) s content executable hsource
  nothing_else := by
    intro t ht hnot
    obtain ⟨n, t, rfl⟩ := List.exists_cons_of_ne_nil ht
    rw [hshipped.elsewhere, List.append_cons]
    · exact hfresh.none_of_append_none (hfresh.empty n) t
    · intro name hname he
      exact hnot name hname (List.append_cancel_left he)

/-- The path of the libraries' directory goes up only from directories that are there once what stood in
its place is removed, and no library of the system lies in that directory, links followed, neither before
a run nor after it. -/
structure Detached (p : Places) (h h' : Host) : Prop where
  up : ∀ q ∈ lineage ((Layout.libraryDirectory p.staging).length + 1)
      (Layout.libraryDirectory p.staging), (Path.names q).getLast? = some ".." →
    (h.without (Layout.libraryDirectory p.staging)).isDirectory q = true
  before : ∀ name ∈ Layout.runtimeLibraries,
    h.Outside (Layout.libraryDirectory p.staging) (join p.system name)
  after : ∀ name ∈ Layout.runtimeLibraries,
    h'.Outside (Layout.libraryDirectory p.staging) (join p.system name)

theorem Detached.congr {g : Host} {p : Places} (hdetached : Detached p h h') (hfiles : g.files = h.files)
    (hcwd : g.workingDirectory = h.workingDirectory) : Detached p g h' where
  up := by
    intro q hq hlast
    have hup := hdetached.up q hq hlast
    unfold Host.without Host.withFiles Host.isDirectory at hup ⊢
    rwa [hfiles, hcwd]
  before := by
    intro name hname
    rw [Host.Outside, hfiles, hcwd]
    unfold Host.HasFile
    rw [hfiles, hcwd]
    exact hdetached.before name hname
  after := hdetached.after

/-- The libraries of the system are the same in two hosts, as far as one of them leads to them, and one of
them leads to all that the other one does if nothing of a directory is on the way. -/
structure Spared (directory system : String) (h h' : Host) : Prop where
  files : ∀ name ∈ Layout.runtimeLibraries, ∀ s content executable,
    h.HasFile (join system name) s content executable ∨
        h'.HasFile (join system name) s content executable →
      h.files.get? s = some (.file content executable) ∧
        h'.files.get? s = some (.file content executable)
  found : ∀ name ∈ Layout.runtimeLibraries, h.Misses directory (join system name) →
    ∀ s content executable, h.HasFile (join system name) s content executable →
      h'.HasFile (join system name) s content executable

theorem supplied_of_stageLibraries {p : Places} {paths : List String} (htree : h.files.IsTree)
    (hdetached : Detached p h h')
    (hr : perform (stageLibraries p.staging p.system) h = (.ok paths, h')) :
    (∃ l, Supplied h' (Layout.libraryDirectory p.staging) p.system l) ∧
      Spared (Layout.libraryDirectory p.staging) p.system h h' ∧
      paths = (librariesIn h' p.system Layout.runtimeLibraries).map
        (join (Layout.libraryDirectory p.staging)) := by
  obtain ⟨staged, h₂, log, hstage, rfl, rfl⟩ := stageFresh_of_stageLibraries hr
  obtain ⟨_, h₁, hmake, heach⟩ := perform_bind_eq_ok.mp hstage
  obtain ⟨q, hq⟩ := exists_parent? (endsInName_libraryDirectory p.staging).filter_ne_nil
  obtain ⟨l, hrenewed⟩ := renewed_of_makeDirectories htree (by simp [hq]) hdetached.up hmake
  have hfresh := hrenewed.founded.fresh
  have hafter : ∀ name ∈ Layout.runtimeLibraries,
      h₂.Outside (Layout.libraryDirectory p.staging) (join p.system name) := hdetached.after
  obtain ⟨hpaths, hshipped⟩ := shipped_of_stageEach hfresh.toLeads (fun _ => id) (by decide)
    (fun name _ => hfresh.empty name) hafter heach
  obtain ⟨hleads, hcopies, hnothing⟩ := hshipped.supplied hfresh hafter
  refine ⟨⟨l, hleads, hcopies, hnothing⟩, ⟨?_, ?_⟩, hpaths⟩
  · rintro name hname s content executable (hfile | hfile)
    · have hget := hfile.get? htree
      refine ⟨hget, hshipped.within s _ (hrenewed.kept s _ ?_ hget)⟩
      exact fun k d hk => hdetached.before name hname k d hk s content executable hfile
    · have hget : h₂.files.get? s = _ := hfile.get? hshipped.leads.toIsTree
      have hfile₁ := (hshipped.hasFile_iff hfresh.toIsTree (hafter name hname)).mpr hfile
      exact ⟨hrenewed.only s _ (hfile₁.get? hfresh.toIsTree) (by simp), hget⟩
  · intro name hname hmiss s content executable hfile
    have hfile₁ : h₁.HasFile (join p.system name) s content executable :=
      hrenewed.file _ s content executable hmiss hfile
    exact hfile₁.of_within hfresh.toIsTree hshipped.within hshipped.workingDirectory

/-- The items of a script end in one for each library that the system has, in their order, and the
libraries' directory then holds copies of these and nothing else; the libraries of the system stay as
they are. If libraries are not shipped, nothing is staged. -/
theorem libraries_exact (r : Request) (p : Places) {items : List FileItem} (htree : h.files.IsTree)
    (hdetached : r.config.vcRedist = true → Detached p h h')
    (hr : perform (r.items p) h = (.ok items, h')) :
    ∃ names, perform (childNames p.app) h = (.ok names, h) ∧
      (r.config.vcRedist = false →
        h'.files = h.files ∧
          (files items).lines = names.map fun name => FileItem.line (r.child h p.app name)) ∧
      (r.config.vcRedist = true →
        (∃ l, Supplied h' (Layout.libraryDirectory p.staging) p.system l) ∧
        Spared (Layout.libraryDirectory p.staging) p.system h h' ∧
        (files items).lines =
          (names.map fun name => FileItem.line (r.child h p.app name)) ++
            (librariesIn h' p.system Layout.runtimeLibraries).map fun name =>
              FileItem.line (.plain (join (Layout.libraryDirectory p.staging) name))) := by
  obtain ⟨names, staged, hnames, hstaged, rfl⟩ := perform_items_eq_ok_iff.mp hr
  rw [stagedLibraries] at hstaged
  refine ⟨names, hnames, fun hv => ?_, fun hv => ?_⟩
  · rw [hv] at hstaged
    cases hstaged
    exact ⟨rfl, by simp [files]⟩
  · rw [if_pos hv] at hstaged
    have hlisted : Detached p (r.listed h p.app names) h' := (hdetached hv).congr rfl rfl
    obtain ⟨hsupplied, ⟨hspared, hfound⟩, rfl⟩ :=
      supplied_of_stageLibraries (h := r.listed h p.app names) htree hlisted hstaged
    exact ⟨hsupplied, ⟨hspared, hfound⟩, by simp [files, Function.comp_def]⟩

theorem outside_of_standing {w : Location} (hst : h.Standing w) (hstaging : Straight staging)
    (hsystem : Straight system)
    (hapart : ¬ locate w (Layout.libraryDirectory staging) <+: locate w system) :
    ∀ name ∈ Layout.runtimeLibraries,
      h.Outside (Layout.libraryDirectory staging) (join system name) := by
  intro name hname l e hl s content executable hfile hls
  have hn := isName_libraries name hname
  rw [Host.HasFile, hst.workingDirectory] at hfile
  rw [hst.workingDirectory] at hl
  obtain ⟨rfl, -⟩ := hst.ground.resolve_eq_found (straight_libraryDirectory hstaging) hl
  obtain ⟨rfl, -⟩ := hst.ground.resolve_eq_found (straight_entry hsystem hn) hfile
  rw [locate_entry hsystem hn] at hls
  rcases List.prefix_concat_iff.mp hls with heq | hprefix
  · rw [locate_libraryDirectory hstaging] at heq
    have hlast : "vcruntime" = name := by simpa using (List.append_inj' heq rfl).2
    exact absurd (hlast ▸ hname) (by decide)
  · exact hapart hprefix

section Sample

def supplyRequest : Request where
  config := { sampleConfig with vcRedist := true }
  appDirectory := "/a"

def supplyPlaces (staging system : String) : Places := ⟨"/a", "/o", staging, system⟩

def listedHost : Host := supplyRequest.listed supplyHost "/a" (supplyTree.names ["a"])

theorem standing_listedHost : listedHost.Standing [] := ⟨rfl, plain_supplyTree, rfl⟩

theorem items_of_stageFresh (staging : String) {system : String} {staged : List (List String)} {g : Host}
    (hr : perform (stageFresh system (Layout.libraryDirectory staging)) listedHost =
      (.ok staged, g)) :
    ∃ items log, perform (supplyRequest.items (supplyPlaces staging system)) supplyHost =
      (.ok items, { g with log }) := by
  have happ : supplyHost.isDirectory "/a" = true :=
    (standing_supplyHost.isDirectory_iff (by decide)).mpr ⟨by decide, rfl⟩
  have hplace : locate [] "/a" = ["a"] := by decide
  have hnames : perform (childNames "/a") supplyHost = (.ok (supplyTree.names ["a"]), supplyHost) :=
    (childNames_eq_ok_iff standing_supplyHost (by decide)).mpr ⟨happ, by rw [hplace]; rfl, rfl⟩
  obtain ⟨log, hstaged⟩ := stageLibraries_of_stageFresh hr
  exact ⟨_, log, perform_items_eq_ok_iff.mpr ⟨_, _, hnames, hstaged, rfl⟩⟩

theorem libraries_exact_sample :
    let p := supplyPlaces "/t/b" "/s"
    supplyHost.files.IsTree ∧ ∃ items g,
      perform (supplyRequest.items p) supplyHost = (.ok items, g) ∧
      Detached p supplyHost g ∧
      ∃ l, Supplied g (Layout.libraryDirectory p.staging) p.system l := by
  intro p
  have hstaging : Straight "/t/b" := by decide
  have hsystem : Straight "/s" := by decide
  have hapart : Apart (locate [] (Layout.libraryDirectory "/t/b")) (locate [] "/s") := by decide
  have hvalid : ∀ name ∈ Layout.runtimeLibraries,
      Valid (join (Layout.libraryDirectory "/t/b") name) := by decide
  obtain ⟨staged, g, hr⟩ := stageFresh_of_directory hsystem (straight_libraryDirectory hstaging)
    (trimmed_libraryDirectory _) (endsInName_libraryDirectory _) hapart
    (libraryDirectory_not_above_root hstaging) standing_listedHost (by decide) rfl
    fun name hname => storable_of_valid (hvalid name (List.mem_of_mem_filter hname))
  obtain ⟨hbecomes, -⟩ := stageFresh_eq_ok hsystem (straight_libraryDirectory hstaging)
    (trimmed_libraryDirectory _) (endsInName_libraryDirectory _) hapart
    (libraryDirectory_not_above_root hstaging) standing_listedHost hr
  obtain ⟨items, log, hitems⟩ := items_of_stageFresh "/t/b" hr
  have hst : Host.Standing { g with log } [] := ⟨hbecomes.standing.workingDirectory,
    hbecomes.standing.ground⟩
  have hdetached : Detached p supplyHost { g with log } :=
    ⟨fun q hq hlast => absurd hlast (not_up_of_straight (straight_libraryDirectory hstaging) hq),
      outside_of_standing standing_supplyHost hstaging hsystem hapart.1,
      outside_of_standing hst hstaging hsystem hapart.1⟩
  obtain ⟨_, _, _, hexact⟩ := libraries_exact supplyRequest p plain_supplyTree.toIsTree
    (fun _ => hdetached) hitems
  exact ⟨plain_supplyTree.toIsTree, items, _, hitems, hdetached, (hexact rfl).1⟩

def dugHost : Host := { listedHost with files := dugTree }

theorem standing_dugHost : dugHost.Standing [] := ⟨rfl, plain_dugTree, rfl⟩

theorem absent_of_get? {g : Host} (hst : g.Standing [])
    (hget : ∀ name, g.files.get? ["q", name] = none) :
    ∀ name ∈ Layout.runtimeLibraries, g.isFile (join "/q" name) = false := by
  intro name hname
  have hn := isName_libraries name hname
  have hplace : locate [] "/q" = ["q"] := by decide
  rw [Bool.eq_false_iff, Ne, hst.isFile_iff (straight_entry (by decide) hn)]
  rintro ⟨-, -, content, executable, hfile⟩
  rw [locate_entry (by decide) hn, hplace, List.singleton_append, hget] at hfile
  cases hfile

theorem absent_supply :
    ∀ name ∈ Layout.runtimeLibraries, supplyHost.isFile (join "/q" name) = false :=
  absent_of_get? standing_supplyHost
    (by simp [supplyHost, supplyTree, get?_insert, get?_ofDirectories])

theorem absent_dug : ∀ name ∈ Layout.runtimeLibraries, dugHost.isFile (join "/q" name) = false :=
  absent_of_get? standing_dugHost
    (by simp [dugHost, dugTree, supplyTree, get?_insert, get?_ofDirectories])

theorem outside_of_absent {g : Host} {q : String} (hfile : g.isFile q = false) (directory : String) :
    g.Outside directory q := by
  intro l e _ s content executable hs
  rw [Host.isFile_iff_hasFile.mpr ⟨s, content, executable, hs⟩] at hfile
  cases hfile

theorem not_supplied_dug {g : Host} (hfiles : g.files = dugTree) (hcwd : g.workingDirectory = .root)
    (system : String) (l : Location) : ¬ Supplied g climbing system l := by
  rintro ⟨hleads, -, hnothing⟩
  rw [hfiles, hcwd, resolve_dug (by decide)] at hleads
  cases hleads
  have hold := hnothing ["old.dll"] (by simp) fun name hname he => by
    have hname' := List.mem_of_mem_filter hname
    rw [← (List.cons.inj he).1] at hname'
    exact absurd hname' (by decide)
  rw [hfiles] at hold
  cases hold

/-- In a tree without links, with the system's directory apart from the staging directory, a file of an
earlier run is left where the libraries are staged: nothing is removed through a path on which a directory
is missing, and once that is made, the path leads to what was there. -/
theorem libraries_not_exact :
    let p := supplyPlaces "/t/n/../b" "/q"
    Plain supplyHost.files ∧ supplyRequest.config.vcRedist = true ∧
      Apart (locate [] p.staging) (locate [] p.system) ∧ ∃ items g,
        perform (supplyRequest.items p) supplyHost = (.ok items, g) ∧
        (∀ name ∈ Layout.runtimeLibraries,
          supplyHost.Outside (Layout.libraryDirectory p.staging) (join p.system name) ∧
            g.Outside (Layout.libraryDirectory p.staging) (join p.system name)) ∧
        ¬ ∃ l, Supplied g (Layout.libraryDirectory p.staging) p.system l := by
  obtain ⟨staged, lines, hr, -⟩ := stageFresh_of_absent (renewed_climbing standing_listedHost rfl) absent_dug
  obtain ⟨items, log, hitems⟩ := items_of_stageFresh "/t/n/../b" hr
  refine ⟨plain_supplyTree, rfl, by decide, items, _, hitems, fun name hname => ⟨?_, ?_⟩, ?_⟩
  · exact outside_of_absent (absent_supply name hname) _
  · exact outside_of_absent (absent_dug name hname) _
  · rintro ⟨l, hl⟩
    exact not_supplied_dug rfl rfl "/q" l hl

end Sample

end Script.Request

end FlutterInstaller
