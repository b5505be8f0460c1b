import FlutterInstaller.Proofs.Host.Files
import FlutterInstaller.Proofs.Script.Rendering

/-!
Staging the runtime libraries. The libraries that the system has are copied into a fresh directory;
afterwards it holds them as the system does and nothing else, and nothing outside of it has changed.
-/
namespace FlutterInstaller

open FileSystem FlutterInstaller.Path

namespace Host

variable {h g : Host} {w : Location} {p : String}

theorem Standing.isFile_iff (hst : h.Standing w) (hs : Straight p) :
    h.isFile p = true ↔ Valid p ∧ EndsInName (pieces p) ∧
      ∃ content executable, h.files.get? (locate w p) = some (.file content executable) := by
  rw [Host.isFile, hst.workingDirectory]
  exact hst.ground.isFile_iff hs

theorem Standing.isDirectory_iff (hst : h.Standing w) (hs : Straight p) :
    h.isDirectory p = true ↔ Valid p ∧ h.files.get? (locate w p) = some .directory := by
  rw [Host.isDirectory, hst.workingDirectory]
  exact hst.ground.isDirectory_iff hs

theorem Standing.isFile_congr (hst : h.Standing w) (hst' : g.Standing w) (hs : Straight p)
    (hget : h.files.get? (locate w p) = g.files.get? (locate w p)) : h.isFile p = g.isFile p := by
  rw [Bool.eq_iff_iff, hst.isFile_iff hs, hst'.isFile_iff hs, hget]

theorem Standing.isDirectory_congr (hst : h.Standing w) (hst' : g.Standing w) (hs : Straight p)
    (hget : h.files.get? (locate w p) = g.files.get? (locate w p)) :
    h.isDirectory p = g.isDirectory p := by
  rw [Bool.eq_iff_iff, hst.isDirectory_iff hs, hst'.isDirectory_iff hs, hget]

end Host

namespace Script.Request

open FlutterInstaller.Action

/-- The libraries among the given ones that a host has in a directory. -/
def librariesIn (h : Host) (system : String) (names : List String) : List String :=
  names.filter fun name => h.isFile (join system name)

theorem librariesIn_cons (h : Host) (system name : String) (names : List String) :
    librariesIn h system (name :: names) =
      librariesIn h system [name] ++ librariesIn h system names := by
  simp only [librariesIn, ← List.filter_append, List.singleton_append]

theorem librariesIn_congr {h g : Host} {w : Location} {system : String} {names : List String}
    (hst : h.Standing w) (hst' : g.Standing w) (hsystem : Straight system)
    (hn : ∀ name ∈ names, IsName name)
    (hget : ∀ name, h.files.get? (locate w system ++ [name]) =
      g.files.get? (locate w system ++ [name])) :
    librariesIn h system names = librariesIn g system names := by
  refine List.filter_congr fun name hname => ?_
  refine hst.isFile_congr hst' (straight_entry hsystem (hn name hname)) ?_
  rw [locate_entry hsystem (hn name hname), hget]

def Copied (w : Location) (system directory name : String) (h h' : Host) : Prop :=
  ∀ m, h'.files.get? m =
    if h.isFile (join system name) = true ∧ m = locate w directory ++ [name] then
      h.files.get? (locate w system ++ [name])
    else h.files.get? m

section Copies

variable {h h' : Host} {w : Location} {system directory : String} {names : List String}

theorem Copied.keeps {name : String} (hsystem : Straight system)
    (hapart : locate w system ≠ locate w directory) (hcopied : Copied w system directory name h h')
    (hst : h.Standing w) (hst' : h'.Standing w) (hn : ∀ name ∈ names, IsName name)
    (hd : h.files.get? (locate w directory) = some .directory) :
    (∀ k, h'.files.get? (locate w system ++ [k]) = h.files.get? (locate w system ++ [k])) ∧
      h'.files.get? (locate w directory) = some .directory ∧
      librariesIn h' system names = librariesIn h system names := by
  have hsource : ∀ k : String,
      h'.files.get? (locate w system ++ [k]) = h.files.get? (locate w system ++ [k]) := by
    intro k
    rw [hcopied, if_neg]
    rintro ⟨_, he⟩
    exact hapart (List.append_inj_left' he rfl)
  refine ⟨hsource, ?_, librariesIn_congr hst' hst hsystem hn hsource⟩
  rw [hcopied, if_neg (by simp), hd]

variable (hsystem : Straight system) (hdirectory : Straight directory)
  (hapart : locate w system ≠ locate w directory)

include hsystem hdirectory hapart

theorem stageLibrary_eq_ok (hst : h.Standing w) {name : String} (hn : IsName name)
    (hd : h.files.get? (locate w directory) = some .directory) {staged : List String}
    (hr : perform (stageLibrary system directory name) h = (.ok staged, h')) :
    h.Becomes w h'.files.get? h' ∧
      staged = (librariesIn h system [name]).map (join directory) ∧
      (h.isFile (join system name) = true → Storable (join directory name)) ∧
      Copied w system directory name h h' := by
  have hne : locate w (join system name) ≠ locate w (join directory name) := by
    rw [locate_entry hsystem hn, locate_entry hdirectory hn]
    exact fun he => hapart (List.append_cancel_right he)
  rw [stageLibrary, perform_get_bind] at hr
  split at hr
  · next hfile =>
    obtain ⟨_, h₁, hcopy, hr⟩ := perform_bind_eq_ok.mp hr
    simp only [Action.debug, Action.log, perform_modify_bind, perform_pure] at hr
    cases hr
    obtain ⟨⟨e, hget, hbecomes⟩, hstorable⟩ := copyFile_eq_ok hst (straight_entry hsystem hn)
      (straight_entry hdirectory hn) (endsInName_entry directory hn) hne hcopy
    rw [locate_entry hsystem hn] at hget
    rw [locate_entry hdirectory hn] at hbecomes
    refine ⟨?_, by simp [librariesIn, hfile], fun _ => hstorable, fun m => ?_⟩
    · exact hbecomes.view ▸ hbecomes.log _
    · dsimp only
      rw [hbecomes.view, hst.ground.put_eq hd, ← hget]
      simp [hfile]
  · next hfile =>
    simp only [Action.debug, Action.log, perform_modify_bind, perform_pure] at hr
    cases hr
    exact ⟨hst.becomes_self.log _, by simp [librariesIn, hfile], fun h => absurd h hfile,
      fun m => by simp [hfile]⟩

theorem stageEach_eq_ok (hst : h.Standing w) (hn : ∀ name ∈ names, IsName name)
    (hd : h.files.get? (locate w directory) = some .directory) {staged : List (List String)}
    (hr : perform (names.mapM (stageLibrary system directory)) h = (.ok staged, h')) :
    h.Becomes w h'.files.get? h' ∧
      staged.flatten = (librariesIn h system names).map (join directory) ∧
      (∀ name ∈ librariesIn h system names, Storable (join directory name) ∧
        h'.files.get? (locate w directory ++ [name]) = h.files.get? (locate w system ++ [name])) ∧
      ∀ m, (∀ name ∈ librariesIn h system names, m ≠ locate w directory ++ [name]) →
        h'.files.get? m = h.files.get? m := by
  induction names generalizing h staged with
  | nil =>
    cases hr
    exact ⟨hst.becomes_self, rfl, by simp [librariesIn], fun m _ => rfl⟩
  | cons name names ih =>
    obtain ⟨hname, hnames⟩ := List.forall_mem_cons.mp hn
    rw [List.mapM_cons] at hr
    obtain ⟨first, h₁, hfirst, hr⟩ := perform_bind_eq_ok.mp hr
    obtain ⟨rest, h₂, hrest, hr⟩ := perform_bind_eq_ok.mp hr
    cases hr
    obtain ⟨hbecomes, hstaged, hstorable, hview⟩ :=
      stageLibrary_eq_ok hsystem hdirectory hapart hst hname hd hfirst
    obtain ⟨hsource, hd₁, hsame⟩ :=
      hview.keeps hsystem hapart hst hbecomes.standing hnames hd
    obtain ⟨hbecomes', hflatten, hin, hout⟩ := ih hbecomes.standing hnames hd₁ hrest
    rw [hsame] at hflatten hin hout
    have hcons := librariesIn_cons h system name names
    have hfirstIn : ∀ k ∈ librariesIn h system [name],
        k = name ∧ h.isFile (join system name) = true := by
      intro k hk
      obtain ⟨hk, hfile⟩ := List.mem_filter.mp hk
      obtain rfl := List.mem_singleton.mp hk
      exact ⟨rfl, hfile⟩
    refine ⟨hbecomes.trans hbecomes', ?_, ?_, ?_⟩
    · rw [List.flatten_cons, hflatten, hstaged, hcons, List.map_append]
    · intro k hk
      by_cases hrestIn : k ∈ librariesIn h system names
      · rw [← hsource]
        exact hin k hrestIn
      · rw [hcons, List.mem_append] at hk
        obtain ⟨rfl, hfile⟩ := hfirstIn k (hk.resolve_right hrestIn)
        refine ⟨hstorable hfile, ?_⟩
        rw [hout, show h₁.files.get? _ = _ from hview _, if_pos ⟨hfile, rfl⟩]
        intro k' hk' he
        have hkk : k = k' := by simpa using he
        exact hrestIn (hkk ▸ hk')
    · intro m hm
      rw [hcons] at hm
      rw [hout m fun k hk => hm k (List.mem_append_right _ hk),
        show h₁.files.get? m = _ from hview m, if_neg]
      rintro ⟨hfile, hm'⟩
      exact hm name (List.mem_append_left _ (by simp [librariesIn, hfile])) hm'

theorem stageEach_of_storable (hst : h.Standing w) (hn : ∀ name ∈ names, IsName name)
    (hd : h.files.get? (locate w directory) = some .directory)
    (hstorable : ∀ name ∈ librariesIn h system names, Storable (join directory name))
    (hfree : ∀ name ∈ names, h.files.get? (locate w directory ++ [name]) ≠ some .directory) :
    ∃ staged h', perform (names.mapM (stageLibrary system directory)) h = (.ok staged, h') := by
  induction names generalizing h with
  | nil => exact ⟨[], h, rfl⟩
  | cons name names ih =>
    obtain ⟨hname, hnames⟩ := List.forall_mem_cons.mp hn
    obtain ⟨hfreeName, hfreeNames⟩ := List.forall_mem_cons.mp hfree
    have hfirst : ∃ first h₁, perform (stageLibrary system directory name) h = (.ok first, h₁) := by
      rw [stageLibrary, perform_get_bind]
      split
      · next hfile =>
        have hlocate := locate_entry hdirectory hname w
        have hne : locate w (join system name) ≠ locate w (join directory name) := by
          rw [locate_entry hsystem hname, hlocate]
          exact fun he => hapart (List.append_cancel_right he)
        obtain ⟨h₁, hcopy⟩ := copyFile_of_storable hst (straight_entry hsystem hname)
          (straight_entry hdirectory hname) (endsInName_entry directory hname) hne hfile
          (hstorable name (by simp [librariesIn, hfile]))
          (by rw [hlocate, List.dropLast_concat, hd]) (by rwa [hlocate])
        rw [perform_bind_of_ok hcopy]
        exact ⟨_, _, rfl⟩
      · exact ⟨_, _, rfl⟩
    obtain ⟨first, h₁, hfirst⟩ := hfirst
    obtain ⟨hbecomes, _, _, hview⟩ :=
      stageLibrary_eq_ok hsystem hdirectory hapart hst hname hd hfirst
    obtain ⟨hsource, hd₁, hsame⟩ :=
      hview.keeps hsystem hapart hst hbecomes.standing hnames hd
    have hstorable₁ : ∀ k ∈ librariesIn h₁ system names, Storable (join directory k) := by
      intro k hk
      rw [hsame] at hk
      obtain ⟨hk, hfile⟩ := List.mem_filter.mp hk
      exact hstorable k (List.mem_filter.mpr ⟨List.mem_cons_of_mem _ hk, hfile⟩)
    have hfree₁ : ∀ k ∈ names, h₁.files.get? (locate w directory ++ [k]) ≠ some .directory := by
      intro k hk
      rw [show h₁.files.get? _ = _ from hview _]
      split
      · next hfile =>
        obtain ⟨_, _, content, executable, hget⟩ :=
          (hst.isFile_iff (straight_entry hsystem hname)).mp hfile.1
        rw [locate_entry hsystem hname] at hget
        simp [hget]
      · exact hfreeNames k hk
    obtain ⟨rest, h₂, hrest⟩ := ih hbecomes.standing hnames hd₁ hstorable₁ hfree₁
    refine ⟨first :: rest, h₂, ?_⟩
    rw [List.mapM_cons, perform_bind_of_ok hfirst, perform_bind_of_ok hrest]
    rfl

end Copies

theorem stageEach_of_absent {h : Host} {system : String} {names : List String} (directory : String)
    (hn : ∀ name ∈ names, h.isFile (join system name) = false) :
    ∃ lines, perform (names.mapM (stageLibrary system directory)) h =
      (.ok (names.map fun _ => []), { h with log := lines }) := by
  induction names generalizing h with
  | nil => exact ⟨h.log, rfl⟩
  | cons name names ih =>
    obtain ⟨hname, hn⟩ := List.forall_mem_cons.mp hn
    have hfirst : ∃ g : Host, perform (stageLibrary system directory name) h = (.ok [], g) ∧
        ∃ lines, g = { h with log := lines } := by
      rw [stageLibrary, perform_get_bind, hname, if_neg Bool.false_ne_true]
      exact ⟨_, rfl, _, rfl⟩
    obtain ⟨_, hfirst, lines, rfl⟩ := hfirst
    obtain ⟨lines', hrest⟩ := ih (h := { h with log := lines }) hn
    refine ⟨lines', ?_⟩
    rw [List.mapM_cons, perform_bind_of_ok hfirst, perform_bind_of_ok hrest]
    rfl

theorem stageEach_ne_nil {h h' : Host} {system directory name : String} {names : List String}
    (hfile : h.isFile (join system name) = true) {staged : List (List String)}
    (hr : perform ((name :: names).mapM (stageLibrary system directory)) h = (.ok staged, h')) :
    staged.flatten ≠ [] := by
  rw [List.mapM_cons] at hr
  obtain ⟨first, h₁, hfirst, hr⟩ := perform_bind_eq_ok.mp hr
  obtain ⟨rest, h₂, _, hr⟩ := perform_bind_eq_ok.mp hr
  cases hr
  rw [stageLibrary, perform_get_bind, if_pos hfile] at hfirst
  obtain ⟨_, h₃, _, hfirst⟩ := perform_bind_eq_ok.mp hfirst
  simp only [Action.debug, Action.log, perform_modify_bind, perform_pure] at hfirst
  cases hfirst
  simp

theorem isName_libraries : ∀ name ∈ Layout.runtimeLibraries, IsName name := by
  simp [Layout.runtimeLibraries, IsName]

theorem isName_libraryDirectory : IsName "vcruntime" := by simp [IsName]

/-- A directory holds the given libraries as another one does, and nothing else. -/
structure Stocked (v : View) (directory source : Location) (names : List String) : Prop where
  above : ∀ m, m <+: directory → v m = some .directory
  copy : ∀ name ∈ names, v (directory ++ [name]) = v (source ++ [name])
  empty : ∀ m, directory <+: m → m ≠ directory → (∀ name ∈ names, m ≠ directory ++ [name]) →
    v m = none

theorem Stocked.eq {v v' : View} {directory source : Location} {names : List String}
    (h : Stocked v directory source names) (h' : Stocked v' directory source names)
    (hapart : Apart directory source) (hframe : ∀ m, Apart directory m → v' m = v m) : v' = v := by
  funext m
  by_cases habove : m <+: directory
  · rw [h.above m habove, h'.above m habove]
  · by_cases hbelow : directory <+: m
    · by_cases hcopy : ∃ name ∈ names, m = directory ++ [name]
      · obtain ⟨name, hname, rfl⟩ := hcopy
        rw [h.copy name hname, h'.copy name hname, hframe _ (hapart.append_right [name])]
      · have hnot : ∀ name ∈ names, m ≠ directory ++ [name] :=
          fun name hname he => hcopy ⟨name, hname, he⟩
        have hne : m ≠ directory := fun he => habove (he ▸ List.prefix_rfl)
        rw [h.empty m hbelow hne hnot, h'.empty m hbelow hne hnot]
    · exact hframe m ⟨hbelow, habove⟩

theorem Stocked.put {v : View} {directory source l : Location} {names : List String} {e : Entry}
    (h : Stocked v directory source names) (hdirectory : Apart directory l)
    (hsource : Apart source l) : Stocked (v.put l e) directory source names where
  above := fun m hm => by
    have hne : m ≠ l := fun he => hdirectory.2 (he ▸ hm)
    rw [View.put, if_neg hne, View.raise, h.above m hm, ite_self]
  copy := fun name hname => by
    rw [View.put_of_not_prefix (hdirectory.append_left [name]).1,
      View.put_of_not_prefix (hsource.append_left [name]).1]
    exact h.copy name hname
  empty := fun m hm hne hnot => by
    rw [View.put_of_not_prefix fun hl => hdirectory.1 (hm.trans hl)]
    exact h.empty m hm hne hnot

section Fresh

variable {h h' : Host} {w : Location} {system directory : String} {staged : List (List String)}

def stageFresh (system directory : String) : Action (List (List String)) := do
  Action.makeDirectories directory true
  Layout.runtimeLibraries.mapM (stageLibrary system directory)

theorem erased_keeps (hsystem : Straight system)
    (hapart : Apart (locate w directory) (locate w system)) (hst : h.Standing w)
    (hbecomes : h.Becomes w
      (View.raise (View.erase h.files.get? (locate w directory)) (locate w directory)) h') :
    (∀ k, h'.files.get? (locate w system ++ [k]) = h.files.get? (locate w system ++ [k])) ∧
      librariesIn h' system Layout.runtimeLibraries =
        librariesIn h system Layout.runtimeLibraries := by
  have hsource : ∀ k : String,
      h'.files.get? (locate w system ++ [k]) = h.files.get? (locate w system ++ [k]) := by
    intro k
    rw [hbecomes.view, View.raise_erase_of_apart (hapart.append_right [k])]
  exact ⟨hsource, librariesIn_congr hbecomes.standing hst hsystem isName_libraries hsource⟩

variable (hsystem : Straight system) (hdirectory : Straight directory) (ht : Trimmed directory)
  (hend : EndsInName (pieces directory)) (hapart : Apart (locate w directory) (locate w system))
  (hw : ¬ locate w directory <+: w)

include hsystem hdirectory ht hend hapart hw

theorem stageFresh_eq_ok (hst : h.Standing w)
    (hr : perform (stageFresh system directory) h = (.ok staged, h')) :
    h.Becomes w h'.files.get? h' ∧
      staged.flatten =
        (librariesIn h system Layout.runtimeLibraries).map (join directory) ∧
      Valid directory ∧
      (∀ name ∈ librariesIn h system Layout.runtimeLibraries, Storable (join directory name)) ∧
      Stocked h'.files.get? (locate w directory) (locate w system)
        (librariesIn h system Layout.runtimeLibraries) ∧
      ∀ m, Apart (locate w directory) m → h'.files.get? m = h.files.get? m := by
  obtain ⟨_, h₁, hmake, hr⟩ := perform_bind_eq_ok.mp hr
  obtain ⟨hbecomes, hvalid⟩ := makeDirectories_erase_eq_ok hst hdirectory ht hend hw hmake
  obtain ⟨hsource, hsame⟩ := erased_keeps hsystem hapart hst hbecomes
  have hd₁ : h₁.files.get? (locate w directory) = some .directory := by
    rw [hbecomes.view, View.raise, if_pos List.prefix_rfl]
  obtain ⟨hbecomes', hflatten, hin, hout⟩ := stageEach_eq_ok hsystem hdirectory hapart.symm.ne
    hbecomes.standing isName_libraries hd₁ hr
  rw [hsame] at hflatten hin hout
  refine ⟨hbecomes.trans hbecomes', hflatten, hvalid, fun k hk => (hin k hk).1, ?_, ?_⟩
  · constructor
    · intro m hm
      have hne : ∀ k ∈ librariesIn h system Layout.runtimeLibraries,
          m ≠ locate w directory ++ [k] := by
        rintro k _ rfl
        have hle := hm.length_le
        simp at hle
      rw [hout m hne, hbecomes.view, View.raise, if_pos hm]
    · intro k hk
      have hnot : ∀ k' ∈ librariesIn h system Layout.runtimeLibraries,
          locate w system ++ [k] ≠ locate w directory ++ [k'] :=
        fun k' _ he => hapart.symm.ne (List.append_inj_left' he rfl)
      rw [(hin k hk).2, hout _ hnot]
    · intro m hm hne hnot
      rw [hout m hnot, hbecomes.view, View.raise_erase_below hm hne]
  · intro m hm
    have hnot : ∀ k ∈ librariesIn h system Layout.runtimeLibraries,
        m ≠ locate w directory ++ [k] := by
      rintro k _ rfl
      exact hm.1 (List.prefix_append _ _)
    rw [hout m hnot, hbecomes.view, View.raise_erase_of_apart hm]

theorem stageFresh_of_directory (hst : h.Standing w) (hvalid : Valid directory)
    (hd : h.files.get? (locate w directory) = some .directory)
    (hstorable : ∀ name ∈ librariesIn h system Layout.runtimeLibraries,
      Storable (join directory name)) :
    ∃ staged h', perform (stageFresh system directory) h = (.ok staged, h') := by
  obtain ⟨h₁, hmake⟩ := makeDirectories_erase_of_directory hst hdirectory ht hend hw hvalid hd
  obtain ⟨hbecomes, _⟩ := makeDirectories_erase_eq_ok hst hdirectory ht hend hw hmake
  obtain ⟨_, hsame⟩ := erased_keeps hsystem hapart hst hbecomes
  have hd₁ : h₁.files.get? (locate w directory) = some .directory := by
    rw [hbecomes.view, View.raise, if_pos List.prefix_rfl]
  have hfree : ∀ name ∈ Layout.runtimeLibraries,
      h₁.files.get? (locate w directory ++ [name]) ≠ some .directory := by
    intro name _
    rw [hbecomes.view, View.raise_erase_below (List.prefix_append _ _) (by simp)]
    simp
  obtain ⟨staged, h₂, hr⟩ := stageEach_of_storable hsystem hdirectory hapart.symm.ne
    hbecomes.standing isName_libraries hd₁ (hsame ▸ hstorable) hfree
  refine ⟨staged, h₂, ?_⟩
  rw [stageFresh, perform_bind_of_ok hmake]
  exact hr

end Fresh

theorem stageLibraries_of_stageFresh {staging system : String} {h h' : Host}
    {staged : List (List String)}
    (hr : perform (stageFresh system (Layout.libraryDirectory staging)) h = (.ok staged, h')) :
    ∃ log, perform (stageLibraries staging system) h = (.ok staged.flatten, { h' with log }) := by
  obtain ⟨_, h₁, hmake, hr⟩ := perform_bind_eq_ok.mp hr
  rw [stageLibraries]
  simp only [perform_bind_of_ok hmake, perform_bind_of_ok hr]
  split
  · exact ⟨_, rfl⟩
  · exact ⟨h'.log, rfl⟩

theorem stageFresh_of_absent {system directory : String} {h h₁ : Host}
    (hmake : perform (Action.makeDirectories directory true) h = (.ok (), h₁))
    (hn : ∀ name ∈ Layout.runtimeLibraries, h₁.isFile (join system name) = false) :
    ∃ staged lines, perform (stageFresh system directory) h =
      (.ok staged, { h₁ with log := lines }) ∧ staged.flatten = [] := by
  have heach : ∃ lines,
      perform (Layout.runtimeLibraries.mapM (stageLibrary system directory)) h₁ =
        (.ok (Layout.runtimeLibraries.map fun _ => []), { h₁ with log := lines }) :=
    stageEach_of_absent directory hn
  obtain ⟨lines, heach⟩ := heach
  refine ⟨Layout.runtimeLibraries.map fun _ => [], lines, ?_, rfl⟩
  rw [stageFresh, perform_bind_of_ok hmake, heach]

theorem stageFresh_of_stageLibraries {staging system : String} {h h' : Host} {paths : List String}
    (hr : perform (stageLibraries staging system) h = (.ok paths, h')) :
    ∃ staged h₁ log, perform (stageFresh system (Layout.libraryDirectory staging)) h =
      (.ok staged, h₁) ∧ paths = staged.flatten ∧ h' = { h₁ with log } := by
  obtain ⟨_, h₁, hmake, hrest⟩ := perform_bind_eq_ok.mp hr
  obtain ⟨staged, h₂, hstage, _⟩ := perform_bind_eq_ok.mp hrest
  have hfresh : perform (stageFresh system (Layout.libraryDirectory staging)) h = (.ok staged, h₂) :=
    perform_bind_eq_ok.mpr ⟨_, h₁, hmake, hstage⟩
  obtain ⟨log, hr'⟩ := stageLibraries_of_stageFresh hfresh
  rw [hr] at hr'
  cases hr'
  exact ⟨staged, h₂, log, hfresh, rfl, rfl⟩

end Script.Request

end FlutterInstaller
