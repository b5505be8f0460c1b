import FlutterInstaller.Proofs.Script.Effect
import FlutterInstaller.Proofs.Uuid.Text

/-!
Building two applications on one host. Their identifiers keep what is staged for them apart, so what one
build grafts is neither read nor erased by the other: in whatever order they are built, the files come
out the same, and each application has what it has when it is built alone.
-/
namespace FlutterInstaller.Script.Request

open FileSystem FlutterInstaller.Path FlutterInstaller.Action Host

def own (r : Request) (w : Location) : List Location :=
  [r.projectFrom w, locate (r.projectFrom w) r.appDirectory]

def systemPath (r : Request) (h : Host) : String :=
  r.systemDirectory.getD (Layout.systemDirectory h.systemRoot)

/-- Requests for two applications that stage below the temporary directory. No directory of one overlaps
one of the other, and neither the temporary directory nor a directory of the system overlaps any of
these, or the other. -/
structure Neighbours (a b : Request) (h : Host) (w : Location) : Prop where
  id : a.config.id ≠ b.config.id
  staging : ∀ r ∈ [a, b], r.stagingDirectory = none
  own : ∀ l ∈ a.own w, ∀ m ∈ b.own w, Apart l m
  temporary : ∀ r ∈ [a, b], ∀ l ∈ r.own w, Apart (locate w h.temporaryDirectory) l
  system : ∀ r ∈ [a, b], ∀ q ∈ [a, b], ∀ l ∈ q.own w, Apart (locate w (r.systemPath h)) l
  system_temporary : ∀ r ∈ [a, b],
    Apart (locate w (r.systemPath h)) (locate w h.temporaryDirectory)

variable {a b r : Request} {h g g' : Host} {w : Location} {path : String}

/-- What belongs to an application: all that lies in its directories and in the one that it is staged
in. -/
def Owns (r : Request) (h : Host) (w m : Location) : Prop :=
  ∃ l ∈ locate w (r.placesFrom h w).staging :: r.own w, l <+: m

theorem Neighbours.symm (hn : Neighbours a b h w) : Neighbours b a h w where
  id := hn.id.symm
  staging := fun r hr => hn.staging r (by simpa [or_comm] using hr)
  own := fun l hl m hm => (hn.own m hm l hl).symm
  temporary := fun r hr => hn.temporary r (by simpa [or_comm] using hr)
  system := fun r hr q hq => hn.system r (by simpa [or_comm] using hr) q (by simpa [or_comm] using hq)
  system_temporary := fun r hr => hn.system_temporary r (by simpa [or_comm] using hr)

section Places

theorem finds_placesFrom (hplain : Plain h.files) (hw : h.currentDirectory = .ok w) (r : Request) :
    r.Finds h (r.placesFrom h w) w where
  linkFree := hplain
  currentDirectory := hw
  places := perform_places_eq_ok_iff.mpr ⟨rfl, w, hw, rfl⟩

theorem locate_app (hproject : ∀ n ∈ r.projectFrom w, IsName n) :
    locate w (r.placesFrom h w).app = locate (r.projectFrom w) r.appDirectory :=
  locate_text (isName_locate hproject _) w

theorem exists_locate_output (hproject : ∀ n ∈ r.projectFrom w, IsName n) :
    ∃ t, locate w (r.placesFrom h w).output = r.projectFrom w ++ t := by
  have hs := straight_text hproject
  have hroot : Straight Layout.installerRoot := by decide
  have hmode : isAbsolute r.config.buildMode.directory = false ∧
      Straight r.config.buildMode.directory := by
    cases r.config.buildMode <;> decide
  rw [placesFrom, Layout.outputDirectory, locate_join hmode.1 (straight_join (by decide) hs hroot)
    hmode.2, locate_join (by decide) hs hroot, locate_text hproject]
  exact ⟨_, List.append_assoc _ _ _⟩

theorem staging_placesFrom (hstaging : r.stagingDirectory = none)
    (htemporary : Straight h.temporaryDirectory) :
    Straight (r.placesFrom h w).staging ∧ locate w (r.placesFrom h w).staging =
      locate w h.temporaryDirectory ++ ["inno_bundle"] ++ [r.config.id.text] := by
  have hbundle : IsName "inno_bundle" := by simp [IsName]
  have hs := straight_entry htemporary hbundle
  rw [placesFrom, hstaging]
  refine ⟨straight_entry hs r.config.id.isName_text, ?_⟩
  rw [Option.elim_none, Layout.stagingDirectory, locate_entry hs r.config.id.isName_text,
    locate_entry htemporary hbundle]

end Places

theorem owns_of_below (hproject : ∀ n ∈ r.projectFrom w, IsName n) {m : Location} {l : String}
    (hl : l ∈ [(r.placesFrom h w).app, (r.placesFrom h w).staging, (r.placesFrom h w).output])
    (hm : locate w l <+: m) : r.Owns h w m := by
  obtain ⟨t, houtput⟩ := exists_locate_output (h := h) hproject
  simp only [List.mem_cons, List.not_mem_nil, or_false] at hl
  rcases hl with rfl | rfl | rfl
  · rw [locate_app hproject] at hm
    exact ⟨_, by simp [Request.own], hm⟩
  · exact ⟨_, List.mem_cons_self, hm⟩
  · rw [houtput] at hm
    exact ⟨r.projectFrom w, by simp [Request.own], (List.prefix_append _ _).trans hm⟩

theorem owns_of_mem_grafts (hproject : ∀ n ∈ r.projectFrom w, IsName n)
    (hset : r.Setting (r.placesFrom h w) w) {k : Graft}
    (hk : k ∈ r.grafts (r.placesFrom h w) w g) : r.Owns h w k.place := by
  rcases prefix_of_mem_grafts hset hk with hk | hk
  · exact owns_of_below hproject (by simp) hk
  · exact owns_of_below hproject (by simp) hk

theorem Holds.of_get? (hst : g.Standing w) (hst' : g'.Standing w) (hs : Straight path)
    (hget : g'.files.get? (locate w path) = g.files.get? (locate w path)) {text : String}
    (hh : Holds g path text) : Holds g' path text := by
  rw [Holds, hst.workingDirectory, hst.ground.read_eq_ok_iff hs] at hh
  rw [Holds, hst'.workingDirectory, hst'.ground.read_eq_ok_iff hs, hget]
  exact hh

section Builds

variable (hplain : Plain h.files) (hw : h.currentDirectory = .ok w) (hn : Neighbours a b h w)
  (htemporary : Straight h.temporaryDirectory)

include hplain hw hn htemporary

omit hplain hw in
theorem Neighbours.staging_apart (hr : r ∈ [a, b]) {l : Location}
    (hl : Apart (locate w h.temporaryDirectory) l) :
    Apart (locate w (r.placesFrom h w).staging) l := by
  rw [(staging_placesFrom (hn.staging r hr) htemporary).2]
  exact (hl.append_left _).append_left _

theorem Neighbours.premises (hr : r ∈ [a, b]) : Premises (r.placesFrom h w) w := by
  have hproject := (finds_placesFrom hplain hw r).isName_project
  have hown {l : Location} (hl : l ∈ r.own w) : Apart (locate w (r.placesFrom h w).staging) l :=
    hn.staging_apart htemporary hr (hn.temporary r hr l hl)
  obtain ⟨t, houtput⟩ := exists_locate_output (h := h) hproject
  refine ⟨straight_text (isName_locate hproject _),
    (staging_placesFrom (w := w) (hn.staging r hr) htemporary).1,
    straight_outputDirectory (straight_text hproject) _, ?_, ?_⟩
  · rw [locate_app hproject]
    exact hown (by simp [Request.own])
  · rw [houtput]
    exact (hown (by simp [Request.own])).append_right t

theorem Neighbours.setting (hr : r ∈ [a, b])
    (hsystem : r.config.vcRedist = true → Straight (r.systemPath h))
    (houtside : r.config.vcRedist = true →
      ¬ locate w (Layout.libraryDirectory (r.placesFrom h w).staging) <+: w) :
    r.Setting (r.placesFrom h w) w where
  toPremises := hn.premises hplain hw htemporary hr
  system := fun hv =>
    ⟨hsystem hv, hn.staging_apart htemporary hr (hn.system_temporary r hr).symm⟩
  outside := houtside

theorem Neighbours.outside (hr : r ∈ [a, b]) {q : Request} {path' : String}
    (hrb : perform r.build h = (.ok path, g)) (hqb : perform q.build g = (.ok path', g'))
    (hv : r.config.vcRedist = true) :
    ¬ locate w (Layout.libraryDirectory (r.placesFrom h w).staging) <+: w := by
  obtain ⟨_, _, hp, _⟩ := perform_bind_eq_ok.mp hqb
  obtain ⟨_, w', hw', _⟩ := perform_places_eq_ok_iff.mp hp
  exact outside_of_build (finds_placesFrom hplain hw r)
    (hn.premises hplain hw htemporary hr).staging hrb hw' hv

theorem Neighbours.apart {l m : Location}
    (hl : l ∈ [locate w (a.placesFrom h w).staging, locate w (a.placesFrom h w).output])
    (hm : b.Owns h w m ∨ locate w (b.systemPath h) <+: m) : Apart l m := by
  have hproject := (finds_placesFrom hplain hw a).isName_project
  obtain ⟨_, hstaging⟩ := staging_placesFrom (w := w) (hn.staging a (by simp)) htemporary
  obtain ⟨_, hstaging'⟩ := staging_placesFrom (w := w) (hn.staging b (by simp)) htemporary
  obtain ⟨t, houtput⟩ := exists_locate_output (h := h) hproject
  have hid : a.config.id.text ≠ b.config.id.text := fun he => hn.id (Uuid.text_injective he)
  have hown : a.projectFrom w ∈ a.own w := by simp [Request.own]
  have hplaces : ∀ k ∈ locate w (b.systemPath h) :: locate w (b.placesFrom h w).staging :: b.own w,
      Apart l k := by
    simp only [List.mem_cons, List.not_mem_nil, or_false] at hl
    rcases hl with rfl | rfl
    · refine List.forall_mem_cons.mpr ⟨?_, List.forall_mem_cons.mpr ⟨?_, ?_⟩⟩
      · exact hn.staging_apart htemporary (by simp) (hn.system_temporary b (by simp)).symm
      · -- All that keeps these two apart is the identifier.
        rw [hstaging, hstaging']
        exact apart_of_ne hid
      · exact fun k hk => hn.staging_apart htemporary (by simp) (hn.temporary b (by simp) k hk)
    · rw [houtput]
      refine List.forall_mem_cons.mpr ⟨?_, List.forall_mem_cons.mpr ⟨?_, ?_⟩⟩
      · exact (hn.system b (by simp) a (by simp) _ hown).symm.append_left t
      · have htemporary' := hn.temporary a (by simp) _ hown
        exact (hn.staging_apart htemporary (by simp) htemporary').symm.append_left t
      · exact fun k hk => (hn.own _ hown k hk).append_left t
  rcases hm with ⟨k, hk, u, rfl⟩ | ⟨u, rfl⟩
  · exact (hplaces k (List.mem_cons_of_mem _ hk)).append_right u
  · exact (hplaces _ List.mem_cons_self).append_right u

theorem Neighbours.apart_of_mem_grafts (hset : a.Setting (a.placesFrom h w) w) {k : Graft}
    (hk : k ∈ a.grafts (a.placesFrom h w) w g) {m : Location}
    (hm : b.Owns h w m ∨ locate w (b.systemPath h) <+: m) : Apart k.place m := by
  rcases prefix_of_mem_grafts hset hk with ⟨t, ht⟩ | ⟨t, ht⟩
  · exact ht ▸ (hn.apart hplain hw htemporary (by simp) hm).append_left t
  · exact ht ▸ (hn.apart hplain hw htemporary (by simp) hm).append_left t

theorem Neighbours.build_after (hset : a.Setting (a.placesFrom h w) w)
    (hset' : b.Setting (b.placesFrom h w) w)
    (hbecomes : h.Becomes w (View.grafts h.files.get? (a.grafts (a.placesFrom h w) w h)) g)
    (hb : perform b.build g = (.ok path, g')) :
    h.Becomes w (View.grafts (View.grafts h.files.get? (a.grafts (a.placesFrom h w) w h))
      (b.grafts (b.placesFrom h w) w h)) g' := by
  have hf := finds_placesFrom hplain hw b
  obtain ⟨_, hbecomes', _⟩ := build_grafts (hf.of_becomes hbecomes) hset' hb
  have hsame : ∀ m, (∃ l ∈ [(b.placesFrom h w).app, (b.placesFrom h w).staging,
      (b.placesFrom h w).output, (b.placesFrom h w).system], locate w l <+: m) →
        g.files.get? m = h.files.get? m := by
    rintro m ⟨l, hl, hlm⟩
    have hm : b.Owns h w m ∨ locate w (b.systemPath h) <+: m := by
      by_cases hsystem : l = (b.placesFrom h w).system
      · rw [hsystem] at hlm
        exact .inr hlm
      · exact .inl (owns_of_below hf.isName_project (by simpa [hsystem] using hl) hlm)
    rw [hbecomes.view]
    exact View.grafts_of_apart fun k hk =>
      hn.apart_of_mem_grafts hplain hw htemporary hset hk hm
  rw [(grafts_congr hset' hf.standing hbecomes.standing hsame).1, hbecomes.view] at hbecomes'
  exact hbecomes.trans hbecomes'

theorem Neighbours.kept (hset : a.Setting (a.placesFrom h w) w) (v : View) {m : Location}
    (hm : b.Owns h w m) : View.grafts v (a.grafts (a.placesFrom h w) w g) m = v m :=
  View.grafts_of_apart fun _ hk => hn.apart_of_mem_grafts hplain hw htemporary hset hk (.inl hm)

theorem Neighbours.furnished (hr : r ∈ [a, b]) (hfurnished : r.Furnished (r.placesFrom h w) w h)
    (hkept : ∀ m, r.Owns h w m → g.files.get? m = h.files.get? m) :
    r.Furnished (r.placesFrom h w) w g :=
  hfurnished.of_get? (hn.premises hplain hw htemporary hr) fun m ⟨_, hl, hlm⟩ =>
    hkept m (owns_of_below (finds_placesFrom hplain hw r).isName_project hl hlm)

theorem Neighbours.exists_builds (hset : a.Setting (a.placesFrom h w) w)
    (hset' : b.Setting (b.placesFrom h w) w) (ha : a.Furnished (a.placesFrom h w) w h)
    (hb : b.Furnished (b.placesFrom h w) w h) :
    ∃ g g', perform a.build h = (.ok (scriptPath (a.placesFrom h w)), g) ∧
      perform b.build g = (.ok (scriptPath (b.placesFrom h w)), g') := by
  have hf := finds_placesFrom hplain hw b
  obtain ⟨g, hbuild⟩ := ha.exists_build (finds_placesFrom hplain hw a) hset
  obtain ⟨_, hbecomes, _⟩ := build_grafts (finds_placesFrom hplain hw a) hset hbuild
  have hfurnished : b.Furnished (b.placesFrom h w) w g := by
    apply hn.furnished hplain hw htemporary (by simp) hb
    intro m hm
    rw [hbecomes.view]
    exact hn.kept hplain hw htemporary hset _ hm
  obtain ⟨g', hbuild'⟩ := hfurnished.exists_build (hf.of_becomes hbecomes) hset'
  exact ⟨g, g', hbuild, hbuild'⟩

theorem Neighbours.kept_of_put {v : View} {e : Entry}
    (hv : ∀ m, Apart (locate w (a.placesFrom h w).staging) m → v m = g.files.get? m)
    {m : Location} (hm : b.Owns h w m) :
    View.put v (locate w (scriptPath (a.placesFrom h w))) e m = g.files.get? m := by
  rw [View.put_of_apart ((hn.premises hplain hw htemporary (r := a) (by simp)).apart_script
    (hn.apart hplain hw htemporary (by simp) (.inl hm)))]
  exact hv m (hn.apart hplain hw htemporary (by simp) (.inl hm))

end Builds

/-- An application has in a host what it has in one where it is built alone: its script, and all that it
owns. -/
structure Undisturbed (r : Request) (h : Host) (w : Location) (path : String) (alone g : Host) :
    Prop where
  script : ∀ text, Holds alone path text → Holds g path text
  owned : ∀ m, r.Owns h w m → g.files.get? m = alone.files.get? m

theorem Undisturbed.of_alike {k : Host} (hu : r.Undisturbed h w path k g) (hlike : g.Alike g') :
    r.Undisturbed h w path k g' where
  script := fun text hh => (hu.script text hh).of_alike hlike
  owned := fun m hm => (hlike.files m).symm.trans (hu.owned m hm)

theorem Neighbours.undisturbed (hplain : Plain h.files) (hw : h.currentDirectory = .ok w)
    (hn : Neighbours a b h w) (htemporary : Straight h.temporaryDirectory)
    (hset : a.Setting (a.placesFrom h w) w) (hset' : b.Setting (b.placesFrom h w) w)
    (hbecomes : h.Becomes w (View.grafts h.files.get? (b.grafts (b.placesFrom h w) w h)) g)
    (hbecomes' : h.Becomes w (View.grafts (View.grafts h.files.get?
      (b.grafts (b.placesFrom h w) w h)) (a.grafts (a.placesFrom h w) w h)) g') :
    b.Undisturbed h w (scriptPath (b.placesFrom h w)) g g' := by
  have hproject := (finds_placesFrom hplain hw b).isName_project
  have howned : ∀ m, b.Owns h w m → g'.files.get? m = g.files.get? m := by
    intro m hm
    rw [hbecomes'.view, hbecomes.view, hn.kept hplain hw htemporary hset _ hm]
  have hscript : b.Owns h w (locate w (scriptPath (b.placesFrom h w))) := by
    rw [locate_scriptPath hset'.output]
    exact owns_of_below hproject (by simp) (List.prefix_append _ _)
  refine ⟨fun _ => Holds.of_get? hbecomes.standing hbecomes'.standing ?_ (howned _ hscript), howned⟩
  exact straight_entry hset'.output isName_scriptName

/-- Two applications that are built one after the other, in both orders, do not disturb each other. The
builds give the same paths and the same files, each application has what it has when it is built alone,
and neither build changes anything that the other application owns. -/
theorem builds_commute (hplain : Plain h.files) (hw : h.currentDirectory = .ok w)
    (hn : Neighbours a b h w) (htemporary : Straight h.temporaryDirectory)
    (hsystem : ∀ r ∈ [a, b], r.config.vcRedist = true → Straight (r.systemPath h))
    {pathA pathA' pathB pathB' : String} {hA hAB hB hBA : Host}
    (ha : perform a.build h = (.ok pathA, hA)) (hab : perform b.build hA = (.ok pathB', hAB))
    (hb : perform b.build h = (.ok pathB, hB)) (hba : perform a.build hB = (.ok pathA', hBA)) :
    pathA' = pathA ∧ pathB' = pathB ∧ hAB.Alike hBA ∧
      (∃ text, Holds hA pathA text) ∧ (∃ text, Holds hB pathB text) ∧
      (∀ g ∈ [hAB, hBA], a.Undisturbed h w pathA hA g ∧ b.Undisturbed h w pathB hB g) ∧
      (∀ m, b.Owns h w m → hA.files.get? m = h.files.get? m) ∧
      ∀ m, a.Owns h w m → hB.files.get? m = h.files.get? m := by
  have hfa := finds_placesFrom hplain hw a
  have hfb := finds_placesFrom hplain hw b
  have hseta := hn.setting hplain hw htemporary (r := a) (by simp) (hsystem a (by simp))
    (hn.outside hplain hw htemporary (by simp) ha hab)
  have hsetb := hn.setting hplain hw htemporary (r := b) (by simp) (hsystem b (by simp))
    (hn.outside hplain hw htemporary (by simp) hb hba)
  obtain ⟨rfl, hbecomesA, hholdsA⟩ := build_grafts hfa hseta ha
  obtain ⟨rfl, hbecomesB, hholdsB⟩ := build_grafts hfb hsetb hb
  obtain ⟨hpathB, _, _⟩ := build_grafts (hfb.of_becomes hbecomesA) hsetb hab
  obtain ⟨hpathA, _, _⟩ := build_grafts (hfa.of_becomes hbecomesB) hseta hba
  have hbecomesAB := hn.build_after hplain hw htemporary hseta hsetb hbecomesA hab
  have hbecomesBA := hn.symm.build_after hplain hw htemporary hsetb hseta hbecomesB hba
  -- What each build grafts is settled by the host before both, so that the grafts can be exchanged.
  have hcomm := View.grafts_comm h.files.get? fun k hk j hj =>
    hn.symm.apart_of_mem_grafts hplain hw htemporary hsetb (g := h) (k := k) hk (m := j.place)
      (.inl (owns_of_mem_grafts hfa.isName_project hseta (g := h) hj))
  have hlike : hAB.Alike hBA := by
    rw [hcomm] at hbecomesBA
    exact hbecomesAB.alike_of_becomes hbecomesBA
  have hundisturbedA : a.Undisturbed h w (scriptPath (a.placesFrom h w)) hA hAB :=
    hn.symm.undisturbed hplain hw htemporary hsetb hseta hbecomesA hbecomesAB
  have hundisturbedB : b.Undisturbed h w (scriptPath (b.placesFrom h w)) hB hBA :=
    hn.undisturbed hplain hw htemporary hseta hsetb hbecomesB hbecomesBA
  refine ⟨hpathA, hpathB, hlike, ⟨_, hholdsA⟩, ⟨_, hholdsB⟩, ?_, ?_, ?_⟩
  · intro g hg
    simp only [List.mem_cons, List.not_mem_nil, or_false] at hg
    rcases hg with rfl | rfl
    · exact ⟨hundisturbedA, hundisturbedB.of_alike hlike.symm⟩
    · exact ⟨hundisturbedA.of_alike hlike, hundisturbedB⟩
  · intro m hm
    rw [hbecomesA.view]
    exact hn.kept hplain hw htemporary hseta _ hm
  · intro m hm
    rw [hbecomesB.view]
    exact hn.symm.kept hplain hw htemporary hsetb _ hm

section Sample

def uniform (d : HexDigit) : Uuid := ⟨List.replicate 32 d, List.length_replicate⟩

def firstText : String := "00000000-0000-0000-0000-000000000000"

def secondText : String := "11111111-1111-1111-1111-111111111111"

def neighbour (d : HexDigit) (project system : String) : Request where
  config := { sampleConfig with id := uniform d, vcRedist := true }
  appDirectory := "app"
  workDirectory := some project
  systemDirectory := some system

def projectDirectories (n : String) : List Location :=
  [[n], [n, "app"], [n, "build"], [n, "build", "windows"], [n, "build", "windows", "x64"],
    [n, "build", "windows", "x64", "installer"], [n, "build", "windows", "x64", "installer", "Release"]]

def stagingDirectories (id : String) : List Location :=
  [["tmp", "inno_bundle", id], ["tmp", "inno_bundle", id, "vcruntime"]]

def leftover : Location := ["tmp", "inno_bundle", firstText, "vcruntime", "x"]

def neighbourPlaces (id n system : String) : Places where
  app := Path.text [n, "app"]
  output := Path.text [n, "build", "windows", "x64", "installer", "Release"]
  staging := Path.text ["tmp", "inno_bundle", id]
  system := system

def neighbourDirectories : List Location :=
  projectDirectories "p" ++ projectDirectories "q" ++ [["tmp"], ["tmp", "inno_bundle"]] ++
    stagingDirectories firstText ++ stagingDirectories secondText ++ [leftover, ["y"]]

def neighbourTree : FileSystem :=
  (ofDirectories neighbourDirectories).insert ["y", "msvcp140.dll"] (.file .empty false)

def neighbourHost : Host := { sampleHost [] with files := neighbourTree }

theorem plain_neighbourTree : Plain neighbourTree := by
  have hplain : Plain (ofDirectories neighbourDirectories) :=
    plain_ofDirectories (by decide) (by decide)
  have hfree : (ofDirectories neighbourDirectories).get? ["y", "msvcp140.dll"] = none := rfl
  exact hplain.insert (l := ["y"]) rfl (by decide) (.inr (by simp [hfree])) (by simp)

theorem currentDirectory_neighbourHost : neighbourHost.currentDirectory = .ok [] :=
  Host.Standing.currentDirectory ⟨rfl, plain_neighbourTree, rfl⟩

def staleDetour : String :=
  "/tmp/inno_bundle/00000000-0000-0000-0000-000000000000/vcruntime/x/../../../../../y"

theorem neighbours_sample : ∀ system ∈ ["/y", staleDetour],
    Neighbours (neighbour 0 "/p" system) (neighbour 1 "/q" system) neighbourHost [] := by
  intro system hsystem
  constructor
  all_goals
    revert system
    decide

theorem get?_neighbourTree (l : Location) : neighbourTree.get? l =
    if l = ["y", "msvcp140.dll"] then some (.file .empty false)
    else if l = [] ∨ l ∈ neighbourDirectories then some .directory else none := by
  rw [neighbourTree, get?_insert _ _ (by simp), get?_ofDirectories]

theorem places_neighbour : ∀ system ∈ ["/y", staleDetour],
    (neighbour 0 "/p" system).placesFrom neighbourHost [] = neighbourPlaces firstText "p" system ∧
      (neighbour 1 "/q" system).placesFrom neighbourHost [] = neighbourPlaces secondText "q" system := by
  decide

theorem furnished_neighbour {system : String} (hsystem : system ∈ ["/y", staleDetour]) :
    ∀ r ∈ [neighbour 0 "/p" system, neighbour 1 "/q" system],
      r.Furnished (r.placesFrom neighbourHost []) [] neighbourHost := by
  have hd : ∀ l ∈ neighbourDirectories, neighbourHost.files.get? l = some .directory := by
    have hne : ∀ l ∈ neighbourDirectories, l ≠ ["y", "msvcp140.dll"] := by decide
    intro l hl
    rw [neighbourHost, get?_neighbourTree, if_neg (hne l hl), if_pos (.inr hl)]
  have hfree {l : Location} (hl : l ≠ ["y", "msvcp140.dll"] ∧ ¬ (l = [] ∨ l ∈ neighbourDirectories)) :
      neighbourHost.files.get? l = none := by
    rw [neighbourHost, get?_neighbourTree, if_neg hl.1, if_neg hl.2]
  simp only [List.forall_mem_cons, List.not_mem_nil, false_implies, implies_true, and_true,
    places_neighbour system hsystem]
  constructor
  · refine furnished_of_short (by decide) (by decide) (by decide) (fun l hl => hd l ?_)
      (fun l hl => hfree ?_)
    all_goals
      revert l
      decide
  · refine furnished_of_short (by decide) (by decide) (by decide) (fun l hl => hd l ?_)
      (fun l hl => hfree ?_)
    all_goals
      revert l
      decide

theorem builds_commute_sample :
    let a := neighbour 0 "/p" "/y"
    let b := neighbour 1 "/q" "/y"
    ∃ pathA pathB hA hAB hB hBA, perform a.build neighbourHost = (.ok pathA, hA) ∧
      perform b.build hA = (.ok pathB, hAB) ∧ perform b.build neighbourHost = (.ok pathB, hB) ∧
      perform a.build hB = (.ok pathA, hBA) ∧ hAB.Alike hBA ∧
      a.Undisturbed neighbourHost [] pathA hA hAB ∧ b.Undisturbed neighbourHost [] pathB hB hAB := by
  intro a b
  have hplain : Plain neighbourHost.files := plain_neighbourTree
  have hw := currentDirectory_neighbourHost
  have hn : Neighbours a b neighbourHost [] := neighbours_sample "/y" (by simp)
  have htemporary : Straight neighbourHost.temporaryDirectory := by decide
  have hsystem : ∀ r ∈ [a, b], r.config.vcRedist = true → Straight (r.systemPath neighbourHost) := by
    decide
  have hset {r : Request} (hr : r ∈ [a, b]) : r.Setting (r.placesFrom neighbourHost []) [] := by
    refine hn.setting hplain hw htemporary hr (hsystem r hr) fun _ => ?_
    exact libraryDirectory_not_above_root (hn.premises hplain hw htemporary hr).staging
  have hfurnished {r : Request} (hr : r ∈ [a, b]) :
      r.Furnished (r.placesFrom neighbourHost []) [] neighbourHost :=
    furnished_neighbour (by simp) r hr
  obtain ⟨hA, hAB, ha, hab⟩ := hn.exists_builds hplain hw htemporary (hset (by simp))
    (hset (by simp)) (hfurnished (by simp)) (hfurnished (by simp))
  obtain ⟨hB, hBA, hb, hba⟩ := hn.symm.exists_builds hplain hw htemporary (hset (by simp))
    (hset (by simp)) (hfurnished (by simp)) (hfurnished (by simp))
  obtain ⟨_, _, hlike, _, _, hundisturbed, _⟩ :=
    builds_commute hplain hw hn htemporary hsystem ha hab hb hba
  exact ⟨_, _, hA, hAB, hB, hBA, ha, hab, hb, hba, hlike, hundisturbed hAB (by simp)⟩

theorem staleDetour_through : ∀ name ∈ Layout.runtimeLibraries,
    isAbsolute (join staleDetour name) = true ∧ Valid (join staleDetour name) ∧
      pieces (join staleDetour name) =
        "" :: (leftover ++ (List.replicate leftover.length ".." ++ ["y", name])) := by
  decide

theorem isFile_staleDetour (hst : g.Standing [])
    (hd : g.files.get? leftover.dropLast = some .directory) (hx : g.files.get? leftover = none) :
    ∀ name ∈ Layout.runtimeLibraries, g.isFile (join staleDetour name) = false := by
  intro name hname
  obtain ⟨habs, hv, hpieces⟩ := staleDetour_through name hname
  have hresolve : g.files.resolve .root .follow (join staleDetour name) = .error .notFound :=
    resolve_of_missing (l := leftover.dropLast) (n := "x") hst.ground.toIsTree (by decide) hd habs hv
      hpieces (by decide) (by simp) hx _ (by simp)
  rw [Host.isFile, isFile_absolute habs, FileSystem.isFile, find?, hresolve]

structure Littered (g : Host) : Prop where
  standing : g.Standing []
  through : g.files.get? leftover = some .directory
  library : g.files.get? ["y", "msvcp140.dll"] = some (.file .empty false)
  free : ∀ n, n ≠ "msvcp140.dll" → g.files.get? ["y", n] = none

theorem Littered.of_get? (hg : Littered g) (hst : g'.Standing [])
    (hthrough : g'.files.get? leftover = g.files.get? leftover)
    (hget : ∀ n, g'.files.get? ["y", n] = g.files.get? ["y", n]) : Littered g' where
  standing := hst
  through := hthrough.trans hg.through
  library := (hget _).trans hg.library
  free := fun n hn => (hget n).trans (hg.free n hn)

theorem Littered.resolve (hg : Littered g) {name : String} (hname : name ∈ Layout.runtimeLibraries) :
    g.files.resolve (.ofPlace []) .follow (join staleDetour name) =
      .ok ((g.files.get? ["y", name]).elim (.free ["y", name]) (.found ["y", name])) := by
  obtain ⟨habs, hv, hpieces⟩ := staleDetour_through name hname
  have hplain := hg.standing.ground.toPlain
  have hn := isName_libraries name hname
  have hlead : leads name = true := leads_iff.mpr ⟨hn.1, hn.2.1⟩
  have hnames : ["y", name].filter leads = [] ++ ["y"] ++ [name] := by
    rw [List.filter_cons_of_pos (by decide), List.filter_cons_of_pos hlead]
    rfl
  have hup : ".." ∉ ["y", name].filter leads := by
    rw [hnames]
    simp [hn.2.2.1.symm]
  have hy : g.files.get? ([] ++ (["y", name].filter leads).dropLast) = some .directory := by
    rw [hnames, List.dropLast_concat]
    exact hplain.parent (n := "msvcp140.dll") (by simp [hg.library])
  have hend : EndsInName ["y", name] := ⟨["y"], name, rfl, hlead⟩
  rw [resolve_of_ups (l := []) (t := leftover) hplain (by decide) hg.through habs hv hpieces hup hend hy
    (.ofPlace []) (by simp), hnames]
  rfl

theorem Littered.isFile (hg : Littered g) {name : String} (hname : name ∈ Layout.runtimeLibraries)
    (hne : name ≠ "msvcp140.dll") : g.isFile (join staleDetour name) = false := by
  rw [Host.isFile, hg.standing.workingDirectory, FileSystem.isFile, find?, hg.resolve hname,
    hg.free name hne]
  rfl

theorem Littered.stageEach (hg : Littered g) {directory : String} (hs : Straight directory)
    (hthrough : Apart (locate [] directory) leftover) (hy : Apart (locate [] directory) ["y"])
    (hstorable : Storable (join directory "msvcp140.dll"))
    (hd : g.files.get? (locate [] directory) = some .directory)
    (hfree : g.files.get? (locate [] directory ++ ["msvcp140.dll"]) = none) :
    ∃ staged g', perform (Layout.runtimeLibraries.mapM (stageLibrary staleDetour directory)) g =
        (.ok staged, g') ∧
      g.Becomes [] (View.put g.files.get? (locate [] directory ++ ["msvcp140.dll"])
        (.file .empty false)) g' := by
  have hn : IsName "msvcp140.dll" := by simp [IsName]
  have hplace := locate_entry hs hn []
  have hfind : g.files.find? (.ofPlace []) (join staleDetour "msvcp140.dll") =
      .ok (some ["y", "msvcp140.dll"], .file .empty false) := by
    rw [find?, hg.resolve (by simp [Layout.runtimeLibraries]), hg.library]
    rfl
  have hfile : g.isFile (join staleDetour "msvcp140.dll") = true := by
    rw [Host.isFile, hg.standing.workingDirectory, FileSystem.isFile, hfind]
  have hentry (n : String) : Apart (locate [] directory ++ ["msvcp140.dll"]) (["y"] ++ [n]) :=
    (hy.append_left _).append_right _
  obtain ⟨g₁, hcopy, hbecomes⟩ := copyFile_of_find hg.standing (straight_entry hs hn)
    (endsInName_entry directory hn) hfind hg.library (hplace ▸ (hentry _).symm.ne) hstorable
    (by rw [hplace, List.dropLast_concat, hd]) (by simp [hplace, hfree])
  rw [hplace] at hbecomes
  have hfirst : ∃ lines, perform (stageLibrary staleDetour directory "msvcp140.dll") g =
      (.ok [join directory "msvcp140.dll"], { g₁ with log := lines }) := by
    rw [stageLibrary, perform_get_bind, if_pos hfile, perform_bind_of_ok hcopy]
    exact ⟨_, rfl⟩
  obtain ⟨lines, hfirst⟩ := hfirst
  have hwhole := hbecomes.log lines
  have hg₁ : Littered { g₁ with log := lines } := by
    refine hg.of_get? hwhole.standing ?_ fun n => ?_
    · rw [hwhole.view, View.put_of_apart (hthrough.append_left _)]
    · rw [hwhole.view]
      exact View.put_of_apart (hentry n)
  have hothers : ∀ name ∈ Layout.runtimeLibraries.tail, name ≠ "msvcp140.dll" := by decide
  obtain ⟨lines', hrest⟩ := stageEach_of_absent directory fun name hname =>
    hg₁.isFile (List.mem_of_mem_tail hname) (hothers name hname)
  have heach : perform (Layout.runtimeLibraries.mapM (stageLibrary staleDetour directory)) g =
      (.ok ([join directory "msvcp140.dll"] :: Layout.runtimeLibraries.tail.map fun _ => []),
        { g₁ with log := lines' }) := by
    rw [show Layout.runtimeLibraries = "msvcp140.dll" :: Layout.runtimeLibraries.tail from rfl,
      List.mapM_cons, perform_bind_of_ok hfirst, perform_bind_of_ok hrest]
    rfl
  exact ⟨_, _, heach, hbecomes.log lines'⟩

theorem exists_build_of_cleared {p : Places} (hf : r.Finds g p []) (hpremises : Premises p [])
    (hfurnished : r.Furnished p [] g) (hv : r.config.vcRedist = true) (hp : p.system = staleDetour)
    (hd : r.emptied p [] g leftover.dropLast = some .directory)
    (hx : r.emptied p [] g leftover = none) :
    ∃ g' e, perform r.build g = (.ok (scriptPath p), g') ∧
      g.Becomes [] (View.put (r.emptied p [] g) (locate [] (scriptPath p)) e) g' := by
  apply hfurnished.exists_build_of_stageEach hf hpremises hv
    (libraryDirectory_not_above_root hpremises.staging)
  · intro k hk
    rw [← hk.view] at hd hx
    obtain ⟨lines, heach⟩ := stageEach_of_absent (Layout.libraryDirectory p.staging)
      (isFile_staleDetour hk.standing hd hx)
    refine ⟨_, _, hp ▸ heach, ?_⟩
    rw [← hk.view]
    exact hk.standing.becomes_self.log lines
  · exact fun t => emptied_of_apart hpremises (hpremises.staging_output.append_right t)

def stagedLibrary (p : Places) : Location :=
  locate [] (Layout.libraryDirectory p.staging) ++ ["msvcp140.dll"]

theorem put_stagedLibrary_of_apart {p : Places} (hpremises : Premises p []) {m : Location} {e : Entry}
    (hm : Apart (locate [] p.staging) m) :
    View.put (r.emptied p [] g) (stagedLibrary p) e m = g.files.get? m := by
  have hlibrary : Apart (stagedLibrary p) m := (hpremises.apart_libraries hm).append_left _
  rw [View.put_of_apart hlibrary, emptied_of_apart hpremises hm]

theorem Littered.exists_build {p : Places} (hg : Littered g) (hf : r.Finds g p [])
    (hpremises : Premises p []) (hfurnished : r.Furnished p [] g) (hv : r.config.vcRedist = true)
    (hp : p.system = staleDetour) (hthrough : Apart (locate [] p.staging) leftover)
    (hy : Apart (locate [] p.staging) ["y"]) :
    ∃ g' e, perform r.build g = (.ok (scriptPath p), g') ∧
      g.Becomes [] (View.put (View.put (r.emptied p [] g) (stagedLibrary p) (.file .empty false))
        (locate [] (scriptPath p)) e) g' := by
  have hs := straight_libraryDirectory hpremises.staging
  apply hfurnished.exists_build_of_stageEach hf hpremises hv
    (libraryDirectory_not_above_root hpremises.staging)
  · intro k hk
    have hkept {m : Location} (hm : Apart (locate [] p.staging) m) :
        k.files.get? m = g.files.get? m := by
      rw [hk.view, emptied_of_apart hpremises hm]
    have hlittered : Littered k :=
      hg.of_get? hk.standing (hkept hthrough) fun n => hkept (hy.append_right [n])
    obtain ⟨staged, k', heach, hbecomes⟩ := hlittered.stageEach hs
      (hpremises.apart_libraries hthrough) (hpremises.apart_libraries hy)
      ((hfurnished.libraries hv).2.2 _ (by simp [Layout.runtimeLibraries]))
      (by rw [hk.view, emptied_self])
      (by rw [hk.view, emptied_below r g (List.prefix_append _ _) (by simp)])
    rw [hk.view] at hbecomes
    exact ⟨staged, k', hp ▸ heach, hbecomes⟩
  · exact fun t =>
      put_stagedLibrary_of_apart hpremises (hpremises.staging_output.append_right t)

theorem littered_neighbourHost : Littered neighbourHost := by
  refine ⟨⟨rfl, plain_neighbourTree, rfl⟩, rfl, rfl, fun n hne => ?_⟩
  have hy : ∀ l ∈ neighbourDirectories, l.head? = some "y" → l = ["y"] := by decide
  have hnot : ["y", n] ∉ neighbourDirectories := fun hmem => by simpa using hy _ hmem rfl
  rw [neighbourHost, get?_neighbourTree, if_neg (by simp [hne]), if_neg (by simp [hnot])]

theorem emptied_leftover (g : Host) :
    let a := neighbour 0 "/p" staleDetour
    a.emptied (a.placesFrom neighbourHost []) [] g leftover.dropLast = some .directory ∧
      a.emptied (a.placesFrom neighbourHost []) [] g leftover = none := by
  intro a
  have hplace : locate [] (Layout.libraryDirectory (a.placesFrom neighbourHost []).staging) =
      leftover.dropLast := by
    rw [(places_neighbour staleDetour (by simp)).1, neighbourPlaces,
      locate_libraryDirectory (straight_text (by decide)), locate_text (by decide)]
    rfl
  rw [← hplace]
  exact ⟨emptied_self _ _ _ _,
    emptied_below _ _ (hplace ▸ List.dropLast_prefix _) (hplace ▸ by decide)⟩

theorem apart_leftover : ∀ l ∈ [leftover, leftover.dropLast, ["y"]],
    Apart (locate [] ((neighbour 1 "/q" staleDetour).placesFrom neighbourHost []).staging) l ∧
      Apart (locate [] ((neighbour 0 "/p" staleDetour).placesFrom neighbourHost []).output) l := by
  rw [(places_neighbour staleDetour (by simp)).1, (places_neighbour staleDetour (by simp)).2,
    neighbourPlaces, neighbourPlaces, locate_text (by decide), locate_text (by decide)]
  decide

theorem owns_stagedLibrary (hpremises : Premises (r.placesFrom h []) [])
    (hproject : ∀ n ∈ r.projectFrom [], IsName n) :
    r.Owns h [] (stagedLibrary (r.placesFrom h [])) ∧
      Apart (locate [] (scriptPath (r.placesFrom h []))) (stagedLibrary (r.placesFrom h [])) := by
  have hplace : stagedLibrary (r.placesFrom h []) =
      locate [] (r.placesFrom h []).staging ++ ["vcruntime", "msvcp140.dll"] := by
    rw [stagedLibrary, locate_libraryDirectory hpremises.staging, List.append_assoc]
    rfl
  rw [hplace]
  exact ⟨owns_of_below hproject (by simp) (List.prefix_append _ _),
    hpremises.apart_script (hpremises.staging_output.symm.append_right _)⟩

/-- The paths of the temporary directory and of the system may not go up. Through a directory that the
build of one application erases, the other one finds a library that it does not find afterwards. -/
theorem builds_not_commute :
    let a := neighbour 0 "/p" staleDetour
    let b := neighbour 1 "/q" staleDetour
    let h := neighbourHost
    Plain h.files ∧ h.currentDirectory = .ok [] ∧ Neighbours a b h [] ∧
      Straight h.temporaryDirectory ∧
      ∃ pathA pathB hA hAB hB hBA, perform a.build h = (.ok pathA, hA) ∧
        perform b.build hA = (.ok pathB, hAB) ∧ perform b.build h = (.ok pathB, hB) ∧
        perform a.build hB = (.ok pathA, hBA) ∧ ¬ hAB.Alike hBA ∧
        ¬ b.Undisturbed h [] pathB hB hAB := by
  intro a b h
  have hplain : Plain h.files := plain_neighbourTree
  have hw : h.currentDirectory = .ok [] := currentDirectory_neighbourHost
  have hn : Neighbours a b h [] := neighbours_sample staleDetour (by simp)
  have htemporary : Straight h.temporaryDirectory := by decide
  refine ⟨hplain, hw, hn, htemporary, ?_⟩
  have hfa := finds_placesFrom hplain hw a
  have hfb := finds_placesFrom hplain hw b
  have hpa := hn.premises hplain hw htemporary (r := a) (by simp)
  have hpb := hn.premises hplain hw htemporary (r := b) (by simp)
  have hfurnished {r : Request} (hr : r ∈ [a, b]) : r.Furnished (r.placesFrom h []) [] h :=
    furnished_neighbour (by simp) r hr
  obtain ⟨hemptied, hremoved⟩ := emptied_leftover h
  obtain ⟨hA, eA, ha, hbecomesA⟩ :=
    exists_build_of_cleared hfa hpa (hfurnished (by simp)) rfl rfl hemptied hremoved
  obtain ⟨hB, eB, hb, hbecomesB⟩ := littered_neighbourHost.exists_build hfb hpb (hfurnished (by simp))
    rfl rfl (apart_leftover _ (by simp)).1 (apart_leftover _ (by simp)).1
  have hkeptA : ∀ m, b.Owns h [] m → hA.files.get? m = h.files.get? m := by
    intro m hm
    rw [hbecomesA.view]
    exact hn.kept_of_put hplain hw htemporary (fun _ => emptied_of_apart hpa) hm
  have hkeptB : ∀ m, a.Owns h [] m → hB.files.get? m = h.files.get? m := by
    intro m hm
    rw [hbecomesB.view]
    exact hn.symm.kept_of_put hplain hw htemporary (fun _ => put_stagedLibrary_of_apart hpb) hm
  -- What the first build removed is not there for the second one either.
  have hcleared : ∀ l ∈ [leftover, leftover.dropLast],
      b.emptied (b.placesFrom h []) [] hA l = a.emptied (a.placesFrom h []) [] h l := by
    intro l hl
    obtain ⟨hstaging, houtput⟩ := apart_leftover l (List.mem_append_left [["y"]] hl)
    rw [emptied_of_apart hpb hstaging, hbecomesA.view, View.put_of_apart (hpa.apart_script houtput)]
  obtain ⟨hAB, eAB, hab, hbecomesAB⟩ := exists_build_of_cleared (hfb.of_becomes hbecomesA) hpb
    (hn.furnished hplain hw htemporary (by simp) (hfurnished (by simp)) hkeptA) rfl rfl
    ((hcleared _ (by simp)).trans hemptied) ((hcleared _ (by simp)).trans hremoved)
  obtain ⟨hBA, eBA, hba, hbecomesBA⟩ := exists_build_of_cleared (hfa.of_becomes hbecomesB) hpa
    (hn.furnished hplain hw htemporary (by simp) (hfurnished (by simp)) hkeptB) rfl rfl
    (emptied_leftover hB).1 (emptied_leftover hB).2
  let library := stagedLibrary (b.placesFrom h [])
  obtain ⟨hown, hscript⟩ : b.Owns h [] library ∧
      Apart (locate [] (scriptPath (b.placesFrom h []))) library :=
    owns_stagedLibrary hpb hfb.isName_project
  have hmissing : hAB.files.get? library = none := by
    rw [hbecomesAB.view, View.put_of_apart hscript]
    exact emptied_below _ _ (List.prefix_append _ _) (by simp [library, stagedLibrary])
  have hfound : hB.files.get? library = some (.file .empty false) := by
    rw [hbecomesB.view, View.put_of_apart hscript, View.put_self]
  have hkept : hBA.files.get? library = hB.files.get? library := by
    rw [hbecomesBA.view]
    exact hn.kept_of_put hplain hw htemporary (fun _ => emptied_of_apart hpa) hown
  refine ⟨_, _, hA, hAB, hB, hBA, ha, hab, hb, hba, fun hlike => ?_, fun hu => ?_⟩
  · have hsame := hlike.files library
    simp [hmissing, hkept, hfound] at hsame
  · have hsame := hu.owned library hown
    simp [hmissing, hfound] at hsame

end Sample

end FlutterInstaller.Script.Request
