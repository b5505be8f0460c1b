import FlutterInstaller.Proofs.Host.Footprint
import FlutterInstaller.Proofs.Script.Course
import FlutterInstaller.Proofs.Script.References

/-!
What a run has changed when it fails. Before the script is written a run works for the staging directory
alone: it makes the directories on the way there, writes the icon and makes the libraries afresh. So a
run that fails, at whatever point, leaves an earlier script as it was.
-/
namespace FlutterInstaller.Script.Request

open FileSystem FlutterInstaller.Path FlutterInstaller.Action Host

def prepare (r : Request) : Action (Places × String) := do
  let p ← r.places
  Action.info ("Generating installer script for " ++ r.config.displayName ++ " " ++ r.config.version)
  return (p, ← r.renderAt p)

def writeScript (prepared : Places × String) : Action String := do
  Action.writeFile (scriptPath prepared.1) (scriptContent prepared.2)
  Action.info ("✓ Created installer script: " ++ scriptPath prepared.1)
  return scriptPath prepared.1

theorem build_eq_prepare (r : Request) : r.build = r.prepare >>= writeScript := by
  simp [build, prepare, writeScript, scriptPath, scriptContent]

/-- A place of what is staged: the icon, or all that is in the directory of the libraries. -/
def StagedAt (w : Location) (staging : String) (m : Location) : Prop :=
  m = locate w (Layout.iconPath staging) ∨ locate w (Layout.libraryDirectory staging) <+: m

section Affects

variable (r : Request) (w : Location) (p : Places) (staging : String)

abbrev Stages {α : Type} (w : Location) (staging : String) (m : Action α) : Prop :=
  Advances (Host.Affects w (OnTheWay w staging) (StagedAt w staging)) m

theorem onTheWay_libraryDirectory {m : Location}
    (hm : OnTheWay w (Layout.libraryDirectory staging) m) :
    OnTheWay w staging m ∨ StagedAt w staging m := by
  refine (onTheWay_join_name isName_libraryDirectory hm).imp_right fun he => .inr ?_
  have hplace : locate w (Layout.libraryDirectory staging) = m := by
    rw [he, Layout.libraryDirectory, locate_join_name isName_libraryDirectory]
  exact ⟨[], by rw [List.append_nil, hplace]⟩

theorem writeIcon_stages (content : ByteArray) :
    Stages w staging (writeFile (Layout.iconPath staging) content) :=
  writeFile_affects isName_icon (fun _ => .inl) (.inl rfl) _

theorem copyLibrary_stages {n : String} (hn : IsName n) (source : String) :
    Stages w staging (copyFile source (join (Layout.libraryDirectory staging) n)) := by
  have htouched : StagedAt w staging (locate w (join (Layout.libraryDirectory staging) n)) := by
    rw [locate_join_name hn]
    exact .inr (List.prefix_append _ _)
  exact copyFile_affects hn (fun _ => onTheWay_libraryDirectory w staging) htouched _

theorem renderAt_stages : Stages w p.staging (r.renderAt p) :=
  advances_renderAt (log_affects · ·) (writeIcon_stages w p.staging) fun _ =>
    advances_stageLibraries (log_affects · ·) _
      (makeDirectories_affects (trimmed_libraryDirectory p.staging)
        (fun _ => onTheWay_libraryDirectory w p.staging) (fun _ => .inr) true)
      fun _ hn => copyLibrary_stages w p.staging (isName_libraries _ hn)

end Affects

/-- The files after a run that works for its staging directory alone: outside there may be new
directories on the way to it, and inside nothing is changed but what is staged. -/
structure Spares (w : Location) (p : Places) (fs gs : FileSystem) : Prop where
  outside : ∀ m, ¬ locate w p.staging <+: m → gs.get? m = fs.get? m ∨
    OnTheWay w p.staging m ∧ fs.get? m = none ∧ gs.get? m = some .directory
  inside : ∀ m, locate w p.staging <+: m → gs.get? m = fs.get? m ∨
    (OnTheWay w p.staging m ∧ fs.get? m = none ∧ gs.get? m = some .directory) ∨
    StagedAt w p.staging m

section Spares

variable {r : Request} {w : Location} {p : Places} {fs gs : FileSystem} {h g : Host}

theorem StagedAt.isPrefix {staging : String} {m : Location} (hm : StagedAt w staging m) :
    locate w staging <+: m := by
  rcases hm with rfl | hm
  · rw [Layout.iconPath, locate_join_name isName_icon]
    exact List.prefix_append _ _
  · rw [Layout.libraryDirectory, locate_join_name isName_libraryDirectory] at hm
    exact (List.prefix_append _ _).trans hm

theorem spares_of_affected
    (ha : FileSystem.Affected (OnTheWay w p.staging) (StagedAt w p.staging) fs gs) :
    Spares w p fs gs where
  outside := fun m hm => (ha.changed m).imp_right fun hc =>
    hc.resolve_right fun hs => hm hs.isPrefix
  inside := fun m _ => ha.changed m

theorem spares_renderAt (hplain : Plain h.files) (hw : h.currentDirectory = .ok w) :
    Spares w p h.files (perform (r.renderAt p) h).2.files := by
  have hs : h.workingDirectory.StandsFor w := by
    rw [(currentDirectory_eq_ok hw).1]
    exact Standpoint.standsFor_ofPlace w
  exact spares_of_affected (renderAt_stages r w p h hs hplain.linkFree).files

theorem Spares.output (hs : Spares w p fs gs)
    (hapart : Apart (locate w p.staging) (locate w p.output)) :
    (∀ e, fs.get? (locate w (scriptPath p)) = some e →
        gs.get? (locate w (scriptPath p)) = some e) ∧
      (fs.get? (locate w p.output) = none → gs.get? (locate w p.output) = none ∨
        OnTheWay w p.staging (locate w p.output) ∧ ¬ Straight p.staging) := by
  have hscript : ¬ locate w p.staging <+: locate w (scriptPath p) := by
    rw [scriptPath, locate_join_name isName_scriptName]
    exact (hapart.append_right _).1
  constructor
  · intro e he
    rcases hs.outside _ hscript with hkept | ⟨_, hnone, _⟩
    · rw [hkept, he]
    · simp [he] at hnone
  · intro hnone
    rcases hs.outside _ hapart.1 with hkept | ⟨hway, _, _⟩
    · exact .inl (hkept.trans hnone)
    · exact .inr ⟨hway, fun hstraight => hapart.2 (hway.isPrefix hstraight)⟩

def announced (r : Request) (h : Host) : Host :=
  { h with log := h.log ++ [⟨.info, "Generating installer script for " ++ r.config.displayName ++ " " ++
      r.config.version⟩] }

theorem perform_prepare (hw : h.currentDirectory = .ok w) :
    perform r.prepare h = perform ((r.placesFrom h w, ·) <$> r.renderAt (r.placesFrom h w))
      (r.announced h) := by
  have hp : perform r.places h = (.ok (r.placesFrom h w), h) :=
    perform_places_eq_ok_iff.mpr ⟨rfl, w, hw, rfl⟩
  rw [prepare, perform_bind_of_ok hp, Action.info, Action.log, perform_modify_bind,
    map_eq_pure_bind]
  rfl

theorem perform_render (hw : h.currentDirectory = .ok w) :
    perform r.render h = perform (r.renderAt (r.placesFrom h w)) h := by
  have hp : perform r.places h = (.ok (r.placesFrom h w), h) :=
    perform_places_eq_ok_iff.mpr ⟨rfl, w, hw, rfl⟩
  rw [render, perform_bind_of_ok hp]

theorem perform_project_eq_error {e : OsError} (hw : h.currentDirectory = .error e) :
    ∃ action path, (r.workDirectory = some path ∨ r.workDirectory = none ∧ path = ".") ∧
      perform r.project h = (.error (.file action path e), h) := by
  cases hdir : r.workDirectory with
  | some dir =>
    have hproject : perform r.project h = (.error (.file .resolvingPath dir e), h) := by
      rw [project, hdir]
      dsimp only
      rw [Action.locate, perform_get_bind, hw]
      rfl
    exact ⟨.resolvingPath, dir, .inl rfl, hproject⟩
  | none =>
    have hproject : perform r.project h = (.error (.file .readingWorkingDirectory "." e), h) := by
      rw [project, hdir]
      dsimp only
      rw [perform_get_bind, hw]
      rfl
    exact ⟨.readingWorkingDirectory, ".", .inr ⟨rfl, rfl⟩, hproject⟩

theorem perform_places_eq_error {e : OsError} (hw : h.currentDirectory = .error e) :
    ∃ action path, (r.workDirectory = some path ∨ r.workDirectory = none ∧ path = ".") ∧
      perform r.places h = (.error (.file action path e), h) := by
  obtain ⟨action, path, hpath, hproject⟩ := perform_project_eq_error (r := r) hw
  exact ⟨action, path, hpath, perform_bind_of_error hproject⟩

theorem perform_renderAt_of_not_directory (happ : h.isDirectory p.app = false) :
    perform (r.renderAt p) h = (.error (.file .readingAppDirectory p.app .noAppDirectory), h) := by
  rw [renderAt, perform_get_bind, if_neg (by simp [happ])]
  rfl

theorem straight_staging (htree : IsTree h.files) (hw : h.currentDirectory = .ok w)
    (hgiven : r.stagingDirectory ≠ none) : Straight (r.placesFrom h w).staging := by
  obtain ⟨dir, hdir⟩ := Option.ne_none_iff_exists'.mp hgiven
  rw [placesFrom, hdir]
  exact straight_text (isName_locate (isName_currentDirectory htree hw) dir)

end Spares

/-- What a run changes in files without links when it only renders, or fails before the script is
written. -/
theorem failure_spares_script (r : Request) {h : Host} (hplain : Plain h.files) :
    r.build = r.prepare >>= writeScript ∧
    (∀ e, h.currentDirectory = .error e → ∃ action path,
      (r.workDirectory = some path ∨ r.workDirectory = none ∧ path = ".") ∧
        perform r.render h = (.error (.file action path e), h) ∧
        perform r.build h = (.error (.file action path e), h)) ∧
    ∀ w, h.currentDirectory = .ok w →
      let p := r.placesFrom h w
      (r.stagingDirectory ≠ none → Straight p.staging) ∧
      (Straight p.staging → ∀ m, OnTheWay w p.staging m → m <+: locate w p.staging) ∧
      (h.isDirectory p.app = false →
        let e : Error := .file .readingAppDirectory p.app .noAppDirectory
        perform r.render h = (.error e, h) ∧ perform r.build h = (.error e, r.announced h)) ∧
      Spares w p h.files (perform r.render h).2.files ∧
      ∀ e g, perform r.prepare h = (.error e, g) →
        perform r.build h = (.error e, g) ∧ Spares w p h.files g.files ∧
        (Apart (locate w p.staging) (locate w p.output) →
          (∀ entry, h.files.get? (locate w (scriptPath p)) = some entry →
            g.files.get? (locate w (scriptPath p)) = some entry) ∧
          (h.files.get? (locate w p.output) = none → g.files.get? (locate w p.output) = none ∨
            OnTheWay w p.staging (locate w p.output) ∧ ¬ Straight p.staging)) := by
  refine ⟨build_eq_prepare r, fun e hw => ?_, fun w hw => ?_⟩
  · obtain ⟨action, path, hpath, hp⟩ := perform_places_eq_error (r := r) hw
    exact ⟨action, path, hpath, perform_bind_of_error hp, perform_bind_of_error hp⟩
  · intro p
    refine ⟨straight_staging hplain.toIsTree hw, fun hs m hm => hm.isPrefix hs, fun happ => ?_, ?_, ?_⟩
    · have hfails := perform_renderAt_of_not_directory (r := r) (p := p) happ
      have hbuild : perform (r.renderAt p) (r.announced h) = (.error _, r.announced h) :=
        perform_renderAt_of_not_directory happ
      refine ⟨(perform_render hw).trans hfails, ?_⟩
      rw [build_eq_prepare]
      refine perform_bind_of_error ?_
      rw [perform_prepare hw, perform_map, hbuild]
      rfl
    · rw [perform_render hw]
      exact spares_renderAt hplain hw
    · intro e g hg
      have hfiles : g = (perform (r.renderAt p) (r.announced h)).2 := by
        rw [perform_prepare hw, perform_map] at hg
        exact (congrArg Prod.snd hg).symm
      have hspares : Spares w p h.files g.files := by
        rw [hfiles]
        exact spares_renderAt (h := r.announced h) hplain hw
      refine ⟨?_, hspares, hspares.output⟩
      rw [build_eq_prepare]
      exact perform_bind_of_error hg

section Samples

variable {r : Request} {w : Location} {h : Host} {e : OsError} {gs : FileSystem}

theorem prepare_of_makeDirectories (hw : h.currentDirectory = .ok w) {q : String}
    (happ : h.isDirectory (r.placesFrom h w).app = true) (hicon : r.config.icon = .standard)
    (hq : parent? (Layout.iconPath (r.placesFrom h w).staging) = some q)
    (hmake : perform (makeDirectories h.workingDirectory q) h.files = (.error e, gs)) :
    perform r.prepare h =
      (.error (.file .creatingDirectory q e), (r.announced h).withFiles gs) := by
  have hparent : perform (makeParent (Layout.iconPath (r.placesFrom h w).staging)) (r.announced h) =
      (.error (.file .creatingDirectory q e), (r.announced h).withFiles gs) := by
    rw [makeParent, hq]
    dsimp only
    rw [perform_edit, show (r.announced h).workingDirectory = h.workingDirectory from rfl,
      show (r.announced h).files = h.files from rfl, hmake]
    rfl
  have hstage : perform (r.stageIcon (r.placesFrom h w).staging) (r.announced h) =
      (.error (.file .creatingDirectory q e), (r.announced h).withFiles gs) := by
    rw [stageIcon, hicon]
    exact perform_bind_of_error (perform_bind_of_error hparent)
  have happ' : (r.announced h).isDirectory (r.placesFrom h w).app = true := happ
  rw [perform_prepare hw, perform_map, renderAt, perform_get_bind, if_pos happ',
    perform_bind_of_error hstage]
  rfl

def winding : String := "/p/build/windows/x64/installer/Release/.."

def windingRequest : Request where
  config := sampleConfig
  appDirectory := "/a"
  workDirectory := some "/p"

def windingHost (fs : FileSystem) : Host :=
  { sampleHost [] with files := fs, temporaryDirectory := winding }

def windingStaging : String := winding ++ "/inno_bundle/5c3bd4a2-7e1f-4c8b-a9d6-0f2e3b4c5d6e"

def windingTree : FileSystem :=
  (ofDirectories [["a"], ["p"], ["p", "build"], ["p", "build", "windows"],
    ["p", "build", "windows", "x64"], sampleInstaller]).insert (sampleInstaller ++ ["inno_bundle"])
      (.file .empty false)

def openedTree : FileSystem := windingTree.insert sampleOutput .directory

def earlierScript : ByteArray := "; earlier".toUTF8

def scriptedTree : FileSystem :=
  openedTree.insert (sampleOutput ++ ["inno-script.iss"]) (.file earlierScript false)

theorem plain_windingTree : Plain windingTree :=
  (plain_ofDirectories (by decide) (by decide)).insert rfl (by decide)
    (.inr (by simp [get?_ofDirectories, sampleInstaller])) (by simp)

theorem plain_openedTree : Plain openedTree :=
  plain_windingTree.insert rfl (by decide) (.inl rfl) (by simp)

theorem plain_scriptedTree : Plain scriptedTree :=
  have hfree : openedTree.get? (sampleOutput ++ ["inno-script.iss"]) = none := rfl
  plain_openedTree.insert rfl (by decide) (.inr (by simp [hfree])) (by simp)

theorem currentDirectory_winding {fs : FileSystem} (hfs : Plain fs) :
    (windingHost fs).currentDirectory = .ok [] :=
  Standing.currentDirectory ⟨rfl, hfs, rfl⟩

theorem placesFrom_winding (fs : FileSystem) : windingRequest.placesFrom (windingHost fs) [] =
    ⟨"/a", Path.text sampleOutput, windingStaging, "C:\\Windows/System32"⟩ := by
  have hplaces : windingRequest.placesFrom (windingHost .empty) [] =
      ⟨"/a", Path.text sampleOutput, windingStaging, "C:\\Windows/System32"⟩ := by decide
  rw [← hplaces]
  rfl

theorem lineage_winding : lineage (windingStaging.length + 1) windingStaging =
    [windingStaging, winding ++ "/inno_bundle", winding, Path.text sampleOutput,
      Path.text sampleInstaller, "/p/build/windows/x64", "/p/build/windows", "/p/build", "/p"] := by
  decide +kernel

theorem resolve_winding {p : String} {ps : List String} (hv : Valid p) (habs : isAbsolute p = true)
    (hp : pieces p = "" :: (sampleInstaller ++ "Release" :: ps)) (hps : ps.all (· = "") = false) :
    windingTree.resolve .root .inspect p = .error .notFound :=
  resolve_of_missing plain_windingTree.toIsTree (by decide) rfl habs hv hp (by decide) hps rfl _
    (by simp)

theorem ensureDirectory_missing : ∀ q ∈ [windingStaging, winding ++ "/inno_bundle", winding],
    perform (ensureDirectory .root q) windingTree = (.error .notFound, windingTree) := by
  have hfound : ∀ q ∈ [windingStaging, winding ++ "/inno_bundle", winding],
      Trimmed q ∧ Valid q ∧ isAbsolute q = true ∧ ∃ ps,
        pieces q = "" :: (sampleInstaller ++ "Release" :: ps) ∧ ps.all (· = "") = false := by
    simp only [List.forall_mem_cons]
    refine ⟨⟨by decide, by decide, by decide, ["..", "inno_bundle", _], rfl, by decide⟩,
      ⟨by decide, by decide, by decide, ["..", "inno_bundle"], rfl, by decide⟩,
      ⟨by decide, by decide, by decide, [".."], rfl, by decide⟩, by simp⟩
  intro q hq
  obtain ⟨ht, hv, habs, ps, hp, hps⟩ := hfound q hq
  exact ensureDirectory_of_error ht (resolve_winding hv habs hp hps) (by simp)

theorem ensureDirectory_opened :
    perform (ensureDirectory .root (Path.text sampleOutput)) windingTree = (.ok (), openedTree) :=
  ensureDirectory_of_free (by decide) (resolve_text_entry (l := sampleInstaller) (n := "Release")
    plain_windingTree.toIsTree (by decide) rfl (by decide) (by decide) rfl _ _)

theorem ensureDirectory_back : perform (ensureDirectory .root winding) openedTree =
    (.ok (), openedTree) := by
  have hfound {u : Purpose} (hu : u ≠ .write) :
      openedTree.resolve .root u winding = .ok (.found sampleInstaller .directory) := by
    have hpieces : pieces winding = "" :: (sampleOutput ++ [".."]) := by decide
    obtain ⟨hwalk, _⟩ := resolve_through (l := sampleOutput) plain_openedTree.toIsTree (by decide) rfl
      (by decide) (by decide) hpieces .root hu
    rw [hwalk, walk_up, walk]
    rfl
  rw [ensureDirectory_of_found (by decide) (hfound (by simp)), if_pos]
  rw [FileSystem.isDirectory, find?, hfound (by simp)]

theorem ensureDirectory_blocked :
    perform (ensureDirectory .root (winding ++ "/inno_bundle")) openedTree =
      (.error .alreadyExists, openedTree) := by
  have hfound {u : Purpose} (hu : u ≠ .write) :
      openedTree.resolve .root u (winding ++ "/inno_bundle") =
        .ok (.found (sampleInstaller ++ ["inno_bundle"]) (.file .empty false)) := by
    have hpieces : pieces (winding ++ "/inno_bundle") = "" :: (sampleInstaller ++ ["Release"] ++
        (List.replicate ["Release"].length ".." ++ ["inno_bundle"])) := by decide
    exact resolve_of_ups (l := sampleInstaller) (t := ["Release"]) plain_openedTree (by decide) rfl
      (by decide) (by decide) hpieces (by decide) ⟨[], "inno_bundle", rfl, by decide⟩ rfl .root hu
  rw [ensureDirectory_of_found (by decide) (hfound (by simp)), if_neg]
  rw [FileSystem.isDirectory, find?, hfound (by simp)]
  simp

theorem makeDirectories_winding :
    perform (FileSystem.makeDirectories .root windingStaging) windingTree =
      (.error .alreadyExists, openedTree) := by
  have hmissing := ensureDirectory_missing
  simp only [List.forall_mem_cons] at hmissing
  obtain ⟨hmissing₀, hmissing₁, hmissing₂, _⟩ := hmissing
  have hanchor : perform (anchorLineage .root (lineage (windingStaging.length + 1) windingStaging) [])
      windingTree = (.ok [winding, winding ++ "/inno_bundle", windingStaging], openedTree) := by
    rw [lineage_winding, perform_anchorLineage_cons, hmissing₀]
    dsimp only
    rw [if_pos rfl, perform_anchorLineage_cons, hmissing₁]
    dsimp only
    rw [if_pos rfl, perform_anchorLineage_cons, hmissing₂]
    dsimp only
    rw [if_pos rfl, perform_anchorLineage_cons, ensureDirectory_opened]
  rw [FileSystem.makeDirectories, perform_bind_of_ok hanchor, List.forM,
    perform_bind_of_ok ensureDirectory_back, List.forM]
  exact perform_bind_of_error ensureDirectory_blocked

theorem prepare_winding {fs gs : FileSystem} (hfs : Plain fs) (happ : fs.get? ["a"] = some .directory)
    (hmake : perform (FileSystem.makeDirectories .root windingStaging) fs = (.error e, gs)) :
    ∃ g, perform windingRequest.prepare (windingHost fs) =
      (.error (.file .creatingDirectory windingStaging e), g) ∧ g.files = gs := by
  have hst : (windingHost fs).Standing [] := ⟨rfl, hfs, rfl⟩
  have hp := placesFrom_winding fs
  have hdirectory : (windingHost fs).isDirectory (windingRequest.placesFrom (windingHost fs) []).app
      = true := by
    rw [hp]
    exact (hst.isDirectory_iff (by decide)).mpr ⟨by decide, happ⟩
  have hparent : parent? (Layout.iconPath (windingRequest.placesFrom (windingHost fs) []).staging) =
      some windingStaging := by
    rw [hp]
    decide
  exact ⟨_, prepare_of_makeDirectories (currentDirectory_winding hfs) hdirectory rfl hparent hmake, rfl⟩

theorem apart_winding (fs : FileSystem) :
    let p := windingRequest.placesFrom (windingHost fs) []
    Apart (locate [] p.staging) (locate [] p.output) := by
  intro p
  rw [show p = _ from placesFrom_winding fs]
  decide

def blockedRequest : Request :=
  { windingRequest with stagingDirectory := some (Path.text (sampleInstaller ++ ["inno_bundle"])) }

theorem makeDirectories_blocked :
    perform (FileSystem.makeDirectories .root (Path.text (sampleInstaller ++ ["inno_bundle"])))
      scriptedTree = (.error .alreadyExists, scriptedTree) := by
  have hvalid : Valid (Path.text (sampleInstaller ++ ["inno_bundle"])) := by decide
  have hfound {u : Purpose} : scriptedTree.resolve .root u (Path.text (sampleInstaller ++ ["inno_bundle"])) =
      .ok (.found (sampleInstaller ++ ["inno_bundle"]) (.file .empty false)) := by
    rw [resolve_eq_walk (isAbsolute_text _) hvalid, walk_text_file plain_scriptedTree.toIsTree (by decide)
      rfl (by decide) hvalid.fits rfl]
  have hensure := ensureDirectory_of_found (by decide) (hfound (u := .inspect))
  rw [FileSystem.isDirectory, find?, hfound] at hensure
  have hlineage : ∃ rest, lineage ((Path.text (sampleInstaller ++ ["inno_bundle"])).length + 1)
      (Path.text (sampleInstaller ++ ["inno_bundle"])) =
        Path.text (sampleInstaller ++ ["inno_bundle"]) :: rest := ⟨_, rfl⟩
  obtain ⟨rest, hlineage⟩ := hlineage
  rw [FileSystem.makeDirectories]
  refine perform_bind_of_error ?_
  rw [hlineage, perform_anchorLineage_cons, hensure]
  simp

theorem failure_spares_script_blocked :
    let h := windingHost scriptedTree
    let p := blockedRequest.placesFrom h []
    Plain h.files ∧ h.currentDirectory = .ok [] ∧ Straight p.staging ∧
      Apart (locate [] p.staging) (locate [] p.output) ∧
      ∃ e g, perform blockedRequest.build h = (.error e, g) ∧
        g.files.get? (locate [] (scriptPath p)) = some (.file earlierScript false) := by
  intro h p
  have hcwd : h.currentDirectory = .ok [] := currentDirectory_winding plain_scriptedTree
  have hst : h.Standing [] := ⟨rfl, plain_scriptedTree, rfl⟩
  have hplaces : p = ⟨"/a", Path.text sampleOutput, Path.text (sampleInstaller ++ ["inno_bundle"]),
      "C:\\Windows/System32"⟩ := by
    have hempty : blockedRequest.placesFrom (windingHost .empty) [] = ⟨"/a", Path.text sampleOutput,
        Path.text (sampleInstaller ++ ["inno_bundle"]), "C:\\Windows/System32"⟩ := by decide
    rw [← hempty]
    rfl
  have happ : h.isDirectory p.app = true := by
    rw [hplaces]
    exact (hst.isDirectory_iff (by decide)).mpr ⟨by decide, rfl⟩
  have hparent : parent? (Layout.iconPath p.staging) =
      some (Path.text (sampleInstaller ++ ["inno_bundle"])) := by
    rw [hplaces]
    decide
  have hprepare := prepare_of_makeDirectories hcwd happ rfl hparent makeDirectories_blocked
  obtain ⟨-, -, hspares⟩ := failure_spares_script blockedRequest (h := h) plain_scriptedTree
  obtain ⟨-, -, -, -, hfails⟩ := hspares [] hcwd
  obtain ⟨hbuild, -, hkept⟩ := hfails _ _ hprepare
  have hapart : Straight p.staging ∧ Apart (locate [] p.staging) (locate [] p.output) := by
    rw [hplaces]
    decide
  have hscript : h.files.get? (locate [] (scriptPath p)) = some (.file earlierScript false) := by
    rw [hplaces, show locate [] (scriptPath _) = sampleOutput ++ ["inno-script.iss"] by decide]
    rfl
  exact ⟨plain_scriptedTree, hcwd, hapart.1, hapart.2, _, _, hbuild, (hkept hapart.2).1 _ hscript⟩

def lostHost : Host := { windingHost (ofDirectories []) with workingDirectory := ⟨[], 1⟩ }

/-- Where the working directory is gone, a run that has no app's directory names another path; and on
the way to the staging directory a run that fails makes the directory of the script. -/
theorem failure_not_spared :
    (Plain lostHost.files ∧ lostHost.isDirectory windingRequest.appDirectory = false ∧
      ∃ action path, perform windingRequest.build lostHost =
        (.error (.file action path .notFound), lostHost) ∧ path ≠ windingRequest.appDirectory) ∧
    let p := windingRequest.placesFrom (windingHost windingTree) []
    Plain windingTree ∧ Apart (locate [] p.staging) (locate [] p.output) ∧
      windingTree.get? (locate [] p.output) = none ∧
      ∃ e g, perform windingRequest.prepare (windingHost windingTree) = (.error e, g) ∧
        perform windingRequest.build (windingHost windingTree) = (.error e, g) ∧
        g.files.get? (locate [] p.output) = some .directory := by
  have hplain : Plain lostHost.files := plain_ofDirectories (by decide) (by decide)
  refine ⟨⟨hplain, ?_, ?_⟩, plain_windingTree, apart_winding _, ?_⟩
  · have hground : Ground lostHost.files [] := ⟨hplain, rfl⟩
    rw [Host.isDirectory, isDirectory_absolute (by decide), Bool.eq_false_iff, Ne,
      show Standpoint.root = .ofPlace [] from rfl, hground.isDirectory_iff (by decide)]
    rintro ⟨_, happ⟩
    cases happ
  · have hlost : lostHost.currentDirectory = .error .notFound :=
      currentDirectory_of_removed (by decide)
    obtain ⟨action, path, hpath, hp⟩ := perform_places_eq_error (r := windingRequest) hlost
    refine ⟨action, path, perform_bind_of_error hp, ?_⟩
    rcases hpath with hpath | ⟨hnone, _⟩
    · cases hpath
      decide
    · cases hnone
  · have houtput : locate [] (windingRequest.placesFrom (windingHost windingTree) []).output =
        sampleOutput := by
      rw [placesFrom_winding]
      decide
    obtain ⟨g, hprepare, hg⟩ := prepare_winding plain_windingTree rfl makeDirectories_winding
    have hbuild := perform_bind_of_error (f := writeScript) hprepare
    rw [← build_eq_prepare] at hbuild
    rw [houtput]
    refine ⟨rfl, _, g, hprepare, hbuild, ?_⟩
    rw [hg]
    rfl

end Samples

end FlutterInstaller.Script.Request
