import FlutterInstaller.Proofs.Script.Footprint
import FlutterInstaller.Proofs.Script.Presence

/-!
What the mode of a build decides. Two runs of one request in two modes stage the same and come to the same
text but for the directive of the output directory. So each mode has a script of its own, which a build in
another mode leaves as it is, unless links make the two one file.
-/
namespace FlutterInstaller.Script

/-- A script whose output directory is left open. -/
structure Frame where
  before : List Line
  after : List Line
  rest : List Section

namespace Frame

def script (f : Frame) (output : String) : String :=
  Script.render (⟨"Setup", f.before ++ .directive "OutputDir" output :: f.after⟩ :: f.rest)

def Single (f : Frame) : Prop := ∀ value, Line.directive "OutputDir" value ∉ f.before ++ f.after

def ofParts (c : Config) (icon : String) (items : List FileItem) : Frame where
  before := (setup c "" icon).lines.take 12
  after := (setup c "" icon).lines.drop 13
  rest := [installDelete, languages c, tasks, files items, icons c, run c]

theorem script_ofParts (c : Config) (output icon : String) (items : List FileItem) :
    (ofParts c icon items).script output = Script.render (sections c output icon items) := rfl

theorem single_ofParts (c : Config) (icon : String) (items : List FileItem) :
    (ofParts c icon items).Single := by
  intro value
  cases hl : c.license <;> simp [ofParts, setup, hl]

end Frame

namespace Request

open FileSystem FlutterInstaller.Path FlutterInstaller.Action Host

variable {r : Request} {h : Host} {w : Location} {mode : BuildMode} {app installer : Bool}

def inMode (r : Request) (mode : BuildMode) (app installer : Bool) : Request :=
  { r with config :=
      { r.config with buildMode := mode, buildApp := app, buildInstaller := installer } }

def outputRoot (r : Request) (w : Location) : String :=
  join (Path.text (r.projectFrom w)) Layout.installerRoot

section Rendering

def gatherAt (r : Request) (p : Places) : Action (String × List FileItem) := do
  if (← get).isDirectory p.app then
    let icon ← r.stageIcon p.staging
    let items ← r.items p
    return (icon, items)
  else throw (.file .readingAppDirectory p.app .noAppDirectory)

theorem renderAt_eq_gatherAt (r : Request) (p : Places) :
    r.renderAt p = (fun x => (Frame.ofParts r.config x.1 x.2).script p.output) <$> r.gatherAt p := by
  simp only [renderAt, gatherAt, map_bind, Frame.script_ofParts]
  congr 1
  funext h
  split
  · simp only [map_bind, map_pure]
  · rfl

theorem join_outputRoot (r : Request) (w : Location) (mode : BuildMode) :
    join (r.outputRoot w) mode.directory = r.outputRoot w ++ "/" ++ mode.directory := by
  obtain ⟨s, hs⟩ := exists_append_of_join (Path.text (r.projectFrom w)) Layout.installerRoot
  have hend : (r.outputRoot w).toList.getLast? = some 'r' := by
    rw [outputRoot, hs, String.toList_append, List.getLast?_append_of_ne_nil _ (by decide)]
    rfl
  have hrel : isAbsolute mode.directory = false := by cases mode <;> decide
  rw [join, if_neg (by simp [hrel]), hend, if_neg (by decide)]

theorem output_placesFrom (r : Request) (h : Host) (w : Location) :
    (r.placesFrom h w).output = r.outputRoot w ++ "/" ++ r.config.buildMode.directory :=
  r.join_outputRoot w _

theorem perform_render_gatherAt (hw : h.currentDirectory = .ok w) :
    perform r.render h =
      ((perform (r.gatherAt (r.placesFrom h w)) h).1.map fun x =>
        (Frame.ofParts r.config x.1 x.2).script
          (r.outputRoot w ++ "/" ++ r.config.buildMode.directory),
        (perform (r.gatherAt (r.placesFrom h w)) h).2) := by
  rw [perform_render hw, renderAt_eq_gatherAt, perform_map, output_placesFrom]

theorem gatherAt_inMode (r : Request) (mode : BuildMode) (app installer : Bool) (h : Host)
    (w : Location) : (r.inMode mode app installer).gatherAt
      ((r.inMode mode app installer).placesFrom h w) = r.gatherAt (r.placesFrom h w) := rfl

theorem inMode_self (r : Request) :
    r.inMode r.config.buildMode r.config.buildApp r.config.buildInstaller = r := rfl

theorem exists_frame (r : Request) (h : Host) : ∃ (x : Except Error Frame) (root : String) (g : Host),
    (∀ f, x = .ok f → f.Single ∧ ∃ w, h.currentDirectory = .ok w ∧ root = r.outputRoot w) ∧
    ∀ mode app installer, perform (r.inMode mode app installer).render h =
      (x.map fun f => f.script (root ++ "/" ++ mode.directory), g) := by
  cases hw : h.currentDirectory with
  | error e =>
    obtain ⟨action, path, _, hproject⟩ := perform_project_eq_error (r := r) hw
    refine ⟨.error (.file action path e), "", h, fun f hf => (by cases hf), fun _ _ _ => ?_⟩
    exact perform_bind_of_error (perform_bind_of_error hproject)
  | ok w =>
    refine ⟨(perform (r.gatherAt (r.placesFrom h w)) h).1.map fun x => Frame.ofParts r.config x.1 x.2,
      r.outputRoot w, (perform (r.gatherAt (r.placesFrom h w)) h).2, fun f hf => ?_,
      fun mode app installer => ?_⟩
    · refine ⟨?_, w, rfl, rfl⟩
      cases hg : (perform (r.gatherAt (r.placesFrom h w)) h).1 with
      | error e =>
        rw [hg] at hf
        cases hf
      | ok x =>
        rw [hg] at hf
        cases hf
        exact Frame.single_ofParts _ _ _
    · rw [perform_render_gatherAt hw, gatherAt_inMode]
      cases (perform (r.gatherAt (r.placesFrom h w)) h).1 <;> rfl

theorem build_of_lost {e : OsError} (hw : h.currentDirectory = .error e) :
    (perform r.build h).2 = h := by
  obtain ⟨_, _, _, hp⟩ := perform_places_eq_error (r := r) hw
  rw [build, perform_bind_of_error hp]

end Rendering

/-- Where a run has changed only what it may: an entry is where it was, or is gone if it may go. -/
structure Retained (w m : Location) (e : Entry) (cleared : Prop) (h : Host) : Prop where
  standsFor : h.workingDirectory.StandsFor w
  linkFree : LinkFree h.files
  entry : h.files.get? m = some e ∨ cleared ∧ h.files.get? m = none

section Retains

variable {m : Location} {e : Entry} {cleared : Prop}

def Retains (w m : Location) (e : Entry) (cleared : Prop) (h g : Host) : Prop :=
  Retained w m e cleared h → Retained w m e cleared g

instance : IsPreorder Host (Retains w m e cleared) where
  refl _ := id
  trans _ _ _ h h' := h' ∘ h

theorem Retained.entry_of_advances {α : Type} {step : Action α} (hh : Retained w m e cleared h)
    (hstep : Advances (Retains w m e cleared) step) :
    (perform step h).2.files.get? m = some e ∨ cleared ∧ (perform step h).2.files.get? m = none :=
  (hstep h hh).entry

theorem retains_of_affects {α : Type} {step : Action α}
    (hstep : Advances (Host.Affects w (fun k => cleared → k ≠ m) (· ≠ m)) step) :
    Advances (Retains w m e cleared) step := by
  intro h hh
  obtain ⟨hs, hfiles⟩ := hstep h hh.standsFor hh.linkFree
  refine ⟨hs, hfiles.linkFree, ?_⟩
  rcases hfiles.changed m with hsame | ⟨hmade, hnone, _⟩ | hne
  · rw [hsame]
    exact hh.entry
  · rcases hh.entry with hentry | ⟨hcleared, _⟩
    · rw [hnone] at hentry
      cases hentry
    · exact absurd rfl (hmade hcleared)
  · exact absurd rfl hne

theorem retains_of_removal {path : String} (ht : Trimmed path) (hcleared : cleared) :
    Advances (Retains w m e cleared) (removeDirectories path) := by
  refine advances_edit _ _ fun h hh => ?_
  have hremove : Advances (Affects (fun _ => False) fun _ => True)
      (FileSystem.removeDirectories h.workingDirectory path) :=
    removeDirectories_affects hh.standsFor ht fun _ _ => trivial
  refine ⟨hh.standsFor.settle _, (hremove h.files hh.linkFree).linkFree, ?_⟩
  rcases removeDirectories_sheds h.workingDirectory path h.files m with hsame | hnone
  · rw [Host.withFiles, hsame]
    exact hh.entry
  · exact .inr ⟨hcleared, hnone⟩

end Retains

section Others

variable {p : Places} {l m : Location} {e : Entry}

/-- What a build may take away is what lies in the directory of the libraries, where it makes one. -/
def Clears (r : Request) (p : Places) (w m : Location) : Prop :=
  r.config.vcRedist = true ∧ locate w (Layout.libraryDirectory p.staging) <+: m

theorem isName_directory (mode : BuildMode) : IsName mode.directory := by cases mode <;> decide

theorem locate_output (r : Request) (h : Host) (w : Location) :
    locate w (r.placesFrom h w).output =
      locate w (r.outputRoot w) ++ [r.config.buildMode.directory] :=
  locate_join_name (isName_directory r.config.buildMode) w (r.outputRoot w)

theorem locate_script (r : Request) (h : Host) (w : Location) :
    locate w (scriptPath (r.placesFrom h w)) =
      locate w (r.outputRoot w) ++ [r.config.buildMode.directory] ++ [Layout.scriptName] := by
  rw [scriptPath, locate_join_name isName_scriptName, locate_output]

theorem outputRoot_inMode : (r.inMode mode app installer).outputRoot w = r.outputRoot w := rfl

theorem log_retains {cleared : Prop} (level : LogLevel) (message : String) :
    Advances (Retains w m e cleared) (log level message) :=
  fun _ hh => ⟨hh.standsFor, hh.linkFree, hh.entry⟩

theorem renderAt_retains (hs : Straight p.staging) (hm : m = l ++ [Layout.scriptName]) :
    Advances (Retains w m e (r.Clears p w m)) (r.renderAt p) := by
  have hlibrary : Straight (Layout.libraryDirectory p.staging) := straight_libraryDirectory hs
  have hfile : ∀ {base n}, IsName n → n ≠ Layout.scriptName → locate w (join base n) ≠ m := by
    intro base n hn hne he
    rw [hm, locate_join_name hn] at he
    exact hne (List.singleton_inj.mp (List.append_inj_right' he rfl))
  have hway : ∀ {q k}, Straight q → locate w q <+: locate w (Layout.libraryDirectory p.staging) →
      OnTheWay w q k → r.Clears p w m → k ≠ m := by
    rintro q k hq hprefix hon ⟨_, hbelow⟩ rfl
    have he := hbelow.eq_of_length_le ((hon.isPrefix hq).trans hprefix).length_le
    exact hfile isName_libraryDirectory (by decide) he
  have hstaging : locate w p.staging <+: locate w (Layout.libraryDirectory p.staging) := by
    rw [locate_libraryDirectory hs]
    exact List.prefix_append _ _
  have hdown : ∀ k, OnTheWay w (Layout.libraryDirectory p.staging) k →
      (r.Clears p w m → k ≠ m) ∨ k ≠ m := fun _ hon => .inl (hway hlibrary List.prefix_rfl hon)
  have hclear : r.config.vcRedist = true → Advances (Retains w m e (r.Clears p w m))
      (makeDirectories (Layout.libraryDirectory p.staging) true) := by
    intro hv
    have ht := trimmed_libraryDirectory p.staging
    by_cases hbelow : locate w (Layout.libraryDirectory p.staging) <+: m
    · refine (retains_of_removal ht ⟨hv, hbelow⟩).bind fun _ => retains_of_affects ?_
      exact edit_affects _ _ fun cwd hcwd => FileSystem.makeDirectories_affects hcwd ht hdown
    · exact retains_of_affects (makeDirectories_affects ht hdown (fun k hk he => hbelow (he ▸ hk)) true)
  refine advances_renderAt log_retains (fun content => ?_) fun hv =>
    advances_stageLibraries log_retains _ (hclear hv) fun n hn source => ?_
  · exact retains_of_affects (writeFile_affects isName_icon
      (fun _ hon => .inl (hway hs hstaging hon)) (hfile isName_icon (by decide)) content)
  · exact retains_of_affects (copyFile_affects (isName_libraries n hn) hdown
      (hfile (isName_libraries n hn) (by revert n; decide)) source)

theorem build_spares_mode (hplain : Plain h.files) (hw : h.currentDirectory = .ok w)
    (hgiven : r.stagingDirectory ≠ none) (hmode : mode ≠ r.config.buildMode)
    (hm : m = locate w (r.outputRoot w) ++ [mode.directory] ++ [Layout.scriptName])
    (he : h.files.get? m = some e) :
    (perform r.build h).2.files.get? m = some e ∨
      r.Clears (r.placesFrom h w) w m ∧ (perform r.build h).2.files.get? m = none := by
  have hne : locate w (scriptPath (r.placesFrom h w)) ≠ m := by
    rw [locate_script, hm]
    intro heq
    have hlast := List.append_cancel_left (List.append_cancel_right heq)
    exact hmode (BuildMode.directory_injective (List.singleton_inj.mp hlast)).symm
  have hstraight : Straight (r.placesFrom h w).output :=
    straight_outputDirectory
      (straight_text (isName_projectFrom (isName_currentDirectory hplain.toIsTree hw))) _
  have hup : ∀ k, OnTheWay w (r.placesFrom h w).output k → k ≠ m := by
    rintro k hon rfl
    have hlength := (hon.isPrefix hstraight).length_le
    rw [hm, locate_output] at hlength
    simp at hlength
  have hwrite : ∀ content, Advances (Retains w m e (r.Clears (r.placesFrom h w) w m))
      (writeFile (scriptPath (r.placesFrom h w)) content) := by
    intro content
    refine retains_of_affects
      (writeFile_affects isName_scriptName (fun k hon => .inl fun _ => hup k hon) ?_ content)
    exact hne
  have hp : perform r.places h = (.ok (r.placesFrom h w), h) :=
    perform_places_eq_ok_iff.mpr ⟨rfl, w, hw, rfl⟩
  have hstands : h.workingDirectory.StandsFor w := by
    rw [(currentDirectory_eq_ok hw).1]
    exact Standpoint.standsFor_ofPlace w
  have hrender := renderAt_retains (r := r) (w := w) (e := e)
    (straight_staging hplain.toIsTree hw hgiven) hm
  have hh : Retained w m e (r.Clears (r.placesFrom h w) w m) h := ⟨hstands, hplain.linkFree, .inl he⟩
  rw [build, perform_bind_of_ok hp]
  refine hh.entry_of_advances ((log_retains _ _).bind fun _ => ?_)
  exact hrender.bind fun _ => (hwrite _).bind fun _ => (log_retains _ _).bind fun _ => advances_pure _

/-- A mode decides where the script goes, and nothing else of a run: in another mode, and with other flags
of what is to be built, a request ends in the same host and with the same error, or with the same text but
for the last name of the output directory. Each mode has an output directory of its own. Without links, a
build leaves the scripts of other modes as they are, except that what lies in the directory of the
libraries is cleared with it. -/
theorem mode_decides_output (r : Request) (mode : BuildMode) (app installer : Bool) (h : Host) :
    let r' := r.inMode mode app installer
    (perform r'.render h).2 = (perform r.render h).2 ∧
    (∀ e, (perform r'.render h).1 = .error e ↔ (perform r.render h).1 = .error e) ∧
    (∀ text, (perform r.render h).1 = .ok text → ∃ w f, h.currentDirectory = .ok w ∧ Frame.Single f ∧
      text = f.script (r.outputRoot w ++ "/" ++ r.config.buildMode.directory) ∧
      (perform r'.render h).1 = .ok (f.script (r.outputRoot w ++ "/" ++ mode.directory))) ∧
    (mode = r.config.buildMode → perform r'.render h = perform r.render h) ∧
    (∀ e, h.currentDirectory = .error e → (perform r.build h).2 = h) ∧
    ∀ w, h.currentDirectory = .ok w → mode ≠ r.config.buildMode →
      let p := r.placesFrom h w
      let p' := r'.placesFrom h w
      p.output ≠ p'.output ∧ locate w p.output ≠ locate w p'.output ∧
      (Plain h.files → r.stagingDirectory ≠ none →
        ∀ e, h.files.get? (locate w (scriptPath p')) = some e →
          (perform r.build h).2.files.get? (locate w (scriptPath p')) = some e ∨
          r.Clears p w (locate w (scriptPath p')) ∧
            (perform r.build h).2.files.get? (locate w (scriptPath p')) = none) := by
  intro r'
  obtain ⟨x, root, g, hframe, hrender⟩ := exists_frame r h
  have hr := hrender r.config.buildMode r.config.buildApp r.config.buildInstaller
  have hr' : perform r'.render h = _ := hrender mode app installer
  rw [inMode_self] at hr
  refine ⟨?_, fun e => ?_, fun text htext => ?_, fun hmode => ?_, fun e => build_of_lost,
    fun w hw hmode => ?_⟩
  · rw [hr, hr']
  · rw [hr, hr']
    cases x <;> simp [Except.map]
  · rw [hr] at htext
    cases x with
    | error e => cases htext
    | ok f =>
      obtain ⟨hsingle, w, hw, rfl⟩ := hframe f rfl
      rw [hr']
      exact ⟨w, f, hw, hsingle, (Except.ok.inj htext).symm, rfl⟩
  · rw [hr, hr', hmode]
  · intro p p'
    have houtput : locate w p.output ≠ locate w p'.output := by
      rw [locate_output, locate_output, outputRoot_inMode]
      intro heq
      exact hmode (BuildMode.directory_injective
        (List.singleton_inj.mp (List.append_cancel_left heq))).symm
    refine ⟨fun heq => houtput (by rw [heq]), houtput, fun hplain hgiven e he => ?_⟩
    refine build_spares_mode hplain hw hgiven hmode ?_ he
    rw [locate_script, outputRoot_inMode]
    rfl

end Others

section Samples

def debugOutput : Location := ["build", "windows", "x64", "installer", "Debug"]

def debugScript : Location := debugOutput ++ [Layout.scriptName]

def modeTree : FileSystem :=
  ((ofDirectories (debugOutput :: usualDirectories)).insert ["i"] (.file .empty false)).insert
    debugScript (.file earlierScript false)

def linkedModes : FileSystem := modeTree.insert linkScript (.link (Path.text debugScript))

def modeHost (fs : FileSystem) : Host := { sampleHost [] with files := fs }

def modeRequest : Request where
  config := linkRequest.config
  appDirectory := "/a"
  workDirectory := some "/"
  systemDirectory := some "/y"
  stagingDirectory := some "/s"

def modePlaces : Places := ⟨"/a", Path.text usualOutput, "/s", "/y"⟩

def modeParts : Parts := ⟨modePlaces, Path.text ["i"], [], []⟩

theorem plain_modeTree : Plain modeTree := by
  have hplain : Plain (ofDirectories (debugOutput :: usualDirectories)) :=
    plain_ofDirectories (by decide) (by decide)
  have hicon : (ofDirectories (debugOutput :: usualDirectories)).get? ["i"] = none := rfl
  have hscript : ((ofDirectories (debugOutput :: usualDirectories)).insert ["i"]
      (.file .empty false)).get? debugScript = none := rfl
  exact (hplain.insert (l := []) rfl (by decide) (.inr (by simp [hicon])) (by simp)).insert
    (l := debugOutput) rfl isName_scriptName (.inr fun hd => by cases hscript.symm.trans hd) (by simp)

theorem isTree_linkedModes : IsTree linkedModes := by
  have hfree : modeTree.get? linkScript = none := rfl
  exact plain_modeTree.toIsTree.insert (l := usualOutput) rfl isName_scriptName
    (.inr fun hd => by cases hfree.symm.trans hd)

theorem get?_app_modeTree (n : String) : modeTree.get? ["a", n] = none := by
  rw [modeTree, get?_insert _ _ (by simp [debugScript]), get?_insert _ _ (by simp),
    get?_ofDirectories]
  simp [usualDirectories, usualOutput, debugScript, debugOutput]

theorem places_mode (fs : FileSystem) :
    perform modeRequest.places (modeHost fs) = (.ok modePlaces, modeHost fs) := by
  have hcwd : (modeHost fs).currentDirectory = .ok [] := by
    rw [Host.currentDirectory, Standpoint.settle_of_hasDirectory rfl]
    rfl
  have hplaces : modeRequest.placesFrom (modeHost fs) [] = modePlaces := by
    rw [show modeRequest.placesFrom (modeHost fs) [] =
      modeRequest.placesFrom (sampleHost []) [] from rfl]
    decide
  exact perform_places_eq_ok_iff.mpr ⟨rfl, [], hcwd, hplaces.symm⟩

theorem render_mode {fs : FileSystem} (htree : IsTree fs) (happ : fs.get? ["a"] = some .directory)
    (hempty : ∀ n, fs.get? ["a", n] = none) : perform modeRequest.render (modeHost fs) =
      (.ok (modeParts.text modeRequest.config), modeHost fs) := by
  have hd : (modeHost fs).isDirectory "/a" = true :=
    isDirectory_text (l := ["a"]) htree (by decide) happ (by decide) _
  have hstandpoint : fs.standpoint .root "/a" = .ok (.ofPlace ["a"]) := by
    have hr : fs.resolve .root .follow "/a" = .ok (.found ["a"] .directory) :=
      resolve_text (l := ["a"]) htree (by decide) happ (by decide) _ (by decide)
    rw [standpoint, hr]
  have hnames : fs.names ["a"] = [] := names_eq (fun n => by simp [hempty]) .nil
  have hchildren : perform (childNames "/a") (modeHost fs) = (.ok [], modeHost fs) := by
    have hread : perform (ofFile .readingAppDirectory "/a" (fs.standpoint .root "/a"))
        (modeHost fs) = (.ok (.ofPlace ["a"]), modeHost fs) :=
      Project.perform_ofFile_eq_ok.mpr ⟨hstandpoint, rfl⟩
    rw [childNames, perform_get_bind]
    refine (perform_bind_of_ok hread).trans ?_
    exact congrArg (fun names => (Except.ok names, modeHost fs)) hnames
  exact perform_render_eq_ok_iff.mpr
    ⟨modeParts, ⟨⟨hd, [], modeHost fs, rfl, hchildren, rfl, rfl⟩, places_mode fs⟩, rfl⟩

theorem mode_decides_output_debug :
    let g := (perform modeRequest.build (modeHost modeTree)).2
    (∃ f : Frame, (perform (modeRequest.inMode .debug true false).render (modeHost modeTree)).1 =
      .ok (f.script "/build/windows/x64/installer/Debug")) ∧
    g.files.get? debugScript = some (.file earlierScript false) := by
  obtain ⟨-, -, hscripts, -, -, hothers⟩ :=
    mode_decides_output modeRequest .debug true false (modeHost modeTree)
  have hcwd : (modeHost modeTree).currentDirectory = .ok [] := by
    rw [Host.currentDirectory, Standpoint.settle_of_hasDirectory rfl]
    rfl
  have hrender := render_mode plain_modeTree.toIsTree rfl get?_app_modeTree
  obtain ⟨w, f, hw, -, -, hf⟩ := hscripts _ (congrArg Prod.fst hrender)
  rw [hcwd] at hw
  obtain rfl := Except.ok.inj hw
  have hroot : modeRequest.outputRoot [] = "/build/windows/x64/installer" := by decide
  have hplace : locate [] (scriptPath ((modeRequest.inMode .debug true false).placesFrom
      (modeHost modeTree) [])) = debugScript := by
    rw [locate_script, outputRoot_inMode, hroot]
    decide
  obtain ⟨-, -, hkept⟩ := hothers [] hcwd (by decide)
  refine ⟨⟨f, ?_⟩, ?_⟩
  · rw [hf, hroot]
    rfl
  · rcases hkept plain_modeTree (by decide) (.file earlierScript false) (by rw [hplace]; rfl)
      with hkept | ⟨⟨hv, _⟩, _⟩
    · rwa [hplace] at hkept
    · exact absurd hv (by decide)

/-- Through a link in the place of the script a build in one mode writes the script of another. -/
theorem mode_overwrites_other :
    locate [] (scriptPath ((modeRequest.inMode .debug true true).placesFrom (modeHost linkedModes) [])) =
        debugScript ∧
      linkedModes.get? debugScript = some (.file earlierScript false) ∧
      ∃ h', perform modeRequest.build (modeHost linkedModes) = (.ok (scriptPath modePlaces), h') ∧
        h'.files.get? debugScript = some (.file (scriptContent (modeParts.text modeRequest.config)) false)
        ∧ scriptContent (modeParts.text modeRequest.config) ≠ earlierScript := by
  have hempty : ∀ n, linkedModes.get? ["a", n] = none := by
    intro n
    rw [linkedModes, get?_insert _ _ (by simp [linkScript]), get?_app_modeTree, if_neg]
    simp [linkScript, usualOutput]
  have hrender := render_mode isTree_linkedModes rfl hempty
  have hpath : scriptPath modePlaces = Path.text linkScript := join_text (by decide) isName_scriptName
  have hparent : parent? (scriptPath modePlaces) = some (Path.text usualOutput) := by decide
  have hlink : linkedModes.get? (usualOutput ++ [Layout.scriptName]) =
      some (.link (Path.text debugScript)) := rfl
  have hfound : ∀ cwd, linkedModes.resolve cwd .write (Path.text linkScript) =
      .ok (.found debugScript (.file earlierScript false)) := fun cwd =>
    (resolve_text_link (l := usualOutput) isTree_linkedModes (by decide) rfl isName_scriptName
      (by decide) hlink (by decide) cwd (by simp)).trans
      (walk_text_file (l := debugOutput) isTree_linkedModes (by decide) rfl isName_scriptName
        (by decide) rfl .write _)
  have hmake : perform (makeParent (scriptPath modePlaces)) (modeHost linkedModes) =
      (.ok (), (modeHost linkedModes).withFiles linkedModes) := by
    rw [makeParent, hparent]
    exact perform_edit_eq_ok.mpr ⟨_, makeDirectories_text (l := usualOutput) isTree_linkedModes
      (by decide) rfl (by decide) (by decide) _, rfl⟩
  have hwrite : ∀ cwd content, perform (write cwd (scriptPath modePlaces) content) linkedModes =
      (.ok (), (linkedModes.insert debugScript (.file .empty false)).insert debugScript
        (.file content false)) := by
    intro cwd content
    have hopen : perform (openForWriting cwd (scriptPath modePlaces)) linkedModes =
        (.ok (debugScript, false), linkedModes.insert debugScript (.file .empty false)) := by
      rw [openForWriting, perform_get_bind, hpath, hfound]
      rfl
    rw [write, perform_bind_of_ok hopen]
    rfl
  obtain ⟨h', hb, hlike⟩ := build_of_ok (places_mode _) hrender
    (perform_bind_eq_ok.mpr ⟨(), _, hmake, perform_edit_eq_ok.mpr ⟨_, hwrite _ _, rfl⟩⟩)
  refine ⟨?_, rfl, h', hb, ?_, ?_⟩
  · rw [locate_script]
    decide
  · rw [← hlike.files debugScript, Host.withFiles, get?_insert _ _ (by simp [debugScript]), if_pos rfl]
  · rw [scriptContent, earlierScript, String.toUTF8_eq_toByteArray, String.toUTF8_eq_toByteArray, Ne,
      String.toByteArray_inj]
    intro he
    have hhead := congrArg (fun s : String => s.toList.head?) he
    simp [byteOrderMark] at hhead

end Samples

end Request

end FlutterInstaller.Script
