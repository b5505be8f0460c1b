import FlutterInstaller.Proofs.Cli.Tools
import FlutterInstaller.Proofs.Host.Frame
import FlutterInstaller.Proofs.Script.Repeat

/-!
The order of a build: the configuration, flutter, the script, and then the compiler. Each step is taken
exactly if the options ask for it and those before it succeeded, and a tool is tried once at most.
-/
namespace FlutterInstaller.Cli

variable {h h' : Host} {o : BuildOptions} {project : String} {c : Config}

structure Loads (h : Host) (project : String) (m : Manifest) : Prop where
  text : ∃ text,
    h.files.readText h.workingDirectory (Path.join project Manifest.fileName) = .ok text ∧
      Manifest.ofText text = .ok m
  mapping : m.root.isMapping = true

def Configured (h : Host) (o : BuildOptions) (project : String) (c : Config) : Prop :=
  ∃ cwd m, h.currentDirectory = .ok cwd ∧ project = Path.absolute cwd o.project ∧
    Loads h project m ∧
    Config.resolve { manifest := m, overrides := o.overrides, base := Path.locate cwd project,
                     files := h.files } = .ok c

theorem perform_loadManifest (h : Host) (project : String) :
    ∃ lines x, perform (Project.loadManifest project) h = (x, h.logged lines) ∧
      ∀ m, x = .ok m ↔ Loads h project m := by
  unfold Project.loadManifest
  dsimp only
  rw [perform_bind_of_ok (perform_debug _ _), perform_get_bind, Host.files_logged,
    Host.workingDirectory_logged]
  refine ⟨[⟨.debug, "Reading manifest from " ++ Path.join project Manifest.fileName⟩], ?_⟩
  cases htext : h.files.readText h.workingDirectory (Path.join project Manifest.fileName) with
  | error e =>
    refine ⟨_, rfl, fun m => ⟨nofun, ?_⟩⟩
    rintro ⟨⟨text, htext', -⟩, -⟩
    rw [htext] at htext'
    cases htext'
  | ok text =>
    have hloads : ∀ m, Loads h project m ↔
        Manifest.ofText text = .ok m ∧ m.root.isMapping = true := by
      intro m
      constructor
      · rintro ⟨⟨text', htext', hm⟩, hmapping⟩
        rw [htext] at htext'
        cases htext'
        exact ⟨hm, hmapping⟩
      · rintro ⟨hm, hmapping⟩
        exact ⟨⟨text, htext, hm⟩, hmapping⟩
    simp only [hloads]
    cases Manifest.ofText text with
    | error e => exact ⟨_, rfl, by simp⟩
    | ok m =>
      dsimp only
      split
      · next hmapping =>
        refine ⟨_, rfl, fun m' => ?_⟩
        simp only [Except.ok.injEq, iff_self_and]
        rintro rfl
        exact hmapping
      · next hmapping =>
        refine ⟨_, rfl, fun m' => ?_⟩
        simp only [reduceCtorEq, Except.ok.injEq, false_iff, not_and]
        rintro rfl
        exact hmapping

theorem perform_resolve {cwd : Location} (hcwd : h.currentDirectory = .ok cwd) (m : Manifest)
    (overrides : Overrides) (project : String) :
    ∃ lines x, perform (Project.resolve m overrides (some project)) h = (x, h.logged lines) ∧
      ∀ c, x = .ok c ↔ Config.resolve { manifest := m, overrides, base := Path.locate cwd project,
                                        files := h.files } = .ok c := by
  rw [Project.resolve, perform_bind_of_ok (Project.perform_base_of_readable hcwd), perform_get_bind]
  simp only [Option.elim_some]
  cases Config.resolve _ with
  | error e => exact ⟨[], _, by rw [Host.logged_nil]; rfl, by simp⟩
  | ok c =>
    dsimp only
    rw [perform_bind_of_ok (perform_debug _ _)]
    exact ⟨_, _, rfl, by simp⟩

def configure (o : BuildOptions) : Action (String × Config) := do
  let project ← match (← get).currentDirectory with
    | .ok cwd => pure (Path.absolute cwd o.project)
    | .error e => throw (.noWorkingDirectory e)
  let manifest ← Project.loadManifest project
  let config ← Project.resolve manifest o.overrides (some project)
  return (project, config)

def buildAppIf (c : Config) (project : String) : Action Unit :=
  if c.buildApp then buildApp project c.buildMode else Action.info "Skipping app build"

def produce (o : BuildOptions) (project : String) (c : Config) : Action String :=
  if o.envs then return c.environment
  else if o.json then return c.jsonText ++ "\n"
  else do
    buildAppIf c project
    let script ← Bundle.run c project (Layout.appDirectory project c.buildMode)
    return script ++ "\n"

theorem buildAppIf_bind {α : Type} (c : Config) (project : String) (next : Unit → Action α) :
    buildAppIf c project >>= next =
      if c.buildApp then buildApp project c.buildMode >>= next
      else Action.info "Skipping app build" >>= next := by
  unfold buildAppIf
  split
  · rfl
  · rfl

theorem runBuild_eq (o : BuildOptions) :
    runBuild o = configure o >>= fun pc => produce o pc.1 pc.2 := by
  unfold runBuild configure produce
  simp only [bind_assoc, pure_bind, buildAppIf_bind]
  refine congrArg (get >>= ·) (funext fun h => ?_)
  cases h.currentDirectory with
  | ok cwd => simp only [bind_assoc, pure_bind]
  | error e => simp only [bind_assoc, pure_bind]

theorem perform_configure (h : Host) (o : BuildOptions) :
    ∃ lines x, perform (configure o) h = (x, h.logged lines) ∧
      ∀ project c, x = .ok (project, c) ↔ Configured h o project c := by
  unfold configure Configured
  rw [perform_get_bind]
  cases hcwd : h.currentDirectory with
  | error e =>
    refine ⟨[], .error (.noWorkingDirectory e), ?_, by simp⟩
    rw [Host.logged_nil]
    rfl
  | ok cwd =>
    obtain ⟨read, x, hload, hx⟩ := perform_loadManifest h (Path.absolute cwd o.project)
    simp only [pure_bind]
    rw [perform_bind, hload]
    cases x with
    | error e =>
      refine ⟨read, .error e, rfl, fun project c => ⟨nofun, ?_⟩⟩
      rintro ⟨cwd', m, heq, rfl, hm, -⟩
      cases heq
      exact nomatch (hx m).mpr hm
    | ok m =>
      have hm := (hx m).mp rfl
      obtain ⟨lines, y, hresolve, hy⟩ :=
        perform_resolve (h := h.logged read) hcwd m o.overrides (Path.absolute cwd o.project)
      dsimp only
      rw [perform_bind, hresolve, Host.logged_logged]
      cases y with
      | error e =>
        refine ⟨read ++ lines, .error e, rfl, fun project c => ⟨nofun, ?_⟩⟩
        rintro ⟨cwd', m', heq, rfl, hm', hc⟩
        cases heq
        cases (hx m').mpr hm'
        exact nomatch (hy c).mpr hc
      | ok c =>
        refine ⟨read ++ lines, .ok (Path.absolute cwd o.project, c), rfl, fun project c' => ?_⟩
        constructor
        · intro heq
          cases heq
          exact ⟨cwd, m, rfl, rfl, hm, (hy c).mp rfl⟩
        · rintro ⟨cwd', m', heq, rfl, hm', hc⟩
          cases heq
          cases (hx m').mpr hm'
          cases (hy c').mpr hc
          rfl

theorem Configured.unique {project' : String} {c' : Config} (hc : Configured h o project c)
    (hc' : Configured h o project' c') : project' = project ∧ c' = c := by
  obtain ⟨_, x, _, hx⟩ := perform_configure h o
  have heq := (hx _ _).mpr hc
  rw [(hx _ _).mpr hc'] at heq
  cases heq
  exact ⟨rfl, rfl⟩

theorem Configured.resolves (hc : Configured h o project c) :
    c.buildMode = o.buildMode ∧ c.buildApp = !o.noApp ∧ c.buildInstaller = !o.noInstaller := by
  obtain ⟨_, _, _, _, _, hresolve⟩ := hc
  have hr := Config.resolve_eq_ok_iff.mp hresolve
  exact ⟨hr.buildMode, hr.buildApp, hr.buildInstaller⟩

def leftAfter (h : Host) (run : Option ToolRun) : Host := run.elim h fun run => h.leftBy run.result

theorem leftAfter_logged (lines : List LogLine) (run : Option ToolRun) :
    leftAfter (h.logged lines) run = (leftAfter h run).logged lines := by
  cases run with
  | none => rfl
  | some run => exact Host.leftBy_logged lines run.result

/-- What building the app does: at most one attempt, which decides whether the build goes on. -/
structure AppStep (c : Config) (project : String) (h h' : Host) (succeeds : Prop)
    (app : Option ToolRun) : Prop where
  after : h' = { leftAfter h app with log := h'.log, runs := h.runs ++ app.toList }
  attempt : ∀ run, app = some run ↔ c.buildApp = true ∧ run = h.flutterRun project c.buildMode
  succeeds : succeeds ↔ c.buildApp = false ∨ (h.flutterRun project c.buildMode).result.Succeeded

theorem perform_buildAppIf (c : Config) (project : String) (h : Host) :
    ∃ x h' app, perform (buildAppIf c project) h = (x, h') ∧
      AppStep c project h h' (x = .ok ()) app := by
  unfold buildAppIf
  cases hb : c.buildApp with
  | false =>
    rw [if_neg (by simp), perform_info]
    exact ⟨_, _, none, rfl, by simp [Host.logged, leftAfter], by simp [hb], by simp [hb]⟩
  | true =>
    obtain ⟨lines, x, hperform, hx⟩ := perform_buildApp h project c.buildMode
    rw [if_pos rfl, hperform]
    refine ⟨x, _, some (h.flutterRun project c.buildMode), rfl, ?_, by simp [hb, eq_comm],
      by simp [hb, hx]⟩
    rw [Host.recorded, Host.leftBy_logged]
    rfl

def scriptRequest (c : Config) (project : String) : Script.Request where
  config := c
  appDirectory := Layout.appDirectory project c.buildMode
  workDirectory := some project

/-- The script of a configuration is made: it stands as a whole under an absolute path. -/
structure Scripted (c : Config) (project : String) (h : Host) (script : String) (h' : Host) :
    Prop where
  built : perform (scriptRequest c project).build h = (.ok script, h')
  absolute : Path.isAbsolute script = true
  written : ∃ text h₁, perform (scriptRequest c project).render h = (.ok text, h₁) ∧
    h'.files.read .root script = .ok (Script.Request.scriptContent text)

theorem scripted_of_build {script : String}
    (hb : perform (scriptRequest c project).build h = (.ok script, h')) :
    Scripted c project h script h' := by
  obtain ⟨p, _, hp, _⟩ := perform_bind_eq_ok.mp hb
  obtain ⟨rfl, cwd, _, hplaces⟩ := Script.Request.perform_places_eq_ok_iff.mp hp
  obtain ⟨rfl, text, h₁, h₂, hr, hw, hlike⟩ := Script.Request.build_eq_ok hp hb
  have habs : Path.isAbsolute (Script.Request.scriptPath p) = true := by
    have houtput : Path.isAbsolute p.output = true := by
      rw [hplaces]
      change Path.isAbsolute (Path.join (Path.join (Path.text _) _) c.buildMode.directory) = true
      rw [Path.isAbsolute_join (by cases c.buildMode <;> rfl), Path.isAbsolute_join rfl,
        Path.isAbsolute_text]
    rw [Script.Request.scriptPath, Path.isAbsolute_join rfl, houtput]
  refine ⟨hb, habs, text, h₁, hr, ?_⟩
  rw [← hlike.files.read]
  exact Action.read_of_writeFile_absolute habs hw

theorem scripted_iff {script : String} :
    Scripted c project h script h' ↔ perform (scriptRequest c project).build h = (.ok script, h') :=
  ⟨Scripted.built, scripted_of_build⟩

/-- What making the installer does: the script, and then at most one attempt to compile it. -/
structure BundleStep (c : Config) (project : String) (h h' : Host) (succeeds : Prop)
    (compiler : Option ToolRun) : Prop where
  runs : h'.runs = h.runs ++ compiler.toList
  attempt : ∀ run, compiler = some run ↔ ∃ script written, Scripted c project h script written ∧
    c.buildInstaller = true ∧ run = written.compilerRun script
  succeeds : succeeds ↔ ∃ script written, Scripted c project h script written ∧
    (c.buildInstaller = false ∨ (written.compilerRun script).result.Succeeded)

def compileIf (c : Config) (project script : String) : Action String := do
  if c.buildInstaller then
    Bundle.compile script
    Action.info ("✓ Created installer: " ++
      Path.join (Layout.outputDirectory project c.buildMode) (c.installerName ++ ".exe"))
  else Action.info "Skipping installer compilation"
  return script

theorem bundle_eq (c : Config) (project : String) :
    Bundle.run c project (Layout.appDirectory project c.buildMode) =
      Action.info ("Building Inno Setup installer for " ++ c.displayName) >>= fun _ =>
        (scriptRequest c project).build >>= compileIf c project := rfl

theorem perform_compileIf (c : Config) (project script : String) (h : Host) :
    ∃ x h' compiler, perform (compileIf c project script) h = (x, h') ∧
      h'.runs = h.runs ++ compiler.toList ∧
      (∀ run, compiler = some run ↔ c.buildInstaller = true ∧ run = h.compilerRun script) ∧
      ((∃ s, x = .ok s) ↔
        c.buildInstaller = false ∨ (h.compilerRun script).result.Succeeded) := by
  unfold compileIf
  cases hb : c.buildInstaller with
  | false =>
    rw [if_neg (by simp), perform_bind_of_ok (perform_info _ _)]
    exact ⟨_, _, none, rfl, by simp, by simp, by simp⟩
  | true =>
    obtain ⟨lines, x, hperform, hx⟩ := perform_compile h script
    rw [if_pos rfl, perform_bind, hperform]
    cases x with
    | error e => exact ⟨_, _, some _, rfl, rfl, by simp [eq_comm], by simpa using hx⟩
    | ok u => exact ⟨_, _, some _, rfl, rfl, by simp [eq_comm], by simpa using hx⟩

theorem perform_bundle (c : Config) (project : String) (h : Host) :
    ∃ x h' lines compiler,
      perform (Bundle.run c project (Layout.appDirectory project c.buildMode)) h = (x, h') ∧
        BundleStep c project (h.logged lines) h' (∃ s, x = .ok s) compiler := by
  rw [bundle_eq, perform_bind_of_ok (perform_info _ _)]
  generalize [(⟨.info, "Building Inno Setup installer for " ++ c.displayName⟩ : LogLine)] = lines
  -- the attempts are those from before the script, whether it is made or not
  have hkeeps := congrArg Host.runs ((scriptRequest c project).keeps_build (h.logged lines))
  rw [perform_bind]
  rcases hb : perform (scriptRequest c project).build (h.logged lines) with ⟨x, written⟩
  rw [hb] at hkeeps
  have hruns : written.runs = h.runs := hkeeps
  cases x with
  | error e =>
    refine ⟨_, _, lines, none, rfl, by simp [hruns], fun run => ?_, ?_⟩
    · simp [scripted_iff, hb]
    · simp [scripted_iff, hb]
  | ok script =>
    obtain ⟨x, h', compiler, hperform, hadded, hattempt, hx⟩ :=
      perform_compileIf c project script written
    refine ⟨x, h', lines, compiler, hperform, ?_, fun run => ?_, ?_⟩
    · rw [hadded, hruns]
      rfl
    · rw [hattempt]
      simp [scripted_iff, hb]
    · rw [hx]
      simp [scripted_iff, hb]

structure Builds (h : Host) (o : BuildOptions) (project : String) (c : Config) : Prop where
  configured : Configured h o project c
  envs : o.envs = false
  json : o.json = false

structure AppReady (h : Host) (o : BuildOptions) (project : String) (c : Config) : Prop
    extends Builds h o project c where
  app : o.noApp = true ∨ (h.flutterRun project o.buildMode).result.Succeeded

/-- The order of a build. The attempt at flutter, if there is one, comes before that at the compiler, if
there is one, and each is made exactly if everything before it went well; the script is made in the
host that flutter left. A run that does not get to it leaves what flutter left, and without an attempt
at flutter the host as it was. -/
structure InOrder (o : BuildOptions) (h h' : Host) (succeeds : Prop) (app compiler : Option ToolRun)
    (ready : Host) : Prop where
  runs : h'.runs = h.runs ++ app.toList ++ compiler.toList
  appAttempt : ∀ run, app = some run ↔ ∃ project c, Builds h o project c ∧ o.noApp = false ∧
    run = h.flutterRun project o.buildMode
  readyHost : ready = { leftAfter h app with log := ready.log, runs := h.runs ++ app.toList }
  compilerAttempt : ∀ run, compiler = some run ↔ ∃ project c script written,
    AppReady h o project c ∧ Scripted c project ready script written ∧ o.noInstaller = false ∧
      run = written.compilerRun script
  untouched : (∀ project c, ¬ AppReady h o project c) →
    h' = { leftAfter h app with log := h'.log, runs := h'.runs }
  succeeds : succeeds ↔ ∃ project c, Configured h o project c ∧
    (o.envs = true ∨ o.json = true ∨ AppReady h o project c ∧
      ∃ script written, Scripted c project ready script written ∧
        (o.noInstaller = true ∨ (written.compilerRun script).result.Succeeded))

theorem inOrder_of_idle {lines : List LogLine} {succeeds : Prop}
    (hidle : ∀ project c, ¬ Builds h o project c)
    (hs : succeeds ↔ ∃ project c, Configured h o project c) :
    InOrder o h (h.logged lines) succeeds none none h where
  runs := by simp
  appAttempt := by simp [hidle]
  readyHost := by simp [leftAfter]
  compilerAttempt := by
    intro run
    constructor
    · exact nofun
    · rintro ⟨_, _, _, _, hready, _⟩
      exact absurd hready.toBuilds (hidle _ _)
  untouched := fun _ => rfl
  succeeds := by
    rw [hs]
    constructor
    · rintro ⟨project, c, hc⟩
      refine ⟨project, c, hc, ?_⟩
      by_contra hflags
      simp only [not_or, Bool.not_eq_true] at hflags
      exact hidle project c ⟨hc, hflags.1, hflags.2.1⟩
    · rintro ⟨project, c, hc, _⟩
      exact ⟨project, c, hc⟩

theorem AppStep.logged {k : Host} {lines : List LogLine} {succeeds : Prop} {app : Option ToolRun}
    (ha : AppStep c project (h.logged lines) k succeeds app) (lines' : List LogLine) :
    AppStep c project h (k.logged lines') succeeds app := by
  have hrun : (h.logged lines).flutterRun project c.buildMode = h.flutterRun project c.buildMode :=
    Host.attempted_logged _ _ _ _ _
  obtain ⟨hafter, hattempt, hsucceeds⟩ := ha
  rw [hrun] at hsucceeds
  simp only [hrun] at hattempt
  refine ⟨?_, hattempt, hsucceeds⟩
  rw [leftAfter_logged] at hafter
  rw [hafter]
  rfl

section Builds

variable {ready : Host} {built succeeds : Prop} {app compiler : Option ToolRun}
  (hb : Builds h o project c) (ha : AppStep c project h ready built app)

include hb

theorem Builds.unique {project' : String} {c' : Config} (hb' : Builds h o project' c') :
    project' = project ∧ c' = c := hb.configured.unique hb'.configured

include ha

theorem appReady_iff {project' : String} {c' : Config} :
    AppReady h o project' c' ↔ (project' = project ∧ c' = c) ∧ built := by
  obtain ⟨hmode, hbuild, _⟩ := hb.configured.resolves
  have happ : o.noApp = true ∨ (h.flutterRun project o.buildMode).result.Succeeded ↔ built := by
    rw [ha.succeeds, hmode, hbuild, Bool.not_eq_false']
  constructor
  · intro hr
    obtain ⟨rfl, rfl⟩ := hb.unique hr.toBuilds
    exact ⟨⟨rfl, rfl⟩, happ.mp hr.app⟩
  · rintro ⟨⟨rfl, rfl⟩, hbuilt⟩
    exact ⟨hb, happ.mpr hbuilt⟩

theorem appAttempt_iff {run : ToolRun} : app = some run ↔ ∃ project c, Builds h o project c ∧
    o.noApp = false ∧ run = h.flutterRun project o.buildMode := by
  obtain ⟨hmode, hbuild, _⟩ := hb.configured.resolves
  rw [ha.attempt, hmode, hbuild, Bool.not_eq_true']
  constructor
  · rintro ⟨hno, hrun⟩
    exact ⟨project, c, hb, hno, hrun⟩
  · rintro ⟨project', c', hb', hno, hrun⟩
    obtain ⟨rfl, rfl⟩ := hb.unique hb'
    exact ⟨hno, hrun⟩

theorem succeeds_iff {P : Config → String → Prop} :
    (∃ project c, Configured h o project c ∧
      (o.envs = true ∨ o.json = true ∨ AppReady h o project c ∧ P c project)) ↔
      built ∧ P c project := by
  simp only [hb.envs, hb.json, Bool.false_eq_true, false_or, appReady_iff hb ha]
  constructor
  · rintro ⟨_, _, _, ⟨⟨rfl, rfl⟩, hbuilt⟩, hp⟩
    exact ⟨hbuilt, hp⟩
  · rintro ⟨hbuilt, hp⟩
    exact ⟨project, c, hb.configured, ⟨⟨rfl, rfl⟩, hbuilt⟩, hp⟩

theorem inOrder_of_unbuilt (hbuilt : ¬ built) (hfails : ¬ succeeds) :
    InOrder o h ready succeeds app none ready where
  runs := by simp [congrArg Host.runs ha.after]
  appAttempt := fun _ => appAttempt_iff hb ha
  readyHost := ha.after
  compilerAttempt := by simp [appReady_iff hb ha, hbuilt]
  untouched := by
    intro _
    rw [show ready.runs = h.runs ++ app.toList from congrArg Host.runs ha.after]
    exact ha.after
  succeeds := by
    rw [succeeds_iff hb ha]
    simp [hbuilt, hfails]

theorem inOrder_of_bundle (hbuilt : built) (hs : BundleStep c project ready h' succeeds compiler) :
    InOrder o h h' succeeds app compiler ready where
  runs := by rw [hs.runs, congrArg Host.runs ha.after]
  appAttempt := fun _ => appAttempt_iff hb ha
  readyHost := ha.after
  compilerAttempt := by
    intro run
    have hinstaller : c.buildInstaller = true ↔ o.noInstaller = false := by
      rw [hb.configured.resolves.2.2, Bool.not_eq_true']
    rw [hs.attempt]
    constructor
    · rintro ⟨script, written, hscript, hno, hrun⟩
      exact ⟨project, c, script, written, (appReady_iff hb ha).mpr ⟨⟨rfl, rfl⟩, hbuilt⟩, hscript,
        hinstaller.mp hno, hrun⟩
    · rintro ⟨project', c', script, written, hready, hscript, hno, hrun⟩
      obtain ⟨rfl, rfl⟩ := hb.unique hready.toBuilds
      exact ⟨script, written, hscript, hinstaller.mpr hno, hrun⟩
  untouched := fun hnot => absurd ((appReady_iff hb ha).mpr ⟨⟨rfl, rfl⟩, hbuilt⟩) (hnot project c)
  succeeds := by
    have hinstaller : c.buildInstaller = false ↔ o.noInstaller = true := by
      rw [hb.configured.resolves.2.2, Bool.not_eq_false']
    rw [succeeds_iff hb ha, hs.succeeds, hinstaller]
    simp [hbuilt]

end Builds

theorem inOrder_of_runBuild (o : BuildOptions) (h : Host) :
    ∃ x h' app compiler ready, perform (runBuild o) h = (x, h') ∧
      InOrder o h h' (∃ output, x = .ok output) app compiler ready := by
  obtain ⟨lines, x, hconfigure, hx⟩ := perform_configure h o
  rw [runBuild_eq, perform_bind, hconfigure]
  cases x with
  | error e =>
    have hnone : ∀ project c, ¬ Configured h o project c := fun project c hc =>
      nomatch (hx project c).mpr hc
    exact ⟨_, _, none, none, h, rfl, inOrder_of_idle (fun _ _ hb => hnone _ _ hb.configured)
      (by simp [hnone])⟩
  | ok pc =>
    obtain ⟨project, c⟩ := pc
    have hc : Configured h o project c := (hx project c).mp rfl
    have hprints : ∀ {succeeds : Prop}, o.envs = true ∨ o.json = true → succeeds →
        InOrder o h (h.logged lines) succeeds none none h := by
      intro succeeds hflag hs
      apply inOrder_of_idle
      · intro _ _ hb
        rcases hflag with henvs | hjson
        · exact absurd hb.envs (by simp [henvs])
        · exact absurd hb.json (by simp [hjson])
      · exact iff_of_true hs ⟨project, c, hc⟩
    unfold produce
    cases henvs : o.envs with
    | true => exact ⟨_, _, none, none, h, rfl, hprints (.inl henvs) ⟨_, rfl⟩⟩
    | false =>
      cases hjson : o.json with
      | true => exact ⟨_, _, none, none, h, rfl, hprints (.inr hjson) ⟨_, rfl⟩⟩
      | false =>
        have hb : Builds h o project c := ⟨hc, henvs, hjson⟩
        obtain ⟨x, k, app, happ, hstep⟩ := perform_buildAppIf c project (h.logged lines)
        dsimp only
        rw [if_neg (by simp), if_neg (by simp), perform_bind, happ]
        cases x with
        | error e =>
          have ha := hstep.logged []
          rw [Host.logged_nil] at ha
          exact ⟨_, k, app, none, k, rfl, inOrder_of_unbuilt hb ha (by simp) (by simp)⟩
        | ok u =>
          obtain ⟨y, h', lines', compiler, hbundle, hs⟩ := perform_bundle c project k
          have ha := hstep.logged lines'
          dsimp only
          rw [perform_bind, hbundle]
          cases y with
          | error e =>
            exact ⟨_, h', app, compiler, _, rfl, inOrder_of_bundle hb ha rfl (by simpa using hs)⟩
          | ok script =>
            exact ⟨_, h', app, compiler, _, rfl, inOrder_of_bundle hb ha rfl (by simpa using hs)⟩

theorem run_of_ofArguments {arguments : List String}
    (ha : Command.ofArguments arguments = .ok (.build o)) (hv : o.objection? = none)
    {x : Except Error String} (hx : perform (runBuild o) h = (x, h')) :
    ∃ outcome, (run arguments).run h = (outcome, h') ∧
      (outcome.exitCode = 0 ↔ ∃ output, x = .ok output) := by
  have hexecute : execute (.build o) = runBuild o := by
    simp only [execute, Command.objection?, hv]
  unfold run
  rw [ha]
  simp only [hexecute, StateT.run_bind]
  rw [show (runBuild o).run.run h = (x, h') from hx]
  cases x with
  | error e => exact ⟨_, rfl, by simp⟩
  | ok output => exact ⟨_, rfl, by simp⟩

/-- Whatever the arguments that ask for a build, and whatever the host: the run attempts flutter and
then the compiler, each at most once, and exactly if the options ask for it and what comes before it
went well. It ends with the exit code for success exactly if nothing failed. -/
theorem run_build_in_order {arguments : List String} {outcome : Outcome}
    (ha : Command.ofArguments arguments = .ok (.build o)) (hv : o.objection? = none)
    (hr : (run arguments).run h = (outcome, h')) :
    ∃ app compiler ready, InOrder o h h' (outcome.exitCode = 0) app compiler ready := by
  obtain ⟨x, k, app, compiler, ready, hx, hsteps⟩ := inOrder_of_runBuild o h
  obtain ⟨outcome', hrun, hcode⟩ := run_of_ofArguments ha hv hx
  rw [hr] at hrun
  cases hrun
  refine ⟨app, compiler, ready, ?_⟩
  rwa [propext hcode]

section Sample

def sampleText : String :=
  "name: a\nversion: \"1\"\ndescription: b\ninno_bundle:\n" ++
  "  id: 5c3bd4a2-7e1f-4c8b-a9d6-0f2e3b4c5d6e\n  publisher: c\n  vc_redist: false\n"

def windowsBuild : Location := ["build", "windows", "x64"]

def builtApp : Location := windowsBuild ++ ["runner", "Release"]

def scriptDirectory : Location := windowsBuild ++ ["installer", "Release"]

def stagingPlace : Location := ["tmp", "inno_bundle", "5c3bd4a2-7e1f-4c8b-a9d6-0f2e3b4c5d6e"]

def projectDirectories : List Location :=
  [["bin"], ["build"], ["build", "windows"], windowsBuild, windowsBuild ++ ["runner"],
    windowsBuild ++ ["installer"], scriptDirectory, ["tmp"], ["tmp", "inno_bundle"], stagingPlace]

def program : ByteArray := ⟨#[0x7F, 0x45, 0x4C, 0x46]⟩

def projectTree : FileSystem :=
  ((FileSystem.ofDirectories projectDirectories).insert ["bin", "flutter"] (.file program true)).insert
    [Manifest.fileName] (.file sampleText.toUTF8 false)

def projectHost : Host :=
  { sampleHost [] with
    files := projectTree
    searchPath := ["/bin"]
    exitCode := fun _ _ => some 0
    leaves := fun files _ => files.insert builtApp .directory }

def builtHost : Host := { projectHost with files := projectTree.insert builtApp .directory }

theorem isName_manifest : Path.IsName Manifest.fileName := by decide

theorem ground_projectTree : FileSystem.Ground projectTree [] where
  toPlain := by
    have hdirectories : FileSystem.Plain (FileSystem.ofDirectories projectDirectories) :=
      FileSystem.plain_ofDirectories (by decide) (by decide)
    have hbin := hdirectories.insert (l := ["bin"]) (n := "flutter") (e := .file program true) rfl
      (by decide) (.inr nofun) nofun
    exact hbin.insert (l := []) rfl isName_manifest (.inr nofun) nofun
  here := rfl

theorem standing_projectHost : projectHost.Standing [] := ⟨rfl, ground_projectTree⟩

theorem ground_builtHost : FileSystem.Ground builtHost.files [] where
  toPlain := ground_projectTree.toPlain.insert (l := windowsBuild ++ ["runner"]) (n := "Release") rfl
    (by decide) (.inl rfl) nofun
  here := rfl

theorem configured_projectHost {o : BuildOptions} (ho : o.overrides = {}) (hp : o.project = ".") :
    ∃ c, Configured projectHost o "/" c ∧ c.id = sampleConfig.id ∧ c.icon = .standard ∧
      c.vcRedist = false := by
  have hread : projectTree.read .root (Path.join "/" Manifest.fileName) = .ok sampleText.toUTF8 := by
    refine (ground_projectTree.read_eq_ok_iff (by decide)).mpr
      ⟨by decide, Path.endsInName_entry "/" isName_manifest, false, ?_⟩
    rfl
  have hdecode : String.fromUTF8? sampleText.toUTF8 = some sampleText :=
    dif_pos sampleText.isValidUTF8
  have hresolves : ((Manifest.ofText sampleText).toOption.any fun m => m.root.isMapping &&
      (Config.resolve ⟨m, {}, [], projectTree⟩).toOption.any fun c =>
        decide (c.id = sampleConfig.id ∧ c.icon = .standard ∧ c.vcRedist = false)) = true := by
    decide +kernel
  cases hm : Manifest.ofText sampleText with
  | error e => simp [hm, Except.toOption] at hresolves
  | ok m =>
    simp only [hm, Except.toOption, Option.any_some, Bool.and_eq_true] at hresolves
    obtain ⟨hmapping, hconfig⟩ := hresolves
    cases hc : Config.resolve ⟨m, {}, [], projectTree⟩ with
    | error e => simp [hc] at hconfig
    | ok c =>
      simp only [hc, Option.any_some, decide_eq_true_eq] at hconfig
      refine ⟨c, ⟨[], m, standing_projectHost.currentDirectory, ?_, ⟨⟨sampleText, ?_, hm⟩, hmapping⟩,
        ?_⟩, hconfig⟩
      · rw [hp]
        decide
      · change projectTree.readText .root _ = _
        rw [FileSystem.readText, hread]
        simp only [hdecode, Option.elim_some]
      · rw [ho]
        exact hc

theorem isNative_program : Launch.isNative program = true := by cbv

theorem flutterRun_projectHost :
    projectHost.flutterRun "/" .release =
      ⟨.flutter, ["build", "windows", "--release"], some "/",
        .ended ⟨["bin", "flutter"], ["build", "windows", "--release"], .root⟩ (some 0)⟩ := by
  have hfound : projectTree.find? .root "/bin/flutter" =
      .ok (some ["bin", "flutter"], .file program true) :=
    (ground_projectTree.find?_eq_file_iff (by decide)).mpr
      ⟨by decide, by decide, Path.endsInName_entry "/bin" (n := "flutter") (by decide), rfl⟩
  have hrunnable : projectHost.isProgram "/bin/flutter" = true := by
    rw [Host.isProgram, show projectHost.files.find? projectHost.workingDirectory _ = _ from hfound]
  have hprogram : projectHost.findProgram? "flutter" = some "/bin/flutter" :=
    List.find?_cons_of_pos hrunnable
  have hdirectory : projectHost.startDirectory (some "/") = .ok .root :=
    (ground_projectTree.standpoint_eq_ok_iff (by decide)).mpr ⟨by decide, rfl, by decide⟩
  have hstart : projectHost.start "/bin/flutter" ["build", "windows", "--release"] (some "/") =
      .ok ⟨["bin", "flutter"], ["build", "windows", "--release"], .root⟩ := by
    rw [Host.start, hdirectory]
    simp only
    rw [if_pos (by decide), Launch.ofPath, Launch.start,
      show projectHost.files.find? .root _ = _ from hfound]
    exact if_pos isNative_program
  rw [Host.flutterRun, hprogram]
  simp only [Host.attempted, Host.attempt]
  rw [show ("--" ++ BuildMode.release.name) = "--release" from rfl, hstart]
  rfl

theorem leftBy_flutterRun : projectHost.leftBy (projectHost.flutterRun "/" .release).result = builtHost := by
  have hroot : Standpoint.root.settle builtHost.files = .root :=
    Standpoint.settle_of_hasDirectory rfl
  rw [flutterRun_projectHost]
  exact congrArg (fun s => { builtHost with workingDirectory := s }) hroot

def projectPlaces : Script.Places where
  app := Path.text builtApp
  output := Path.text scriptDirectory
  staging := Path.text stagingPlace
  system := "C:\\Windows/System32"

def projectScript : String := Script.Request.scriptPath projectPlaces

theorem places_builtHost (hmode : c.buildMode = .release) (hid : c.id = sampleConfig.id)
    (lines : List LogLine) (runs : List ToolRun) :
    perform (scriptRequest c "/").places { builtHost with log := lines, runs } =
      (.ok projectPlaces, { builtHost with log := lines, runs }) := by
  have hst : Host.Standing { builtHost with log := lines, runs } [] := ⟨rfl, ground_builtHost⟩
  refine Script.Request.perform_places_eq_ok_iff.mpr ⟨rfl, [], hst.currentDirectory, ?_⟩
  simp only [Script.Request.placesFrom, Script.Request.projectFrom, scriptRequest, hmode, hid]
  decide

theorem scripted_builtHost (hmode : c.buildMode = .release) (hid : c.id = sampleConfig.id)
    (hicon : c.icon = .standard) (hv : c.vcRedist = false) (lines : List LogLine)
    (runs : List ToolRun) :
    ∃ written, Scripted c "/" { builtHost with log := lines, runs } projectScript written := by
  have hplaces := places_builtHost hmode hid lines runs
  have hst : Host.Standing { builtHost with log := lines, runs } [] := ⟨rfl, ground_builtHost⟩
  have hfiles : Host.files { builtHost with log := lines, runs } = builtHost.files := rfl
  generalize { builtHost with log := lines, runs } = h at hplaces hst hfiles ⊢
  have happ : Path.Straight projectPlaces.app := Path.straight_text (by decide)
  have hbuilt : ∀ k : Host, k.Standing [] → k.files.get? builtApp = some .directory →
      k.isDirectory projectPlaces.app = true := by
    intro k hk hd
    refine (hk.isDirectory_iff happ).mpr ⟨by decide, ?_⟩
    rw [projectPlaces, Path.locate_text (by decide), hd]
  obtain ⟨h₁, hicon₁, hst₁, hsame⟩ := Action.writeFile_entry (l := stagingPlace)
    (n := "installer.ico") hst (by decide) (by decide) (by decide)
    (by rw [hfiles]; rfl) (by rw [hfiles]; rfl) DefaultIcon.content
  rw [hfiles] at hsame
  obtain ⟨text, rendered, hrender⟩ := Script.Request.render_of_writeFile hplaces hicon hv happ
    (hbuilt h hst (by rw [hfiles]; rfl)) hst₁ hicon₁
    (hbuilt h₁ hst₁ (by rw [hsame _ (by decide)]; rfl))
  have hst₂ : Host.Standing { h₁ with log := rendered } [] := ⟨hst₁.workingDirectory, hst₁.ground⟩
  obtain ⟨h₂, hscript, _⟩ := Action.writeFile_entry (l := scriptDirectory) (n := Layout.scriptName)
    hst₂ (by decide) Script.Request.isName_scriptName (by decide)
    (by rw [hsame _ (by decide)]; rfl) (by rw [hsame _ (by decide)]; rfl)
    (Script.Request.scriptContent text)
  obtain ⟨written, hb, _⟩ := Script.Request.build_of_ok hplaces hrender hscript
  exact ⟨written, scripted_of_build hb⟩

theorem run_build_in_order_sample :
    let o := BuildOptions.ofGiven .empty
    Command.ofArguments ["build"] = .ok (.build o) ∧ o.objection? = none ∧
      ∃ outcome h' launch result, (run ["build"]).run projectHost = (outcome, h') ∧
        h'.runs = [⟨.flutter, ["build", "windows", "--release"], some "/", .ended launch (some 0)⟩,
          ⟨.compiler, [projectScript], none, result⟩] ∧
        (outcome.exitCode = 0 ↔ result.Succeeded) := by
  intro o
  have ha : Command.ofArguments ["build"] = .ok (.build o) := by decide
  have hv : o.objection? = none := by decide
  cases hr : (run ["build"]).run projectHost with
  | mk outcome h' =>
  obtain ⟨app, compiler, ready, hsteps⟩ := run_build_in_order ha hv hr
  obtain ⟨c, hc, hid, hicon, hlibraries⟩ := configured_projectHost (o := o) (by decide) rfl
  have hb : Builds projectHost o "/" c := ⟨hc, rfl, rfl⟩
  have happ := (hsteps.appAttempt (projectHost.flutterRun "/" .release)).mpr ⟨"/", c, hb, rfl, rfl⟩
  have hready : AppReady projectHost o "/" c := by
    refine ⟨hb, .inr ?_⟩
    rw [show o.buildMode = .release from rfl, flutterRun_projectHost]
    exact ⟨_, rfl⟩
  obtain ⟨written, hscript⟩ := scripted_builtHost hc.resolves.1 hid hicon hlibraries ready.log
    (projectHost.runs ++ app.toList)
  have hleft : leftAfter projectHost app = builtHost := by
    rw [happ]
    exact leftBy_flutterRun
  have hhost := hsteps.readyHost
  rw [hleft] at hhost
  rw [← show ready = _ from hhost] at hscript
  have hcompiler := (hsteps.compilerAttempt (written.compilerRun projectScript)).mpr
    ⟨"/", c, _, written, hready, hscript, rfl, rfl⟩
  refine ⟨ha, hv, outcome, h', ⟨["bin", "flutter"], ["build", "windows", "--release"], .root⟩,
    (written.compilerRun projectScript).result, rfl, ?_, ?_⟩
  · rw [hsteps.runs, happ, hcompiler, flutterRun_projectHost]
    rfl
  · rw [hsteps.succeeds]
    constructor
    · rintro ⟨project', c', hc', hflag | hflag | ⟨_, script', written', hscript', hcode⟩⟩
      · cases hflag
      · cases hflag
      · obtain ⟨rfl, rfl⟩ := hc.unique hc'
        have hbuilt := scripted_iff.mp hscript'
        rw [scripted_iff.mp hscript] at hbuilt
        cases hbuilt
        exact hcode.resolve_left nofun
    · intro hcode
      exact ⟨"/", c, hc, .inr (.inr ⟨hready, projectScript, written, hscript, .inr hcode⟩)⟩

end Sample

end FlutterInstaller.Cli
