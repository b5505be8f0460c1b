import FlutterInstaller.Proofs.Script.Libraries

/-!
Rendering in a tree without links. A rendered script is made of what the app's directory and the
system's hold; rendering prepares the staging directory and changes nothing apart from it; and where
the staging directory is prepared, rendering gives the text again and changes nothing at all.
-/
namespace FlutterInstaller.Script.Request

open FileSystem FlutterInstaller.Path FlutterInstaller.Action

/-- The directories of a run name places of which none lies in another, without going up, and the
run does not stand in the directory that it erases. -/
structure Site (r : Request) (p : Places) (w : Location) : Prop where
  app : Straight p.app
  staging : Straight p.staging
  output : Straight p.output
  system : Straight p.system
  app_staging : Apart (locate w p.app) (locate w p.staging)
  app_output : Apart (locate w p.app) (locate w p.output)
  staging_output : Apart (locate w p.staging) (locate w p.output)
  staging_system : Apart (locate w p.staging) (locate w p.system)
  output_system : Apart (locate w p.output) (locate w p.system)
  outside : r.config.vcRedist = true → ¬ locate w (Layout.libraryDirectory p.staging) <+: w

def iconOf (r : Request) (p : Places) : String :=
  match r.config.icon with
  | .custom place => Path.text place
  | .standard => Layout.iconPath p.staging

def partsOf (r : Request) (p : Places) (w : Location) (h : Host) : Parts where
  places := p
  icon := r.iconOf p
  children := (h.files.names (locate w p.app)).map (r.child h p.app)
  staged :=
    if r.config.vcRedist then
      (librariesIn h p.system Layout.runtimeLibraries).map (join (Layout.libraryDirectory p.staging))
    else []

section Paths

variable {staging : String}

theorem isName_icon : IsName "installer.ico" := by simp [IsName]

theorem straight_iconPath (h : Straight staging) : Straight (Layout.iconPath staging) :=
  straight_entry h isName_icon

theorem endsInName_iconPath (staging : String) : EndsInName (pieces (Layout.iconPath staging)) :=
  endsInName_entry staging isName_icon

theorem locate_iconPath (h : Straight staging) (w : Location) :
    locate w (Layout.iconPath staging) = locate w staging ++ ["installer.ico"] :=
  locate_entry h isName_icon w

theorem straight_libraryDirectory (h : Straight staging) :
    Straight (Layout.libraryDirectory staging) :=
  straight_entry h isName_libraryDirectory

theorem trimmed_libraryDirectory (staging : String) : Trimmed (Layout.libraryDirectory staging) :=
  trimmed_entry staging isName_libraryDirectory

theorem endsInName_libraryDirectory (staging : String) :
    EndsInName (pieces (Layout.libraryDirectory staging)) :=
  endsInName_entry staging isName_libraryDirectory

theorem locate_libraryDirectory (h : Straight staging) (w : Location) :
    locate w (Layout.libraryDirectory staging) = locate w staging ++ ["vcruntime"] :=
  locate_entry h isName_libraryDirectory w

theorem libraryDirectory_not_above_root (h : Straight staging) :
    ¬ locate [] (Layout.libraryDirectory staging) <+: [] := by
  rw [locate_libraryDirectory h, List.prefix_nil]
  simp

end Paths

/-- A staging directory from which a run can be repeated: the standard icon is there if it is used,
and the libraries are if they are shipped. -/
structure Prepared (r : Request) (p : Places) (w : Location) (h : Host) : Prop where
  standing : h.Standing w
  app : h.isDirectory p.app = true
  icon : r.config.icon = .standard → Storable (Layout.iconPath p.staging) ∧ ∃ executable,
    h.files.get? (locate w (Layout.iconPath p.staging)) = some (.file DefaultIcon.content executable)
  libraries : r.config.vcRedist = true → Valid (Layout.libraryDirectory p.staging) ∧
    (∀ name ∈ librariesIn h p.system Layout.runtimeLibraries,
      Storable (join (Layout.libraryDirectory p.staging) name)) ∧
    Stocked h.files.get? (locate w (Layout.libraryDirectory p.staging)) (locate w p.system)
      (librariesIn h p.system Layout.runtimeLibraries)

variable {r : Request} {p : Places} {w : Location} {h g h' : Host}

theorem children_congr (happ : Straight p.app) (hst : h.Standing w) (hst' : g.Standing w)
    (hget : ∀ n, h.files.get? (locate w p.app ++ [n]) = g.files.get? (locate w p.app ++ [n])) :
    (h.files.names (locate w p.app)).map (r.child h p.app) =
      (g.files.names (locate w p.app)).map (r.child g p.app) := by
  have hnames : h.files.names (locate w p.app) = g.files.names (locate w p.app) :=
    names_congr fun n => by rw [hget n]
  rw [← hnames]
  refine List.map_congr_left fun n hn => ?_
  have hname : IsName n :=
    hst.ground.isName (mem_names_iff.mp hn) n (List.mem_append_right _ List.mem_cons_self)
  have hdirectory : h.isDirectory (join p.app n) = g.isDirectory (join p.app n) := by
    refine hst.isDirectory_congr hst' (straight_entry happ hname) ?_
    rw [locate_entry happ hname, hget]
  rw [child, child, hdirectory]

theorem partsOf_congr_of_librariesIn (hsapp : Straight p.app) (hst : h.Standing w)
    (hst' : g.Standing w)
    (happ : ∀ n, h.files.get? (locate w p.app ++ [n]) = g.files.get? (locate w p.app ++ [n]))
    (hlibraries : r.config.vcRedist = true → librariesIn h p.system Layout.runtimeLibraries =
      librariesIn g p.system Layout.runtimeLibraries) :
    r.partsOf p w h = r.partsOf p w g := by
  rw [partsOf, partsOf, children_congr hsapp hst hst' happ]
  cases hv : r.config.vcRedist with
  | false => rfl
  | true => rw [hlibraries hv]

theorem partsOf_congr (hsite : r.Site p w) (hst : h.Standing w) (hst' : g.Standing w)
    (happ : ∀ n, h.files.get? (locate w p.app ++ [n]) = g.files.get? (locate w p.app ++ [n]))
    (hsystem : ∀ n,
      h.files.get? (locate w p.system ++ [n]) = g.files.get? (locate w p.system ++ [n])) :
    r.partsOf p w h = r.partsOf p w g :=
  partsOf_congr_of_librariesIn hsite.app hst hst' happ fun _ =>
    librariesIn_congr hst hst' hsite.system isName_libraries hsystem

theorem stageIcon_result {icon : String} (hr : perform (r.stageIcon p.staging) h = (.ok icon, h')) :
    icon = r.iconOf p := by
  rw [stageIcon] at hr
  rw [iconOf]
  cases hicon : r.config.icon with
  | custom place =>
    rw [hicon] at hr
    cases hr
    rfl
  | standard =>
    rw [hicon] at hr
    obtain ⟨_, _, _, hr⟩ := perform_bind_eq_ok.mp hr
    cases hr
    rfl

theorem stageIcon_eq_ok (hsite : r.Site p w) (hst : h.Standing w) {icon : String}
    (hr : perform (r.stageIcon p.staging) h = (.ok icon, h')) :
    icon = r.iconOf p ∧ h.Becomes w h'.files.get? h' ∧
      (∀ m, ¬ m <+: locate w (Layout.iconPath p.staging) →
        h'.files.get? m = h.files.get? m) ∧
      (r.config.icon = .standard → Storable (Layout.iconPath p.staging) ∧ ∃ executable,
        h'.files.get? (locate w (Layout.iconPath p.staging)) =
          some (.file DefaultIcon.content executable)) := by
  rw [stageIcon] at hr
  cases hicon : r.config.icon with
  | custom place =>
    rw [hicon] at hr
    cases hr
    exact ⟨by rw [iconOf, hicon], hst.becomes_self, fun m _ => rfl, by simp⟩
  | standard =>
    rw [hicon] at hr
    obtain ⟨_, h₁, hwrite, hr⟩ := perform_bind_eq_ok.mp hr
    simp only [Action.debug, Action.log, perform_modify_bind, perform_pure] at hr
    cases hr
    obtain ⟨hbecomes, hstorable, _⟩ := writeFile_eq_ok hst
      (straight_iconPath hsite.staging) (endsInName_iconPath p.staging) hwrite
    refine ⟨by rw [iconOf, hicon], hbecomes.view ▸ hbecomes.log _, fun m hm => ?_, fun _ => ?_⟩
    · dsimp only
      rw [hbecomes.view]
      exact View.put_of_not_prefix hm
    · dsimp only
      rw [hbecomes.view]
      exact ⟨hstorable, _, View.put_self _ _ _⟩

theorem stageIcon_of_writeFile {staging : String} (hicon : r.config.icon = .standard)
    (hw : perform (writeFile (Layout.iconPath staging) DefaultIcon.content) h = (.ok (), h')) :
    ∃ lines, perform (r.stageIcon staging) h =
      (.ok (Layout.iconPath staging), { h' with log := lines }) := by
  rw [stageIcon, hicon]
  exact ⟨_, perform_bind_of_ok hw⟩

theorem stageIcon_of_prepared (hsite : r.Site p w) (hp : r.Prepared p w h) :
    ∃ h', perform (r.stageIcon p.staging) h = (.ok (r.iconOf p), h') ∧
      h.Becomes w h.files.get? h' := by
  have hst := hp.standing
  rw [iconOf]
  cases hicon : r.config.icon with
  | custom place =>
    rw [stageIcon, hicon]
    exact ⟨h, rfl, hst.becomes_self⟩
  | standard =>
    obtain ⟨hstorable, executable, hget⟩ := hp.icon hicon
    obtain ⟨h₁, hwrite, hbecomes⟩ := writeFile_again hst (straight_iconPath hsite.staging)
      (endsInName_iconPath p.staging) hstorable hget
    obtain ⟨lines, hstage⟩ := stageIcon_of_writeFile hicon hwrite
    exact ⟨_, hstage, hbecomes.log lines⟩

theorem Site.library_system (hsite : r.Site p w) :
    Apart (locate w (Layout.libraryDirectory p.staging)) (locate w p.system) := by
  have happend := hsite.staging_system.append_left ["vcruntime"]
  rwa [← locate_libraryDirectory hsite.staging] at happend

theorem stagedLibraries_eq_ok (hsite : r.Site p w) (hst : h.Standing w) {staged : List String}
    (hr : perform (r.stagedLibraries p) h = (.ok staged, h')) :
    staged = (r.partsOf p w h).staged ∧ h.Becomes w h'.files.get? h' ∧
      (∀ m, Apart (locate w (Layout.libraryDirectory p.staging)) m →
        h'.files.get? m = h.files.get? m) ∧
      (r.config.vcRedist = true → Valid (Layout.libraryDirectory p.staging) ∧
        (∀ name ∈ librariesIn h p.system Layout.runtimeLibraries,
          Storable (join (Layout.libraryDirectory p.staging) name)) ∧
        Stocked h'.files.get? (locate w (Layout.libraryDirectory p.staging)) (locate w p.system)
          (librariesIn h p.system Layout.runtimeLibraries)) := by
  rw [stagedLibraries] at hr
  cases hv : r.config.vcRedist with
  | false =>
    rw [hv] at hr
    cases hr
    exact ⟨by simp [partsOf, hv], hst.becomes_self, fun m _ => rfl, by simp⟩
  | true =>
    rw [hv, if_pos rfl] at hr
    obtain ⟨staged', h₁, log, hfresh, rfl, rfl⟩ := stageFresh_of_stageLibraries hr
    obtain ⟨hbecomes, hflatten, hvalid, hstorable, hstocked, hframe⟩ :=
      stageFresh_eq_ok hsite.system (straight_libraryDirectory hsite.staging)
        (trimmed_libraryDirectory p.staging) (endsInName_libraryDirectory p.staging)
        hsite.library_system (hsite.outside hv) hst hfresh
    exact ⟨by simp [partsOf, hv, hflatten], hbecomes.log log, hframe,
      fun _ => ⟨hvalid, hstorable, hstocked⟩⟩

theorem stagedLibraries_of_prepared (hsite : r.Site p w) (hp : r.Prepared p w h) :
    ∃ h', perform (r.stagedLibraries p) h = (.ok (r.partsOf p w h).staged, h') ∧
      h.Becomes w h.files.get? h' := by
  have hst := hp.standing
  suffices hsuff : ∃ staged h', perform (r.stagedLibraries p) h = (.ok staged, h') by
    obtain ⟨staged, h', hr⟩ := hsuff
    obtain ⟨rfl, hbecomes, hframe, hstocked⟩ := stagedLibraries_eq_ok hsite hst hr
    refine ⟨h', hr, ?_⟩
    cases hv : r.config.vcRedist with
    | false =>
      have hnone : perform (r.stagedLibraries p) h = (.ok [], h) := by
        rw [stagedLibraries, hv]
        rfl
      rw [hr] at hnone
      cases (Prod.mk.inj hnone).2
      exact hst.becomes_self
    | true =>
      have hsame : h'.files.get? = h.files.get? :=
        (hp.libraries hv).2.2.eq (hstocked hv).2.2 hsite.library_system hframe
      exact hsame ▸ hbecomes
  rw [stagedLibraries]
  cases hv : r.config.vcRedist with
  | false => exact ⟨[], h, rfl⟩
  | true =>
    obtain ⟨hvalid, hstorable, hstocked⟩ := hp.libraries hv
    obtain ⟨staged, h', hfresh⟩ := stageFresh_of_directory hsite.system
      (straight_libraryDirectory hsite.staging) (trimmed_libraryDirectory p.staging)
      (endsInName_libraryDirectory p.staging) hsite.library_system (hsite.outside hv) hst hvalid
      (hstocked.above _ List.prefix_rfl) hstorable
    obtain ⟨log, hr⟩ := stageLibraries_of_stageFresh hfresh
    exact ⟨_, _, hr⟩

theorem childNames_eq_ok_iff (hst : h.Standing w) {app : String} (happ : Straight app)
    {names : List String} :
    perform (childNames app) h = (.ok names, h') ↔
      h.isDirectory app = true ∧ names = h.files.names (locate w app) ∧ h' = h := by
  rw [childNames, perform_get_bind, hst.workingDirectory, hst.isDirectory_iff happ,
    perform_bind_eq_ok]
  constructor
  · rintro ⟨s, h₁, hs, hr⟩
    obtain ⟨hs, rfl⟩ := Project.perform_ofFile_eq_ok.mp hs
    obtain ⟨hvalid, hget, rfl⟩ := (hst.ground.standpoint_eq_ok_iff happ).mp hs
    cases hr
    exact ⟨⟨hvalid, hget⟩, rfl, rfl⟩
  · rintro ⟨⟨hvalid, hget⟩, rfl, rfl⟩
    have hs := (hst.ground.standpoint_eq_ok_iff happ).mpr ⟨hvalid, hget, rfl⟩
    exact ⟨_, _, Project.perform_ofFile_eq_ok.mpr ⟨hs, rfl⟩, rfl⟩

theorem Prepared.of_view (hsite : r.Site p w) (hp : r.Prepared p w h) (hst : g.Standing w)
    (hview : g.files.get? = h.files.get?) : r.Prepared p w g where
  standing := hst
  app := by
    rw [← hp.app]
    exact hst.isDirectory_congr hp.standing hsite.app (by rw [hview])
  icon := fun hicon => by
    rw [hview]
    exact hp.icon hicon
  libraries := fun hv => by
    have hsame : librariesIn g p.system Layout.runtimeLibraries =
        librariesIn h p.system Layout.runtimeLibraries :=
      librariesIn_congr hst hp.standing hsite.system isName_libraries fun name => by rw [hview]
    rw [hview, hsame]
    exact hp.libraries hv

theorem Prepared.of_put (hsite : r.Site p w) (hp : r.Prepared p w h) (hst : g.Standing w)
    {t : Location} {e : Entry}
    (hview : g.files.get? = View.put h.files.get? (locate w p.output ++ t) e) :
    r.Prepared p w g ∧ r.partsOf p w g = r.partsOf p w h := by
  have happ := hsite.app_output.append_right t
  have hsystem := hsite.output_system.symm.append_right t
  have hicon := (hsite.staging_output.append_left ["installer.ico"]).append_right t
  have hlibrary := (hsite.staging_output.append_left ["vcruntime"]).append_right t
  rw [← locate_iconPath hsite.staging] at hicon
  rw [← locate_libraryDirectory hsite.staging] at hlibrary
  have happSame : ∀ n,
      g.files.get? (locate w p.app ++ [n]) = h.files.get? (locate w p.app ++ [n]) := fun n => by
    rw [hview, View.put_of_not_prefix (happ.append_left [n]).1]
  have hsystemSame : ∀ n,
      g.files.get? (locate w p.system ++ [n]) = h.files.get? (locate w p.system ++ [n]) :=
    fun n => by rw [hview, View.put_of_not_prefix (hsystem.append_left [n]).1]
  have hsame : librariesIn g p.system Layout.runtimeLibraries =
      librariesIn h p.system Layout.runtimeLibraries :=
    librariesIn_congr hst hp.standing hsite.system isName_libraries hsystemSame
  refine ⟨⟨hst, ?_, fun hstandard => ?_, fun hv => ?_⟩,
    partsOf_congr hsite hst hp.standing happSame hsystemSame⟩
  · rw [← hp.app]
    refine hst.isDirectory_congr hp.standing hsite.app ?_
    rw [hview, View.put_of_not_prefix happ.1]
  · rw [hview, View.put_of_not_prefix hicon.1]
    exact hp.icon hstandard
  · obtain ⟨hvalid, hstorable, hstocked⟩ := hp.libraries hv
    rw [hview, hsame]
    exact ⟨hvalid, hstorable, hstocked.put hlibrary hsystem⟩

theorem renderAt_eq_ok (hsite : r.Site p w) (hst : h.Standing w) {text : String}
    (hr : perform (r.renderAt p) h = (.ok text, h')) :
    text = (r.partsOf p w h).text r.config ∧ r.Prepared p w h' ∧ h.Becomes w h'.files.get? h' ∧
      ∀ m, Apart (locate w p.staging) m → h'.files.get? m = h.files.get? m := by
  obtain ⟨⟨p, icon, children, staged⟩, hp, ⟨happ, names, h₁, hicon, hnames, hchildren, hstaged⟩,
    rfl⟩ := perform_renderAt_eq_ok_iff.mp hr
  dsimp only at hp happ hicon hnames hchildren hstaged
  subst hp hchildren
  obtain ⟨rfl, hbecomes, hframe, hiconPut⟩ := stageIcon_eq_ok hsite hst hicon
  obtain ⟨_, rfl, _⟩ := (childNames_eq_ok_iff hbecomes.standing hsite.app).mp hnames
  have hlisted := hbecomes.log (r.listed h₁ p.app (h₁.files.names (locate w p.app))).log
  obtain ⟨rfl, hbecomes', hframe', hlibraries⟩ :=
    stagedLibraries_eq_ok hsite hlisted.standing hstaged
  have hiconFrame : ∀ m, Apart (locate w p.staging) m → h₁.files.get? m = h.files.get? m := by
    intro m hm
    have hm' := hm.append_left ["installer.ico"]
    rw [← locate_iconPath hsite.staging] at hm'
    exact hframe m hm'.2
  have hlibraryFrame : ∀ m, Apart (locate w p.staging) m → h'.files.get? m = h₁.files.get? m := by
    intro m hm
    have hm' := hm.append_left ["vcruntime"]
    rw [← locate_libraryDirectory hsite.staging] at hm'
    exact hframe' m hm'
  have happSame := fun n => hiconFrame _ (hsite.app_staging.symm.append_right [n])
  have hsystemSame := fun n => hiconFrame _ (hsite.staging_system.append_right [n])
  have hparts : r.partsOf p w h₁ = r.partsOf p w h :=
    partsOf_congr hsite hbecomes.standing hst happSame hsystemSame
  have hicons : Apart (locate w (Layout.libraryDirectory p.staging))
      (locate w (Layout.iconPath p.staging)) := by
    rw [locate_libraryDirectory hsite.staging, locate_iconPath hsite.staging]
    exact apart_of_ne (by decide)
  have hsame : librariesIn h' p.system Layout.runtimeLibraries =
      librariesIn h₁ p.system Layout.runtimeLibraries :=
    librariesIn_congr hbecomes'.standing hbecomes.standing hsite.system isName_libraries
      fun name => hlibraryFrame _ (hsite.staging_system.append_right [name])
  refine ⟨by rw [← hparts]; rfl, ⟨hbecomes'.standing, ?_, fun hstandard => ?_, fun hv => ?_⟩,
    hlisted.trans hbecomes', ?_⟩
  · rw [← happ]
    refine hbecomes'.standing.isDirectory_congr hst hsite.app ?_
    rw [hlibraryFrame _ hsite.app_staging.symm, hiconFrame _ hsite.app_staging.symm]
  · rw [hframe' _ hicons]
    exact hiconPut hstandard
  · rw [hsame]
    exact hlibraries hv
  · intro m hm
    rw [hlibraryFrame m hm, hiconFrame m hm]

theorem renderAt_of_prepared (hsite : r.Site p w) (hp : r.Prepared p w h) :
    ∃ h', perform (r.renderAt p) h = (.ok ((r.partsOf p w h).text r.config), h') ∧
      h.Becomes w h.files.get? h' := by
  obtain ⟨h₁, hicon, hbecomes⟩ := stageIcon_of_prepared hsite hp
  have hlisted := hbecomes.log (r.listed h₁ p.app (h₁.files.names (locate w p.app))).log
  have happ₁ := (hp.of_view hsite hbecomes.standing hbecomes.view).app
  have hnames : perform (childNames p.app) h₁ =
      (.ok (h₁.files.names (locate w p.app)), h₁) :=
    (childNames_eq_ok_iff hbecomes.standing hsite.app).mpr ⟨happ₁, rfl, rfl⟩
  obtain ⟨h₂, hstaged, hbecomes'⟩ := stagedLibraries_of_prepared hsite
    (hp.of_view hsite hlisted.standing hlisted.view)
  have hr : perform (r.renderAt p) h = (.ok ((r.partsOf p w h₁).text r.config), h₂) :=
    perform_renderAt_eq_ok_iff.mpr
      ⟨r.partsOf p w h₁, rfl, ⟨hp.app, _, h₁, hicon, hnames, rfl, hstaged⟩, rfl⟩
  have hbecomes₂ := hlisted.trans hbecomes'
  rw [(renderAt_eq_ok hsite hp.standing hr).1] at hr
  dsimp only at hbecomes₂
  rw [hbecomes.view] at hbecomes₂
  exact ⟨h₂, hr, hbecomes₂⟩

theorem render_of_stageFresh {place : Location} {names : List String} {staged : List (List String)}
    {h₁ : Host} (hp : perform r.places h = (.ok p, h)) (hicon : r.config.icon = .custom place)
    (hv : r.config.vcRedist = true) (happ : h.isDirectory p.app = true)
    (hnames : perform (childNames p.app) h = (.ok names, h))
    (hfresh : perform (stageFresh p.system (Layout.libraryDirectory p.staging))
      (r.listed h p.app names) = (.ok staged, h₁)) :
    ∃ lines, perform r.render h = (.ok (Parts.text ⟨p, Path.text place,
      names.map (r.child h p.app), staged.flatten⟩ r.config), { h₁ with log := lines }) := by
  obtain ⟨lines, hlibraries⟩ := stageLibraries_of_stageFresh hfresh
  have hstageIcon : perform (r.stageIcon p.staging) h = (.ok (Path.text place), h) := by
    rw [stageIcon, hicon]
    rfl
  have hstaged : perform (r.stagedLibraries p) (r.listed h p.app names) =
      (.ok staged.flatten, { h₁ with log := lines }) := by
    rw [stagedLibraries, if_pos hv, hlibraries]
  exact ⟨lines, perform_render_eq_ok_iff.mpr
    ⟨⟨p, _, _, _⟩, ⟨⟨happ, names, h, hstageIcon, hnames, rfl, hstaged⟩, hp⟩, rfl⟩⟩

theorem render_of_writeFile {h₁ : Host} (hp : perform r.places h = (.ok p, h))
    (hicon : r.config.icon = .standard) (hv : r.config.vcRedist = false) (happ : Straight p.app)
    (hd : h.isDirectory p.app = true) (hst : h₁.Standing w)
    (hw : perform (writeFile (Layout.iconPath p.staging) DefaultIcon.content) h = (.ok (), h₁))
    (hd₁ : h₁.isDirectory p.app = true) :
    ∃ text lines, perform r.render h = (.ok text, { h₁ with log := lines }) := by
  obtain ⟨lines, hstageIcon⟩ := stageIcon_of_writeFile hicon hw
  have hst' : Host.Standing { h₁ with log := lines } w := ⟨hst.workingDirectory, hst.ground⟩
  have hnames := (childNames_eq_ok_iff hst' happ).mpr ⟨hd₁, rfl, rfl⟩
  have hstaged : ∀ k, perform (r.stagedLibraries p) k = (.ok [], k) := by
    intro k
    rw [stagedLibraries, hv]
    rfl
  let parts : Parts := ⟨p, Layout.iconPath p.staging,
    (h₁.files.names (locate w p.app)).map (r.child { h₁ with log := lines } p.app), []⟩
  have hcollects : r.Collects h parts _ := ⟨hd, _, _, hstageIcon, hnames, rfl, hstaged _⟩
  exact ⟨parts.text _, _, perform_render_eq_ok_iff.mpr ⟨parts, ⟨hcollects, hp⟩, rfl⟩⟩

end FlutterInstaller.Script.Request
