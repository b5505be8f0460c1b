import FlutterInstaller.Proofs.Config.Precedence
import FlutterInstaller.Proofs.Host.Grafts
import FlutterInstaller.Proofs.Host.Removal
import FlutterInstaller.Proofs.Script.Building

/-!
What a build does to a tree without links. It grafts the standard icon, the libraries and the script,
each settled by what the host held before the build; and it has left the run without a working
directory if that lay in the directory that is erased.
-/
namespace FlutterInstaller.Script.Request

open FileSystem FlutterInstaller.Path FlutterInstaller.Action Host

/-- The directories of a run name places without going up, and what is staged lies apart from all that
is read and from the script. -/
structure Premises (p : Places) (w : Location) : Prop where
  app : Straight p.app
  staging : Straight p.staging
  output : Straight p.output
  staging_app : Apart (locate w p.staging) (locate w p.app)
  staging_output : Apart (locate w p.staging) (locate w p.output)

structure Setting (r : Request) (p : Places) (w : Location) : Prop extends Premises p w where
  system : r.config.vcRedist = true →
    Straight p.system ∧ Apart (locate w p.staging) (locate w p.system)
  outside : r.config.vcRedist = true → ¬ locate w (Layout.libraryDirectory p.staging) <+: w

def iconGrafts (r : Request) (p : Places) (w : Location) (h : Host) : List Graft :=
  let l := locate w (Layout.iconPath p.staging)
  match r.config.icon with
  | .custom _ => []
  | .standard => [.file l DefaultIcon.content (h.files.executableAt l)]

def libraryGrafts (r : Request) (p : Places) (w : Location) (h : Host) : List Graft :=
  if r.config.vcRedist then
    [.stock (locate w (Layout.libraryDirectory p.staging)) fun name =>
      if name ∈ librariesIn h p.system Layout.runtimeLibraries then
        h.files.get? (locate w p.system ++ [name])
      else none]
  else []

def scriptGraft (r : Request) (p : Places) (w : Location) (h : Host) : Graft :=
  let l := locate w (scriptPath p)
  .file l (scriptContent ((r.partsOf p w h).text r.config)) (h.files.executableAt l)

def grafts (r : Request) (p : Places) (w : Location) (h : Host) : List Graft :=
  r.iconGrafts p w h ++ r.libraryGrafts p w h ++ [r.scriptGraft p w h]

def emptied (r : Request) (p : Places) (w : Location) (h : Host) : View :=
  let l := locate w (Layout.libraryDirectory p.staging)
  View.raise (View.erase (View.grafts h.files.get? (r.iconGrafts p w h)) l) l

variable {r : Request} {p : Places} {w : Location} {h g h' : Host} {text path : String}

section Places

theorem locate_scriptPath (hs : Straight p.output) (w : Location) :
    locate w (scriptPath p) = locate w p.output ++ [Layout.scriptName] :=
  locate_entry hs isName_scriptName w

theorem Premises.apart_script (hpremises : Premises p w) {m : Location}
    (hm : Apart (locate w p.output) m) : Apart (locate w (scriptPath p)) m := by
  rw [locate_scriptPath hpremises.output]
  exact hm.append_left _

theorem Premises.apart_libraries (hpremises : Premises p w) {m : Location}
    (hm : Apart (locate w p.staging) m) :
    Apart (locate w (Layout.libraryDirectory p.staging)) m := by
  rw [locate_libraryDirectory hpremises.staging]
  exact hm.append_left _

theorem Setting.library_system (hset : r.Setting p w) (hv : r.config.vcRedist = true) :
    Apart (locate w (Layout.libraryDirectory p.staging)) (locate w p.system) :=
  hset.apart_libraries (hset.system hv).2

theorem place_of_mem_iconGrafts {k : Graft} (hk : k ∈ r.iconGrafts p w h) :
    k.place = locate w (Layout.iconPath p.staging) := by
  rw [iconGrafts] at hk
  cases hicon : r.config.icon with
  | custom place =>
    rw [hicon] at hk
    cases hk
  | standard =>
    rw [hicon] at hk
    obtain rfl := List.mem_singleton.mp hk
    rfl

theorem staging_of_mem_grafts (hs : Straight p.staging) {k : Graft}
    (hk : k ∈ r.iconGrafts p w h ++ r.libraryGrafts p w h) :
    locate w p.staging <+: k.place := by
  rcases List.mem_append.mp hk with hk | hk
  · rw [place_of_mem_iconGrafts hk, locate_iconPath hs]
    exact List.prefix_append _ _
  · rw [libraryGrafts] at hk
    split at hk
    · obtain rfl := List.mem_singleton.mp hk
      exact locate_libraryDirectory hs w ▸ List.prefix_append _ _
    · cases hk

theorem apart_of_mem_grafts (hs : Straight p.staging) {m : Location}
    (hm : Apart (locate w p.staging) m) {k : Graft}
    (hk : k ∈ r.iconGrafts p w h ++ r.libraryGrafts p w h) : Apart k.place m := by
  obtain ⟨t, ht⟩ := staging_of_mem_grafts hs hk
  exact ht ▸ hm.append_left t

theorem iconGrafts_libraryDirectory (hs : Straight p.staging) :
    View.grafts h.files.get? (r.iconGrafts p w h) (locate w (Layout.libraryDirectory p.staging)) =
      h.files.get? (locate w (Layout.libraryDirectory p.staging)) := by
  apply View.grafts_of_apart
  intro k hk
  rw [place_of_mem_iconGrafts hk, locate_iconPath hs, locate_libraryDirectory hs]
  exact apart_of_ne (by decide)

theorem emptied_of_apart (hpremises : Premises p w) {m : Location}
    (hm : Apart (locate w p.staging) m) : r.emptied p w h m = h.files.get? m := by
  rw [emptied, View.raise_erase_of_apart (hpremises.apart_libraries hm)]
  exact View.grafts_of_apart fun k hk =>
    apart_of_mem_grafts hpremises.staging hm (List.mem_append_left _ hk)

theorem emptied_self (r : Request) (p : Places) (w : Location) (h : Host) :
    r.emptied p w h (locate w (Layout.libraryDirectory p.staging)) = some .directory :=
  if_pos List.prefix_rfl

theorem emptied_below (r : Request) (h : Host) {m : Location}
    (hm : locate w (Layout.libraryDirectory p.staging) <+: m)
    (hne : m ≠ locate w (Layout.libraryDirectory p.staging)) : r.emptied p w h m = none :=
  View.raise_erase_below hm hne

theorem prefix_of_mem_grafts (hset : r.Setting p w) {k : Graft} (hk : k ∈ r.grafts p w h) :
    locate w p.staging <+: k.place ∨ locate w p.output <+: k.place := by
  rcases List.mem_append.mp hk with hk | hk
  · exact .inl (staging_of_mem_grafts hset.staging hk)
  · obtain rfl := List.mem_singleton.mp hk
    have hplace : (r.scriptGraft p w h).place = locate w p.output ++ [Layout.scriptName] :=
      locate_scriptPath hset.output w
    exact .inr (hplace ▸ List.prefix_append _ _)

theorem libraryGrafts_congr (hset : r.Setting p w) (hst : h.Standing w) (hst' : g.Standing w)
    (happ : ∀ n, g.files.get? (locate w p.app ++ [n]) = h.files.get? (locate w p.app ++ [n]))
    (hsystem : r.config.vcRedist = true → ∀ n,
      g.files.get? (locate w p.system ++ [n]) = h.files.get? (locate w p.system ++ [n])) :
    r.libraryGrafts p w g = r.libraryGrafts p w h ∧ r.partsOf p w g = r.partsOf p w h := by
  have hlibraries (hv : r.config.vcRedist = true) :
      librariesIn g p.system Layout.runtimeLibraries =
        librariesIn h p.system Layout.runtimeLibraries :=
    librariesIn_congr hst' hst (hset.system hv).1 isName_libraries (hsystem hv)
  refine ⟨?_, partsOf_congr_of_librariesIn hset.app hst' hst happ hlibraries⟩
  unfold libraryGrafts
  split
  · next hv => simp only [hsystem hv, hlibraries hv]
  · rfl

theorem grafts_congr (hset : r.Setting p w) (hst : h.Standing w) (hst' : g.Standing w)
    (hsame : ∀ m, (∃ l ∈ [p.app, p.staging, p.output, p.system], locate w l <+: m) →
      g.files.get? m = h.files.get? m) :
    r.grafts p w g = r.grafts p w h ∧ r.partsOf p w g = r.partsOf p w h := by
  have happ : ∀ n, g.files.get? (locate w p.app ++ [n]) = h.files.get? (locate w p.app ++ [n]) :=
    fun n => hsame _ ⟨p.app, by simp, List.prefix_append _ _⟩
  have hsystem : ∀ n,
      g.files.get? (locate w p.system ++ [n]) = h.files.get? (locate w p.system ++ [n]) :=
    fun n => hsame _ ⟨p.system, by simp, List.prefix_append _ _⟩
  have hicon : g.files.get? (locate w (Layout.iconPath p.staging)) =
      h.files.get? (locate w (Layout.iconPath p.staging)) := by
    rw [locate_iconPath hset.staging]
    exact hsame _ ⟨p.staging, by simp, List.prefix_append _ _⟩
  have hscript : g.files.get? (locate w (scriptPath p)) =
      h.files.get? (locate w (scriptPath p)) := by
    rw [locate_scriptPath hset.output]
    exact hsame _ ⟨p.output, by simp, List.prefix_append _ _⟩
  obtain ⟨hlibraries, hparts⟩ := libraryGrafts_congr hset hst hst' happ fun _ => hsystem
  refine ⟨?_, hparts⟩
  simp only [grafts, iconGrafts, scriptGraft, executableAt, hicon, hscript, hlibraries, hparts]

end Places

section Steps

theorem stageIcon_grafts (hs : Straight p.staging) (hst : h.Standing w) {icon : String}
    (hr : perform (r.stageIcon p.staging) h = (.ok icon, h')) :
    h.Becomes w (View.grafts h.files.get? (r.iconGrafts p w h)) h' := by
  rw [stageIcon] at hr
  rw [iconGrafts]
  cases hicon : r.config.icon with
  | custom place =>
    rw [hicon] at hr
    cases hr
    exact hst.becomes_self
  | standard =>
    rw [hicon] at hr
    obtain ⟨_, h₁, hwrite, hr⟩ := perform_bind_eq_ok.mp hr
    simp only [Action.debug, Action.log, perform_modify_bind, perform_pure] at hr
    cases hr
    obtain ⟨hbecomes, _, hfree⟩ :=
      writeFile_eq_ok hst (straight_iconPath hs) (endsInName_iconPath p.staging) hwrite
    rw [hst.ground.put_eq_graft hfree] at hbecomes
    exact hbecomes.log _

theorem Stocked.eq_graft {v v' : View} {directory source : Location} {names : List String}
    (hs : Stocked v' directory source names) (hapart : Apart directory source)
    (hframe : ∀ m, Apart directory m → v' m = v m) :
    v' = v.graft (.stock directory fun name =>
      if name ∈ names then v (source ++ [name]) else none) := by
  apply View.eq_graft
  · intro t
    change v' (directory ++ t) = _
    cases t with
    | nil => exact hs.above _ (by simp)
    | cons name t =>
      have hempty (hnot : ∀ k ∈ names, directory ++ name :: t ≠ directory ++ [k]) :
          v' (directory ++ name :: t) = none := hs.empty _ (List.prefix_append _ _) (by simp) hnot
      cases t with
      | nil =>
        change _ = if name ∈ names then v (source ++ [name]) else none
        split
        · next hmem => rw [hs.copy name hmem, hframe _ (hapart.append_right [name])]
        · next hnot =>
          apply hempty
          intro k hk he
          have hname : name = k := by simpa using he
          exact hnot (hname ▸ hk)
      | cons name' t => exact hempty (by simp)
  · exact fun m hm _ => hs.above m hm
  · exact hframe

theorem stagedLibraries_grafts (hset : r.Setting p w) (hst : h.Standing w) {staged : List String}
    (hr : perform (r.stagedLibraries p) h = (.ok staged, h')) :
    staged = (r.partsOf p w h).staged ∧
      h.Becomes w (View.grafts h.files.get? (r.libraryGrafts p w h)) h' := by
  rw [stagedLibraries] at hr
  rw [libraryGrafts]
  cases hv : r.config.vcRedist with
  | false =>
    rw [hv] at hr
    cases hr
    exact ⟨by simp [partsOf, hv], hst.becomes_self⟩
  | true =>
    rw [hv, if_pos rfl] at hr
    obtain ⟨copies, h₁, log, hfresh, rfl, rfl⟩ := stageFresh_of_stageLibraries hr
    obtain ⟨hbecomes, hflatten, _, _, hstocked, hframe⟩ :=
      stageFresh_eq_ok (hset.system hv).1 (straight_libraryDirectory hset.staging)
        (trimmed_libraryDirectory p.staging) (endsInName_libraryDirectory p.staging)
        (hset.library_system hv) (hset.outside hv) hst hfresh
    rw [hstocked.eq_graft (hset.library_system hv) hframe] at hbecomes
    exact ⟨by simp [partsOf, hv, hflatten], hbecomes.log log⟩

theorem Collects.grafts {parts : Parts} (hset : r.Setting parts.places w) (hst : h.Standing w)
    (hc : r.Collects h parts h') :
    parts = r.partsOf parts.places w h ∧ h.Becomes w
      (View.grafts h.files.get? (r.iconGrafts parts.places w h ++ r.libraryGrafts parts.places w h))
        h' := by
  obtain ⟨p, icon, children, staged⟩ := parts
  obtain ⟨_, names, h₁, hicon, hnames, hchildren, hstaged⟩ := hc
  dsimp only at hset hicon hnames hchildren hstaged ⊢
  subst hchildren
  obtain rfl := stageIcon_result hicon
  have hbecomes := stageIcon_grafts hset.staging hst hicon
  obtain ⟨_, rfl, _⟩ := (childNames_eq_ok_iff hbecomes.standing hset.app).mp hnames
  have hlisted := hbecomes.log (r.listed h₁ p.app (h₁.files.names (locate w p.app))).log
  obtain ⟨rfl, hbecomes'⟩ := stagedLibraries_grafts hset hlisted.standing hstaged
  -- The icon is staged apart from the app and from the system.
  have hframe : ∀ m, Apart (locate w p.staging) m → h₁.files.get? m = h.files.get? m := by
    intro m hm
    rw [hbecomes.view]
    exact View.grafts_of_apart fun k hk =>
      apart_of_mem_grafts hset.staging hm (List.mem_append_left _ hk)
  obtain ⟨hlibraries, hparts⟩ := libraryGrafts_congr hset hst hbecomes.standing
    (fun n => hframe _ (hset.staging_app.append_right [n]))
    fun hv n => hframe _ ((hset.system hv).2.append_right [n])
  refine ⟨by rw [← hparts]; rfl, ?_⟩
  rw [View.grafts_append, ← hlibraries, ← hbecomes.view]
  exact hlisted.trans hbecomes'

theorem renderAt_grafts (hset : r.Setting p w) (hst : h.Standing w)
    (hr : perform (r.renderAt p) h = (.ok text, h')) :
    text = (r.partsOf p w h).text r.config ∧
      h.Becomes w (View.grafts h.files.get? (r.iconGrafts p w h ++ r.libraryGrafts p w h)) h' := by
  obtain ⟨parts, rfl, hc, rfl⟩ := perform_renderAt_eq_ok_iff.mp hr
  obtain ⟨hparts, hbecomes⟩ := hc.grafts hset hst
  exact ⟨congrArg (Parts.text · r.config) hparts, hbecomes⟩

theorem Gathers.eq_partsOf {parts : Parts} (hset : r.Setting p w) (hf : r.Finds h p w)
    (hg : r.Gathers h parts h') : parts = r.partsOf p w h := by
  have hplaces := hg.places
  rw [hf.places] at hplaces
  obtain rfl : p = parts.places := Except.ok.inj (Prod.mk.inj hplaces).1
  exact (hg.toCollects.grafts hset hf.standing).1

end Steps

/-- A build grafts what its directories settle and leaves the rest, and the script holds the text that
they settle. -/
theorem build_grafts (hf : r.Finds h p w) (hset : r.Setting p w)
    (hb : perform r.build h = (.ok path, h')) :
    path = scriptPath p ∧ h.Becomes w (View.grafts h.files.get? (r.grafts p w h)) h' ∧
      Holds h' path ((r.partsOf p w h).text r.config) := by
  obtain ⟨rfl, text, h₁, h₂, hr, hw, hlike⟩ := build_eq_ok hf.places hb
  rw [render, perform_bind_of_ok hf.places] at hr
  obtain ⟨rfl, hbecomes⟩ := renderAt_grafts hset hf.standing hr
  have hscript : Straight (scriptPath p) := straight_entry hset.output isName_scriptName
  have hend : EndsInName (pieces (scriptPath p)) := endsInName_entry p.output isName_scriptName
  obtain ⟨hbecomes₂, _, hfree⟩ := writeFile_eq_ok hbecomes.standing hscript hend hw
  rw [hbecomes.standing.ground.put_eq_graft hfree] at hbecomes₂
  have hkept : h₁.files.get? (locate w (scriptPath p)) = h.files.get? (locate w (scriptPath p)) := by
    rw [hbecomes.view, locate_scriptPath hset.output]
    exact View.grafts_of_apart fun k hk =>
      apart_of_mem_grafts hset.staging (hset.staging_output.append_right _) hk
  have hgraft : r.scriptGraft p w h = .file (locate w (scriptPath p))
      (scriptContent ((r.partsOf p w h).text r.config))
        (h₁.files.executableAt (locate w (scriptPath p))) := by
    rw [scriptGraft, executableAt, executableAt, hkept]
  refine ⟨rfl, (hbecomes.trans ?_).of_alike hlike, ?_⟩
  · rw [grafts, View.grafts_append, ← hbecomes.view, hgraft]
    exact hbecomes₂
  · have hread := read_of_writeFile hbecomes.standing hscript hend hw
    rwa [hlike.files.read, hlike.workingDirectory] at hread

/-- What a build needs to find: the app's directory, and the directories that it stages into and writes
the script into, with paths that the system takes. -/
structure Furnished (r : Request) (p : Places) (w : Location) (h : Host) : Prop where
  app : Valid p.app ∧ h.files.get? (locate w p.app) = some .directory
  icon : r.config.icon = .standard → Storable (Layout.iconPath p.staging) ∧
    h.files.get? (locate w p.staging) = some .directory ∧
    h.files.get? (locate w (Layout.iconPath p.staging)) ≠ some .directory
  libraries : r.config.vcRedist = true → Valid (Layout.libraryDirectory p.staging) ∧
    h.files.get? (locate w (Layout.libraryDirectory p.staging)) = some .directory ∧
    ∀ name ∈ Layout.runtimeLibraries, Storable (join (Layout.libraryDirectory p.staging) name)
  script : Storable (scriptPath p) ∧ h.files.get? (locate w p.output) = some .directory ∧
    h.files.get? (locate w (scriptPath p)) ≠ some .directory

theorem Furnished.of_get? (hset : Premises p w) (hfurnished : r.Furnished p w h)
    (hsame : ∀ m, (∃ l ∈ [p.app, p.staging, p.output], locate w l <+: m) →
      g.files.get? m = h.files.get? m) : r.Furnished p w g := by
  have hbelow {l : String} (hl : l ∈ [p.app, p.staging, p.output]) (t : Location) :
      g.files.get? (locate w l ++ t) = h.files.get? (locate w l ++ t) :=
    hsame _ ⟨l, hl, List.prefix_append _ _⟩
  have hself {l : String} (hl : l ∈ [p.app, p.staging, p.output]) :
      g.files.get? (locate w l) = h.files.get? (locate w l) := hsame _ ⟨l, hl, List.prefix_rfl⟩
  obtain ⟨happ, hicon, hlibraries, hscript⟩ := hfurnished
  rw [locate_iconPath hset.staging] at hicon
  rw [locate_libraryDirectory hset.staging] at hlibraries
  rw [locate_scriptPath hset.output] at hscript
  constructor
  · rwa [hself (by simp)]
  · rwa [locate_iconPath hset.staging, hself (by simp), hbelow (by simp)]
  · rwa [locate_libraryDirectory hset.staging, hbelow (by simp)]
  · rwa [locate_scriptPath hset.output, hself (by simp), hbelow (by simp)]

theorem Furnished.exists_stageIcon (hset : Premises p w) (hst : h.Standing w)
    (hfurnished : r.Furnished p w h) :
    ∃ h', perform (r.stageIcon p.staging) h = (.ok (r.iconOf p), h') := by
  suffices hsome : ∃ icon h', perform (r.stageIcon p.staging) h = (.ok icon, h') by
    obtain ⟨icon, h', hr⟩ := hsome
    exact ⟨h', stageIcon_result hr ▸ hr⟩
  cases hicon : r.config.icon with
  | custom place =>
    rw [stageIcon, hicon]
    exact ⟨_, h, rfl⟩
  | standard =>
    obtain ⟨hstorable, hd, hfree⟩ := hfurnished.icon hicon
    obtain ⟨h₁, hwrite⟩ := writeFile_of_storable hst (straight_iconPath hset.staging)
      (endsInName_iconPath p.staging) hstorable
      (by rwa [locate_iconPath hset.staging, List.dropLast_concat]) hfree DefaultIcon.content
    obtain ⟨lines, hr⟩ := stageIcon_of_writeFile hicon hwrite
    exact ⟨_, _, hr⟩

theorem exists_stagedLibraries (hset : r.Setting p w) (hst : h.Standing w)
    (hlibraries : r.config.vcRedist = true → Valid (Layout.libraryDirectory p.staging) ∧
      h.files.get? (locate w (Layout.libraryDirectory p.staging)) = some .directory ∧
      ∀ name ∈ Layout.runtimeLibraries, Storable (join (Layout.libraryDirectory p.staging) name)) :
    ∃ staged h', perform (r.stagedLibraries p) h = (.ok staged, h') := by
  rw [stagedLibraries]
  cases hv : r.config.vcRedist with
  | false => exact ⟨[], h, rfl⟩
  | true =>
    obtain ⟨hvalid, hd, hstorable⟩ := hlibraries hv
    obtain ⟨staged, h₁, hfresh⟩ := stageFresh_of_directory (hset.system hv).1
      (straight_libraryDirectory hset.staging) (trimmed_libraryDirectory p.staging)
      (endsInName_libraryDirectory p.staging) (hset.library_system hv) (hset.outside hv) hst hvalid hd
      fun name hname => hstorable name (List.mem_of_mem_filter hname)
    obtain ⟨lines, hr⟩ := stageLibraries_of_stageFresh hfresh
    exact ⟨_, _, hr⟩

theorem Furnished.exists_build_of_staged (hf : r.Finds h p w) (hpremises : Premises p w)
    (hfurnished : r.Furnished p w h) {k k' : Host} {staged : List String}
    (hicon : perform (r.stageIcon p.staging) h = (.ok (r.iconOf p), k))
    (hstaged : perform (r.stagedLibraries p)
      (r.listed k p.app (k.files.names (locate w p.app))) = (.ok staged, k'))
    (hst' : k'.Standing w)
    (hframe : ∀ t, k'.files.get? (locate w p.output ++ t) = h.files.get? (locate w p.output ++ t)) :
    ∃ h' e, perform r.build h = (.ok (scriptPath p), h') ∧
      k'.Becomes w (View.put k'.files.get? (locate w (scriptPath p)) e) h' := by
  have hst := hf.standing
  have hbecomes := stageIcon_grafts hpremises.staging hst hicon
  have happ : h.isDirectory p.app = true := (hst.isDirectory_iff hpremises.app).mpr hfurnished.app
  have happ' : k.isDirectory p.app = true := by
    rw [← happ]
    refine hbecomes.standing.isDirectory_congr hst hpremises.app ?_
    rw [hbecomes.view]
    exact View.grafts_of_apart fun j hj =>
      apart_of_mem_grafts hpremises.staging hpremises.staging_app (List.mem_append_left _ hj)
  have hnames := (childNames_eq_ok_iff hbecomes.standing hpremises.app).mpr ⟨happ', rfl, rfl⟩
  let children := (k.files.names (locate w p.app)).map (r.child k p.app)
  have hrender := perform_render_eq_ok_iff.mpr ⟨⟨p, r.iconOf p, children, staged⟩,
    ⟨⟨happ, _, k, hicon, hnames, rfl, hstaged⟩, hf.places⟩, rfl⟩
  obtain ⟨hstorable, hd, hfree⟩ := hfurnished.script
  have hplace := locate_scriptPath hpremises.output w
  have hparent : k'.files.get? (locate w (scriptPath p)).dropLast = some .directory := by
    have hself := hframe []
    rw [List.append_nil] at hself
    rw [hplace, List.dropLast_concat, hself, hd]
  have hs := straight_entry hpremises.output isName_scriptName
  have hend := endsInName_entry p.output isName_scriptName
  rw [hplace, ← hframe, ← hplace] at hfree
  obtain ⟨h₂, hw⟩ := writeFile_of_storable hst' hs hend hstorable hparent hfree (scriptContent _)
  obtain ⟨hbecomes', _⟩ := writeFile_eq_ok hst' hs hend hw
  obtain ⟨h', hb, hlike⟩ := build_of_ok hf.places hrender hw
  exact ⟨h', _, hb, hbecomes'.of_alike hlike⟩

theorem Furnished.exists_build (hf : r.Finds h p w) (hset : r.Setting p w)
    (hfurnished : r.Furnished p w h) : ∃ h', perform r.build h = (.ok (scriptPath p), h') := by
  obtain ⟨k, hicon⟩ := hfurnished.exists_stageIcon hset.toPremises hf.standing
  have hbecomes := (stageIcon_grafts hset.staging hf.standing hicon).log
    (r.listed k p.app (k.files.names (locate w p.app))).log
  obtain ⟨staged, k', hstaged⟩ := exists_stagedLibraries hset hbecomes.standing fun hv => by
    rw [hbecomes.view, iconGrafts_libraryDirectory hset.staging]
    exact hfurnished.libraries hv
  obtain ⟨_, hbecomes'⟩ := stagedLibraries_grafts hset hbecomes.standing hstaged
  obtain ⟨h', _, hb, _⟩ := hfurnished.exists_build_of_staged hf hset.toPremises hicon hstaged
    hbecomes'.standing fun t => by
      have happart := hset.staging_output.append_right t
      rw [hbecomes'.view, View.grafts_of_apart fun j hj =>
          apart_of_mem_grafts hset.staging happart (List.mem_append_right _ hj),
        hbecomes.view, View.grafts_of_apart fun j hj =>
          apart_of_mem_grafts hset.staging happart (List.mem_append_left _ hj)]
  exact ⟨h', hb⟩

theorem Furnished.exists_build_of_stageEach (hf : r.Finds h p w) (hpremises : Premises p w)
    (hfurnished : r.Furnished p w h) (hv : r.config.vcRedist = true)
    (hw : ¬ locate w (Layout.libraryDirectory p.staging) <+: w) {v : View}
    (hstage : ∀ k, h.Becomes w (r.emptied p w h) k →
      ∃ staged k', perform (Layout.runtimeLibraries.mapM
        (stageLibrary p.system (Layout.libraryDirectory p.staging))) k = (.ok staged, k') ∧
          k.Becomes w v k')
    (hframe : ∀ t, v (locate w p.output ++ t) = h.files.get? (locate w p.output ++ t)) :
    ∃ h' e, perform r.build h = (.ok (scriptPath p), h') ∧
      h.Becomes w (View.put v (locate w (scriptPath p)) e) h' := by
  obtain ⟨k, hicon⟩ := hfurnished.exists_stageIcon hpremises hf.standing
  have hlisted : h.Becomes w (View.grafts h.files.get? (r.iconGrafts p w h))
      (r.listed k p.app (k.files.names (locate w p.app))) :=
    (stageIcon_grafts hpremises.staging hf.standing hicon).log _
  obtain ⟨hvalid, hd, _⟩ := hfurnished.libraries hv
  rw [← iconGrafts_libraryDirectory hpremises.staging, ← hlisted.view] at hd
  have hs := straight_libraryDirectory hpremises.staging
  have hend := endsInName_libraryDirectory p.staging
  obtain ⟨k₁, hmake⟩ := makeDirectories_erase_of_directory hlisted.standing hs
    (trimmed_libraryDirectory _) hend hw hvalid hd
  obtain ⟨hbecomes, _⟩ := makeDirectories_erase_eq_ok hlisted.standing hs
    (trimmed_libraryDirectory _) hend hw hmake
  rw [hlisted.view] at hbecomes
  obtain ⟨staged, k₂, heach, hbecomes'⟩ := hstage k₁ (hlisted.trans hbecomes)
  have hfresh : perform (stageFresh p.system (Layout.libraryDirectory p.staging))
      (r.listed k p.app (k.files.names (locate w p.app))) = (.ok staged, k₂) := by
    rw [stageFresh, perform_bind_of_ok hmake]
    exact heach
  obtain ⟨lines, hlibraries⟩ := stageLibraries_of_stageFresh hfresh
  have hstaged : perform (r.stagedLibraries p)
      (r.listed k p.app (k.files.names (locate w p.app))) =
        (.ok staged.flatten, { k₂ with log := lines }) := by
    rw [stagedLibraries, if_pos hv, hlibraries]
  have hwhole := (hlisted.trans hbecomes).trans (hbecomes'.log lines)
  obtain ⟨h', e, hb, hput⟩ := hfurnished.exists_build_of_staged hf hpremises hicon hstaged
    hwhole.standing fun t => by rw [hwhole.view, hframe]
  rw [hwhole.view] at hput
  exact ⟨h', e, hb, hwhole.trans hput⟩

def Short (l : Location) : Prop :=
  (∀ n ∈ l, IsName n ∧ '\x00' ∉ n.toList ∧ n.utf8ByteSize ≤ nameLimit) ∧
    (l.map fun n => n.utf8ByteSize + 1).sum + 64 < pathLimit

instance (l : Location) : Decidable (Short l) :=
  inferInstanceAs (Decidable (_ ∧ _))

def appended : List Location :=
  [[], ["installer.ico"], ["vcruntime"], [Layout.scriptName]] ++
    Layout.runtimeLibraries.map fun name => ["vcruntime", name]

theorem Short.append {l t : Location} (hl : Short l) (ht : t ∈ appended) (w : Location) :
    Valid (Path.text (l ++ t)) ∧ locate w (Path.text (l ++ t)) = l ++ t := by
  have happended : ∀ t ∈ appended,
      (∀ n ∈ t, IsName n ∧ '\x00' ∉ n.toList ∧ n.utf8ByteSize ≤ nameLimit) ∧
        (t.map fun n => n.utf8ByteSize + 1).sum < 63 := by
    decide
  obtain ⟨hln, hlsize⟩ := hl
  obtain ⟨htn, htsize⟩ := happended t ht
  have hall : ∀ n ∈ l ++ t, IsName n ∧ '\x00' ∉ n.toList ∧ n.utf8ByteSize ≤ nameLimit :=
    fun n hn => (List.mem_append.mp hn).elim (hln n) (htn n)
  refine ⟨valid_text hall ?_, locate_text (fun n hn => (hall n hn).1) w⟩
  rw [List.map_append, List.sum_append]
  omega

theorem Short.self {l : Location} (hl : Short l) (w : Location) :
    Valid (Path.text l) ∧ locate w (Path.text l) = l := by
  have happend := hl.append (t := []) (by simp [appended]) w
  rwa [List.append_nil] at happend

theorem Short.join {l : Location} {n : String} (hl : Short l) (hn : IsName n) :
    join (Path.text l) n = Path.text (l ++ [n]) :=
  join_text (fun k hk => (hl.1 k hk).1) hn

theorem furnished_of_short {app output staging : Location} {system : String} (happ : Short app)
    (houtput : Short output) (hstaging : Short staging)
    (hd : ∀ l ∈ [app, output, staging, staging ++ ["vcruntime"]],
      h.files.get? l = some .directory)
    (hfree : ∀ l ∈ [staging ++ ["installer.ico"], output ++ [Layout.scriptName]],
      h.files.get? l = none) :
    r.Furnished ⟨Path.text app, Path.text output, Path.text staging, system⟩ w h := by
  constructor
  · rw [(happ.self w).2]
    exact ⟨(happ.self w).1, hd _ (by simp)⟩
  · obtain ⟨hv, hplace⟩ := hstaging.append (t := ["installer.ico"]) (by simp [appended]) w
    rw [Layout.iconPath, hstaging.join isName_icon, hplace, (hstaging.self w).2,
      hfree (staging ++ _) (by simp)]
    exact fun _ => ⟨storable_of_valid hv, hd _ (by simp), by simp⟩
  · obtain ⟨hv, hplace⟩ := hstaging.append (t := ["vcruntime"]) (by simp [appended]) w
    rw [Layout.libraryDirectory, hstaging.join isName_libraryDirectory, hplace]
    refine fun _ => ⟨hv, hd _ (by simp), fun name hname => ?_⟩
    have hnames : ∀ n ∈ staging ++ ["vcruntime"], IsName n := by
      simpa [or_imp, forall_and, isName_libraryDirectory] using fun n hn => (hstaging.1 n hn).1
    rw [join_text hnames (isName_libraries name hname), List.append_assoc]
    exact storable_of_valid (hstaging.append (by simp [appended, hname]) w).1
  · obtain ⟨hv, hplace⟩ := houtput.append (t := [Layout.scriptName]) (by simp [appended]) w
    rw [scriptPath, houtput.join isName_scriptName, hplace, (houtput.self w).2,
      hfree (output ++ _) (by simp)]
    exact ⟨storable_of_valid hv, hd _ (by simp), by simp⟩

theorem outside_of_build (hf : r.Finds h p w) (hs : Straight p.staging)
    (hb : perform r.build h = (.ok path, h')) {w' : Location} (hw' : h'.currentDirectory = .ok w')
    (hv : r.config.vcRedist = true) : ¬ locate w (Layout.libraryDirectory p.staging) <+: w := by
  intro hin
  obtain ⟨_, text, h₁, h₂, hr, hwrite, hlike⟩ := build_eq_ok hf.places hb
  rw [render, perform_bind_of_ok hf.places] at hr
  obtain ⟨parts, rfl, hc, _⟩ := perform_renderAt_eq_ok_iff.mp hr
  obtain ⟨names, k, hicon, _, _, hstaged⟩ := hc.steps
  have hst : (r.listed k parts.places.app names).Standing w :=
    ((stageIcon_grafts hs hf.standing hicon).log _).standing
  rw [stagedLibraries, if_pos hv] at hstaged
  obtain ⟨_, _, _, hfresh, _, rfl⟩ := stageFresh_of_stageLibraries hstaged
  obtain ⟨_, k₁, hmake, heach⟩ := perform_bind_eq_ok.mp hfresh
  have hlost : 0 < k₁.workingDirectory.removed :=
    removed_of_makeDirectories hst (straight_libraryDirectory hs) (trimmed_libraryDirectory _)
      (endsInName_libraryDirectory _) hin hmake
  have hcopied := (Advances.mapM (stageLibrary_strays _ _) _).of_perform heach
  have hwritten := (writeFile_strays _ _).of_perform hwrite
  have hremoved : 0 < h'.workingDirectory.removed := by
    rw [← hlike.workingDirectory]
    exact (hlost.trans_le hcopied).trans_le hwritten
  rw [currentDirectory_of_removed hremoved] at hw'
  cases hw'

section Folder

def usualOutput : Location := ["build", "windows", "x64", "installer", "Release"]

def usualDirectories : List Location :=
  [["a"], ["build"], ["build", "windows"], ["build", "windows", "x64"],
    ["build", "windows", "x64", "installer"], usualOutput]

def folderEntry (isDirectory : Bool) : Entry :=
  if isDirectory then .directory else .file .empty false

def folderDirectories : List Location := ["s"] :: ["s", "vcruntime"] :: ["y"] :: usualDirectories

def folderBase : FileSystem :=
  (((ofDirectories folderDirectories).insert ["i"] (.file .empty false)).insert ["L"]
    (.file .empty false)).insert ["y", "msvcp140.dll"] (.file .empty false)

def folderTree : List (String × Bool) → FileSystem
  | [] => folderBase
  | c :: cs => (folderTree cs).insert ["a", c.1] (folderEntry c.2)

def folderHost (children : List (String × Bool)) (log : List LogLine := []) : Host :=
  { sampleHost [] with files := folderTree children, log }

variable {children : List (String × Bool)} {log : List LogLine} {names : List String}

theorem get?_folderTree_of_not_mem {n : String} (hn : n ∉ children.map Prod.fst) :
    (folderTree children).get? ["a", n] = none := by
  induction children with
  | nil =>
    rw [folderTree, folderBase, get?_insert _ _ (by simp), if_neg (by simp),
      get?_insert _ _ (by simp), if_neg (by simp), get?_insert _ _ (by simp), if_neg (by simp),
      get?_ofDirectories, if_neg]
    simp [folderDirectories, usualDirectories, usualOutput]
  | cons c cs ih =>
    rw [List.map_cons, List.mem_cons, not_or] at hn
    rw [folderTree, get?_insert _ _ (by simp), if_neg (by simpa using hn.1), ih hn.2]

theorem get?_folderTree_of_mem (hnodup : (children.map Prod.fst).Nodup) {c : String × Bool}
    (hc : c ∈ children) : (folderTree children).get? ["a", c.1] = some (folderEntry c.2) := by
  induction children with
  | nil => cases hc
  | cons d ds ih =>
    rw [List.map_cons, List.nodup_cons] at hnodup
    rw [folderTree, get?_insert _ _ (by simp)]
    rcases List.mem_cons.mp hc with rfl | hc
    · rw [if_pos rfl]
    · have hne : c.1 ≠ d.1 := fun he => hnodup.1 (he ▸ List.mem_map_of_mem hc)
      rw [if_neg (by simpa using hne), ih hnodup.2 hc]

theorem get?_folderTree {l : Location} (hl : ¬ ["a"] <+: l ∨ l = ["a"]) :
    (folderTree children).get? l = folderBase.get? l := by
  induction children with
  | nil => rfl
  | cons c cs ih =>
    rw [folderTree, get?_insert _ _ (by simp), if_neg, ih]
    rintro rfl
    simp at hl

theorem plain_folderBase : Plain folderBase := by
  have hinsert {fs : FileSystem} {l : Location} {n : String} (hplain : Plain fs)
      (hd : fs.get? l = some .directory) (hn : IsName n) (hfree : fs.get? (l ++ [n]) = none) :
      Plain (fs.insert (l ++ [n]) (.file .empty false)) :=
    hplain.insert hd hn (.inr (by simp [hfree])) (by simp)
  have hdirectories : Plain (ofDirectories folderDirectories) :=
    plain_ofDirectories (by decide) (by decide)
  exact hinsert (l := ["y"]) (hinsert (l := []) (hinsert (l := []) hdirectories rfl (by decide) rfl) rfl
    (by decide) rfl) rfl (by decide) rfl

theorem plain_folderTree (hnames : ∀ c ∈ children, IsName c.1)
    (hnodup : (children.map Prod.fst).Nodup) : Plain (folderTree children) := by
  induction children with
  | nil => exact plain_folderBase
  | cons c cs ih =>
    obtain ⟨hn, hnames⟩ := List.forall_mem_cons.mp hnames
    rw [List.map_cons, List.nodup_cons] at hnodup
    have hfree : (folderTree cs).get? (["a"] ++ [c.1]) = none :=
      get?_folderTree_of_not_mem hnodup.1
    refine (ih hnames hnodup.2).insert (l := ["a"]) (get?_folderTree (.inr rfl)) hn
      (.inr (by rw [hfree]; simp)) fun target => ?_
    cases c.2 <;> simp [folderEntry]

theorem get?_folderBase_system (n : String) : folderBase.get? ["y", n] =
    if n = "msvcp140.dll" then some (.file .empty false) else none := by
  rw [folderBase, get?_insert _ _ (by simp), get?_insert _ _ (by simp), get?_insert _ _ (by simp),
    get?_ofDirectories]
  simp [folderDirectories, usualDirectories, usualOutput]

structure Simple (children : List (String × Bool)) (names : List String) : Prop where
  named : ∀ c ∈ children, IsName c.1 ∧ Valid (join "/a" c.1)
  perm : names.Perm (children.map Prod.fst)
  sorted : names.Pairwise (· < ·)

theorem simple_of_sorted (hnamed : ∀ c ∈ children, IsName c.1 ∧ Valid (join "/a" c.1))
    (hsorted : (children.map Prod.fst).Pairwise (· < ·)) : Simple children (children.map Prod.fst) :=
  ⟨hnamed, .refl _, hsorted⟩

section Simple

variable (hs : Simple children names)

include hs

theorem Simple.nodup : (children.map Prod.fst).Nodup :=
  hs.perm.nodup_iff.mp (hs.sorted.imp fun hlt => hlt.ne)

theorem Simple.standing : (folderHost children log).Standing [] :=
  ⟨rfl, plain_folderTree (fun c hc => (hs.named c hc).1) hs.nodup, rfl⟩

theorem Simple.isDirectory (log : List LogLine) {c : String × Bool} (hc : c ∈ children) :
    (folderHost children log).isDirectory (join "/a" c.1) = c.2 := by
  obtain ⟨hname, hvalid⟩ := hs.named c hc
  have hl : locate [] (join "/a" c.1) = ["a", c.1] := locate_entry (by decide) hname []
  have hget : (folderTree children).get? ["a", c.1] = some (folderEntry c.2) :=
    get?_folderTree_of_mem hs.nodup hc
  rw [Bool.eq_iff_iff, hs.standing.isDirectory_iff (straight_entry (by decide) hname), hl]
  change _ ∧ (folderTree children).get? ["a", c.1] = _ ↔ _
  rw [hget, folderEntry]
  cases c.2 <;> simp [hvalid]

theorem Simple.names_eq : names = (folderTree children).names ["a"] := by
  refine (FileSystem.names_eq (fun n => ?_) hs.sorted).symm
  rw [hs.perm.mem_iff]
  constructor
  · intro hn
    obtain ⟨c, hc, rfl⟩ := List.mem_map.mp hn
    exact fun hnone => absurd ((get?_folderTree_of_mem hs.nodup hc).symm.trans hnone) nofun
  · intro hget
    by_contra hn
    exact hget (get?_folderTree_of_not_mem hn)

theorem Simple.librariesIn_eq :
    librariesIn (folderHost children log) "/y" Layout.runtimeLibraries = ["msvcp140.dll"] := by
  have hfile : ∀ n ∈ Layout.runtimeLibraries,
      (folderHost children log).isFile (join "/y" n) = (n == "msvcp140.dll") := by
    intro n hn
    have hname := isName_libraries n hn
    have hvalid : ∀ n ∈ Layout.runtimeLibraries, Valid (join "/y" n) := by decide
    have hl : locate [] (join "/y" n) = ["y", n] := locate_entry (by decide) hname []
    have hget : (folderHost children log).files.get? ["y", n] =
        if n = "msvcp140.dll" then some (.file .empty false) else none :=
      (get?_folderTree (.inl (by simp))).trans (get?_folderBase_system n)
    rw [Bool.eq_iff_iff, hs.standing.isFile_iff (straight_entry (by decide) hname), hl, hget, beq_iff_eq]
    constructor
    · rintro ⟨_, _, content, executable, hget⟩
      by_contra hne
      simp [hne] at hget
    · intro he
      exact ⟨hvalid n hn, endsInName_entry _ hname, .empty, false, if_pos he⟩
  rw [librariesIn, List.filter_congr hfile]
  decide

theorem Simple.map_child :
    names.map (r.child (folderHost children log) "/a") =
      names.map fun n => FileItem.ofChild r.config (join "/a" n) n (decide ((n, true) ∈ children)) := by
  refine List.map_congr_left fun n hn => ?_
  have hd : (folderHost children log).isDirectory (join "/a" n) = decide ((n, true) ∈ children) := by
    obtain ⟨⟨n, isDirectory⟩, hc, rfl⟩ := List.mem_map.mp (hs.perm.subset hn)
    cases isDirectory with
    | true => rw [hs.isDirectory log hc, decide_eq_true hc]
    | false =>
      have hnot : (n, true) ∉ children := fun ht =>
        Bool.false_ne_true ((hs.isDirectory log hc).symm.trans (hs.isDirectory log ht))
      rw [hs.isDirectory log hc, decide_eq_false hnot]
  rw [child, hd]

theorem Simple.leads_of_mem (hst : h.Standing [])
    (hget : ∀ n, h.files.get? ["a", n] = (folderTree children).get? ["a", n]) {c : String × Bool}
    (hc : c ∈ children) : h.isFile (join "/a" c.1) = true ∨ h.isDirectory (join "/a" c.1) = true := by
  obtain ⟨hname, hvalid⟩ := hs.named c hc
  have hl : locate [] (join "/a" c.1) = ["a", c.1] := locate_entry (by decide) hname []
  have hstraight : Straight (join "/a" c.1) := straight_entry (by decide) hname
  rw [hst.isFile_iff hstraight, hst.isDirectory_iff hstraight, hl, hget,
    get?_folderTree_of_mem hs.nodup hc]
  cases c.2 with
  | true => exact .inr ⟨hvalid, rfl⟩
  | false => exact .inl ⟨hvalid, endsInName_entry _ hname, .empty, false, rfl⟩

end Simple

/-- A request for the folder, which stages, if at all, into the directory made for it. -/
structure Suits (r : Request) (p : Places) : Prop where
  places : r.placesFrom (sampleHost []) [] = p
  app : p.app = "/a"
  output : p.output = Path.text usualOutput
  setting : r.Setting p []
  staging : r.config.icon = .standard ∨ r.config.vcRedist = true → p.staging = "/s"
  system : r.config.vcRedist = true → p.system = "/y"

def folderParts (r : Request) (p : Places) (children : List (String × Bool)) (names : List String) :
    Parts where
  places := p
  icon := r.iconOf p
  children := names.map fun n => FileItem.ofChild r.config (join "/a" n) n (decide ((n, true) ∈ children))
  staged := if r.config.vcRedist then ["/s/vcruntime/msvcp140.dll"] else []

section Suits

variable (hs : Simple children names) (hr : r.Suits p)

include hr

theorem Suits.furnished : r.Furnished p [] (folderHost children log) := by
  have happ : Short ["a"] := by decide
  have hstaging : Short ["s"] := by decide
  have hfurnished : r.Furnished
      ⟨Path.text ["a"], Path.text usualOutput, Path.text ["s"], p.system⟩ [] (folderHost children log) := by
    refine furnished_of_short happ (by decide) hstaging (fun l hl => ?_) fun l hl => ?_
    · simp only [List.mem_cons, List.not_mem_nil, or_false] at hl
      rcases hl with rfl | rfl | rfl | rfl
      · exact get?_folderTree (.inr rfl)
      all_goals exact get?_folderTree (.inl (by decide))
    · simp only [List.mem_cons, List.not_mem_nil, or_false] at hl
      rcases hl with rfl | rfl <;> exact get?_folderTree (.inl (by decide))
  have htexts : Path.text ["a"] = "/a" ∧ Path.text ["s"] = "/s" := by decide
  rw [htexts.1, htexts.2] at hfurnished
  obtain ⟨happ, hicon, hlibraries, hscript⟩ := hfurnished
  have hscript' : scriptPath p = scriptPath ⟨"/a", Path.text usualOutput, "/s", p.system⟩ := by
    rw [scriptPath, hr.output, scriptPath]
  constructor
  · rwa [hr.app]
  · intro hstandard
    rw [hr.staging (.inl hstandard)]
    exact hicon hstandard
  · intro hv
    rw [hr.staging (.inr hv)]
    exact hlibraries hv
  · rw [hscript', hr.output]
    exact hscript

include hs

theorem Simple.finds : r.Finds (folderHost children log) p [] where
  linkFree := hs.standing.ground.toPlain
  currentDirectory := hs.standing.currentDirectory
  places := perform_places_eq_ok_iff.mpr
    ⟨rfl, [], hs.standing.currentDirectory, hr.places.symm.trans rfl⟩

theorem Simple.exists_build (log : List LogLine) :
    ∃ h', perform r.build (folderHost children log) = (.ok (scriptPath p), h') :=
  hr.furnished.exists_build (hs.finds hr) hr.setting

theorem Simple.partsOf_eq :
    r.partsOf p [] (folderHost children log) = folderParts r p children names := by
  have hchildren : (folderHost children log).files.names (locate [] p.app) = names := by
    rw [hr.app, show locate [] "/a" = ["a"] by decide]
    exact hs.names_eq.symm
  have hstaged : r.config.vcRedist = true →
      (librariesIn (folderHost children log) p.system Layout.runtimeLibraries).map
        (join (Layout.libraryDirectory p.staging)) = ["/s/vcruntime/msvcp140.dll"] := by
    intro hv
    rw [hr.system hv, hr.staging (.inr hv), hs.librariesIn_eq]
    decide
  rw [partsOf, folderParts, hchildren, hr.app, hs.map_child]
  split
  · next hv => rw [hstaged hv]
  · rfl

theorem Simple.gathers_eq {parts : Parts} (hg : r.Gathers (folderHost children log) parts h') :
    parts = folderParts r p children names :=
  (hg.eq_partsOf hr.setting (hs.finds hr)).trans (hs.partsOf_eq hr)

theorem Simple.exists_render (log : List LogLine) :
    ∃ h', r.Gathers (folderHost children log) (folderParts r p children names) h' ∧
      perform r.render (folderHost children log) =
        (.ok ((folderParts r p children names).text r.config), h') := by
  obtain ⟨h', hb⟩ := hs.exists_build hr log
  obtain ⟨-, text, h₁, -, hrender, -⟩ := build_eq_ok (hs.finds hr).places hb
  obtain ⟨parts, hg, -⟩ := perform_render_eq_ok_iff.mp hrender
  rw [hs.gathers_eq hr hg] at hg
  exact ⟨h₁, hg, perform_render_eq_ok_iff.mpr ⟨_, hg, rfl⟩⟩

end Suits

def folderPlaces : Places := ⟨"/a", Path.text usualOutput, "/s", "/y"⟩

def fullRequest : Request where
  config := { sampleConfig with license := some ["L"], vcRedist := true }
  appDirectory := "/a"
  systemDirectory := some "/y"
  stagingDirectory := some "/s"

theorem suits_full : fullRequest.Suits folderPlaces where
  places := by decide
  app := rfl
  output := rfl
  setting := ⟨⟨by decide, by decide, by decide, by decide, by decide⟩, fun _ => ⟨by decide, by decide⟩,
    fun _ => by decide⟩
  staging _ := rfl
  system _ := rfl

def mixedChildren : List (String × Bool) := [("x", false), ("demo_app.exe", false), ("Data", true)]

def mixedNames : List String := ["Data", "demo_app.exe", "x"]

theorem simple_mixedChildren : Simple mixedChildren mixedNames :=
  ⟨by decide, by decide, by decide⟩

end Folder

end FlutterInstaller.Script.Request
