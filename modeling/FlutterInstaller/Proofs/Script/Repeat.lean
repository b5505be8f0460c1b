import FlutterInstaller.Proofs.Script.Effect

/-!
Generating a script again. Once a script was built, whatever is rendered or built after it gives the
same text and leaves the files as they are; and the text does not depend on what the staging directory
and the output directory held before.
-/
namespace FlutterInstaller.Script.Request

open FileSystem FlutterInstaller.Path FlutterInstaller.Action Host

variable {r : Request} {p : Places} {w : Location} {h g h' g' : Host} {text path : String}

/-- The directories of a run lie apart, the paths to those that are given do not go up, and the run
does not stand in the directory that it erases. -/
structure Separate (r : Request) (p : Places) (w : Location) : Prop where
  apart : ([p.app, p.staging, p.output, p.system].map (locate w)).Pairwise Apart
  staging : Straight p.staging
  system : Straight p.system
  outside : r.config.vcRedist = true → ¬ locate w (Layout.libraryDirectory p.staging) <+: w

theorem Separate.site (hs : r.Separate p w) (hf : r.Finds h p w) : r.Site p w := by
  have happ : Straight p.app := by
    rw [hf.places_eq]
    exact straight_text (isName_locate hf.isName_project _)
  have houtput : Straight p.output := by
    rw [hf.places_eq]
    exact straight_outputDirectory (straight_text hf.isName_project) _
  obtain ⟨happart, hrest⟩ := List.pairwise_cons.mp hs.apart
  obtain ⟨hstaging, hrest⟩ := List.pairwise_cons.mp hrest
  obtain ⟨hsystem, _⟩ := List.pairwise_cons.mp hrest
  exact ⟨happ, hs.staging, houtput, hs.system, happart _ (by simp), happart _ (by simp),
    hstaging _ (by simp), hstaging _ (by simp), hsystem _ (by simp), hs.outside⟩

def Renders (r : Request) (text : String) (h g : Host) : Prop :=
  ∃ g', perform r.render h = (.ok text, g') ∧ g.Alike g'

def Builds (r : Request) (path : String) (h g : Host) : Prop :=
  ∃ g', perform r.build h = (.ok path, g') ∧ g.Alike g'

variable {k : Host}

theorem Renders.of_alike (hr : r.Renders text h k) (hh : h.Alike h') (hk : k.Alike g) :
    r.Renders text h' g := by
  obtain ⟨k', hr, hk'⟩ := hr
  obtain ⟨g', hr', hg⟩ := (respects_render r hh).of_ok hr
  exact ⟨g', hr', hk.symm.trans (hk'.trans hg)⟩

theorem Builds.of_alike (hb : r.Builds path h k) (hh : h.Alike h') (hk : k.Alike g) :
    r.Builds path h' g := by
  obtain ⟨k', hb, hk'⟩ := hb
  obtain ⟨g', hb', hg⟩ := (respects_build r hh).of_ok hb
  exact ⟨g', hb', hk.symm.trans (hk'.trans hg)⟩

theorem Renders.builds (hr : r.Renders text h k) (hp : perform r.places h = (.ok p, h))
    (hw : perform (writeFile (scriptPath p) (scriptContent text)) k = (.ok (), g)) :
    r.Builds (scriptPath p) h g := by
  obtain ⟨h₁, hr, hk⟩ := hr
  obtain ⟨h₂, hw₂, hg⟩ := (respects_writeFile _ _ hk).of_ok hw
  obtain ⟨h₃, hb, hlike⟩ := build_of_ok hp hr hw₂
  exact ⟨h₃, hb, hg.trans hlike⟩

theorem Prepared.renders (hp : r.Prepared p w h) (hsite : r.Site p w) (hf : r.Finds h p w) :
    r.Renders ((r.partsOf p w h).text r.config) h h := by
  obtain ⟨h', hr, hbecomes⟩ := renderAt_of_prepared hsite hp
  refine ⟨h', ?_, hbecomes.alike rfl⟩
  rw [render, perform_bind_of_ok hf.places, hr]

/-- What generating a script comes to: a first host, one in which the script is rendered, and one in
which it is built. From any of them, rendering and building give the same and lead on to one of them. -/
structure Cycle (r : Request) (text path : String) (h rendered built : Host) : Prop where
  render : r.Renders text h rendered
  renderRendered : r.Renders text rendered rendered
  renderBuilt : r.Renders text built built
  build : r.Builds path h built
  buildRendered : r.Builds path rendered built
  buildBuilt : r.Builds path built built

theorem exists_cycle (hf : r.Finds h p w) (hs : r.Separate p w)
    (hb : perform r.build h = (.ok path, h')) :
    ∃ rendered, r.Cycle ((r.partsOf p w h).text r.config) path h rendered h' ∧
      h'.files.read h'.workingDirectory path =
        .ok (scriptContent ((r.partsOf p w h).text r.config)) := by
  have hsite := hs.site hf
  obtain ⟨rfl, text, h₁, h₂, hr, hw, hlike⟩ := build_eq_ok hf.places hb
  have hrAt := hr
  rw [render, perform_bind_of_ok hf.places] at hrAt
  obtain ⟨rfl, hprepared, hbecomes, hframe⟩ := renderAt_eq_ok hsite hf.standing hrAt
  have hf₁ := hf.of_becomes hbecomes
  have hparts : r.partsOf p w h₁ = r.partsOf p w h :=
    partsOf_congr hsite hbecomes.standing hf.standing
      (fun n => hframe _ (hsite.app_staging.symm.append_right [n]))
      fun n => hframe _ (hsite.staging_system.append_right [n])
  have hscript : Straight (scriptPath p) := straight_entry hsite.output isName_scriptName
  have hend : EndsInName (pieces (scriptPath p)) := endsInName_entry p.output isName_scriptName
  have hplace : locate w (scriptPath p) = locate w p.output ++ [Layout.scriptName] :=
    locate_entry hsite.output isName_scriptName w
  obtain ⟨hbecomes₂, hstorable, _⟩ := writeFile_eq_ok hbecomes.standing hscript hend hw
  have hf₂ := hf₁.of_becomes hbecomes₂
  have hview := hbecomes₂.view
  have hget := congrFun hview (locate w (scriptPath p))
  rw [View.put_self] at hget
  rw [hplace] at hview
  obtain ⟨hprepared₂, hparts₂⟩ := hprepared.of_put hsite hbecomes₂.standing hview
  have hrender₁ := hprepared.renders hsite hf₁
  have hrender₂ := hprepared₂.renders hsite hf₂
  rw [hparts] at hrender₁
  rw [hparts₂, hparts] at hrender₂
  obtain ⟨h₃, hw₃, hbecomes₃⟩ := writeFile_again hbecomes₂.standing hscript hend hstorable hget
  have hbuild₂ := (hrender₂.builds hf₂.places hw₃).of_alike hlike
    ((hbecomes₃.alike rfl).symm.trans hlike)
  refine ⟨h₁, ⟨⟨h₁, hr, .refl h₁⟩, hrender₁, hrender₂.of_alike hlike hlike, ⟨h', hb, .refl h'⟩,
    (hrender₁.builds hf₁.places hw).of_alike (.refl h₁) hlike, hbuild₂⟩, ?_⟩
  have hread := read_of_writeFile hbecomes.standing hscript hend hw
  rwa [hlike.files.read, hlike.workingDirectory] at hread

/-- The hosts that renderings and builds lead to from a host. -/
inductive Reaches (r : Request) (h : Host) : Host → Prop
  | start : Reaches r h h
  | render {g g' : Host} {text : String} :
      Reaches r h g → perform r.render g = (.ok text, g') → Reaches r h g'
  | build {g g' : Host} {path : String} :
      Reaches r h g → perform r.build g = (.ok path, g') → Reaches r h g'

section Cycle

variable {rendered built : Host} (hc : r.Cycle text path h rendered built)

include hc

theorem Cycle.next (hg : h.Alike g ∨ rendered.Alike g ∨ built.Alike g) :
    (r.Renders text g rendered ∨ r.Renders text g built) ∧ r.Builds path g built := by
  rcases hg with hg | hg | hg
  · exact ⟨.inl (hc.render.of_alike hg (.refl _)), hc.build.of_alike hg (.refl _)⟩
  · exact ⟨.inl (hc.renderRendered.of_alike hg (.refl _)), hc.buildRendered.of_alike hg (.refl _)⟩
  · exact ⟨.inr (hc.renderBuilt.of_alike hg (.refl _)), hc.buildBuilt.of_alike hg (.refl _)⟩

theorem Cycle.of_reaches (hg : r.Reaches h g) : h.Alike g ∨ rendered.Alike g ∨ built.Alike g := by
  induction hg with
  | start => exact .inl (.refl h)
  | render _ hr ih =>
    obtain ⟨⟨k, hk, hlike⟩ | ⟨k, hk, hlike⟩, _⟩ := hc.next ih
    · rw [hr] at hk
      cases hk
      exact .inr (.inl hlike)
    · rw [hr] at hk
      cases hk
      exact .inr (.inr hlike)
  | build _ hb ih =>
    obtain ⟨_, k, hk, hlike⟩ := hc.next ih
    rw [hb] at hk
    cases hk
    exact .inr (.inr hlike)

end Cycle

/-- A build that succeeds fixes the script. Whatever was rendered and built since, rendering gives the
same text and building the same files; and a build that starts from other contents of the staging
directory and of the output directory writes the same text. -/
theorem build_repeats (hf : r.Finds h p w) (hs : r.Separate p w)
    (hb : perform r.build h = (.ok path, h')) :
    ∃ text, Holds h' path text ∧
      (∀ g, r.Reaches h g → (∃ g', perform r.render g = (.ok text, g')) ∧
        ∃ g', perform r.build g = (.ok path, g') ∧ h'.Alike g' ∧ Holds g' path text) ∧
      ∀ g g' path', r.Finds g p w →
        (∀ m, ¬ locate w p.staging <+: m → ¬ locate w p.output <+: m →
          g.files.get? m = h.files.get? m) →
        perform r.build g = (.ok path', g') → path' = path ∧ Holds g' path' text := by
  have hsite := hs.site hf
  obtain ⟨rendered, hc, hholds⟩ := exists_cycle hf hs hb
  refine ⟨_, hholds, fun g hg => ?_, fun g g' path' hfg hsame hbg => ?_⟩
  · obtain ⟨hrender, g', hbuild, hlike⟩ := hc.next (hc.of_reaches hg)
    refine ⟨?_, g', hbuild, hlike, Holds.of_alike hholds hlike⟩
    rcases hrender with ⟨k, hk, _⟩ | ⟨k, hk, _⟩
    · exact ⟨k, hk⟩
    · exact ⟨k, hk⟩
  · obtain ⟨_, _, hholds'⟩ := exists_cycle hfg hs hbg
    have happ : ∀ n,
        g.files.get? (locate w p.app ++ [n]) = h.files.get? (locate w p.app ++ [n]) := fun n =>
      hsame _ (hsite.app_staging.append_left [n]).2 (hsite.app_output.append_left [n]).2
    have hsystem : ∀ n,
        g.files.get? (locate w p.system ++ [n]) = h.files.get? (locate w p.system ++ [n]) := fun n =>
      hsame _ (hsite.staging_system.append_right [n]).1 (hsite.output_system.append_right [n]).1
    have hparts : r.partsOf p w g = r.partsOf p w h :=
      partsOf_congr hsite hfg.standing hf.standing happ hsystem
    rw [hparts] at hholds'
    exact ⟨(build_eq_ok hfg.places hbg).1.trans (build_eq_ok hf.places hb).1.symm, hholds'⟩

section Sample

def sampleRequest (system : String) : Request where
  config := { sampleConfig with icon := .custom ["i"], vcRedist := true }
  appDirectory := "/a"
  workDirectory := some "/p"
  systemDirectory := some system
  stagingDirectory := some "/s"

def sampleInstaller : Location := ["p", "build", "windows", "x64", "installer"]

def sampleOutput : Location := sampleInstaller ++ ["Release"]

def samplePlaces (system : String) : Places := ⟨"/a", Path.text sampleOutput, "/s", system⟩

def sampleLibraries : String := Layout.libraryDirectory "/s"

def sampleScript : String := join (Path.text sampleOutput) Layout.scriptName

def sampleText (system : String) : String :=
  Parts.text ⟨samplePlaces system, Path.text ["i"], [], []⟩ (sampleRequest system).config

def detour : String := "/p/build/windows/x64/installer/Release/../y"

def sampleTree : FileSystem :=
  (ofDirectories [["a"], ["s"], ["s", "vcruntime"], ["s", "vcruntime", "x"], ["p"], ["p", "build"],
    ["p", "build", "windows"], ["p", "build", "windows", "x64"], sampleInstaller,
    sampleInstaller ++ ["y"]]).insert (sampleInstaller ++ ["y"] ++ ["msvcp140.dll"])
      (.file .empty false)

def hostAt (w : Location) : Host :=
  { sampleHost [] with files := sampleTree, workingDirectory := .ofPlace w }

theorem plain_sampleTree : Plain sampleTree :=
  (plain_ofDirectories (by decide) (by decide)).insert rfl (by decide)
    (.inr (by simp [get?_ofDirectories, sampleInstaller])) (by simp)

theorem locate_sampleLibraries (w : Location) : locate w sampleLibraries = ["s", "vcruntime"] :=
  locate_text (l := ["s", "vcruntime"]) (by decide) w

variable {system : String}

theorem placesFrom_sampleRequest (h : Host) (cwd : Location) :
    (sampleRequest system).placesFrom h cwd = samplePlaces system := by
  have hp : locate cwd "/p" = ["p"] := locate_text (l := ["p"]) (by decide) cwd
  have ha : locate ["p"] "/a" = ["a"] := locate_text (l := ["a"]) (by decide) _
  have hs : locate cwd "/s" = ["s"] := locate_text (l := ["s"]) (by decide) cwd
  have hout : Layout.outputDirectory (Path.text ["p"]) .release = Path.text sampleOutput := by decide
  have htexts : Path.text ["a"] = "/a" ∧ Path.text ["s"] = "/s" := by decide
  simp only [placesFrom, projectFrom, sampleRequest, sampleConfig, Option.elim_some, hp, absolute, ha,
    hs, Option.getD_some, hout, htexts, samplePlaces]

theorem standing_sample (hw : sampleTree.get? w = some .directory) : (hostAt w).Standing w :=
  ⟨rfl, plain_sampleTree, hw⟩

theorem finds_sample (hw : sampleTree.get? w = some .directory) :
    (sampleRequest system).Finds (hostAt w) (samplePlaces system) w where
  linkFree := plain_sampleTree
  currentDirectory := (standing_sample hw).currentDirectory
  places := perform_places_eq_ok_iff.mpr
    ⟨rfl, w, (standing_sample hw).currentDirectory, (placesFrom_sampleRequest _ w).symm⟩

theorem apart_sample {l : Location} (hl : ∀ w, Path.locate w system = l)
    (hd : [["a"], ["s"], sampleOutput, l].Pairwise Apart) (w : Location) :
    ([(samplePlaces system).app, (samplePlaces system).staging, (samplePlaces system).output,
      (samplePlaces system).system].map (locate w)).Pairwise Apart := by
  have ha : locate w "/a" = ["a"] := locate_text (l := ["a"]) (by decide) w
  have hs : locate w "/s" = ["s"] := locate_text (l := ["s"]) (by decide) w
  have ho : locate w (Path.text sampleOutput) = sampleOutput := locate_text (by decide) w
  simpa only [samplePlaces, List.map_cons, List.map_nil, ha, hs, ho, hl w] using hd

theorem isDirectory_sampleApp (hw : sampleTree.get? w = some .directory) :
    (hostAt w).isDirectory "/a" = true := by
  have ha : locate w "/a" = ["a"] := locate_text (l := ["a"]) (by decide) w
  refine ((standing_sample hw).isDirectory_iff (by decide)).mpr ⟨by decide, ?_⟩
  rw [ha]
  rfl

theorem childNames_sampleApp (hw : sampleTree.get? w = some .directory) :
    perform (childNames "/a") (hostAt w) = (.ok [], hostAt w) := by
  have ha : locate w "/a" = ["a"] := locate_text (l := ["a"]) (by decide) w
  refine (childNames_eq_ok_iff (standing_sample hw) (by decide)).mpr
    ⟨isDirectory_sampleApp hw, ?_, rfl⟩
  rw [ha, eq_comm, List.eq_nil_iff_forall_not_mem]
  intro n hn
  refine mem_names_iff.mp hn ?_
  have hne : ["a"] ++ [n] ≠ sampleInstaller ++ ["y"] ++ ["msvcp140.dll"] := by simp [sampleInstaller]
  rw [hostAt, sampleTree, get?_insert _ _ (by simp), if_neg hne, get?_ofDirectories, if_neg]
  simp [sampleInstaller]

def erasedView : View := View.raise (View.erase sampleTree.get? ["s", "vcruntime"]) ["s", "vcruntime"]

def stagingHost (system : String) (w : Location) : Host :=
  (sampleRequest system).listed (hostAt w) "/a" []

theorem erase_sample (system : String) (w : Location) :
    ∃ h₁, perform (makeDirectories sampleLibraries true) (stagingHost system w) = (.ok (), h₁) ∧
      Ground h₁.files [] ∧ h₁.files.get? = erasedView ∧
      (["s", "vcruntime"] <+: w → 0 < h₁.workingDirectory.removed) := by
  have hg : Ground (stagingHost system w).files [] := ⟨plain_sampleTree, rfl⟩
  have hl := locate_sampleLibraries []
  have hd : (stagingHost system w).files.get? (locate [] sampleLibraries) = some .directory := by
    rw [hl]
    rfl
  have hend : EndsInName (pieces sampleLibraries) := endsInName_libraryDirectory "/s"
  have herase := makeDirectories_erase_absolute hg (by decide) (by decide) hend (by decide)
    (by decide) hd
  rwa [hl] at herase

theorem writeFile_sample (hg : Ground h.files [])
    (hview : h.files.get? = erasedView)
    (content : ByteArray) :
    ∃ h', perform (writeFile sampleScript content) h = (.ok (), h') ∧
      (0 < h.workingDirectory.removed → 0 < h'.workingDirectory.removed) := by
  have hparent : parent? sampleScript = some (Path.text sampleOutput) := by decide
  have hend : EndsInName (pieces (Path.text sampleOutput)) :=
    endsInName_entry (Path.text sampleInstaller) (n := "Release") (by decide)
  have hl : locate [] (Path.text sampleOutput) = sampleOutput := locate_text (by decide) []
  refine writeFile_absolute hg (by decide) (by decide) (endsInName_entry _ isName_scriptName)
    (by decide) hparent hend (by decide) ?_ ?_ content
  · rw [hl, hview]
    rfl
  · rw [hl, hview]
    rfl

theorem build_sample (hw : sampleTree.get? w = some .directory) {h₁ : Host}
    (hmake : perform (makeDirectories sampleLibraries true) (stagingHost system w) = (.ok (), h₁))
    (hg : Ground h₁.files [])
    (hview : h₁.files.get? = erasedView)
    (habsent : ∀ name ∈ Layout.runtimeLibraries, h₁.isFile (join system name) = false) :
    ∃ lines h₂ h',
      perform (sampleRequest system).render (hostAt w) =
        (.ok (sampleText system), { h₁ with log := lines }) ∧
      perform (writeFile sampleScript (scriptContent (sampleText system)))
        { h₁ with log := lines } = (.ok (), h₂) ∧
      perform (sampleRequest system).build (hostAt w) = (.ok sampleScript, h') ∧ h₂.Alike h' ∧
      (0 < h₁.workingDirectory.removed → 0 < h'.workingDirectory.removed) := by
  have hfinds : (sampleRequest system).Finds (hostAt w) (samplePlaces system) w := finds_sample hw
  have hplaces := hfinds.places
  obtain ⟨staged, lines₁, hfresh, hnone⟩ := stageFresh_of_absent hmake habsent
  obtain ⟨lines, hrender⟩ := render_of_stageFresh hplaces rfl rfl (isDirectory_sampleApp hw)
    (childNames_sampleApp hw) hfresh
  rw [hnone] at hrender
  obtain ⟨h₂, hwrite, hkept⟩ := writeFile_sample (h := { h₁ with log := lines }) hg hview
    (scriptContent (sampleText system))
  obtain ⟨h', hb, hlike⟩ := build_of_ok hplaces hrender hwrite
  refine ⟨lines, h₂, h', hrender, hwrite, hb, hlike, fun hremoved => ?_⟩
  rw [← hlike.workingDirectory]
  exact hkept hremoved

theorem absent_sample (hg : Ground h.files []) (hy : h.files.get? ["y"] = none) :
    ∀ name ∈ Layout.runtimeLibraries, h.isFile (join "/y" name) = false := by
  intro name hname
  have hn := isName_libraries name hname
  have habs : isAbsolute (join "/y" name) = true := by
    rw [isAbsolute_join (isAbsolute_of_isName hn)]
    decide
  have hl : locate [] (join "/y" name) = ["y"] ++ [name] := locate_entry (by decide) hn []
  have hs : Straight (join "/y" name) := straight_entry (by decide) hn
  rw [Host.isFile, isFile_absolute habs, Bool.eq_false_iff]
  intro hfile
  obtain ⟨_, _, content, executable, hget⟩ := (hg.isFile_iff hs).mp hfile
  rw [hl, hg.none_of_append_none hy] at hget
  cases hget

theorem absent_detour (hg : Ground h.files [])
    (hd : h.files.get? sampleInstaller = some .directory)
    (hout : h.files.get? sampleOutput = none) :
    ∀ name ∈ Layout.runtimeLibraries, h.isFile (join detour name) = false := by
  intro name hname
  have habs : isAbsolute (join detour name) = true := by
    rw [isAbsolute_join (isAbsolute_of_isName (isName_libraries name hname))]
    decide
  have hv : Valid (join detour name) := by
    revert name
    decide
  have hpieces : pieces (join detour name) =
      "" :: (sampleInstaller ++ ["Release", "..", "y", name]) := by
    revert name
    decide
  have hresolve : h.files.resolve .root .follow (join detour name) = .error .notFound :=
    resolve_of_missing hg.toIsTree (by decide) hd habs hv hpieces (by decide) (by simp) hout _
      (by simp)
  rw [Host.isFile, isFile_absolute habs, FileSystem.isFile, FileSystem.find?, hresolve]

theorem isFile_detour (hst : h.Standing []) (hout : h.files.get? sampleOutput = some .directory)
    {content : ByteArray} {executable : Bool}
    (hlibrary : h.files.get? (sampleInstaller ++ ["y"] ++ ["msvcp140.dll"]) =
      some (.file content executable)) :
    h.isFile (join detour "msvcp140.dll") = true := by
  have hpieces : pieces (join detour "msvcp140.dll") =
      "" :: (sampleOutput ++ ([".."] ++ ["y", "msvcp140.dll"])) := by decide
  have hnames : ["y", "msvcp140.dll"].filter leads = ["y", "msvcp140.dll"] := by decide
  have hend : EndsInName ["y", "msvcp140.dll"] := ⟨["y"], "msvcp140.dll", rfl, by decide⟩
  have hne : h.files.get? (sampleInstaller ++ ["y"] ++ ["msvcp140.dll"]) ≠ none := by
    rw [hlibrary]
    exact Option.some_ne_none _
  have hresolve : h.files.resolve (.ofPlace []) .follow (join detour "msvcp140.dll") =
      .ok (.found (sampleInstaller ++ ["y", "msvcp140.dll"]) (.file content executable)) := by
    rw [resolve_of_ups (l := sampleInstaller) (t := ["Release"]) hst.ground.toPlain (by decide) hout
      (by decide) (by decide) hpieces (by decide) hend (hst.ground.parent hne) _ (by simp), hnames,
      show h.files.get? (sampleInstaller ++ ["y", "msvcp140.dll"]) = _ from hlibrary]
    rfl
  rw [Host.isFile, hst.workingDirectory, FileSystem.isFile, FileSystem.find?, hresolve]

theorem build_repeats_full :
    let h := folderHost mixedChildren
    let parts := folderParts fullRequest folderPlaces mixedChildren mixedNames
    let text := parts.text fullRequest.config
    parts.staged = ["/s/vcruntime/msvcp140.dll"] ∧
      fullRequest.Finds h folderPlaces [] ∧ fullRequest.Separate folderPlaces [] ∧
      ∃ h', perform fullRequest.build h = (.ok (scriptPath folderPlaces), h') ∧
        Holds h' (scriptPath folderPlaces) text ∧
        (∃ g, perform fullRequest.render h' = (.ok text, g)) ∧
        ∃ h'', perform fullRequest.build h' = (.ok (scriptPath folderPlaces), h'') ∧
          h'.Alike h'' ∧ Holds h'' (scriptPath folderPlaces) text := by
  intro h parts text
  have hsimple := simple_mixedChildren
  have hf : fullRequest.Finds h folderPlaces [] := hsimple.finds suits_full
  have hs : fullRequest.Separate folderPlaces [] := ⟨by decide, by decide, by decide, fun _ => by decide⟩
  obtain ⟨h', hb⟩ : ∃ h', perform fullRequest.build h = (.ok (scriptPath folderPlaces), h') :=
    hsimple.exists_build suits_full _
  obtain ⟨rendered, hholds, hrun, -⟩ := build_repeats hf hs hb
  obtain rfl : rendered = text := by
    have htext := (build_grafts hf suits_full.setting hb).2.2
    rw [hsimple.partsOf_eq suits_full] at htext
    exact scriptContent_injective (Except.ok.inj (hholds.symm.trans htext))
  obtain ⟨hrender, h'', hagain, hlike, hholds'⟩ := hrun h' (.build .start hb)
  exact ⟨rfl, hf, hs, h', hb, hholds, hrender, h'', hagain, hlike, hholds'⟩

theorem staged_of_detour (hst : h.Standing [])
    (hout : h.files.get? sampleOutput = some .directory) {content : ByteArray} {executable : Bool}
    (hlibrary : h.files.get? (sampleInstaller ++ ["y"] ++ ["msvcp140.dll"]) =
      some (.file content executable)) {staged : List String}
    (hr : perform (stageLibraries "/s" detour) h = (.ok staged, h')) : staged ≠ [] := by
  have hl := locate_sampleLibraries []
  have hend : EndsInName (pieces sampleLibraries) := endsInName_libraryDirectory "/s"
  obtain ⟨copies, _, _, hfresh, rfl, _⟩ := stageFresh_of_stageLibraries hr
  obtain ⟨_, h₁, hmake, heach⟩ := perform_bind_eq_ok.mp hfresh
  obtain ⟨hbecomes, _⟩ :=
    makeDirectories_erase_eq_ok hst (by decide) (by decide) hend (by rw [hl]; decide) hmake
  have hview := hbecomes.view
  rw [hl] at hview
  have hkept : ∀ l, Apart ["s", "vcruntime"] l → h₁.files.get? l = h.files.get? l := by
    intro l hapart
    rw [hview, View.raise_erase_of_apart hapart]
  have hfile : h₁.isFile (join detour "msvcp140.dll") = true :=
    isFile_detour hbecomes.standing ((hkept _ (by decide)).trans hout)
      ((hkept _ (by decide)).trans hlibrary)
  exact stageEach_ne_nil hfile heach

theorem render_ne_of_detour (hst : h.Standing [])
    (hout : h.files.get? sampleOutput = some .directory) {content : ByteArray} {executable : Bool}
    (hlibrary : h.files.get? (sampleInstaller ++ ["y"] ++ ["msvcp140.dll"]) =
      some (.file content executable))
    (hr : perform (sampleRequest detour).render h = (.ok text, h')) :
    text ≠ sampleText detour := by
  obtain ⟨parts, hgathers, rfl⟩ := perform_render_eq_ok_iff.mp hr
  obtain ⟨_, names, h₁, hicon, _, _, hstaged⟩ := hgathers.toCollects
  have hp : perform (sampleRequest detour).places h = (.ok (samplePlaces detour), h) :=
    perform_places_eq_ok_iff.mpr
      ⟨rfl, [], hst.currentDirectory, (placesFrom_sampleRequest h []).symm⟩
  have hplaces : samplePlaces detour = parts.places := by
    simpa [hp] using hgathers.places
  have hstageIcon : perform ((sampleRequest detour).stageIcon parts.places.staging) h =
      (.ok (Path.text ["i"]), h) := rfl
  obtain ⟨hparts, rfl⟩ : Path.text ["i"] = parts.icon ∧ h = h₁ := by
    simpa [hstageIcon] using hicon
  rw [← hplaces] at hstaged
  have hst' : ((sampleRequest detour).listed h "/a" names).Standing [] :=
    ⟨hst.workingDirectory, hst.ground⟩
  have hne : parts.staged ≠ [] := staged_of_detour hst' hout hlibrary hstaged
  have hlt : (sampleText detour).length < (parts.text (sampleRequest detour).config).length :=
    Parts.length_text_lt hplaces hparts rfl (by simp [Parts.items, hne])
  intro he
  rw [he] at hlt
  exact Nat.lt_irrefl _ hlt

theorem build_detour : ∃ h',
    (∃ h₁, perform (sampleRequest detour).render (hostAt []) = (.ok (sampleText detour), h₁) ∧
      perform (sampleRequest detour).build (hostAt []) = (.ok sampleScript, h')) ∧
    h'.Standing [] ∧ h'.files.get? sampleOutput = some .directory ∧
    h'.files.get? (sampleInstaller ++ ["y"] ++ ["msvcp140.dll"]) = some (.file .empty false) := by
  have hl := locate_sampleLibraries []
  have hend : EndsInName (pieces sampleLibraries) := endsInName_libraryDirectory "/s"
  have hst : (stagingHost detour []).Standing [] := ⟨rfl, plain_sampleTree, rfl⟩
  obtain ⟨h₁, hmake, hg, hview, _⟩ := erase_sample detour []
  obtain ⟨hbecomes₁, _⟩ :=
    makeDirectories_erase_eq_ok hst (by decide) (by decide) hend (by rw [hl]; decide) hmake
  obtain ⟨lines, h₂, h', hrender, hwrite, hb, hlike, _⟩ := build_sample rfl hmake hg hview
    (absent_detour hg (by rw [hview]; rfl) (by rw [hview]; rfl))
  have hendScript : EndsInName (pieces sampleScript) := endsInName_entry _ isName_scriptName
  obtain ⟨hbecomes₂, _⟩ :=
    writeFile_eq_ok (hbecomes₁.log lines).standing (by decide) hendScript hwrite
  have hscript : locate [] sampleScript = sampleOutput ++ [Layout.scriptName] := by
    rw [sampleScript, locate_entry (by decide) isName_scriptName, locate_text (by decide)]
  have hview₂ := hbecomes₂.view
  rw [hscript] at hview₂
  have hst' : h'.Standing [] :=
    ⟨hlike.workingDirectory ▸ hbecomes₂.standing.workingDirectory,
      hbecomes₂.standing.ground.toPlain.of_same hlike.files, rfl⟩
  refine ⟨h', ⟨_, hrender, hb⟩, hst', ?_, ?_⟩
  · rw [← hlike.files, hview₂]
    rfl
  · rw [← hlike.files, hview₂, View.put_of_not_prefix (by decide)]
    dsimp only
    rw [hview]
    rfl

/-- The last two conditions of `Separate` are needed. A run that stands in the directory of the
libraries builds a script, and then no other; and where the path of the system goes up from a directory
that the build makes, rendering gives the text of the script before the build but not after it. -/
theorem build_not_repeated :
    (let w := ["s", "vcruntime", "x"]
      let p := samplePlaces "/y"
      (sampleRequest "/y").Finds (hostAt w) p w ∧
      ([p.app, p.staging, p.output, p.system].map (locate w)).Pairwise Apart ∧
      ∃ h', perform (sampleRequest "/y").build (hostAt w) = (.ok (scriptPath p), h') ∧
        ∀ path h'', perform (sampleRequest "/y").build h' ≠ (.ok path, h'')) ∧
    let p := samplePlaces detour
    (sampleRequest detour).Finds (hostAt []) p [] ∧
      ([p.app, p.staging, p.output, p.system].map (locate [])).Pairwise Apart ∧
      ∃ text h₁ h', perform (sampleRequest detour).render (hostAt []) = (.ok text, h₁) ∧
        perform (sampleRequest detour).build (hostAt []) = (.ok (scriptPath p), h') ∧
        ∀ h'', perform (sampleRequest detour).render h' ≠ (.ok text, h'') := by
  constructor
  · have hy (w : Location) : locate w "/y" = ["y"] := locate_text (l := ["y"]) (by decide) w
    obtain ⟨h₁, hmake, hg, hview, hremoved⟩ := erase_sample "/y" ["s", "vcruntime", "x"]
    obtain ⟨_, _, h', _, _, hb, _, hkept⟩ := build_sample rfl hmake hg hview
      (absent_sample hg (by rw [hview]; rfl))
    refine ⟨finds_sample rfl, apart_sample hy (by decide) _, h', hb, fun path h'' hagain => ?_⟩
    obtain ⟨p, _, hp, _⟩ := perform_bind_eq_ok.mp hagain
    obtain ⟨_, cwd, hcwd, _⟩ := perform_places_eq_ok_iff.mp hp
    rw [currentDirectory_of_removed (hkept (hremoved (by decide)))] at hcwd
    cases hcwd
  · have hy (w : Location) : locate w detour = sampleInstaller ++ ["y"] := by
      rw [Path.locate, if_pos (by decide)]
      decide
    obtain ⟨h', hbuilt, hst, hout, hlibrary⟩ := build_detour
    obtain ⟨h₁, hrender, hb⟩ := hbuilt
    exact ⟨finds_sample rfl, apart_sample hy (by decide) _, _, h₁, h', hrender, hb,
      fun h'' hagain => render_ne_of_detour hst hout hlibrary hagain rfl⟩

end Sample
end FlutterInstaller.Script.Request
