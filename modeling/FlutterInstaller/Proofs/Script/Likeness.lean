import FlutterInstaller.Proofs.Host.Likeness
import FlutterInstaller.Proofs.Script.Rendering

/-!
Generating a script in hosts that are alike: what is rendered and built in one is rendered and built in
the other, and the hosts are alike again.
-/
namespace FlutterInstaller.Script.Request

open FlutterInstaller.Action Host

theorem respects_project (r : Request) : Respects Alike r.project := by
  unfold project
  split
  · exact respects_locate _ _
  · refine respects_get_bind fun h g hh => ?_
    rw [hh.currentDirectory]
    exact respects_ofFile _ _ _ hh

theorem respects_places (r : Request) : Respects Alike r.places := by
  refine (respects_project r).bind fun project => ?_
  have hrest : ∀ staging, Respects Alike (do
      return {
        app := Path.absolute project r.appDirectory
        output := Layout.outputDirectory (Path.text project) r.config.buildMode
        staging
        system := r.systemDirectory.getD (Layout.systemDirectory (← get).systemRoot) } :
      Action Places) := fun staging => by
    refine respects_get_bind fun h g hh => ?_
    have hroot : h.systemRoot = g.systemRoot := by rw [hh.rest]
    rw [hroot]
    exact respects_pure _ hh
  split
  · exact ((respects_locate _ _).map _).bind hrest
  · refine respects_get_bind fun h g hh => ?_
    have htemporary : h.temporaryDirectory = g.temporaryDirectory := by rw [hh.rest]
    rw [htemporary]
    exact hrest _ hh

variable (r : Request)

theorem respects_stageIcon (staging : String) : Respects Alike (r.stageIcon staging) := by
  unfold stageIcon
  split
  · exact respects_pure _
  · exact (respects_writeFile _ _).bind fun _ => (respects_log _ _).bind fun _ => respects_pure _

theorem respects_childItem (app name : String) : Respects Alike (r.childItem app name) := by
  refine respects_get_bind fun h g hh => ?_
  rw [hh.isDirectory]
  exact (respects_log _ _).bind (fun _ => respects_pure _) hh

theorem respects_childNames (app : String) : Respects Alike (childNames app) := by
  refine respects_get_bind fun h g hh => ?_
  rw [hh.workingDirectory, hh.files.standpoint]
  have hnames : h.files.names = g.files.names := funext hh.files.names
  rw [hnames]
  exact (respects_ofFile _ _ _).bind (fun _ => respects_pure _) hh

theorem respects_stageLibrary (system directory name : String) :
    Respects Alike (stageLibrary system directory name) := by
  refine respects_get_bind fun h g hh => ?_
  rw [hh.isFile]
  split
  · exact (respects_copyFile _ _).bind
      (fun _ => (respects_log _ _).bind fun _ => respects_pure _) hh
  · exact (respects_log _ _).bind (fun _ => respects_pure _) hh

theorem respects_stageLibraries (staging system : String) :
    Respects Alike (stageLibraries staging system) := by
  refine (respects_makeDirectories _ true).bind fun _ =>
    (Respects.mapM (respects_stageLibrary system _) _).bind fun staged => ?_
  split
  · exact (respects_log _ _).bind fun _ => respects_pure _
  · exact respects_pure _

theorem respects_items (p : Places) : Respects Alike (r.items p) := by
  refine (respects_childNames p.app).bind fun names =>
    (Respects.mapM (respects_childItem r p.app) names).bind fun children => ?_
  split
  · exact (respects_stageLibraries _ _).bind fun _ => respects_pure _
  · exact respects_pure _

theorem respects_renderAt (p : Places) : Respects Alike (r.renderAt p) := by
  refine respects_get_bind fun h g hh => ?_
  rw [hh.isDirectory]
  split
  · exact (respects_stageIcon r _).bind (fun _ => (respects_items r p).bind fun _ => respects_pure _) hh
  · exact respects_throw _ hh

theorem respects_render : Respects Alike r.render :=
  (respects_places r).bind fun p => respects_renderAt r p

theorem respects_build : Respects Alike r.build :=
  (respects_places r).bind fun p => (respects_log _ _).bind fun _ =>
    (respects_renderAt r p).bind fun _ => (respects_writeFile _ _).bind fun _ =>
      (respects_log _ _).bind fun _ => respects_pure _

end FlutterInstaller.Script.Request
