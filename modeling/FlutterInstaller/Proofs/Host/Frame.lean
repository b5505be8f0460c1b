import FlutterInstaller.Proofs.FileSystem.ReadBack
import FlutterInstaller.Proofs.Host.Likeness
import FlutterInstaller.Script.Build

/-!
What the actions of a run leave alone. Changing files leaves everything but the files, the working
directory and the log as it is, and so does making a script; a file that was written through an
absolute path holds what was written.
-/
namespace FlutterInstaller

/-- A host but for its files, its working directory and its log. -/
def Host.surroundings (h : Host) : Host :=
  { h with files := .empty, workingDirectory := .root, log := [] }

namespace Action

open Host

variable {γ : Type} {view : Host → γ} (path : String)

theorem keeps_ofFile {α : Type} (action : FileAction) (x : Except OsError α) :
    Keeps view (ofFile action path x) := by
  cases x with
  | ok a => exact keeps_pure a
  | error e => exact keeps_throw _

theorem keeps_locate (action : FileAction) : Keeps view (locate action path) :=
  keeps_get.bind fun _ => (keeps_ofFile path action _).bind fun _ => keeps_pure _

theorem keeps_log (level : LogLevel) (message : String) : Keeps surroundings (log level message) :=
  fun _ => rfl

theorem keeps_edit {α : Type} (action : FileAction) (change : Standpoint → FileSystem.Edit α) :
    Keeps surroundings (edit action path change) := by
  intro h
  rw [perform_edit]
  exact keeps_ofFile path action _ _

theorem keeps_makeParent : Keeps surroundings (makeParent path) := by
  unfold makeParent
  split
  · exact keeps_edit _ _ _
  · exact keeps_pure ()

theorem keeps_makeDirectories (erase : Bool) : Keeps surroundings (makeDirectories path erase) := by
  have hmake : Keeps surroundings (edit .creatingDirectory path fun cwd =>
      FileSystem.makeDirectories cwd path) := keeps_edit _ _ _
  cases erase with
  | false => exact hmake
  | true => exact (keeps_edit _ _ _).bind fun _ => hmake

theorem keeps_writeFile (content : ByteArray) : Keeps surroundings (writeFile path content) :=
  (keeps_makeParent path).bind fun _ => keeps_edit _ _ _

theorem keeps_copyFile (target : String) : Keeps surroundings (copyFile path target) := by
  refine keeps_get.bind fun h => ?_
  split
  · exact (keeps_makeParent target).bind fun _ => keeps_edit _ _ _
  · exact keeps_throw _

variable {path}

theorem read_of_writeFile_absolute {h h' : Host} {content : ByteArray}
    (habs : Path.isAbsolute path = true)
    (hw : perform (writeFile path content) h = (.ok (), h')) :
    h'.files.read .root path = .ok content := by
  obtain ⟨_, h₁, _, hw⟩ := perform_bind_eq_ok.mp hw
  obtain ⟨gs, hc, rfl⟩ := perform_edit_eq_ok.mp hw
  exact FileSystem.read_of_write habs hc

end Action

namespace Script.Request

open FlutterInstaller.Action Host

variable {γ : Type} {view : Host → γ} (r : Request)

theorem keeps_project : Keeps view r.project := by
  unfold project
  split
  · exact keeps_locate _ _
  · exact keeps_get.bind fun _ => keeps_ofFile _ _ _

theorem keeps_places : Keeps view r.places := by
  refine (keeps_project r).bind fun _ => ?_
  split
  · exact ((keeps_locate _ _).map _).bind fun _ => keeps_get.bind fun _ => keeps_pure _
  · exact keeps_get.bind fun _ => (keeps_pure _).bind fun _ => keeps_get.bind fun _ => keeps_pure _

theorem keeps_stageIcon (staging : String) : Keeps surroundings (r.stageIcon staging) := by
  unfold stageIcon
  split
  · exact keeps_pure _
  · exact (keeps_writeFile _ _).bind fun _ => (keeps_log _ _).bind fun _ => keeps_pure _

theorem keeps_childItem (app name : String) : Keeps surroundings (r.childItem app name) :=
  keeps_get.bind fun _ => (keeps_log _ _).bind fun _ => keeps_pure _

theorem keeps_childNames (app : String) : Keeps view (childNames app) :=
  keeps_get.bind fun _ => (keeps_ofFile _ _ _).bind fun _ => keeps_pure _

theorem keeps_stageLibrary (system directory name : String) :
    Keeps surroundings (stageLibrary system directory name) := by
  refine keeps_get.bind fun h => ?_
  split
  · exact (keeps_copyFile _ _).bind fun _ => (keeps_log _ _).bind fun _ => keeps_pure _
  · exact (keeps_log _ _).bind fun _ => keeps_pure _

theorem keeps_stageLibraries (staging system : String) :
    Keeps surroundings (stageLibraries staging system) := by
  refine (keeps_makeDirectories _ true).bind fun _ => ?_
  refine (Keeps.mapM (keeps_stageLibrary system _) _).bind fun staged => ?_
  split
  · exact (keeps_log _ _).bind fun _ => keeps_pure _
  · exact keeps_pure _

theorem keeps_items (p : Places) : Keeps surroundings (r.items p) := by
  refine (keeps_childNames p.app).bind fun names => ?_
  refine (Keeps.mapM (keeps_childItem r p.app) names).bind fun children => ?_
  split
  · exact (keeps_stageLibraries _ _).bind fun _ => keeps_pure _
  · exact keeps_pure _

theorem keeps_renderAt (p : Places) : Keeps surroundings (r.renderAt p) := by
  refine keeps_get.bind fun h => ?_
  split
  · exact (keeps_stageIcon r _).bind fun _ => (keeps_items r p).bind fun _ => keeps_pure _
  · exact keeps_throw _

theorem keeps_build : Keeps surroundings r.build :=
  (keeps_places r).bind fun p => (keeps_log _ _).bind fun _ => (keeps_renderAt r p).bind fun _ =>
    (keeps_writeFile _ _).bind fun _ => (keeps_log _ _).bind fun _ => keeps_pure _

end Script.Request

end FlutterInstaller
