import FlutterInstaller.Proofs.Host.Files
import FlutterInstaller.Script.Build

/-!
Losing the working directory. A run that makes afresh a directory in which it stands has none any more,
and no action gives it one again.
-/
namespace FlutterInstaller

open FileSystem FlutterInstaller.Path

/-- The working directory was not made again: no less of its lineage was removed. -/
def Host.Strays (h g : Host) : Prop := h.workingDirectory.removed ≤ g.workingDirectory.removed

instance : IsPreorder Host Host.Strays where
  refl _ := Nat.le_refl _
  trans _ _ _ hh hg := Nat.le_trans hh hg

namespace Action

open Host

variable (path : String)

theorem log_strays (level : LogLevel) (message : String) : Advances Strays (log level message) :=
  fun _ => Nat.le_refl _

theorem edit_strays {α : Type} (action : FileAction) (change : Standpoint → Edit α) :
    Advances Strays (edit action path change) := by
  intro h
  rw [perform_edit]
  have hsettle : Strays h (h.withFiles (perform (change h.workingDirectory) h.files).2) :=
    removed_le_settle _ h.workingDirectory
  cases (perform (change h.workingDirectory) h.files).1 with
  | ok a => exact hsettle
  | error e => exact hsettle

theorem makeParent_strays : Advances Strays (makeParent path) := by
  unfold makeParent
  split
  · exact edit_strays _ _ _
  · exact advances_pure ()

theorem writeFile_strays (content : ByteArray) : Advances Strays (writeFile path content) :=
  (makeParent_strays path).bind fun _ => edit_strays _ _ _

theorem copyFile_strays (target : String) : Advances Strays (copyFile path target) := by
  apply advances_get_bind
  intro h
  split
  · exact ((makeParent_strays target).bind fun _ => edit_strays _ _ _) h
  · exact Std.Refl.refl h

variable {path} {h h' : Host} {w : Location}

theorem removed_of_makeDirectories (hst : h.Standing w) (hs : Straight path) (ht : Trimmed path)
    (hend : EndsInName (pieces path)) (hw : Path.locate w path <+: w)
    (hr : perform (makeDirectories path true) h = (.ok (), h')) :
    0 < h'.workingDirectory.removed := by
  have habs : isAbsolute path = true := by
    by_contra hrel
    rw [locate_eq hs, origin, if_neg hrel] at hw
    have hle := hw.length_le
    have hpos : 0 < (Path.names path).length := List.length_pos_iff.mpr hend.filter_ne_nil
    rw [List.length_append] at hle
    omega
  have hroot : Path.locate w path = Path.locate [] path := by
    rw [locate_eq hs, locate_eq hs, origin, if_pos habs, origin, if_pos habs]
  have hne := locate_ne_nil hs hend []
  obtain ⟨_, h₁, hremove, hmake⟩ := perform_bind_eq_ok.mp hr
  obtain ⟨gs, hc, rfl⟩ := perform_edit_eq_ok.mp hremove
  rw [removeDirectories_absolute habs _ ht] at hc
  obtain ⟨_, hget⟩ := removeDirectories_eq_ok (w := []) ⟨hst.ground.toPlain, rfl⟩ hs ht hend
    (fun hp => hne (List.prefix_nil.mp hp)) hc
  have hlost : gs.hasDirectory h.workingDirectory.place = false := by
    rw [hst.workingDirectory, Bool.eq_false_iff, Ne, hasDirectory_iff]
    rw [show (Standpoint.ofPlace w).place = w from rfl, hget, if_pos (hroot ▸ hw)]
    simp
  have hremoved := removed_withFiles_of_not_directory hlost
  exact hremoved.trans_le ((edit_strays path _ _).of_perform hmake)

end Action

namespace Script.Request

open FlutterInstaller.Action Host

theorem stageLibrary_strays (system directory name : String) :
    Advances Strays (stageLibrary system directory name) := by
  apply advances_get_bind
  intro h
  split
  · exact ((copyFile_strays _ _).bind fun _ => (log_strays _ _).bind fun _ => advances_pure _) h
  · exact ((log_strays _ _).bind fun _ => advances_pure _) h

end Script.Request

end FlutterInstaller
