import FlutterInstaller.Proofs.FileSystem.Clearing
import FlutterInstaller.Proofs.Host.Likeness
import FlutterInstaller.Script.Build

/-!
What the actions of a run add to the files. Only a directory that is made afresh takes something away;
every other action leaves what was there.
-/
namespace FlutterInstaller

def Host.Extends (h g : Host) : Prop := FileSystem.Extends h.files g.files

instance : IsPreorder Host Host.Extends where
  refl h := Std.Refl.refl h.files
  trans h _ g hh hg := IsTrans.trans h.files _ g.files hh hg

namespace Action

open Host

variable (path : String)

theorem log_extends (level : LogLevel) (message : String) : Advances Host.Extends (log level message) :=
  fun h => Std.Refl.refl h.files

theorem edit_extends {α : Type} (action : FileAction) {change : Standpoint → FileSystem.Edit α}
    (hc : ∀ s, Advances FileSystem.Extends (change s)) :
    Advances Host.Extends (edit action path change) :=
  advances_edit path action fun h => hc h.workingDirectory h.files

theorem makeParent_extends : Advances Host.Extends (makeParent path) := by
  unfold makeParent
  split
  · next q _ => exact edit_extends q _ fun cwd => FileSystem.makeDirectories_extends cwd q
  · exact advances_pure ()

theorem writeFile_extends (content : ByteArray) : Advances Host.Extends (writeFile path content) :=
  (makeParent_extends path).bind fun _ =>
    edit_extends path _ fun cwd => FileSystem.write_extends cwd path content

theorem copyFile_extends (target : String) : Advances Host.Extends (copyFile path target) := by
  apply advances_get_bind
  intro h
  split
  · exact ((makeParent_extends target).bind fun _ =>
      edit_extends target _ fun cwd => FileSystem.copy_extends cwd path target) h
  · exact Std.Refl.refl h

variable {path} {h h' : Host}

theorem isFile_of_writeFile (habs : Path.isAbsolute path = true) {content : ByteArray}
    (hw : perform (writeFile path content) h = (.ok (), h')) : h'.files.isFile .root path = true := by
  obtain ⟨_, h₁, _, hedit⟩ := perform_bind_eq_ok.mp hw
  obtain ⟨gs, hwrite, rfl⟩ := perform_edit_eq_ok.mp hedit
  have hfile := FileSystem.isFile_of_write habs hwrite
  rwa [FileSystem.isFile_absolute habs] at hfile

theorem isFile_of_copyFile {target : String} (habs : Path.isAbsolute target = true)
    (hc : perform (copyFile path target) h = (.ok (), h')) :
    h'.files.isFile .root target = true := by
  rw [copyFile, perform_get_bind] at hc
  split at hc
  · obtain ⟨_, h₁, _, hedit⟩ := perform_bind_eq_ok.mp hc
    obtain ⟨gs, hcopy, rfl⟩ := perform_edit_eq_ok.mp hedit
    have hfile := FileSystem.isFile_of_copy habs hcopy
    rwa [FileSystem.isFile_absolute habs] at hfile
  · cases hc

theorem writeFile_text (htree : h.files.IsTree) {l : Location} {n : String}
    (hl : ∀ n ∈ l, Path.IsName n) (hn : Path.IsName n) (hd : h.files.get? l = some .directory)
    (hfree : h.files.get? (l ++ [n]) = none) (hv : FileSystem.Valid (Path.text (l ++ [n])))
    (hvl : FileSystem.Valid (Path.text l)) (ht : Path.Trimmed (Path.text l))
    (hparent : Path.parent? (Path.text (l ++ [n])) = some (Path.text l)) (content : ByteArray) :
    ∃ h', perform (writeFile (Path.text (l ++ [n])) content) h = (.ok (), h') ∧
      ∀ m, h'.files.get? m = if m = l ++ [n] then some (.file content false) else h.files.get? m := by
  have hmake : perform (makeParent (Path.text (l ++ [n]))) h = (.ok (), h.withFiles h.files) := by
    rw [makeParent, hparent]
    exact perform_edit_eq_ok.mpr ⟨_, FileSystem.makeDirectories_text htree hl hd hvl ht _, rfl⟩
  have hwrite := fun cwd => FileSystem.write_text_entry htree hl hd hn hv hfree cwd content
  refine ⟨_, perform_bind_eq_ok.mpr ⟨(), _, hmake, perform_edit_eq_ok.mpr ⟨_, hwrite _, rfl⟩⟩, ?_⟩
  intro m
  rw [Host.withFiles, FileSystem.get?_insert _ _ (by simp), FileSystem.get?_insert _ _ (by simp)]
  split
  · rfl
  · rfl

theorem covers_cleared_of_makeDirectories (htree : h.files.IsTree) (habs : Path.isAbsolute path = true)
    (ht : Path.Trimmed path) (hparent : Path.parent? path ≠ none)
    (hm : perform (makeDirectories path true) h = (.ok (), h')) :
    (h.files.cleared path).Covers h'.files := by
  rw [makeDirectories, if_pos rfl] at hm
  obtain ⟨_, h₁, hfirst, hsecond⟩ := perform_bind_eq_ok.mp hm
  obtain ⟨gs, hremove, rfl⟩ := perform_edit_eq_ok.mp hfirst
  obtain ⟨ks, hmake, rfl⟩ := perform_edit_eq_ok.mp hsecond
  exact FileSystem.covers_cleared htree habs ht hparent hremove hmake

end Action

namespace Script.Request

open FlutterInstaller.Action

variable (r : Request)

theorem stageIcon_extends (staging : String) : Advances Host.Extends (r.stageIcon staging) := by
  unfold stageIcon
  split
  · exact advances_pure _
  · exact (writeFile_extends _ _).bind fun _ => (log_extends _ _).bind fun _ => advances_pure _

theorem stageLibrary_extends (system directory name : String) :
    Advances Host.Extends (stageLibrary system directory name) := by
  apply advances_get_bind
  intro h
  split
  · exact ((copyFile_extends _ _).bind fun _ => (log_extends _ _).bind fun _ => advances_pure _) h
  · exact ((log_extends _ _).bind fun _ => advances_pure _) h

end Script.Request

end FlutterInstaller
