import FlutterInstaller.Host
import FlutterInstaller.Proofs.FileSystem.Sameness

/-!
Hosts that differ only by what was logged and by how their trees are kept. Actions on files cannot tell
them apart.
-/
namespace FlutterInstaller

open FileSystem

namespace Host

/-- Hosts with the same files, apart from the log and from how the files are kept. -/
structure Alike (h g : Host) : Prop where
  files : Same h.files g.files
  rest : g = { h with files := g.files, log := g.log }

variable {h g k : Host}

theorem alike_log (h : Host) (lines : List LogLine) : h.Alike { h with log := lines } :=
  ⟨.refl _, rfl⟩

theorem Alike.refl (h : Host) : h.Alike h := alike_log h h.log

theorem Alike.symm (hh : h.Alike g) : g.Alike h where
  files := hh.files.symm
  rest := by
    rw [hh.rest]

theorem Alike.trans (hh : h.Alike g) (hg : g.Alike k) : h.Alike k where
  files := hh.files.trans hg.files
  rest := by
    rw [hg.rest, hh.rest]

theorem Alike.workingDirectory (hh : h.Alike g) : h.workingDirectory = g.workingDirectory := by
  rw [hh.rest]

theorem Alike.isFile (hh : h.Alike g) (p : String) : h.isFile p = g.isFile p := by
  rw [Host.isFile, Host.isFile, hh.workingDirectory, hh.files.isFile]

theorem Alike.isDirectory (hh : h.Alike g) (p : String) : h.isDirectory p = g.isDirectory p := by
  rw [Host.isDirectory, Host.isDirectory, hh.workingDirectory, hh.files.isDirectory]

theorem Alike.currentDirectory (hh : h.Alike g) : h.currentDirectory = g.currentDirectory := by
  rw [Host.currentDirectory, Host.currentDirectory, hh.workingDirectory, hh.files.settle]

theorem Alike.withFiles {fs gs : FileSystem} (hh : h.Alike g) (hs : Same fs gs) :
    (h.withFiles fs).Alike (g.withFiles gs) where
  files := hs
  rest := by
    rw [Host.withFiles, Host.withFiles, hs.settle, hh.rest]

end Host

namespace Action

open Host

variable (path : String)

theorem respects_log (level : LogLevel) (message : String) : Respects Alike (log level message) :=
  fun h g hh => ⟨rfl, hh.files, by
    simp only [log, perform_modify]
    rw [hh.rest]⟩

theorem exists_alike_info {β : Type} (h : Host) (message : String) (next : PUnit → Action β) :
    ∃ g, h.Alike g ∧ perform (info message >>= next) h = perform (next PUnit.unit) g :=
  ⟨_, alike_log h _, perform_modify_bind _ next h⟩

theorem respects_ofFile {α : Type} (action : FileAction) (r : Except OsError α) :
    Respects Alike (ofFile action path r) := by
  cases r with
  | ok a => exact respects_pure a
  | error e => exact respects_throw _

theorem perform_edit {α : Type} {action : FileAction} {path : String} {change : Standpoint → Edit α}
    (h : Host) :
    perform (edit action path change) h =
      perform (ofFile action path (perform (change h.workingDirectory) h.files).1)
        (h.withFiles (perform (change h.workingDirectory) h.files).2) := rfl

section Advances

variable {R : Host → Host → Prop} [IsPreorder Host R]

theorem advances_ofFile {α : Type} (action : FileAction) (x : Except OsError α) :
    Advances R (ofFile action path x) := by
  cases x with
  | ok a => exact advances_pure a
  | error e => exact advances_throw _

theorem advances_edit {α : Type} (action : FileAction) {change : Standpoint → Edit α}
    (hc : ∀ h : Host, R h (h.withFiles (perform (change h.workingDirectory) h.files).2)) :
    Advances R (edit action path change) := by
  intro h
  rw [perform_edit]
  exact IsTrans.trans h _ _ (hc h) (advances_ofFile path action _ _)

end Advances

theorem perform_edit_eq_ok {α : Type} {action : FileAction} {path : String}
    {change : Standpoint → Edit α} {h h' : Host} {a : α} :
    perform (edit action path change) h = (.ok a, h') ↔
      ∃ gs, perform (change h.workingDirectory) h.files = (.ok a, gs) ∧ h' = h.withFiles gs := by
  rw [perform_edit]
  cases hc : perform (change h.workingDirectory) h.files with
  | mk result gs =>
    cases result with
    | error e => simp [ofFile]
    | ok b => simp [ofFile, eq_comm]

theorem respects_edit {α : Type} (action : FileAction) {change : Standpoint → Edit α}
    (hc : ∀ s, Respects Same (change s)) : Respects Alike (edit action path change) := by
  intro h g hh
  have hagree := hc h.workingDirectory hh.files
  rw [perform_edit, perform_edit, ← hh.workingDirectory, ← hagree.result]
  exact respects_ofFile path action _ (hh.withFiles hagree.state)

theorem respects_locate (action : FileAction) : Respects Alike (locate action path) := by
  refine respects_get_bind fun h g hh => ?_
  rw [hh.currentDirectory]
  exact (respects_ofFile path action _).bind (fun _ => respects_pure _) hh

theorem respects_makeParent : Respects Alike (makeParent path) := by
  unfold makeParent
  split
  · exact respects_edit _ _ fun cwd => respects_makeDirectories cwd _
  · exact respects_pure ()

theorem respects_makeDirectories (erase : Bool) : Respects Alike (makeDirectories path erase) := by
  have hmake : Respects Alike (edit .creatingDirectory path fun cwd =>
      FileSystem.makeDirectories cwd path) :=
    respects_edit _ _ fun cwd => FileSystem.respects_makeDirectories cwd path
  cases erase with
  | false => exact hmake
  | true =>
    exact (respects_edit _ _ fun cwd => respects_removeDirectories cwd path).bind fun _ => hmake

theorem respects_writeFile (content : ByteArray) : Respects Alike (writeFile path content) :=
  (respects_makeParent path).bind fun _ =>
    respects_edit _ _ fun cwd => respects_write cwd path content

theorem respects_copyFile (target : String) : Respects Alike (copyFile path target) := by
  refine respects_get_bind fun h g hh => ?_
  rw [hh.isFile]
  split
  · exact (respects_makeParent target).bind
      (fun _ => respects_edit _ _ fun cwd => respects_copy cwd path target) hh
  · exact respects_throw _ hh

end Action

end FlutterInstaller
