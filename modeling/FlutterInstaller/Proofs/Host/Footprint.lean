import FlutterInstaller.Proofs.FileSystem.Footprint
import FlutterInstaller.Proofs.Host.Likeness

/-!
Where the actions of a run leave their traces. The working directory may be lost on the way, when it is
removed with others; relative paths are still taken from where it stood.
-/
namespace FlutterInstaller

open FileSystem FlutterInstaller.Path

structure Host.Affected (w : Location) (made touched : Location → Prop) (h g : Host) : Prop where
  standsFor : g.workingDirectory.StandsFor w
  files : FileSystem.Affected made touched h.files g.files

def Host.Affects (w : Location) (made touched : Location → Prop) (h g : Host) : Prop :=
  h.workingDirectory.StandsFor w → LinkFree h.files → h.Affected w made touched g

instance (w : Location) (made touched : Location → Prop) :
    IsPreorder Host (Host.Affects w made touched) where
  refl _ := fun hs hfree => ⟨hs, .refl hfree⟩
  trans _ _ _ h h' := fun hs hfree =>
    have hfirst := h hs hfree
    have hsecond := h' hfirst.standsFor hfirst.files.linkFree
    ⟨hsecond.standsFor, hfirst.files.trans hsecond.files⟩

namespace Action

open Host

variable {w : Location} {made touched : Location → Prop} {path base n : String}

theorem log_affects (level : LogLevel) (message : String) :
    Advances (Host.Affects w made touched) (log level message) :=
  fun _ hs hfree => ⟨hs, .refl hfree⟩

theorem edit_affects {α : Type} (action : FileAction) (path : String)
    {change : Standpoint → Edit α}
    (hc : ∀ s, s.StandsFor w → Advances (FileSystem.Affects made touched) (change s)) :
    Advances (Host.Affects w made touched) (edit action path change) :=
  advances_edit path action fun h hs hfree => ⟨hs.settle _, hc _ hs h.files hfree⟩

theorem makeParent_affects (hn : IsName n) (hmade : ∀ m, OnTheWay w base m → made m ∨ touched m) :
    Advances (Host.Affects w made touched) (makeParent (join base n)) := by
  unfold makeParent
  split
  · next q hq =>
    exact edit_affects _ _ fun cwd hs => makeDirectories_affects hs (trimmed_parent? hq)
      fun m hm => hmade m (onTheWay_parent? hn hq hm)
  · exact advances_pure ()

theorem writeFile_affects (hn : IsName n) (hmade : ∀ m, OnTheWay w base m → made m ∨ touched m)
    (htouched : touched (Path.locate w (join base n))) (content : ByteArray) :
    Advances (Host.Affects w made touched) (writeFile (join base n) content) :=
  (makeParent_affects hn hmade).bind fun _ =>
    edit_affects _ _ fun _ hs => write_affects hs htouched content

theorem copyFile_affects (hn : IsName n) (hmade : ∀ m, OnTheWay w base m → made m ∨ touched m)
    (htouched : touched (Path.locate w (join base n))) (source : String) :
    Advances (Host.Affects w made touched) (copyFile source (join base n)) := by
  refine advances_get_bind fun h => ?_
  split
  · exact ((makeParent_affects hn hmade).bind fun _ =>
      edit_affects _ _ fun cwd hs => copy_affects hs htouched source) h
  · exact Std.Refl.refl h

theorem makeDirectories_affects (ht : Trimmed path)
    (hmade : ∀ m, OnTheWay w path m → made m ∨ touched m)
    (htouched : ∀ m, Path.locate w path <+: m → touched m) (erase : Bool) :
    Advances (Host.Affects w made touched) (makeDirectories path erase) := by
  have hmake : Advances (Host.Affects w made touched)
      (edit .creatingDirectory path fun cwd => FileSystem.makeDirectories cwd path) :=
    edit_affects _ _ fun cwd hs => FileSystem.makeDirectories_affects hs ht hmade
  unfold makeDirectories
  split
  · exact (edit_affects _ _ fun cwd hs => removeDirectories_affects hs ht htouched).bind
      fun _ => hmake
  · exact hmake

end Action

end FlutterInstaller
