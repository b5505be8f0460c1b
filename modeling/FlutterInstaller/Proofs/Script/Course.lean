import FlutterInstaller.Proofs.Host.Likeness
import FlutterInstaller.Script.Build

/-!
The course of a rendering, for any relation of hosts that its steps keep. Only three kinds of step touch
the files: the icon is written, the directory of the libraries is made afresh, and libraries are copied
into it.
-/
namespace FlutterInstaller

section Course

open FlutterInstaller.Action

variable {R : Host → Host → Prop} [IsPreorder Host R]

namespace Script.Request

variable (hlog : ∀ level message, Advances R (log level message))

include hlog

theorem advances_stageLibraries {staging : String} (system : String)
    (hclear : Advances R (makeDirectories (Layout.libraryDirectory staging) true))
    (hcopy : ∀ n ∈ Layout.runtimeLibraries, ∀ source,
      Advances R (copyFile source (Path.join (Layout.libraryDirectory staging) n))) :
    Advances R (stageLibraries staging system) := by
  have hstage : ∀ n ∈ Layout.runtimeLibraries,
      Advances R (stageLibrary system (Layout.libraryDirectory staging) n) := by
    intro n hn
    refine advances_get_bind fun h => ?_
    split
    · exact ((hcopy n hn _).bind fun _ => (hlog _ _).bind fun _ => advances_pure _) h
    · exact ((hlog _ _).bind fun _ => advances_pure _) h
  refine hclear.bind fun _ => (Advances.mapM_of hstage).bind fun staged => ?_
  split
  · exact (hlog _ _).bind fun _ => advances_pure _
  · exact advances_pure _

theorem advances_renderAt {r : Request} {p : Places}
    (hicon : ∀ content, Advances R (writeFile (Layout.iconPath p.staging) content))
    (hlibraries : r.config.vcRedist = true → Advances R (stageLibraries p.staging p.system)) :
    Advances R (r.renderAt p) := by
  have hstage : Advances R (r.stageIcon p.staging) := by
    unfold stageIcon
    split
    · exact advances_pure _
    · exact (hicon _).bind fun _ => (hlog _ _).bind fun _ => advances_pure _
  have hnames : Advances R (childNames p.app) := advances_get_bind fun h =>
    ((advances_ofFile _ _ _).bind fun _ => advances_pure _) h
  have hchild : ∀ name, Advances R (r.childItem p.app name) := fun name =>
    advances_get_bind fun h => ((hlog _ _).bind fun _ => advances_pure _) h
  have hitems : Advances R (r.items p) := by
    refine hnames.bind fun names => (Advances.mapM hchild names).bind fun children => ?_
    split
    · next hv => exact (hlibraries hv).bind fun _ => advances_pure _
    · exact advances_pure _
  refine advances_get_bind fun h => ?_
  split
  · exact (hstage.bind fun _ => hitems.bind fun _ => advances_pure _) h
  · exact Std.Refl.refl h

end Script.Request

end Course

end FlutterInstaller
