import FlutterInstaller.FileSystem.Edit
import FlutterInstaller.Proofs.FileSystem.Tree
import FlutterInstaller.Proofs.Steps

/-!
Trees that agree at every place cannot be told apart: what a path leads to in one it leads to in the
other, and a change does to one what it does to the other.
-/
namespace FlutterInstaller.FileSystem

open FlutterInstaller.Path

variable {fs gs : FileSystem}

namespace Same

theorem refl (fs : FileSystem) : Same fs fs := fun _ => rfl

theorem insert (h : Same fs gs) (l : Location) (e : Entry) : Same (fs.insert l e) (gs.insert l e) := by
  intro m
  by_cases hl : l = []
  · subst hl
    have hget : ∀ fs : FileSystem, (fs.insert [] e).get? m = fs.get? m := fun fs => by
      by_cases hm : m = []
      · rw [hm]
        rfl
      · have hne : (m == []) = false := by simpa using hm
        simp only [get?, FileSystem.insert, List.lookup_cons, hne, hm, if_false]
        rw [lookup_filter (p := fun k => decide (k ≠ []))]
        simp [hm]
    rw [hget, hget, h m]
  · rw [get?_insert fs e hl, get?_insert gs e hl, h m]

theorem removeTree (h : Same fs gs) (l : Location) : Same (fs.removeTree l) (gs.removeTree l) := by
  intro m
  by_cases hl : l = []
  · subst hl
    simp [get?, FileSystem.removeTree]
  · rw [get?_removeTree fs hl, get?_removeTree gs hl, h m]

theorem removeBelow (h : Same fs gs) (l : Location) :
    Same (fs.removeBelow l) (gs.removeBelow l) := by
  intro m
  rw [get?_removeBelow, get?_removeBelow, h m]

theorem names (h : Same fs gs) (l : Location) : fs.names l = gs.names l :=
  names_congr fun n => by rw [h]

theorem hasDirectory (h : Same fs gs) (l : Location) : fs.hasDirectory l = gs.hasDirectory l := by
  rw [FileSystem.hasDirectory, FileSystem.hasDirectory, h l]

theorem settle (h : Same fs gs) (s : Standpoint) : s.settle fs = s.settle gs := by
  fun_induction Standpoint.settle fs s with
  | case1 s hd => rw [Standpoint.settle_of_hasDirectory (h.hasDirectory _ ▸ hd)]
  | case2 s hd hlt ih =>
    rw [ih]
    conv_rhs => rw [Standpoint.settle]
    rw [dif_neg (h.hasDirectory _ ▸ hd)]

theorem walk (h : Same fs gs) (purpose : Purpose) (links : Nat) (s : Standpoint)
    (ps : List String) : walk fs purpose links s ps = walk gs purpose links s ps := by
  have hget : ∀ l, gs.get? l = fs.get? l := fun l => (h l).symm
  fun_induction FileSystem.walk fs purpose links s ps <;> rw [FileSystem.walk] <;> grind

theorem resolve (h : Same fs gs) (cwd : Standpoint) (purpose : Purpose) (p : String) :
    fs.resolve cwd purpose p = gs.resolve cwd purpose p := by
  rw [FileSystem.resolve, FileSystem.resolve, h.settle, h.walk]

theorem find? (h : Same fs gs) (cwd : Standpoint) (p : String) : fs.find? cwd p = gs.find? cwd p := by
  rw [FileSystem.find?, FileSystem.find?, h.resolve]

theorem isFile (h : Same fs gs) (cwd : Standpoint) (p : String) :
    fs.isFile cwd p = gs.isFile cwd p := by
  rw [FileSystem.isFile, FileSystem.isFile, h.find?]

theorem isDirectory (h : Same fs gs) (cwd : Standpoint) (p : String) :
    fs.isDirectory cwd p = gs.isDirectory cwd p := by
  rw [FileSystem.isDirectory, FileSystem.isDirectory, h.find?]

theorem standpoint (h : Same fs gs) (cwd : Standpoint) (p : String) :
    fs.standpoint cwd p = gs.standpoint cwd p := by
  rw [FileSystem.standpoint, FileSystem.standpoint, h.resolve]

theorem read (h : Same fs gs) (cwd : Standpoint) (p : String) : fs.read cwd p = gs.read cwd p := by
  rw [FileSystem.read, FileSystem.read, h.find?]

theorem isStranded (h : Same fs gs) (cwd : Standpoint) (p : String) :
    fs.isStranded cwd p = gs.isStranded cwd p := by
  rw [FileSystem.isStranded, FileSystem.isStranded, h.resolve]

end Same

section Edits

variable (cwd : Standpoint) (p : String)

theorem respects_makeDirectory : Respects Same (makeDirectory cwd p) := by
  refine respects_get_bind fun fs gs h => ?_
  rw [h.resolve]
  split
  · exact ⟨rfl, h.insert _ _⟩
  · exact ⟨rfl, h⟩
  · exact ⟨rfl, h⟩

theorem respects_ensureDirectory : Respects Same (ensureDirectory cwd p) := by
  refine (respects_makeDirectory cwd p).tryCatch fun e => respects_get_bind fun fs gs h => ?_
  rw [h.isDirectory]
  split
  · exact ⟨rfl, h⟩
  · exact ⟨rfl, h⟩

theorem respects_anchorLineage (ps below : List String) :
    Respects Same (anchorLineage cwd ps below) := by
  induction ps generalizing below with
  | nil => exact respects_pure below
  | cons p ps ih =>
    refine Respects.bind (Respects.tryCatch ?_ fun e => ?_) fun missing => ?_
    · exact (respects_ensureDirectory cwd p).bind fun _ => respects_pure false
    · split
      · exact respects_pure true
      · exact respects_throw e
    · split
      · exact ih (p :: below)
      · exact respects_pure below

theorem respects_makeDirectories : Respects Same (makeDirectories cwd p) :=
  (respects_anchorLineage cwd _ []).bind fun below =>
    Respects.forM (respects_ensureDirectory cwd) below

theorem respects_removeEmptied : Respects Same (removeEmptied cwd p) := by
  refine respects_get_bind fun fs gs h => ?_
  rw [h.isStranded, h.resolve]
  simp only [h.names]
  repeat' split
  all_goals first | exact ⟨rfl, h⟩ | exact ⟨rfl, h.removeTree _⟩

theorem respects_removeDirectories : Respects Same (removeDirectories cwd p) := by
  refine respects_get_bind fun fs gs h => ?_
  rw [h.resolve]
  split
  · exact ⟨rfl, h⟩
  · exact ⟨rfl, h⟩
  · exact ⟨rfl, h⟩
  · exact ⟨rfl, h.removeTree _⟩
  · exact ⟨rfl, h⟩
  · rw [perform_set_bind, perform_set_bind]
    exact respects_removeEmptied cwd p (h.removeBelow _)
  · exact respects_removeEmptied cwd p h

theorem respects_openForWriting : Respects Same (openForWriting cwd p) := by
  refine respects_get_bind fun fs gs h => ?_
  rw [h.resolve]
  split
  · exact ⟨rfl, h⟩
  · exact ⟨rfl, h.insert _ _⟩
  · exact ⟨rfl, h.insert _ _⟩
  · exact ⟨rfl, h⟩

theorem respects_write (content : ByteArray) : Respects Same (write cwd p content) :=
  (respects_openForWriting cwd p).bind fun _ _ _ h => ⟨rfl, h.insert _ _⟩

theorem respects_copy (target : String) : Respects Same (copy cwd p target) := by
  refine respects_get_bind fun fs gs h => ?_
  rw [h.find?]
  split
  · exact ⟨rfl, h⟩
  · refine (respects_openForWriting cwd target).bind (fun r => ?_) h
    refine respects_get_bind fun fs gs h => ?_
    rw [h]
    split
    · exact ⟨rfl, h.insert _ _⟩
    · exact ⟨rfl, h⟩
  · exact ⟨rfl, h⟩

end Edits

end FlutterInstaller.FileSystem
