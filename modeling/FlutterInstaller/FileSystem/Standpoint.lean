import FlutterInstaller.FileSystem.Basic

/-!
Where relative paths start from. A directory that was removed can still be stood in: it is empty,
takes nothing in, and `..` leads from it to the directory that it was in. One that is made in its
place later is another directory.
-/
namespace FlutterInstaller

/-- A directory of the tree, or one that was removed so many levels below it. -/
structure Standpoint where
  place : Location
  removed : Nat
  deriving DecidableEq, Repr

namespace Standpoint

def root : Standpoint := ⟨[], 0⟩

def ofPlace (l : Location) : Standpoint := ⟨l, 0⟩

def location? (s : Standpoint) : Option Location := if s.removed = 0 then some s.place else none

def up (s : Standpoint) : Standpoint :=
  if s.removed = 0 then ofPlace s.place.dropLast else ⟨s.place, s.removed - 1⟩

/-- The standpoint in a tree that may have lost it: levels that are not there count as removed. -/
def settle (fs : FileSystem) (s : Standpoint) : Standpoint :=
  if h : fs.hasDirectory s.place then s
  else
    have : s.place.dropLast.length < s.place.length := by
      have hne : s.place ≠ [] := fun e => h (by rw [e]; rfl)
      have hpos := List.length_pos_iff.mpr hne
      simp only [List.length_dropLast]
      omega
    settle fs ⟨s.place.dropLast, s.removed + 1⟩
termination_by s.place.length

theorem hasDirectory_settle (fs : FileSystem) (s : Standpoint) :
    fs.hasDirectory (s.settle fs).place := by
  fun_induction settle fs s with
  | case1 s h => exact h
  | case2 s h hlt ih => exact ih

theorem settle_of_hasDirectory {fs : FileSystem} {s : Standpoint} (h : fs.hasDirectory s.place) :
    s.settle fs = s := by
  unfold settle
  simp [h]

end Standpoint

end FlutterInstaller
