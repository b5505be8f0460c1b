import FlutterInstaller.OsError
import FlutterInstaller.Path

/-!
A tree of files, directories and links, as a finite map from places to entries. The root is always
a directory. Each change is described by what it does to the entry at every place.
-/
namespace FlutterInstaller

/-- A file holds octets, and may be one that can be run. -/
inductive Entry
  | file (content : ByteArray) (executable : Bool)
  | directory
  | link (target : String)

namespace Entry

def isDirectory : Entry → Bool
  | .directory => true
  | _ => false

def content? : Entry → Option ByteArray
  | .file content _ => some content
  | _ => none

theorem isDirectory_iff (e : Entry) : e.isDirectory ↔ e = .directory := by
  cases e <;> simp [isDirectory]

end Entry

structure FileSystem where
  entries : List (Location × Entry)

namespace FileSystem

def empty : FileSystem := ⟨[]⟩

def get? (fs : FileSystem) (l : Location) : Option Entry :=
  if l = [] then some .directory else fs.entries.lookup l

def hasDirectory (fs : FileSystem) (l : Location) : Bool := (fs.get? l).any Entry.isDirectory

def insert (fs : FileSystem) (l : Location) (e : Entry) : FileSystem :=
  ⟨(l, e) :: fs.entries.filter fun x => x.1 ≠ l⟩

def removeTree (fs : FileSystem) (l : Location) : FileSystem :=
  ⟨fs.entries.filter fun x => !l.isPrefixOf x.1⟩

def removeBelow (fs : FileSystem) (l : Location) : FileSystem :=
  ⟨fs.entries.filter fun x => x.1 == l || !l.isPrefixOf x.1⟩

def childName? (l : Location) (place : Location) : Option String :=
  if place ≠ [] ∧ place.dropLast = l then place.getLast? else none

def names (fs : FileSystem) (l : Location) : List String :=
  (fs.entries.filterMap fun x => childName? l x.1).eraseDups.mergeSort fun a b => decide (a ≤ b)

theorem lookup_filter {p : Location → Bool} (es : List (Location × Entry)) (l : Location) :
    (es.filter fun x => p x.1).lookup l = if p l then es.lookup l else none := by
  induction es with
  | nil => simp
  | cons x es ih =>
    obtain ⟨k, e⟩ := x
    by_cases hp : p k = true
    · by_cases hk : l = k
      · subst hk
        simp [hp]
      · have hne : (l == k) = false := by simpa using hk
        simp [hp, List.lookup_cons, hne, ih]
    · have hp' : p k = false := by simpa using hp
      by_cases hk : l = k
      · subst hk
        simp [hp', ih]
      · have hne : (l == k) = false := by simpa using hk
        simp [hp', List.lookup_cons, hne, ih]

theorem hasDirectory_iff (fs : FileSystem) (l : Location) :
    fs.hasDirectory l ↔ fs.get? l = some .directory := by
  cases h : fs.get? l <;> simp [hasDirectory, h, Entry.isDirectory_iff]

theorem get?_root (fs : FileSystem) : fs.get? [] = some .directory := rfl

theorem get?_insert (fs : FileSystem) {l m : Location} (e : Entry) (hl : l ≠ []) :
    (fs.insert l e).get? m = if m = l then some e else fs.get? m := by
  by_cases hm : m = l
  · subst hm
    simp [get?, insert, hl]
  · have hne : (m == l) = false := by simpa using hm
    simp only [get?, insert, List.lookup_cons, hne, hm, if_false]
    rw [lookup_filter (p := fun k => decide (k ≠ l))]
    simp [hm]

theorem get?_removeTree (fs : FileSystem) {l m : Location} (hl : l ≠ []) :
    (fs.removeTree l).get? m = if l <+: m then none else fs.get? m := by
  by_cases hm : m = []
  · subst hm
    simp [get?, hl]
  · simp only [get?, removeTree, hm, if_false]
    rw [lookup_filter (p := fun k => !l.isPrefixOf k)]
    by_cases hp : l <+: m
    · simp [hp, List.isPrefixOf_iff_prefix.mpr hp]
    · have : l.isPrefixOf m = false := by
        rw [Bool.eq_false_iff]
        exact fun h => hp (List.isPrefixOf_iff_prefix.mp h)
      simp [this, hp]

theorem get?_removeBelow (fs : FileSystem) (l m : Location) :
    (fs.removeBelow l).get? m = if l <+: m ∧ m ≠ l ∧ m ≠ [] then none else fs.get? m := by
  by_cases hm : m = []
  · subst hm
    simp [get?]
  · simp only [get?, removeBelow, hm, if_false]
    rw [lookup_filter (p := fun k => k == l || !l.isPrefixOf k)]
    by_cases hl : m = l
    · simp [hl]
    · by_cases hp : l <+: m
      · simp [hl, hp, hm, List.isPrefixOf_iff_prefix.mpr hp]
      · have : l.isPrefixOf m = false := by
          rw [Bool.eq_false_iff]
          exact fun h => hp (List.isPrefixOf_iff_prefix.mp h)
        simp [this, hp]

end FileSystem

end FlutterInstaller
