import FlutterInstaller.FileSystem.Basic
import Mathlib.Data.List.Induction
import Mathlib.Data.List.Sort
import Mathlib.Data.String.Basic

/-!
Trees without links. Every entry lies in a directory and has names that lead down, so what stands at a
place decides what stands above it. Two trees are taken as the same when they agree at every place.
-/
namespace FlutterInstaller.FileSystem

/-- Every entry lies in a directory, under a proper name. -/
structure IsTree (fs : FileSystem) : Prop where
  isName : ∀ {l : Location}, fs.get? l ≠ none → ∀ n ∈ l, Path.IsName n
  parent : ∀ {l : Location} {n : String}, fs.get? (l ++ [n]) ≠ none → fs.get? l = some .directory

/-- A tree in which no entry is a link. -/
structure Plain (fs : FileSystem) : Prop extends IsTree fs where
  linkFree : ∀ (l : Location) (target : String), fs.get? l ≠ some (.link target)

def Apart (l m : Location) : Prop := ¬ l <+: m ∧ ¬ m <+: l

instance (l m : Location) : Decidable (Apart l m) :=
  inferInstanceAs (Decidable (¬ l <+: m ∧ ¬ m <+: l))

theorem Apart.symm {l m : Location} (h : Apart l m) : Apart m l := ⟨h.2, h.1⟩

theorem Apart.not_prefix {l m k : Location} (h : Apart l m) (hl : l <+: k) : ¬ m <+: k := fun hm =>
  (List.prefix_or_prefix_of_prefix hl hm).elim h.1 h.2

theorem Apart.append_right {l m : Location} (h : Apart l m) (t : Location) : Apart l (m ++ t) :=
  ⟨fun hp => h.not_prefix hp (List.prefix_append m t),
    fun hp => h.2 ((List.prefix_append m t).trans hp)⟩

theorem Apart.append_left {l m : Location} (h : Apart l m) (t : Location) : Apart (l ++ t) m :=
  (h.symm.append_right t).symm

theorem apart_of_ne {l : Location} {n k : String} (h : n ≠ k) : Apart (l ++ [n]) (l ++ [k]) := by
  constructor <;> intro hp
  · have he := hp.eq_of_length (by simp)
    exact h (by simpa using he)
  · have he := hp.eq_of_length (by simp)
    exact h (by simpa using he.symm)

theorem Apart.ne {l m : Location} (h : Apart l m) : l ≠ m := by
  rintro rfl
  exact h.1 List.prefix_rfl

/-- Trees that agree at every place. -/
def Same (fs gs : FileSystem) : Prop := ∀ l, fs.get? l = gs.get? l

theorem Same.symm {fs gs : FileSystem} (h : Same fs gs) : Same gs fs := fun l => (h l).symm

theorem Same.trans {fs gs hs : FileSystem} (h : Same fs gs) (h' : Same gs hs) : Same fs hs :=
  fun l => (h l).trans (h' l)

variable {fs gs : FileSystem}

theorem IsTree.of_same (h : Same fs gs) (htree : IsTree fs) : IsTree gs where
  isName := fun hl => htree.isName ((h _).symm ▸ hl)
  parent := fun hl => (h _).symm.trans (htree.parent ((h _).symm ▸ hl))

theorem Plain.of_same (h : Same fs gs) (hp : Plain fs) : Plain gs where
  toIsTree := hp.toIsTree.of_same h
  linkFree := fun l target he => hp.linkFree l target ((h l).trans he)

namespace IsTree

theorem directory_of_append (h : IsTree fs) {l t : Location} (ht : t ≠ [])
    (he : fs.get? (l ++ t) ≠ none) : fs.get? l = some .directory := by
  induction t using List.reverseRecOn with
  | nil => exact absurd rfl ht
  | append_singleton t n ih =>
    rw [← List.append_assoc] at he
    have hparent := h.parent he
    by_cases hne : t = []
    · rwa [hne, List.append_nil] at hparent
    · exact ih hne (by simp [hparent])

theorem directory_of_prefix (h : IsTree fs) {l m : Location} (hlm : l <+: m) (hne : l ≠ m)
    (he : fs.get? m ≠ none) : fs.get? l = some .directory := by
  obtain ⟨t, rfl⟩ := hlm
  refine h.directory_of_append (fun ht => hne ?_) he
  rw [ht, List.append_nil]

theorem directory_of_prefix_directory (h : IsTree fs) {l m : Location} (hlm : l <+: m)
    (he : fs.get? m = some .directory) : fs.get? l = some .directory := by
  by_cases hne : l = m
  · rwa [hne]
  · exact h.directory_of_prefix hlm hne (by simp [he])

theorem none_of_append (h : IsTree fs) {l t : Location} (ht : t ≠ [])
    (he : fs.get? l ≠ some .directory) : fs.get? (l ++ t) = none := by
  by_contra hne
  exact he (h.directory_of_append ht hne)

theorem none_of_append_none (h : IsTree fs) {l : Location} (he : fs.get? l = none) (t : Location) :
    fs.get? (l ++ t) = none := by
  by_cases ht : t = []
  · rwa [ht, List.append_nil]
  · exact h.none_of_append ht (by simp [he])

end IsTree

theorem IsTree.insert (h : IsTree fs) {l : Location} {n : String} {e : Entry}
    (hparent : fs.get? l = some .directory) (hname : Path.IsName n)
    (hbelow : e = .directory ∨ fs.get? (l ++ [n]) ≠ some .directory) :
    IsTree (fs.insert (l ++ [n]) e) := by
  have hl : l ++ [n] ≠ [] := by simp
  have hnames : ∀ m ∈ l ++ [n], Path.IsName m := by
    simpa [or_imp, forall_and, hname] using h.isName (l := l) (by simp [hparent])
  constructor
  · intro m hm
    rw [get?_insert fs e hl] at hm
    split at hm
    · next he =>
      subst he
      exact hnames
    · exact h.isName hm
  · intro m k hm
    rw [get?_insert fs e hl] at hm ⊢
    split at hm
    · next he =>
      obtain ⟨rfl, _⟩ := List.append_inj' he rfl
      rw [if_neg (by simp), hparent]
    · have hdir := h.parent hm
      split
      · next he =>
        subst he
        rcases hbelow with rfl | hbelow
        · rfl
        · exact absurd hdir hbelow
      · exact hdir

theorem Plain.insert (h : Plain fs) {l : Location} {n : String} {e : Entry}
    (hparent : fs.get? l = some .directory) (hname : Path.IsName n)
    (hbelow : e = .directory ∨ fs.get? (l ++ [n]) ≠ some .directory)
    (hlink : ∀ target, e ≠ .link target) : Plain (fs.insert (l ++ [n]) e) where
  toIsTree := h.toIsTree.insert hparent hname hbelow
  linkFree := by
    intro m target
    rw [get?_insert fs e (by simp)]
    split
    · simpa using hlink target
    · exact h.linkFree m target

theorem IsTree.removeTree (h : IsTree fs) {l : Location} (hl : l ≠ []) : IsTree (fs.removeTree l) where
  isName := by
    intro m hm
    rw [get?_removeTree fs hl] at hm
    split at hm
    · exact absurd rfl hm
    · exact h.isName hm
  parent := by
    intro m n hm
    rw [get?_removeTree fs hl] at hm ⊢
    split at hm
    · exact absurd rfl hm
    · next hp =>
      rw [if_neg fun hp' => hp (hp'.trans (List.prefix_append m [n])), h.parent hm]

theorem IsTree.removeBelow (h : IsTree fs) (l : Location) : IsTree (fs.removeBelow l) where
  isName := by
    intro m hm
    rw [get?_removeBelow] at hm
    split at hm
    · exact absurd rfl hm
    · exact h.isName hm
  parent := by
    intro m n hm
    rw [get?_removeBelow] at hm ⊢
    split at hm
    · exact absurd rfl hm
    · next hp =>
      have hdir := h.parent hm
      split
      · next hq =>
        refine absurd ⟨hq.1.trans (List.prefix_append m [n]), ?_, by simp⟩ hp
        intro he
        have hlength := congrArg List.length he
        have := hq.1.length_le
        simp at hlength
        omega
      · exact hdir

theorem Plain.removeTree (h : Plain fs) {l : Location} (hl : l ≠ []) : Plain (fs.removeTree l) where
  toIsTree := h.toIsTree.removeTree hl
  linkFree := by
    intro m target
    rw [get?_removeTree fs hl]
    split
    · simp
    · exact h.linkFree m target

theorem Plain.removeBelow (h : Plain fs) (l : Location) : Plain (fs.removeBelow l) where
  toIsTree := h.toIsTree.removeBelow l
  linkFree := by
    intro m target
    rw [get?_removeBelow]
    split
    · simp
    · exact h.linkFree m target

def ofDirectories (ls : List Location) : FileSystem := ⟨ls.map fun l => (l, .directory)⟩

theorem get?_ofDirectories (ls : List Location) (m : Location) :
    (ofDirectories ls).get? m = if m = [] ∨ m ∈ ls then some .directory else none := by
  by_cases hm : m = []
  · simp [hm, get?]
  · simp only [get?, ofDirectories, hm, if_false, false_or]
    induction ls with
    | nil => simp
    | cons l ls ih =>
      by_cases he : m = l
      · simp [he]
      · have hne : (m == l) = false := by simpa using he
        simp only [List.map_cons, List.lookup_cons, hne, ih, List.mem_cons, he, false_or]

theorem mem_of_get?_ofDirectories {ls : List Location} {l : Location}
    (hl : (ofDirectories ls).get? l ≠ none) : l = [] ∨ l ∈ ls := by
  by_contra h
  exact hl (by rw [get?_ofDirectories, if_neg h])

theorem plain_ofDirectories {ls : List Location} (hnames : ∀ l ∈ ls, ∀ n ∈ l, Path.IsName n)
    (hparents : ∀ l ∈ ls, l.dropLast = [] ∨ l.dropLast ∈ ls) : Plain (ofDirectories ls) where
  isName := by
    intro l hl
    rcases mem_of_get?_ofDirectories hl with rfl | hl
    · simp
    · exact hnames l hl
  parent := by
    intro l n hl
    have hparent := hparents _ ((mem_of_get?_ofDirectories hl).resolve_left (by simp))
    rw [List.dropLast_concat] at hparent
    rw [get?_ofDirectories, if_pos hparent]
  linkFree := by
    intro l target
    rw [get?_ofDirectories]
    split <;> simp

section Names

theorem nodup_eraseDups {α : Type} [BEq α] [LawfulBEq α] : ∀ as : List α, as.eraseDups.Nodup
  | [] => by simp
  | a :: as => by
    rw [List.eraseDups_cons, List.nodup_cons]
    exact ⟨by simp [List.mem_eraseDups], nodup_eraseDups (as.filter fun b => !b == a)⟩
termination_by as => as.length
decreasing_by exact Nat.lt_succ_of_le (List.length_filter_le _ _)

theorem childName?_eq_some_iff {l m : Location} {n : String} :
    childName? l m = some n ↔ m = l ++ [n] := by
  unfold childName?
  constructor
  · intro h
    split at h
    · next hm =>
      have hlast := List.dropLast_append_getLast? n h
      rw [hm.2] at hlast
      exact hlast.symm
    · simp at h
  · rintro rfl
    simp

theorem mem_names_iff {l : Location} {n : String} : n ∈ fs.names l ↔ fs.get? (l ++ [n]) ≠ none := by
  have hlookup : ∀ es : List (Location × Entry),
      (∃ x ∈ es, x.1 = l ++ [n]) ↔ es.lookup (l ++ [n]) ≠ none := by
    intro es
    induction es with
    | nil => simp
    | cons x es ih =>
      obtain ⟨k, e⟩ := x
      by_cases hk : l ++ [n] = k
      · simp [← hk]
      · have hne : (l ++ [n] == k) = false := by simpa using hk
        simp [List.lookup_cons, hne, ← ih, Ne.symm hk]
  rw [names, List.mem_mergeSort, List.mem_eraseDups, List.mem_filterMap, get?, if_neg (by simp),
    ← hlookup]
  simp only [childName?_eq_some_iff]

theorem pairwise_names (fs : FileSystem) (l : Location) : (fs.names l).Pairwise (· ≤ ·) := by
  have h : (fs.names l).Pairwise fun a b => decide (a ≤ b) = true :=
    List.pairwise_mergeSort (by simpa using fun a b c => le_trans) (by simpa using le_total) _
  simpa using h

theorem nodup_names (fs : FileSystem) (l : Location) : (fs.names l).Nodup :=
  (List.mergeSort_perm _ _).nodup_iff.mpr (nodup_eraseDups _)

theorem strict_names (fs : FileSystem) (l : Location) : (fs.names l).Pairwise (· < ·) :=
  ((fs.pairwise_names l).and (fs.nodup_names l)).imp fun h => lt_of_le_of_ne h.1 h.2

theorem names_eq {l : Location} {names : List String}
    (hnames : ∀ n, n ∈ names ↔ fs.get? (l ++ [n]) ≠ none) (hsorted : names.Pairwise (· < ·)) :
    fs.names l = names := by
  have hperm : (fs.names l).Perm names := by
    rw [List.perm_ext_iff_of_nodup (fs.nodup_names l) (hsorted.imp ne_of_lt)]
    intro n
    rw [mem_names_iff, hnames]
  exact hperm.eq_of_pairwise (fun a b _ _ hab hba => absurd hba (lt_asymm hab)) (fs.strict_names l)
    hsorted

theorem names_congr {l : Location}
    (h : ∀ n, fs.get? (l ++ [n]) ≠ none ↔ gs.get? (l ++ [n]) ≠ none) : fs.names l = gs.names l :=
  names_eq (fun n => mem_names_iff.trans (h n).symm) (gs.strict_names l)

end Names

end FlutterInstaller.FileSystem
