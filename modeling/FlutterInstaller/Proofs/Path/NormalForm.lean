import FlutterInstaller.Proofs.Path.Names
import Mathlib.Data.List.Basic
import Mathlib.Data.List.Induction
import Mathlib.Logic.Relation

/-!
The normal form of paths that are taken one after the other: their components in a row, tidied up until
only the root and names are left. It does not matter in which order that is done, and locating each path
from the place of the one before it gives the same.
-/
namespace FlutterInstaller.Path

def components (p : String) : List String := if isAbsolute p then "/" :: pieces p else pieces p

/-- One component goes that adds nothing, or that takes back the one before it. -/
inductive Tidies : List String → List String → Prop
  | restart (before after : List String) : Tidies (before ++ "/" :: after) ("/" :: after)
  | skip (before after : List String) {n : String} (hn : n = "" ∨ n = ".") :
      Tidies (before ++ n :: after) (before ++ after)
  | cancel (before after : List String) {n : String} (hn : IsName n) :
      Tidies (before ++ n :: ".." :: after) (before ++ after)
  | top (before after : List String) :
      Tidies (before ++ "/" :: ".." :: after) (before ++ "/" :: after)

/-- Paths, each taken from the one before it, come down to a place: from the root through proper
names. -/
def NormalForm (paths : List String) (l : Location) : Prop :=
  Relation.ReflTransGen Tidies (paths.flatMap components) ("/" :: l) ∧ ∀ n ∈ l, IsName n

def advance (l : Location) (n : String) : Location := if n = "/" then [] else step l n

theorem advance_root (l : Location) : advance l "/" = [] := if_pos rfl

theorem advance_of_ne {n : String} (hn : n ≠ "/") (l : Location) : advance l n = step l n :=
  if_neg hn

theorem ne_root_of_not_mem {n : String} (hn : '/' ∉ n.toList) : n ≠ "/" := by
  rintro rfl
  exact hn (by decide)

theorem advance_of_isName {n : String} (hn : IsName n) (l : Location) : advance l n = l ++ [n] := by
  rw [advance_of_ne (ne_root_of_not_mem hn.2.2.2), step, if_neg (by simp [hn.1, hn.2.1]),
    if_neg hn.2.2.1]

theorem foldl_advance_names {l : Location} (hl : ∀ n ∈ l, IsName n) (k : Location) :
    l.foldl advance k = k ++ l := by
  induction l generalizing k with
  | nil => simp
  | cons n l ih =>
    obtain ⟨hn, hl⟩ := List.forall_mem_cons.mp hl
    rw [List.foldl_cons, advance_of_isName hn, ih hl, List.append_assoc, List.singleton_append]

theorem foldl_advance_of_tidies {cs ds : List String} (h : Tidies cs ds) (l : Location) :
    cs.foldl advance l = ds.foldl advance l := by
  cases h with
  | restart before after =>
    rw [List.foldl_append, List.foldl_cons, List.foldl_cons, advance_root, advance_root]
  | @skip before after n hn =>
    have hskip : ∀ k, advance k n = k := by rcases hn with rfl | rfl <;> simp [advance, step]
    rw [List.foldl_append, List.foldl_cons, hskip, List.foldl_append]
  | cancel before after hn =>
    rw [List.foldl_append, List.foldl_cons, advance_of_isName hn, List.foldl_cons,
      advance_of_ne (by decide), step, if_neg (by decide), if_pos rfl, List.dropLast_concat,
      List.foldl_append]
  | top before after =>
    have hup : advance [] ".." = [] := by decide
    rw [List.foldl_append, List.foldl_cons, advance_root, List.foldl_cons, hup, List.foldl_append,
      List.foldl_cons, advance_root]

theorem foldl_advance_of_tidies_many {cs ds : List String} (h : Relation.ReflTransGen Tidies cs ds)
    (l : Location) : cs.foldl advance l = ds.foldl advance l := by
  induction h with
  | refl => rfl
  | tail _ hstep ih => rw [ih, foldl_advance_of_tidies hstep]

theorem Tidies.append {cs ds : List String} (h : Tidies cs ds) (es : List String) :
    Tidies (cs ++ es) (ds ++ es) := by
  cases h with
  | restart before after => simpa using Tidies.restart before (after ++ es)
  | skip before after hn => simpa using Tidies.skip before (after ++ es) hn
  | cancel before after hn => simpa using Tidies.cancel before (after ++ es) hn
  | top before after => simpa using Tidies.top before (after ++ es)

theorem tidies_advance {l : Location} (hl : ∀ n ∈ l, IsName n) {n : String}
    (hn : n = "/" ∨ '/' ∉ n.toList) :
    Relation.ReflTransGen Tidies ("/" :: (l ++ [n])) ("/" :: advance l n) := by
  rcases hn with rfl | hslash
  · rw [advance_root]
    exact .single (.restart ("/" :: l) [])
  rw [advance_of_ne (ne_root_of_not_mem hslash), step]
  split
  · next hskip =>
    have h := Tidies.skip ("/" :: l) [] hskip
    rw [List.append_nil] at h
    exact .single h
  · next hleads =>
    split
    · next hup =>
      subst hup
      rcases List.eq_nil_or_concat' l with rfl | ⟨k, m, rfl⟩
      · exact .single (.top [] [])
      · have h := Tidies.cancel ("/" :: k) [] (hl m (by simp))
        rw [List.dropLast_concat, List.append_assoc]
        rw [List.append_nil] at h
        exact .single h
    · exact .refl

theorem isName_advance {l : Location} (hl : ∀ n ∈ l, IsName n) {n : String}
    (hn : n = "/" ∨ '/' ∉ n.toList) : ∀ m ∈ advance l n, IsName m := by
  rcases hn with rfl | hslash
  · simp [advance_root]
  · rw [advance_of_ne (ne_root_of_not_mem hslash)]
    exact step_names hl hslash

theorem tidies_foldl_advance {cs : List String} (hcs : ∀ n ∈ cs, n = "/" ∨ '/' ∉ n.toList) :
    Relation.ReflTransGen Tidies ("/" :: cs) ("/" :: cs.foldl advance []) ∧
      ∀ n ∈ cs.foldl advance [], IsName n := by
  -- from the end, so that what stands before the last component is tidied up already
  induction cs using List.reverseRecOn with
  | nil => exact ⟨.refl, by simp⟩
  | append_singleton cs n ih =>
    simp only [List.mem_append, List.mem_singleton] at hcs
    obtain ⟨htidies, hnames⟩ := ih fun m hm => hcs m (.inl hm)
    have hn := hcs n (.inr rfl)
    have hbefore := htidies.lift (· ++ [n]) fun _ _ h => h.append [n]
    rw [List.foldl_append]
    exact ⟨hbefore.trans (tidies_advance hnames hn), isName_advance hnames hn⟩

theorem mem_components {p n : String} (hn : n ∈ components p) : n = "/" ∨ '/' ∉ n.toList := by
  unfold components at hn
  split at hn
  · exact (List.mem_cons.mp hn).imp_right Text.not_mem_of_mem_pieces
  · exact .inr (Text.not_mem_of_mem_pieces hn)

theorem foldl_advance_components (l : Location) (p : String) :
    (components p).foldl advance l = locate l p := by
  have hpieces : ∀ k, (pieces p).foldl advance k = (pieces p).foldl step k := fun k =>
    List.foldl_ext _ _ k fun a n hn =>
      advance_of_ne (ne_root_of_not_mem (Text.not_mem_of_mem_pieces hn)) a
  unfold components locate
  split
  · rw [List.foldl_cons, advance_root, hpieces]
  · rw [hpieces]

theorem foldl_advance_flatMap (l : Location) (paths : List String) :
    (paths.flatMap components).foldl advance l = paths.foldl locate l := by
  induction paths generalizing l with
  | nil => rfl
  | cons p paths ih =>
    rw [List.flatMap_cons, List.foldl_append, foldl_advance_components, ih, List.foldl_cons]

theorem normalForm_iff {p : String} (hp : isAbsolute p = true) {paths : List String} {l : Location} :
    NormalForm (p :: paths) l ↔ l = (p :: paths).foldl locate [] := by
  rw [← foldl_advance_flatMap]
  constructor
  · rintro ⟨htidies, hnames⟩
    rw [foldl_advance_of_tidies_many htidies, List.foldl_cons, advance_root,
      foldl_advance_names hnames, List.nil_append]
  · rintro rfl
    have hroot : (p :: paths).flatMap components = "/" :: (pieces p ++ paths.flatMap components) := by
      rw [List.flatMap_cons, components, if_pos hp, List.cons_append]
    rw [NormalForm, hroot, List.foldl_cons, advance_root]
    apply tidies_foldl_advance
    intro n hn
    rcases List.mem_append.mp hn with hn | hn
    · exact .inr (Text.not_mem_of_mem_pieces hn)
    · obtain ⟨_, _, hn⟩ := List.mem_flatMap.mp hn
      exact mem_components hn

theorem normalForm_text_iff {base : Location} (hbase : ∀ n ∈ base, IsName n) {paths : List String}
    {l : Location} : NormalForm (text base :: paths) l ↔ l = paths.foldl locate base := by
  rw [normalForm_iff (isAbsolute_text base), List.foldl_cons, locate_text hbase]

theorem NormalForm.clean {paths : List String} {l : Location} (h : NormalForm paths l) :
    Clean (text l) :=
  clean_text h.2

end FlutterInstaller.Path
