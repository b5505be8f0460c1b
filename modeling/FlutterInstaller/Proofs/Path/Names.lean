import FlutterInstaller.FileSystem.Edit
import FlutterInstaller.Proofs.Text.Pieces
import Mathlib.Logic.Basic

/-!
What a path says lexically: whether it starts from the root, and the names it goes through. A path that
never goes up names the place its names lead down to.
-/
namespace FlutterInstaller.Path

def leads (piece : String) : Bool := piece ≠ "" && piece ≠ "."

theorem leads_iff {n : String} : leads n = true ↔ n ≠ "" ∧ n ≠ "." := by simp [leads]

theorem not_leads_iff {n : String} : leads n = false ↔ n = "" ∨ n = "." := by
  rw [← Bool.not_eq_true, leads_iff, not_and_or, Decidable.not_not, Decidable.not_not]

def names (p : String) : List String := (pieces p).filter leads

/-- A path that never goes up. -/
def Straight (p : String) : Prop := ".." ∉ names p

instance : DecidablePred Straight := fun p => inferInstanceAs (Decidable (".." ∉ names p))

instance : DecidablePred IsName := fun n =>
  inferInstanceAs (Decidable (n ≠ "" ∧ n ≠ "." ∧ n ≠ ".." ∧ '/' ∉ n.toList))

/-- A path from the root in which no piece is `.` or `..`. -/
structure Clean (p : String) : Prop where
  absolute : isAbsolute p = true
  here : "." ∉ pieces p
  up : ".." ∉ pieces p

theorem clean_iff {p : String} : Clean p ↔ isAbsolute p = true ∧ "." ∉ pieces p ∧ ".." ∉ pieces p :=
  ⟨fun ⟨habs, hhere, hup⟩ => ⟨habs, hhere, hup⟩, fun ⟨habs, hhere, hup⟩ => ⟨habs, hhere, hup⟩⟩

instance : DecidablePred Clean := fun _ => decidable_of_iff' _ clean_iff

/-- All that the place of a path depends on. -/
def route (p : String) : Bool × List String := (isAbsolute p, names p)

theorem foldl_step_of_straight (base : Location) {ps : List String} (h : ".." ∉ ps.filter leads) :
    ps.foldl step base = base ++ ps.filter leads := by
  induction ps generalizing base with
  | nil => simp
  | cons n ps ih =>
    by_cases hn : leads n = true
    · simp only [List.filter_cons_of_pos hn, List.mem_cons, not_or] at h
      have hstep : step base n = base ++ [n] := by
        obtain ⟨hempty, hdot⟩ := leads_iff.mp hn
        simp [step, hempty, hdot, Ne.symm h.1]
      rw [List.foldl_cons, hstep, ih _ h.2, List.filter_cons_of_pos hn, List.append_assoc,
        List.singleton_append]
    · have hskip := not_leads_iff.mp (Bool.eq_false_iff.mpr hn)
      have hstep : step base n = base := by simp [step, hskip]
      rw [List.filter_cons_of_neg hn] at h ⊢
      rw [List.foldl_cons, hstep, ih _ h]

theorem locate_of_straight {p : String} (h : Straight p) (base : Location) :
    locate base p = (if isAbsolute p then [] else base) ++ names p :=
  foldl_step_of_straight _ h

theorem isName_locate {w : Location} (hw : ∀ n ∈ w, IsName n) (p : String) :
    ∀ n ∈ locate w p, IsName n := by
  have hfold : ∀ (ps : List String) (l : Location), (∀ n ∈ l, IsName n) →
      (∀ n ∈ ps, '/' ∉ n.toList) → ∀ n ∈ ps.foldl step l, IsName n := by
    intro ps
    induction ps with
    | nil => exact fun l hl _ => hl
    | cons n ps ih =>
      intro l hl hps
      obtain ⟨hn, hps⟩ := List.forall_mem_cons.mp hps
      exact ih _ (step_names hl hn) hps
  refine hfold _ _ ?_ fun n hn => Text.not_mem_of_mem_pieces hn
  split
  · simp
  · exact hw

theorem names_append_slash (s t : String) : names (s ++ "/" ++ t) = names s ++ names t := by
  rw [names, pieces, Text.pieces_append rfl, List.filter_append]
  rfl

theorem names_empty : names "" = [] := by decide

theorem names_slash_end (s : String) : names (s ++ "/") = names s := by
  have h := names_append_slash s ""
  rwa [String.append_empty, names_empty, List.append_nil] at h

theorem isAbsolute_append {s : String} (hs : s ≠ "") (t : String) :
    isAbsolute (s ++ t) = isAbsolute s := by
  cases hl : s.toList with
  | nil => exact absurd (String.toList_inj.mp hl) hs
  | cons c cs => simp [isAbsolute, hl]

theorem ends_in_slash_or {p : String} (h : p.toList.getLast?.all (· = '/') = true) :
    p = "" ∨ ∃ s, p = s ++ "/" := by
  rcases List.eq_nil_or_concat p.toList with hnil | ⟨cs, c, hc⟩
  · exact .inl (String.toList_inj.mp hnil)
  · rw [hc] at h
    have hslash : c = '/' := by simpa using h
    refine .inr ⟨String.ofList cs, String.toList_inj.mp ?_⟩
    simp [hc, hslash]

theorem names_join {base p : String} (hp : isAbsolute p = false) :
    names (join base p) = names base ++ names p := by
  rw [join, if_neg (by simp [hp])]
  split
  · next hend =>
    rcases ends_in_slash_or hend with rfl | ⟨s, rfl⟩
    · simp [names_empty]
    · rw [names_append_slash, names_slash_end]
  · exact names_append_slash base p

theorem isAbsolute_join {base p : String} (hp : isAbsolute p = false) :
    isAbsolute (join base p) = isAbsolute base := by
  rw [join, if_neg (by simp [hp])]
  by_cases hb : base = ""
  · subst hb
    rw [if_pos (by decide), String.empty_append, hp]
    decide
  · split
    · exact isAbsolute_append hb p
    · rw [String.append_assoc]
      exact isAbsolute_append hb _

theorem mem_pieces_join {base p n : String} (hp : isAbsolute p = false) (hn : n ≠ "") :
    n ∈ pieces (join base p) ↔ n ∈ pieces base ∨ n ∈ pieces p := by
  have hempty : pieces "" = [""] := by decide
  rw [join, if_neg (by simp [hp])]
  split
  · next hend =>
    rcases ends_in_slash_or hend with rfl | ⟨s, rfl⟩
    · simp [hempty, hn]
    · have hs : pieces (s ++ "/") = pieces s ++ [""] := by
        rw [← hempty, ← String.append_empty (s := s ++ "/")]
        exact Text.pieces_append rfl s ""
      rw [hs, pieces, Text.pieces_append rfl]
      simp [pieces, hn]
  · rw [pieces, Text.pieces_append rfl, List.mem_append]
    rfl

theorem clean_join {base p : String} (hp : isAbsolute p = false) (hhere : "." ∉ pieces p)
    (hup : ".." ∉ pieces p) : Clean (join base p) ↔ Clean base := by
  rw [clean_iff, clean_iff, isAbsolute_join hp, mem_pieces_join hp (by decide),
    mem_pieces_join hp (by decide), or_iff_left hhere, or_iff_left hup]

theorem locate_join {base p : String} (hp : isAbsolute p = false) (hbase : Straight base)
    (hstraight : Straight p) (w : Location) :
    locate w (join base p) = locate w base ++ names p := by
  have hjoin : Straight (join base p) := by
    rw [Straight, names_join hp, List.mem_append, not_or]
    exact ⟨hbase, hstraight⟩
  rw [locate_of_straight hjoin, locate_of_straight hbase, isAbsolute_join hp, names_join hp,
    List.append_assoc]

theorem pieces_text {l : Location} (hl : ∀ n ∈ l, IsName n) :
    pieces (text l) = "" :: (if l = [] then [""] else l) := by
  have hslash : text l = "" ++ "/" ++ "/".intercalate l := by simp [text]
  rw [hslash, pieces, Text.pieces_append rfl]
  by_cases hne : l = []
  · subst hne
    decide
  · rw [Text.pieces_intercalate rfl hne, Text.flatMap_pieces fun n hn => (hl n hn).2.2.2, if_neg hne]
    rfl

theorem clean_text {l : Location} (hl : ∀ n ∈ l, IsName n) : Clean (text l) := by
  have hmem {n : String} (hn : n ∈ pieces (text l)) : n = "" ∨ n ∈ l := by
    rw [pieces_text hl] at hn
    split at hn
    · exact .inl (by simpa using hn)
    · exact List.mem_cons.mp hn
  refine ⟨isAbsolute_text l, ?_, ?_⟩
  · intro h
    exact (hl "." ((hmem h).resolve_left (by decide))).2.1 rfl
  · intro h
    exact (hl ".." ((hmem h).resolve_left (by decide))).2.2.1 rfl

theorem names_text {l : Location} (hl : ∀ n ∈ l, IsName n) : names (text l) = l := by
  rw [names, pieces_text hl]
  by_cases hne : l = []
  · subst hne
    decide
  · have hleads : ∀ n ∈ l, leads n = true := fun n hn => by
      simp [leads, (hl n hn).1, (hl n hn).2.1]
    rw [if_neg hne, List.filter_cons_of_neg (by decide), List.filter_eq_self.mpr hleads]

theorem straight_text {l : Location} (hl : ∀ n ∈ l, IsName n) : Straight (text l) := by
  rw [Straight, names_text hl]
  exact fun h => (hl ".." h).2.2.1 rfl

theorem locate_text {l : Location} (hl : ∀ n ∈ l, IsName n) (w : Location) :
    locate w (text l) = l := by
  rw [locate_of_straight (straight_text hl), isAbsolute_text, if_pos rfl, names_text hl,
    List.nil_append]

end FlutterInstaller.Path
