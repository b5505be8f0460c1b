import FlutterInstaller.Proofs.Text.Pairs
import Mathlib.Algebra.Group.Nat.Even
import Mathlib.Data.List.SplitBy

/-!
Runs of one character. Doubling a mark makes the runs of the mark twice as long and leaves the others as
they are, so in a doubled text the runs of the mark are even, and halving them gives the text again.
-/
namespace FlutterInstaller.Text

def runs (cs : List Char) : List (List Char) := cs.splitBy (· == ·)

def EvenRuns (d : Char) (s : String) : Prop := ∀ run ∈ runs s.toList, d ∈ run → Even run.length

instance (d : Char) (s : String) : Decidable (EvenRuns d s) :=
  inferInstanceAs (Decidable (∀ run ∈ runs s.toList, d ∈ run → Even run.length))

def halve (d : Char) (run : List Char) : List Char :=
  if d ∈ run then run.take (run.length / 2) else run

def halveRuns (d : Char) (s : String) : String := String.ofList ((runs s.toList).flatMap (halve d))

variable {d : Char} {cs run : List Char}

theorem eq_replicate_of_mem_runs (h : run ∈ runs cs) : ∃ c n, run = List.replicate (n + 1) c := by
  obtain ⟨c, rest, rfl⟩ := List.exists_cons_of_ne_nil (List.ne_nil_of_mem_splitBy h)
  have hchain : (c :: rest).IsChain (· = ·) :=
    (List.isChain_of_mem_splitBy h).imp fun _ _ => eq_of_beq
  exact ⟨c, rest.length, List.isChain_eq_iff_eq_replicate.mp hchain c rfl⟩

theorem doubleChars_replicate (d : Char) (n : Nat) :
    doubleChars d (List.replicate n d) = List.replicate (2 * n) d := by
  induction n with
  | zero => rfl
  | succ n ih => rw [List.replicate_succ, doubleChars, if_pos rfl, ih, Nat.mul_succ]; rfl

theorem doubleChars_run (h : run ∈ runs cs) :
    (d ∉ run ∧ doubleChars d run = run) ∨
      ∃ n, run = List.replicate (n + 1) d ∧
        doubleChars d run = List.replicate (2 * (n + 1)) d := by
  obtain ⟨c, n, rfl⟩ := eq_replicate_of_mem_runs h
  by_cases hc : c = d
  · subst hc
    exact .inr ⟨n, rfl, doubleChars_replicate c (n + 1)⟩
  · have hd : d ∉ List.replicate (n + 1) c := by simp [Ne.symm hc]
    exact .inl ⟨hd, doubleChars_of_not_mem hd⟩

theorem head?_doubleChars (d : Char) (cs : List Char) : (doubleChars d cs).head? = cs.head? := by
  cases cs with
  | nil => rfl
  | cons c cs => by_cases hc : c = d <;> simp [doubleChars, hc]

theorem getLast?_doubleChars (d : Char) (cs : List Char) :
    (doubleChars d cs).getLast? = cs.getLast? := by
  rcases cs.eq_nil_or_concat with rfl | ⟨cs, c, rfl⟩
  · rfl
  · by_cases hc : c = d <;> simp [doubleChars_append, doubleChars, hc]

theorem flatten_map_doubleChars (d : Char) (css : List (List Char)) :
    (css.map (doubleChars d)).flatten = doubleChars d css.flatten := by
  induction css with
  | nil => rfl
  | cons cs css ih => rw [List.map_cons, List.flatten_cons, ih, List.flatten_cons, doubleChars_append]

/-- Doubling makes no runs and joins none. -/
theorem runs_doubleChars (d : Char) (cs : List Char) :
    runs (doubleChars d cs) = (runs cs).map (doubleChars d) := by
  have hne {cs : List Char} : doubleChars d cs ≠ [] ↔ cs ≠ [] := by
    rw [Ne, eq_comm, nil_eq_doubleChars_iff]
  have hlast {cs : List Char} (h : cs ≠ []) :
      (doubleChars d cs).getLast (hne.mpr h) = cs.getLast h := by
    rw [← Option.some_inj, ← List.getLast?_eq_some_getLast, getLast?_doubleChars,
      List.getLast?_eq_some_getLast]
  have hhead {cs : List Char} (h : cs ≠ []) : (doubleChars d cs).head (hne.mpr h) = cs.head h := by
    rw [← Option.some_inj, ← List.head?_eq_some_head, head?_doubleChars, List.head?_eq_some_head]
  rw [runs, List.splitBy_eq_iff]
  refine ⟨?_, ?_, ?_, ?_⟩
  · rw [flatten_map_doubleChars, runs, List.flatten_splitBy]
  · intro hnil
    obtain ⟨run, hrun, hempty⟩ := List.mem_map.mp hnil
    exact hne.mpr (List.ne_nil_of_mem_splitBy hrun) hempty
  · intro doubled hdoubled
    obtain ⟨run, hrun, rfl⟩ := List.mem_map.mp hdoubled
    rcases doubleChars_run (d := d) hrun with ⟨-, heq⟩ | ⟨n, -, heq⟩
    · rw [heq]
      exact List.isChain_of_mem_splitBy hrun
    · rw [heq]
      exact List.isChain_replicate_of_rel _ (beq_self_eq_true d)
  · rw [List.isChain_map]
    refine (List.isChain_getLast_head_splitBy _ cs).imp fun before after h => ?_
    obtain ⟨hbefore, hafter, hdiffer⟩ := h
    exact ⟨hne.mpr hbefore, hne.mpr hafter, by rwa [hlast hbefore, hhead hafter]⟩

theorem evenRuns_double (d : Char) (s : String) : EvenRuns d (double d s) := by
  rw [EvenRuns, double, String.toList_ofList, runs_doubleChars]
  intro doubled hdoubled hd
  obtain ⟨run, hrun, rfl⟩ := List.mem_map.mp hdoubled
  rcases doubleChars_run (d := d) hrun with ⟨hout, heq⟩ | ⟨n, -, heq⟩
  · rw [heq] at hd
    exact absurd hd hout
  · rw [heq, List.length_replicate]
    exact ⟨n + 1, Nat.two_mul (n + 1)⟩

theorem halve_doubleChars (h : run ∈ runs cs) : halve d (doubleChars d run) = run := by
  rcases doubleChars_run (d := d) h with ⟨hout, heq⟩ | ⟨n, hrun, heq⟩
  · rw [heq, halve, if_neg hout]
  · have hmem : d ∈ List.replicate (2 * (n + 1)) d := by simp
    rw [heq, halve, if_pos hmem, List.length_replicate, Nat.mul_div_cancel_left _ Nat.two_pos,
      List.take_replicate, Nat.min_eq_left (by omega), hrun]

theorem halveRuns_double (d : Char) (s : String) : halveRuns d (double d s) = s := by
  have hruns : (runs s.toList).map (halve d ∘ doubleChars d) = (runs s.toList).map id :=
    List.map_congr_left fun run hrun => halve_doubleChars hrun
  rw [halveRuns, double, String.toList_ofList, runs_doubleChars, List.flatMap_def, List.map_map, hruns,
    List.map_id, runs, List.flatten_splitBy, String.ofList_toList]

theorem double_inj {s t : String} : double d s = double d t ↔ s = t := by
  refine ⟨fun h => ?_, congrArg (double d)⟩
  rw [← halveRuns_double d s, h, halveRuns_double]

end FlutterInstaller.Text
