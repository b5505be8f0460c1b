import FlutterInstaller.Proofs.Text.Runs

/-!
Escaped texts are told apart by what they stand for. The runs of the character that is escaped are even,
and halving them gives what was escaped: the folded text of a value, the text of a label as it is.
-/
namespace FlutterInstaller.Script

open Text

/-- How many ampersands of a label mark a letter, where one may stand before: two in a row mark none. -/
def acceleratorMarks : Bool → List Char → Nat
  | pending, [] => pending.toNat
  | false, c :: cs => acceleratorMarks (c = '&') cs
  | true, c :: cs => if c = '&' then acceleratorMarks false cs else acceleratorMarks false cs + 1

theorem acceleratorMarks_doubleChars (cs : List Char) :
    acceleratorMarks false (doubleChars '&' cs) = 0 := by
  induction cs with
  | nil => rfl
  | cons c cs ih => by_cases hc : c = '&' <;> simp [doubleChars, acceleratorMarks, hc, ih]

/-- In the value of a free text every run of opening braces is even, and halving these runs gives the
text on one line, so two texts have the same value exactly when they are folded onto the same line. In a
label every run of ampersands is even, halving these gives the text, no two texts have the same label,
and no ampersand marks a letter. -/
theorem escaping_decodable (t : String) :
    (EvenRuns '\x7b' (freeText t) ∧ halveRuns '\x7b' (freeText t) = singleLine t ∧
      ∀ u, freeText t = freeText u ↔ singleLine t = singleLine u) ∧
    EvenRuns '&' (label t) ∧ halveRuns '&' (label t) = t ∧ (∀ u, label t = label u ↔ t = u) ∧
      acceleratorMarks false (label t).toList = 0 := by
  refine ⟨⟨evenRuns_double _ _, halveRuns_double _ _, fun u => double_inj⟩, evenRuns_double _ _,
    halveRuns_double _ _, fun u => double_inj, ?_⟩
  rw [label, double, String.toList_ofList, acceleratorMarks_doubleChars]

example : freeText "\x7b\x7b\n\x7ba" = "\x7b\x7b\x7b\x7b \x7b\x7ba" ∧
    halveRuns '\x7b' "\x7b\x7b\x7b\x7b \x7b\x7ba" = "\x7b\x7b \x7ba" := by
  decide

end FlutterInstaller.Script
