/-!
Cutting a text at every character of a class. A text without such a character is one piece, and
the pieces hold exactly the other characters, in order.
-/
namespace FlutterInstaller.Text

/-- The pieces between the characters that satisfy `cut`; there is always at least one. -/
def splitBy (cut : Char → Bool) : List Char → List (List Char)
  | [] => [[]]
  | c :: cs =>
    if cut c then [] :: splitBy cut cs
    else match splitBy cut cs with
      | [] => [[c]]
      | piece :: pieces => (c :: piece) :: pieces

theorem splitBy_ne_nil (cut : Char → Bool) (cs : List Char) : splitBy cut cs ≠ [] := by
  cases cs with
  | nil => simp [splitBy]
  | cons c cs =>
    simp only [splitBy]
    split
    · simp
    · split <;> simp

theorem flatten_splitBy (cut : Char → Bool) (cs : List Char) :
    (splitBy cut cs).flatten = cs.filter (fun c => !cut c) := by
  induction cs with
  | nil => rfl
  | cons c cs ih =>
    by_cases hc : cut c
    · simp [splitBy, hc, ih]
    · obtain ⟨piece, pieces, h⟩ := List.exists_cons_of_ne_nil (splitBy_ne_nil cut cs)
      rw [h] at ih
      simp only [List.flatten_cons] at ih
      simp [splitBy, hc, h, ih]

theorem splitBy_append_cons {cut : Char → Bool} {c : Char} (hc : cut c = true) (as bs : List Char) :
    splitBy cut (as ++ c :: bs) = splitBy cut as ++ splitBy cut bs := by
  induction as with
  | nil => simp [splitBy, hc]
  | cons a as ih =>
    obtain ⟨piece, pieces, h⟩ := List.exists_cons_of_ne_nil (splitBy_ne_nil cut as)
    by_cases ha : cut a = true <;> simp [splitBy, ha, ih, h]

def pieces (mark : Char) (s : String) : List String :=
  (splitBy (· = mark) s.toList).map String.ofList

end FlutterInstaller.Text
