/-!
Escaping by doubling: a character that has a meaning of its own stands for itself when it is
written twice.
-/
namespace FlutterInstaller.Text

def doubleChars (d : Char) : List Char → List Char
  | [] => []
  | c :: cs => if c = d then d :: d :: doubleChars d cs else c :: doubleChars d cs

def double (d : Char) (s : String) : String := String.ofList (doubleChars d s.toList)

theorem doubleChars_injective (d : Char) {s t : List Char} (h : doubleChars d s = doubleChars d t) :
    s = t := by
  induction s generalizing t with
  | nil => cases t with
    | nil => rfl
    | cons c t => by_cases hc : c = d <;> simp [doubleChars, hc] at h
  | cons c s ih => cases t with
    | nil => by_cases hc : c = d <;> simp [doubleChars, hc] at h
    | cons e t =>
      by_cases hc : c = d <;> by_cases he : e = d <;> simp [doubleChars, hc, he] at h
      · rw [hc, he, ih h]
      · exact absurd h.1.symm he
      · rw [h.1, ih h.2]

end FlutterInstaller.Text
