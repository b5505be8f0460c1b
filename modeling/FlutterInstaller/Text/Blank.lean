/-!
White space in the sense of Unicode, and texts seen through it: trimming removes it at both ends,
and a blank text holds nothing else.
-/
namespace FlutterInstaller.Text

/-- The characters with the property `White_Space`. -/
def isBlank (c : Char) : Bool :=
  let n := c.toNat
  (0x9 ≤ n && n ≤ 0xD) || n == 0x20 || n == 0x85 || n == 0xA0 || n == 0x1680 ||
    (0x2000 ≤ n && n ≤ 0x200A) || n == 0x2028 || n == 0x2029 || n == 0x202F || n == 0x205F ||
    n == 0x3000

def trimChars (cs : List Char) : List Char :=
  ((cs.dropWhile isBlank).reverse.dropWhile isBlank).reverse

def trim (s : String) : String := String.ofList (trimChars s.toList)

def Blank (s : String) : Prop := ∀ c ∈ s.toList, isBlank c = true

instance : DecidablePred Blank := fun s =>
  List.decidableBAll (fun c => isBlank c = true) s.toList

theorem dropWhile_isBlank_eq_nil_iff (cs : List Char) :
    cs.dropWhile isBlank = [] ↔ ∀ c ∈ cs, isBlank c = true := by
  induction cs with
  | nil => simp
  | cons c cs ih => by_cases h : isBlank c = true <;> simp [h, ih]

theorem mem_dropWhile_isBlank (cs : List Char) (h : ∀ c ∈ cs.dropWhile isBlank, isBlank c = true) :
    cs.dropWhile isBlank = [] := by
  induction cs with
  | nil => rfl
  | cons c cs ih =>
    by_cases hc : isBlank c = true
    · simp only [List.dropWhile_cons, hc, if_true] at h ⊢
      exact ih h
    · simp [hc] at h

theorem trimChars_eq_nil_iff (cs : List Char) : trimChars cs = [] ↔ ∀ c ∈ cs, isBlank c = true := by
  rw [trimChars, List.reverse_eq_nil_iff, dropWhile_isBlank_eq_nil_iff,
    ← dropWhile_isBlank_eq_nil_iff cs]
  constructor
  · intro h
    exact mem_dropWhile_isBlank cs fun c hc => h c (by simpa using hc)
  · intro h c hc
    simp [h] at hc

theorem trim_eq_empty_iff (s : String) : trim s = "" ↔ Blank s := by
  rw [Blank, ← trimChars_eq_nil_iff, trim]
  constructor
  · intro h
    have := congrArg String.toList h
    simpa using this
  · intro h
    rw [h]

end FlutterInstaller.Text
