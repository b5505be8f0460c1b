import FlutterInstaller.Text.Split

/-!
Paths as they are written, and places as lists of names below the root. Joining keeps the text of
both parts; locating a path is lexical: empty and `.` pieces are dropped, `..` takes back a name and
stops at the root, and an absolute path starts over.
-/
namespace FlutterInstaller

abbrev Location := List String

namespace Path

def isAbsolute (p : String) : Bool := p.toList.head? == some '/'

def pieces (p : String) : List String := Text.pieces '/' p

def join (base p : String) : String :=
  if isAbsolute p then p
  else if base.toList.getLast?.all (· = '/') then base ++ p
  else base ++ "/" ++ p

def step (l : Location) (piece : String) : Location :=
  if piece = "" ∨ piece = "." then l
  else if piece = ".." then l.dropLast
  else l ++ [piece]

def locate (base : Location) (p : String) : Location :=
  (pieces p).foldl step (if isAbsolute p then [] else base)

def text (l : Location) : String := "/" ++ "/".intercalate l

def absolute (base : Location) (p : String) : String := text (locate base p)

/-- Removes slashes, and `.` pieces after a slash, from the end of a path given backwards; a slash
at the very start stays. -/
def stripEnd : List Char → List Char
  | '/' :: c :: cs => stripEnd (c :: cs)
  | '.' :: '/' :: cs => stripEnd ('/' :: cs)
  | cs => cs

def parent? (p : String) : Option String :=
  match stripEnd p.toList.reverse with
  | [] => none
  | ['/'] => none
  | cs =>
    let rest := cs.dropWhile (· ≠ '/')
    some (String.ofList (stripEnd rest).reverse)

/-- A path and the paths above it, the path itself first, as long as they name a place below their
start. -/
def lineage : Nat → String → List String
  | 0, _ => []
  | fuel + 1, p =>
    match parent? p with
    | none => []
    | some q => p :: lineage fuel q

def IsName (n : String) : Prop := n ≠ "" ∧ n ≠ "." ∧ n ≠ ".." ∧ '/' ∉ n.toList

theorem isAbsolute_text (l : Location) : isAbsolute (text l) = true := by
  simp [isAbsolute, text]

theorem step_names {l : Location} {piece : String} (hl : ∀ n ∈ l, IsName n)
    (hp : '/' ∉ piece.toList) : ∀ n ∈ step l piece, IsName n := by
  unfold step
  split
  · exact hl
  · split
    · exact fun n hn => hl n (List.dropLast_subset l hn)
    · rename_i h₁ h₂
      intro n hn
      rcases List.mem_append.mp hn with hn | hn
      · exact hl n hn
      · rw [List.mem_singleton.mp hn]
        exact ⟨fun h => h₁ (.inl h), fun h => h₁ (.inr h), h₂, hp⟩

end Path

end FlutterInstaller
