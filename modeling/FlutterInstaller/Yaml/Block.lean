import FlutterInstaller.Yaml.Token

/-!
Block scalars: indented lines after a header, kept as they are or folded. The header may tell the
indentation and what becomes of the breaks at the end.
-/
namespace FlutterInstaller.Yaml.Block

inductive Chomping
  | strip
  | clip
  | keep
  deriving DecidableEq

structure Header where
  chomping : Chomping
  indent : Option Nat

def chomping? : Char → Option Chomping
  | '+' => some .keep
  | '-' => some .strip
  | _ => none

def readHeader (c : Cursor) : Except Error (Header × Cursor) :=
  let indentation (chomp : Chomping) (x : Char) (c : Cursor) : Except Error (Header × Cursor) :=
    if x = '0' then .error .badIndentation else .ok (⟨chomp, some (x.toNat - 48)⟩, c.advance 1)
  match c.rest with
  | x :: y :: _ =>
    match chomping? x with
    | some chomp =>
      if y.isDigit then indentation chomp y (c.advance 1) else .ok (⟨chomp, none⟩, c.advance 1)
    | none =>
      if x.isDigit then do
        let (h, c) ← indentation .clip x c
        match chomping? y with
        | some chomp => .ok (⟨chomp, h.indent⟩, c.advance 1)
        | none => .ok (h, c)
      else .ok (⟨.clip, none⟩, c)
  | [x] =>
    match chomping? x with
    | some chomp => .ok (⟨chomp, none⟩, c.advance 1)
    | none => if x.isDigit then indentation .clip x c else .ok (⟨.clip, none⟩, c)
  | [] => .ok (⟨.clip, none⟩, c)

/-- Passes indentation and empty lines. An indentation of zero is not known yet: then all spaces
count, and the widest line seen is kept. Gives the breaks, that width and the place after. -/
def emptyLines (indent : Nat) : Nat → List Char → Nat → Cursor →
    Except Error (List Char × Nat × Cursor)
  | 0, breaks, widest, c => .ok (breaks, widest, c)
  | fuel + 1, breaks, widest, c =>
    let room := if indent = 0 then c.rest.length else indent - c.column
    let spaces := ((c.rest.take room).takeWhile (· = ' ')).length
    let c := c.advance spaces
    let widest := max widest c.column
    if (indent = 0 ∨ c.column < indent) ∧ c.peekIs '\t' then .error .badIndentation
    else if c.peek?.any isBreak then emptyLines indent fuel (breaks ++ c.lineBreak) widest c.nextLine
    else .ok (breaks, widest, c)

def settle (indent widest : Nat) (parent : Int) : Nat :=
  if indent = 0 then max widest (max (parent + 1).toNat 1) else indent

structure Body where
  text : List Char
  last : List Char
  empty : List Char
  blank : Bool

/-- Adds a line: when folding, a single break between two lines that do not start with a blank
becomes a space. -/
def Body.add (literal : Bool) (b : Body) (line lineBreak : List Char) : Body :=
  let blank := line.head?.any isSpace
  let joint :=
    if !literal ∧ b.last = ['\n'] ∧ !b.blank ∧ !blank then
      if b.empty = [] then [' '] else []
    else b.last
  ⟨b.text ++ joint ++ b.empty ++ line, lineBreak, [], blank⟩

def Body.chomped (b : Body) : Chomping → List Char
  | .strip => b.text
  | .clip => b.text ++ b.last
  | .keep => b.text ++ b.last ++ b.empty

def lines (literal : Bool) (indent : Nat) : Nat → Body → Cursor → Except Error (Body × Cursor)
  | 0, b, c => .ok (b, c)
  | fuel + 1, b, c =>
    if c.column ≠ indent ∨ c.rest.isEmpty then .ok (b, c)
    else do
      let (line, c) := c.takeWhile fun x => !isBreak x
      let b := b.add literal line c.lineBreak
      let (breaks, _, c) ← emptyLines indent (fuel + 1) [] 0 c.nextLine
      lines literal indent fuel { b with empty := breaks } c

def read (literal : Bool) (parent : Int) (c : Cursor) : Except Error (Token × Cursor) := do
  let (header, c) ← readHeader (c.advance 1)
  let c := c.skipToLineEnd
  if !endsLine c.rest then .error .unexpectedCharacter
  else
    let indent := match header.indent with
      | some n => (max parent 0).toNat + n
      | none => 0
    let (breaks, widest, c) ← emptyLines indent (c.rest.length + 1) [] 0 c.nextLine
    let (b, c) ← lines literal (settle indent widest parent) (c.rest.length + 1)
      ⟨[], [], breaks, false⟩ c
    .ok (.scalar (String.ofList (b.chomped header.chomping)) false, c)

end FlutterInstaller.Yaml.Block
