/-!
A place in the text of a document, and the character classes that decide where tokens end. The end
of the text counts as a blank and as a break.
-/
namespace FlutterInstaller.Yaml

/-- The text left, how many octets were passed, and the line and column reached, in characters. -/
structure Cursor where
  rest : List Char
  passed : Nat
  line : Nat
  column : Nat

def isBreak (c : Char) : Bool :=
  c = '\n' || c = '\r' || c.toNat = 0x85 || c.toNat = 0x2028 || c.toNat = 0x2029

def isSpace (c : Char) : Bool := c = ' ' || c = '\t'

def isNameChar (c : Char) : Bool := c.isAlphanum || c = '_' || c = '-'

def isHexChar (c : Char) : Bool :=
  c.isDigit || ('a' ≤ c && c ≤ 'f') || ('A' ≤ c && c ≤ 'F')

def hexValue (c : Char) : Nat :=
  if c.isDigit then c.toNat - 48 else if 'a' ≤ c then c.toNat - 87 else c.toNat - 55

def isPermitted (c : Char) : Bool :=
  let n := c.toNat
  n = 0x9 || n = 0xA || n = 0xD || (0x20 ≤ n && n ≤ 0x7E) || n = 0x85 || (0xA0 ≤ n && n ≤ 0xD7FF) ||
    (0xE000 ≤ n && n ≤ 0xFFFD) || (0x10000 ≤ n && n ≤ 0x10FFFF)

def endsWord : List Char → Bool
  | [] => true
  | c :: _ => isSpace c || isBreak c

def endsLine : List Char → Bool
  | [] => true
  | c :: _ => isBreak c

def isDocumentMark : List Char → Bool
  | '-' :: '-' :: '-' :: rest => endsWord rest
  | '.' :: '.' :: '.' :: rest => endsWord rest
  | _ => false

namespace Cursor

def ofText (s : String) : Cursor := ⟨s.toList, 0, 0, 0⟩

def octets (cs : List Char) : Nat := cs.foldl (fun n x => n + x.utf8Size) 0

def advance (n : Nat) (c : Cursor) : Cursor :=
  ⟨c.rest.drop n, c.passed + octets (c.rest.take n), c.line, c.column + n⟩

def nextLine (c : Cursor) : Cursor :=
  match c.rest with
  | '\r' :: '\n' :: rest => ⟨rest, c.passed + 2, c.line + 1, 0⟩
  | x :: rest => ⟨rest, c.passed + x.utf8Size, c.line + 1, 0⟩
  | [] => c

def lineBreak (c : Cursor) : List Char :=
  match c.rest with
  | b :: _ => if b.toNat = 0x2028 ∨ b.toNat = 0x2029 then [b] else if isBreak b then ['\n'] else []
  | [] => []

def takeWhile (p : Char → Bool) (c : Cursor) : List Char × Cursor :=
  let taken := c.rest.takeWhile p
  (taken, c.advance taken.length)

def skipWhile (p : Char → Bool) (c : Cursor) : Cursor := (c.takeWhile p).2

def peek? (c : Cursor) : Option Char := c.rest.head?

def peekIs (x : Char) (c : Cursor) : Bool := c.rest.head? == some x

def atDocumentMark (c : Cursor) : Bool := c.column = 0 && isDocumentMark c.rest

def skipToLineEnd (c : Cursor) : Cursor :=
  let c := c.skipWhile isSpace
  if c.peekIs '#' then c.skipWhile (fun x => !isBreak x) else c

end Cursor

/-- What stands between two words of a scalar: blanks on one line, or a first line break and any
further ones. -/
structure Gap where
  spaces : List Char
  first : List Char
  more : List Char
  broken : Bool

namespace Gap

def empty : Gap := ⟨[], [], [], false⟩

def text (g : Gap) : List Char :=
  if g.broken then
    if g.first = ['\n'] then (if g.more = [] then [' '] else g.more) else g.first ++ g.more
  else g.spaces

def read (indent : Option Int) : Nat → Gap → Cursor → Option (Gap × Cursor)
  | 0, g, c => some (g, c)
  | fuel + 1, g, c =>
    match c.rest with
    | [] => some (g, c)
    | x :: _ =>
      if isSpace x then
        if g.broken ∧ x = '\t' ∧ indent.any (fun i => decide ((c.column : Int) < i)) then none
        else if g.broken then read indent fuel g (c.advance 1)
        else read indent fuel { g with spaces := g.spaces ++ [x] } (c.advance 1)
      else if isBreak x then
        if g.broken then read indent fuel { g with more := g.more ++ c.lineBreak } c.nextLine
        else read indent fuel ⟨[], c.lineBreak, [], true⟩ c.nextLine
      else some (g, c)

end Gap

end FlutterInstaller.Yaml
