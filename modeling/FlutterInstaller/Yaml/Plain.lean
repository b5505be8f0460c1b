import FlutterInstaller.Yaml.Token

/-!
Plain scalars. They end at a comment, at a colon before a blank, at a document mark, at a line that
is indented too little, and inside brackets also at the marks of collections.
-/
namespace FlutterInstaller.Yaml.Plain

def isFlowMark (c : Char) : Bool :=
  c = ',' || c = '[' || c = ']' || c = '\x7b' || c = '\x7d'

def starts (flow : Bool) : List Char → Bool
  | [] => false
  | c :: rest =>
    if c = '-' then !(rest.head?.any isSpace)
    else if c = '?' ∨ c = ':' then !flow && !endsWord rest
    else !endsWord (c :: rest) && !isFlowMark c && !("#&*!|>\x27\"%@`".toList.contains c)

def word (flow : Bool) : List Char → Except Error (List Char)
  | [] => .ok []
  | c :: rest =>
    if isSpace c ∨ isBreak c then .ok []
    else if flow ∧ c = ':' ∧ rest.head?.any (fun x => isFlowMark x || x = '?') then
      .error .unexpectedCharacter
    else if (c = ':' ∧ endsWord rest) ∨ (flow ∧ isFlowMark c) then .ok []
    else (word flow rest).map (c :: ·)

/-- Reads words and the gaps between them; `gap` is the one read last. Gives the text, the gap at
its end and the place after it. The fuel is never less than what is left of the text. -/
def body (flow : Bool) (indent : Int) : Nat → List Char → Gap → Cursor →
    Except Error (List Char × Gap × Cursor)
  | 0, done, gap, c => .ok (done, gap, c)
  | fuel + 1, done, gap, c => do
    if c.atDocumentMark ∨ c.peekIs '#' then .ok (done, gap, c)
    else
      let w ← word flow c.rest
      let done := if w.isEmpty then done else done ++ gap.text ++ w
      let gap := if w.isEmpty then gap else Gap.empty
      let c := c.advance w.length
      if !(c.peek?.any fun x => isSpace x || isBreak x) then .ok (done, gap, c)
      else match Gap.read (some indent) (fuel + 1) gap c with
        | none => .error .badIndentation
        | some (gap, c) =>
          if !flow ∧ (c.column : Int) < indent then .ok (done, gap, c)
          else body flow indent fuel done gap c

def read (flow : Bool) (indent : Int) (c : Cursor) : Except Error (Token × Bool × Cursor) := do
  let (text, gap, after) ← body flow (indent + 1) (c.rest.length + 1) [] Gap.empty c
  .ok (.scalar (String.ofList text) true, gap.broken, after)

end FlutterInstaller.Yaml.Plain
