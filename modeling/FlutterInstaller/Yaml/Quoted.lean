import FlutterInstaller.Yaml.Token

/-!
Quoted scalars. Between single quotes a doubled quote stands for one; between double quotes a
backslash starts an escape. Breaks fold as they do in plain scalars.
-/
namespace FlutterInstaller.Yaml.Quoted

def simpleEscape? : Char → Option Char
  | '0' => some '\x00'
  | 'a' => some '\x07'
  | 'b' => some '\x08'
  | 't' | '\t' => some '\t'
  | 'n' => some '\n'
  | 'v' => some '\x0b'
  | 'f' => some '\x0c'
  | 'r' => some '\r'
  | 'e' => some '\x1b'
  | ' ' => some ' '
  | '"' => some '"'
  | '/' => some '/'
  | '\\' => some '\\'
  | 'N' => some (Char.ofNat 0x85)
  | '_' => some (Char.ofNat 0xA0)
  | 'L' => some (Char.ofNat 0x2028)
  | 'P' => some (Char.ofNat 0x2029)
  | _ => none

def codeLength? : Char → Option Nat
  | 'x' => some 2
  | 'u' => some 4
  | 'U' => some 8
  | _ => none

def escape? : List Char → Option (Char × Nat)
  | [] => none
  | c :: rest =>
    match simpleEscape? c, codeLength? c with
    | some x, _ => some (x, 1)
    | none, none => none
    | none, some n =>
      let digits := rest.take n
      if digits.length = n ∧ digits.all isHexChar then
        let code := digits.foldl (fun v d => 16 * v + hexValue d) 0
        if code < 0xD800 ∨ (0xDFFF < code ∧ code ≤ 0x10FFFF) then some (Char.ofNat code, n + 1)
        else none
      else none

structure Stretch where
  text : List Char
  broken : Bool
  after : Cursor

/-- Reads up to a blank, a break or the closing quote; `done` holds what was read, backwards. -/
def stretch (single : Bool) : Nat → List Char → Cursor → Except Error Stretch
  | 0, done, c => .ok ⟨done.reverse, false, c⟩
  | fuel + 1, done, c =>
    match c.rest with
    | [] => .ok ⟨done.reverse, false, c⟩
    | x :: rest =>
      if isSpace x ∨ isBreak x then .ok ⟨done.reverse, false, c⟩
      else if single ∧ x = '\x27' then
        if rest.head? = some '\x27' then stretch single fuel ('\x27' :: done) (c.advance 2)
        else .ok ⟨done.reverse, false, c⟩
      else if !single ∧ x = '"' then .ok ⟨done.reverse, false, c⟩
      else if !single ∧ x = '\\' then
        if rest.head?.any isBreak then .ok ⟨done.reverse, true, (c.advance 1).nextLine⟩
        else match escape? rest with
          | some (y, n) => stretch single fuel (y :: done) (c.advance (n + 1))
          | none => .error .badEscape
      else stretch single fuel (x :: done) (c.advance 1)

def body (single : Bool) : Nat → List Char → Cursor → Except Error (List Char × Cursor)
  | 0, _, _ => .error .unclosedText
  | fuel + 1, done, c => do
    if c.atDocumentMark then .error .unclosedText
    else if c.rest.isEmpty then .error .unclosedText
    else
      let s ← stretch single (fuel + 1) [] c
      let done := done ++ s.text
      if s.after.peekIs (if single then '\x27' else '"') then .ok (done, s.after.advance 1)
      else match Gap.read none (fuel + 1) { Gap.empty with broken := s.broken } s.after with
        | some (g, c) => body single fuel (done ++ g.text) c
        | none => .error .badIndentation

def read (single : Bool) (c : Cursor) : Except Error (Token × Cursor) := do
  let (text, after) ← body single (c.rest.length + 1) [] (c.advance 1)
  .ok (.scalar (String.ofList text) false, after)

end FlutterInstaller.Yaml.Quoted
