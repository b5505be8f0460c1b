import FlutterInstaller.Yaml.Error
import FlutterInstaller.Yaml.Tag

/-!
The tokens of a document, and the reading of those that stand on their own: directives, anchors,
aliases and tags.
-/
namespace FlutterInstaller.Yaml

inductive Token
  | versionDirective (major minor : Nat)
  | tagDirective (handle : String) (expansion : Tag)
  | documentStart
  | documentEnd
  | streamEnd
  | blockSequenceStart
  | blockMappingStart
  | blockEnd
  | flowSequenceStart
  | flowSequenceEnd
  | flowMappingStart
  | flowMappingEnd
  | blockEntry
  | flowEntry
  | key
  | value
  | alias (name : String)
  | anchor (name : String)
  | tag (handle : String) (suffix : Tag)
  | scalar (text : String) (plain : Bool)
  deriving DecidableEq

namespace Token

def isTagChar (verbatim : Bool) (c : Char) : Bool :=
  isNameChar c || ";/?:@&=+$.%!~*\x27()".toList.contains c || (verbatim && ",[]".toList.contains c)

def readTagText (verbatim optional : Bool) (c : Cursor) : Except Error (Tag × Cursor) :=
  let (written, c) := c.takeWhile (isTagChar verbatim)
  if written.isEmpty ∧ !optional then .error .badProperty
  else match Tag.ofEscaped? written with
    | some text => .ok (text, c)
    | none => .error .badProperty

def readHandle (c : Cursor) : Except Error (List Char × Cursor) :=
  if c.peekIs '!' then
    let (name, c) := (c.advance 1).takeWhile isNameChar
    if c.peekIs '!' then .ok ('!' :: name ++ ['!'], c.advance 1) else .ok ('!' :: name, c)
  else .error .badProperty

def readTag (flow : Bool) (c : Cursor) : Except Error (Token × Cursor) := do
  let (token, c) ← match c.rest with
    | '!' :: '<' :: _ => do
      let (text, c) ← readTagText true false (c.advance 2)
      if c.peekIs '>' then pure (tag "" text, c.advance 1)
      else .error .badProperty
    | _ => do
      let (handle, c) ← readHandle c
      if 1 < handle.length ∧ handle.getLast? = some '!' then
        let (text, c) ← readTagText false false c
        pure (tag (String.ofList handle) text, c)
      else
        let (text, c) ← readTagText false true c
        let suffix := Tag.ofText (String.ofList (handle.drop 1)) ++ text
        pure (if suffix.isEmpty then tag "" Tag.lone else tag "!" suffix, c)
  if endsWord c.rest ∨ (flow ∧ c.peekIs ',') then .ok (token, c) else .error .badProperty

def readName (c : Cursor) : Except Error (String × Cursor) :=
  let (name, c) := (c.advance 1).takeWhile isNameChar
  let closed := endsWord c.rest || (c.peek?.any fun x => "?:,]\x7d%@`".toList.contains x)
  if name.isEmpty ∨ !closed then .error .badProperty else .ok (String.ofList name, c)

def readNumber (c : Cursor) : Except Error (Nat × Cursor) :=
  let (digits, c) := c.takeWhile Char.isDigit
  if digits.isEmpty ∨ 9 < digits.length then .error .badDirective
  else .ok (digits.foldl (fun n d => 10 * n + (d.toNat - 48)) 0, c)

def readDirective (c : Cursor) : Except Error (Token × Cursor) := do
  let (name, c) := (c.advance 1).takeWhile isNameChar
  if name.isEmpty ∨ !endsWord c.rest then .error .badDirective
  else
    let (token, c) ← if name = "YAML".toList then do
        let (major, c) ← readNumber (c.skipWhile isSpace)
        if c.peekIs '.' then
          let (minor, c) ← readNumber (c.advance 1)
          pure (versionDirective major minor, c)
        else .error .badDirective
      else if name = "TAG".toList then do
        let (handle, c) ← readHandle (c.skipWhile isSpace)
        if handle ≠ ['!'] ∧ handle.getLast? ≠ some '!' then .error .badDirective
        else if !(c.peek?.any isSpace) then .error .badDirective
        else
          let (text, c) ← readTagText true false (c.skipWhile isSpace)
          if endsWord c.rest then pure (tagDirective (String.ofList handle) text, c)
          else .error .badDirective
      else .error .badDirective
    let c := c.skipToLineEnd
    if endsLine c.rest then .ok (token, c.nextLine) else .error .badDirective

end Token

end FlutterInstaller.Yaml
