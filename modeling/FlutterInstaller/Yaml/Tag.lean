import FlutterInstaller.Yaml.Cursor

/-!
Tags as octets. The escapes of a tag have the form of encoded characters, but what they spell need
not be text: a tag that is no text names nothing. A NUL octet ends a tag where it stands.
-/
namespace FlutterInstaller.Yaml

structure Tag where
  octets : List UInt8
  deriving DecidableEq

namespace Tag

def ofText (s : String) : Tag := ⟨s.toList.flatMap String.utf8EncodeChar⟩

instance : Append Tag := ⟨fun s t => ⟨s.octets ++ t.octets⟩⟩

def lone : Tag := ofText "!"

def core (name : String) : Tag := ofText ("tag:yaml.org,2002:" ++ name)

def isEmpty (t : Tag) : Bool := t.octets.isEmpty

def isLocal (t : Tag) : Bool := t.octets.head?.any fun o => o.toNat == 0x21

def withoutMark : List Char → List Char
  | '!' :: c :: cs => c :: cs
  | cs => cs

def name? (t : Tag) : Option String :=
  if t.isLocal then
    (String.fromUTF8? ⟨t.octets.toArray⟩).map fun s =>
      String.ofList (withoutMark (withoutMark s.toList))
  else none

def following? (o : UInt8) : Option Nat :=
  let n := o.toNat
  if n < 0x80 then some 0 else if n < 0xC0 then none else if n < 0xE0 then some 1
  else if n < 0xF0 then some 2 else if n < 0xF8 then some 3 else none

def isContinuation (o : UInt8) : Bool := 0x80 ≤ o.toNat && o.toNat < 0xC0

/-- The octets of a tag as it is written, where so many escaped octets are still due to complete a
character. -/
def unescape? : Nat → List Char → Option (List UInt8)
  | 0, [] => some []
  | _ + 1, [] => none
  | due, '%' :: h :: l :: cs =>
    let o := UInt8.ofNat (16 * hexValue h + hexValue l)
    if !isHexChar h || !isHexChar l then none
    else match due with
      | 0 => (following? o).bind fun n => (unescape? n cs).map (o :: ·)
      | n + 1 => if isContinuation o then (unescape? n cs).map (o :: ·) else none
  | 0, c :: cs =>
    if c = '%' then none else (unescape? 0 cs).map (String.utf8EncodeChar c ++ ·)
  | _ + 1, _ :: _ => none

def ofEscaped? (cs : List Char) : Option Tag :=
  (unescape? 0 cs).map fun octets => ⟨octets.takeWhile fun o => o.toNat != 0⟩

end Tag

end FlutterInstaller.Yaml
