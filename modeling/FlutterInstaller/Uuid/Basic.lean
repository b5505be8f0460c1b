import FlutterInstaller.Text.Blank

/-!
Universally unique identifiers. An identifier is its thirty-two hexadecimal digits; the canonical
text groups them by hyphens in lower case, and reading accepts four layouts of the digits in
either case.
-/
namespace FlutterInstaller

abbrev HexDigit := Fin 16

namespace HexDigit

def ofNat (n : Nat) : HexDigit := ⟨n % 16, Nat.mod_lt n (by decide)⟩

def char (d : HexDigit) : Char :=
  if d.val < 10 then Char.ofNat (48 + d.val) else Char.ofNat (87 + d.val)

def ofChar? (c : Char) : Option HexDigit :=
  let n := c.toNat
  if 48 ≤ n ∧ n ≤ 57 then some (ofNat (n - 48))
  else if 97 ≤ n ∧ n ≤ 102 then some (ofNat (n - 87))
  else if 65 ≤ n ∧ n ≤ 70 then some (ofNat (n - 55))
  else none

theorem ofChar?_char (d : HexDigit) : ofChar? d.char = some d := by
  revert d
  decide

end HexDigit

structure Uuid where
  digits : List HexDigit
  length_digits : digits.length = 32
  deriving DecidableEq

namespace Uuid

def ofDigits? (ds : List HexDigit) : Option Uuid :=
  if h : ds.length = 32 then some ⟨ds, h⟩ else none

def group (cs : List Char) : List Char :=
  cs.take 8 ++ '-' :: (cs.drop 8).take 4 ++ '-' :: (cs.drop 12).take 4 ++
    '-' :: (cs.drop 16).take 4 ++ '-' :: cs.drop 20

def ungroup? (cs : List Char) : Option (List Char) :=
  let flat := cs.filter (· ≠ '-')
  if flat.length = 32 ∧ group flat = cs then some flat else none

def chars (u : Uuid) : List Char := group (u.digits.map HexDigit.char)

def text (u : Uuid) : String := String.ofList u.chars

def ofHex? (cs : List Char) : Option Uuid := (cs.mapM HexDigit.ofChar?).bind ofDigits?

def ofGrouped? (cs : List Char) : Option Uuid := (ungroup? cs).bind ofHex?

def scheme : List Char := "urn:uuid:".toList

/-- Reads bare digits, grouped digits, grouped digits in braces, or a name of the scheme for such
identifiers, whose own letters may be of either case. -/
def ofChars? (cs : List Char) : Option Uuid :=
  if cs.length = 32 then ofHex? cs
  else if cs.length = 36 then ofGrouped? cs
  else if cs.length = 38 ∧ cs.head? = some '{' ∧ cs.getLast? = some '}' then
    ofGrouped? (cs.drop 1).dropLast
  else if cs.length = 45 ∧ (cs.take 9).map Char.toLower = scheme then ofGrouped? (cs.drop 9)
  else none

def ofText? (s : String) : Option Uuid := ofChars? s.toList

/-- The digit that tells how an identifier was made. -/
def version (u : Uuid) : HexDigit := u.digits.get ⟨12, by rw [u.length_digits]; decide⟩

theorem ofDigits?_digits (u : Uuid) : ofDigits? u.digits = some u := by
  simp [ofDigits?, u.length_digits]

end Uuid

end FlutterInstaller
