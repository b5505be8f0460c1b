import FlutterInstaller.Yaml.Error
import FlutterInstaller.Yaml.Tag
import FlutterInstaller.Yaml.Value

/-!
The value of a plain scalar. A plain text is a null, a boolean, an integer or a number with a point
if it is spelt like one, and a string otherwise; digits after a leading zero are a string.
-/
namespace FlutterInstaller.Yaml.Scalar

def null? (s : List Char) : Option Unit :=
  if ["null", "Null", "NULL", "~"].any (·.toList = s) then some () else none

def bool? (s : List Char) : Option Bool :=
  if ["true", "True", "TRUE"].any (·.toList = s) then some true
  else if ["false", "False", "FALSE"].any (·.toList = s) then some false
  else none

def digit? (base : Nat) (c : Char) : Option Nat :=
  let n := c.toNat
  let d := if 48 ≤ n ∧ n ≤ 57 then n - 48
    else if 97 ≤ n ∧ n ≤ 122 then n - 87
    else if 65 ≤ n ∧ n ≤ 90 then n - 55
    else base
  if d < base then some d else none

def natural? (base : Nat) (s : List Char) : Option Nat :=
  if s.isEmpty then none
  else s.foldlM (fun n c => (digit? base c).map (base * n + ·)) 0

def base? : List Char → Option (Nat × List Char)
  | '0' :: 'x' :: rest => some (16, rest)
  | '0' :: 'o' :: rest => some (8, rest)
  | '0' :: 'b' :: rest => some (2, rest)
  | _ => none

def isZeroLed (s : List Char) : Bool :=
  let body := match s with
    | '-' :: rest | '+' :: rest => rest
    | _ => s
  1 < body.length && body.head? == some '0' && body.all Char.isDigit

def magnitude? (zeroLed : Bool) (s : List Char) : Option Nat :=
  let based := (base? s).bind fun (b, rest) => natural? b rest
  match based with
  | some n => some n
  | none => if zeroLed then none else natural? 10 s

def integer? (s : List Char) : Option Int :=
  match s with
  | '-' :: rest => (magnitude? (isZeroLed s) rest).map fun n => -(n : Int)
  | '+' :: rest => (magnitude? (isZeroLed s) rest).map Int.ofNat
  | _ => (magnitude? (isZeroLed s) s).map Int.ofNat

def exponent? : List Char → Option Int
  | [] => some 0
  | e :: rest =>
    if e = 'e' ∨ e = 'E' then
      match rest with
      | '-' :: ds => (natural? 10 ds).map fun n => -(n : Int)
      | '+' :: ds => (natural? 10 ds).map Int.ofNat
      | ds => (natural? 10 ds).map Int.ofNat
    else none

def decimal? (negative : Bool) (s : List Char) : Option Binary64 := do
  let whole := s.takeWhile Char.isDigit
  let rest := s.dropWhile Char.isDigit
  let (fraction, rest) := match rest with
    | '.' :: r => (r.takeWhile Char.isDigit, r.dropWhile Char.isDigit)
    | _ => ([], rest)
  let m ← natural? 10 (whole ++ fraction)
  let e ← exponent? rest
  some (Binary64.ofDecimal negative m (e - fraction.length))

/-- A number with a point or an exponent, infinity, or the value that is no number; a decimal beyond
every finite number is none of them. -/
def float? (s : List Char) : Option Binary64 :=
  let unsigned := match s with
    | '+' :: rest => rest
    | _ => s
  if s.head? = some '+' ∧ (unsigned.head? = some '+' ∨ unsigned.head? = some '-') then none
  else if [".inf", ".Inf", ".INF"].any (·.toList = unsigned) then some (.infinite false)
  else if ["-.inf", "-.Inf", "-.INF"].any (·.toList = s) then some (.infinite true)
  else if [".nan", ".NaN", ".NAN"].any (·.toList = s) then some .nan
  else
    let number := match unsigned with
      | '-' :: rest => decimal? true rest
      | _ => decimal? false unsigned
    number.filter Binary64.isFinite

/-- Integers of sixty-four bits are values; wider ones of up to 128 bits are refused. -/
def ofInteger (n : Int) : Option (Except Error Value) :=
  if -0x8000000000000000 ≤ n ∧ n ≤ 0xffffffffffffffff then some (.ok (.int n))
  else if -0x80000000000000000000000000000000 ≤ n ∧ n ≤ 0xffffffffffffffffffffffffffffffff then
    some (.error .numberTooWide)
  else none

def integerValue? (s : List Char) : Option (Except Error Value) := (integer? s).bind ofInteger

def plain (s : String) : Except Error Value :=
  let cs := s.toList
  if cs.isEmpty ∨ null? cs = some () then .ok .null
  else match bool? cs with
    | some b => .ok (.bool b)
    | none =>
      match integerValue? cs with
      | some v => v
      | none =>
        match if isZeroLed cs then none else float? cs with
        | some x => .ok (.float x)
        | none => .ok (.string s)

def underTag (tag : Tag) (s : String) : Except Error Value :=
  let cs := s.toList
  if tag = Tag.core "bool" then ((bool? cs).map Value.bool).elim (.error (.badScalar "a boolean")) .ok
  else if tag = Tag.core "int" then (integerValue? cs).getD (.error (.badScalar "an integer"))
  else if tag = Tag.core "float" then
    ((float? cs).map Value.float).elim (.error (.badScalar "a float")) .ok
  else if tag = Tag.core "null" then
    ((null? cs).map fun _ => Value.null).elim (.error (.badScalar "null")) .ok
  else .ok (.string s)

end FlutterInstaller.Yaml.Scalar
