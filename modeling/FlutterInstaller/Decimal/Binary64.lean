/-!
Floating-point numbers of sixty-four bits, as exact values: a finite number is a significand below
`2 ^ 53` times a power of two. Reading a decimal rounds its exact value to the nearest of them, a
tie to the even significand.
-/
namespace FlutterInstaller

inductive Binary64
  | finite (negative : Bool) (significand : Nat) (exponent : Int)
  | infinite (negative : Bool)
  | nan
  deriving DecidableEq, Repr

namespace Binary64

def least : Int := -1074

def greatest : Int := 971

def topBit : Nat := 1 <<< 52

def zero (negative : Bool) : Binary64 := .finite negative 0 least

def roundDiv (n d : Nat) : Nat :=
  let q := n / d
  let r := n % d
  if d < 2 * r ∨ (2 * r = d ∧ q % 2 = 1) then q + 1 else q

def scaled (n d : Nat) (e : Int) : Nat × Nat :=
  if 0 ≤ e then (n, d <<< e.toNat) else (n <<< (-e).toNat, d)

def ofRatio (negative : Bool) (n d : Nat) : Binary64 :=
  if n = 0 then zero negative
  else
    let guess : Int := (n.log2 : Int) - d.log2 - 53
    let (n₁, d₁) := scaled n d guess
    let wide := if n₁ / d₁ < 2 * topBit then guess else guess + 1
    let e := if wide < least then least else wide
    let (n₂, d₂) := scaled n d e
    let m := roundDiv n₂ d₂
    let (m, e) := if m = 2 * topBit then (topBit, e + 1) else (m, e)
    if greatest < e then .infinite negative else .finite negative m e

def digitCount (n : Nat) : Nat := (Nat.toDigits 10 n).length

/-- The number nearest to `m * 10 ^ e`; beyond four hundred places the answer is out of reach of
every finite number other than zero. -/
def ofDecimal (negative : Bool) (m : Nat) (e : Int) : Binary64 :=
  if m = 0 then zero negative
  else
    let places := e + digitCount m
    if 400 < places then .infinite negative
    else if places < -400 then zero negative
    else if 0 ≤ e then ofRatio negative (m * Nat.pow 10 e.toNat) 1
    else ofRatio negative m (Nat.pow 10 (-e).toNat)

def isFinite : Binary64 → Bool
  | .finite .. => true
  | _ => false

/-- Equality of keys: all not-a-numbers are one, and so are the two zeros. -/
def same : Binary64 → Binary64 → Bool
  | .finite s m e, .finite t n f => (m == 0 && n == 0) || (s == t && m == n && e == f)
  | .infinite s, .infinite t => s == t
  | .nan, .nan => true
  | _, _ => false

end Binary64

end FlutterInstaller
