import FlutterInstaller.Decimal.Binary64

/-!
The shortest decimal that reads back as a given floating-point number, and its text. The reals that
round to the number form an interval; the coarsest decimal grid with a point inside it gives the
digits, the nearer of two points where two fit.
-/
namespace FlutterInstaller.Decimal

/-- The reals that round to a number, in quarters of its last place: lower end, value, upper end,
and whether the ends belong to it. -/
structure Interval where
  low : Nat
  value : Nat
  high : Nat
  closed : Bool

/-- Below a power of two the neighbours lie closer. -/
def interval (significand : Nat) (exponent : Int) : Interval where
  low := if significand = Binary64.topBit ∧ Binary64.least < exponent then 4 * significand - 1
    else 4 * significand - 2
  value := 4 * significand
  high := 4 * significand + 2
  closed := significand % 2 = 0

def weigh (n : Nat) (two ten : Int) : Nat := (n <<< two.toNat) * Nat.pow 10 ten.toNat

def gridPoint? (iv : Interval) (exponent : Int) (k : Int) : Option Nat :=
  let unit (n : Nat) := weigh n (exponent - 2) (-k)
  let grid (n : Nat) := weigh n (2 - exponent) k
  let inside (n : Nat) : Bool :=
    if iv.closed then unit iv.low ≤ grid n && grid n ≤ unit iv.high
    else unit iv.low < grid n && grid n < unit iv.high
  let below := unit iv.value / grid 1
  let above := below + 1
  match inside below, inside above with
  | true, true =>
    if grid above - unit iv.value ≤ unit iv.value - grid below then some above else some below
  | true, false => some below
  | false, true => some above
  | false, false => none

def search (iv : Interval) (exponent : Int) : Nat → Int → Nat × Int
  | 0, k => (0, k)
  | fuel + 1, k =>
    match gridPoint? iv exponent k with
    | some n => (n, k)
    | none => search iv exponent fuel (k - 1)

def shortest (significand : Nat) (exponent : Int) : Nat × Int :=
  let top : Int := ((significand.log2 : Int) + exponent) * 30103 / 100000 + 2
  search (interval significand exponent) exponent 40 top

def normalize (digits : List Char) (k : Int) : List Char × Int :=
  let kept := (digits.reverse.dropWhile (· = '0')).reverse
  (kept, k + (digits.length - kept.length : Nat))

structure PointRange where
  below : Int
  above : Int

/-- Positional from one ten-thousandth on and below ten to the sixteenth. -/
def plain : PointRange := ⟨-4, 16⟩

def positional (digits : List Char) (point : Int) : List Char :=
  if point ≤ 0 then '0' :: '.' :: List.replicate (-point).toNat '0' ++ digits
  else
    let n := point.toNat
    if digits.length ≤ n then digits ++ List.replicate (n - digits.length) '0' ++ ['.', '0']
    else digits.take n ++ '.' :: digits.drop n

def exponential (digits : List Char) (point : Int) : List Char :=
  let mantissa := match digits with
    | [] => []
    | [d] => [d]
    | d :: ds => d :: '.' :: ds
  mantissa ++ 'e' :: (toString (point - 1)).toList

def finiteText (style : PointRange) (significand : Nat) (exponent : Int) : List Char :=
  let (n, k) := shortest significand exponent
  let (digits, k) := normalize (Nat.toDigits 10 n) k
  let point := digits.length + k
  if style.below < point ∧ point ≤ style.above then positional digits point
  else exponential digits point

def text : Binary64 → String
  | .nan => "NaN"
  | .infinite negative => if negative then "-inf" else "inf"
  | .finite negative m e =>
    let body := if m = 0 then ['0', '.', '0'] else finiteText plain m e
    String.ofList (if negative then '-' :: body else body)

end FlutterInstaller.Decimal
