/-!
The secure hash SHA-1. The message is padded to whole blocks of sixteen words, and each block
stirs a state of five words in eighty rounds.
-/
namespace FlutterInstaller.Sha1

structure State where
  a : UInt32
  b : UInt32
  c : UInt32
  d : UInt32
  e : UInt32

def State.initial : State := ⟨0x67452301, 0xEFCDAB89, 0x98BADCFE, 0x10325476, 0xC3D2E1F0⟩

def State.add (s t : State) : State := ⟨s.a + t.a, s.b + t.b, s.c + t.c, s.d + t.d, s.e + t.e⟩

def rotate (n : UInt32) (x : UInt32) : UInt32 := (x <<< n) ||| (x >>> (32 - n))

def mix (round : Nat) (s : State) : UInt32 × UInt32 :=
  if round < 20 then ((s.b &&& s.c) ||| ((~~~s.b) &&& s.d), 0x5A827999)
  else if round < 40 then (s.b ^^^ s.c ^^^ s.d, 0x6ED9EBA1)
  else if round < 60 then ((s.b &&& s.c) ||| (s.b &&& s.d) ||| (s.c &&& s.d), 0x8F1BBCDC)
  else (s.b ^^^ s.c ^^^ s.d, 0xCA62C1D6)

def round (s : State) (i : Nat) (word : UInt32) : State :=
  let (f, k) := mix i s
  ⟨rotate 5 s.a + f + s.e + k + word, s.a, rotate 30 s.b, s.c, s.d⟩

def lengthOctets (bits : Nat) : List UInt8 :=
  (List.range 8).map fun i => UInt8.ofNat (bits >>> (8 * (7 - i)))

def pad (message : List UInt8) : List UInt8 :=
  message ++ 0x80 :: List.replicate ((55 + 64 - message.length % 64) % 64) 0 ++
    lengthOctets (8 * message.length)

def wordOf (w x y z : UInt8) : UInt32 :=
  (w.toUInt32 <<< 24) ||| (x.toUInt32 <<< 16) ||| (y.toUInt32 <<< 8) ||| z.toUInt32

def words : List UInt8 → List UInt32
  | w :: x :: y :: z :: rest => wordOf w x y z :: words rest
  | _ => []

def extend : Nat → List UInt32 → List UInt32
  | 0, ws => ws
  | n + 1, ws =>
    extend n (rotate 1 (ws[2]?.getD 0 ^^^ ws[7]?.getD 0 ^^^ ws[13]?.getD 0 ^^^ ws[15]?.getD 0) :: ws)

def schedule (block : List UInt32) : List UInt32 := (extend 64 block.reverse).reverse

def absorb (s : State) (block : List UInt32) : State :=
  s.add (((schedule block).zipIdx).foldl (fun t wi => round t wi.2 wi.1) s)

def blocks (fuel : Nat) (ws : List UInt32) : List (List UInt32) :=
  match fuel, ws with
  | 0, _ => []
  | _, [] => []
  | fuel + 1, ws => ws.take 16 :: blocks fuel (ws.drop 16)

def octets (w : UInt32) : List UInt8 :=
  [(w >>> 24).toUInt8, (w >>> 16).toUInt8, (w >>> 8).toUInt8, w.toUInt8]

def State.octets (s : State) : List UInt8 := [s.a, s.b, s.c, s.d, s.e].flatMap Sha1.octets

/-- The digest of a message, twenty octets. -/
def digest (message : List UInt8) : List UInt8 :=
  let ws := words (pad message)
  ((blocks ws.length ws).foldl absorb State.initial).octets

end FlutterInstaller.Sha1
