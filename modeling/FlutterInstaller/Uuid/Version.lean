import FlutterInstaller.Digest.Sha1
import FlutterInstaller.Uuid.Basic

/-!
Making identifiers: from a name, so that equal names give equal identifiers, or from random
octets. Both stamp the version and the variant over the octets they start from.
-/
namespace FlutterInstaller.Uuid

def octetDigits (b : UInt8) : List HexDigit :=
  [HexDigit.ofNat (b.toNat / 16), HexDigit.ofNat b.toNat]

/-- Stamps the version into the thirteenth digit and the variant into the seventeenth. -/
def stamp (version : HexDigit) (ds : List HexDigit) : List HexDigit :=
  (ds.modify 12 fun _ => version).modify 16 fun d => HexDigit.ofNat (8 + d.val % 4)

def takeDigits (ds : List HexDigit) : List HexDigit := (ds ++ List.replicate 32 (HexDigit.ofNat 0)).take 32

def ofOctets (version : HexDigit) (octets : List UInt8) : Uuid where
  digits := stamp version (takeDigits (octets.flatMap octetDigits))
  length_digits := by
    simp only [stamp, takeDigits, List.length_modify, List.length_take, List.length_append,
      List.length_replicate]
    omega

/-- The variant is stamped over another digit, so the version is read back. -/
theorem version_ofOctets (version : HexDigit) (octets : List UInt8) :
    (ofOctets version octets).version = version := by
  simp [Uuid.version, ofOctets, stamp]

def pairUp : List HexDigit → List UInt8
  | h :: l :: rest => UInt8.ofNat (16 * h.val + l.val) :: pairUp rest
  | _ => []

def urlNamespace : Uuid where
  digits := [6, 11, 10, 7, 11, 8, 1, 1, 9, 13, 10, 13, 1, 1, 13, 1, 8, 0, 11, 4, 0, 0, 12, 0, 4, 15,
    13, 4, 3, 0, 12, 8].map HexDigit.ofNat
  length_digits := rfl

def ofName (space : Uuid) (name : String) : Uuid :=
  ofOctets (HexDigit.ofNat 5) (Sha1.digest (pairUp space.digits ++ name.toUTF8.toList))

def ofRandom (octets : List UInt8) : Uuid := ofOctets (HexDigit.ofNat 4) octets

end FlutterInstaller.Uuid
