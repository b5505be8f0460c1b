/-!
The icon of installers that name none: a picture of twenty-eight rows in a frame, kept as its octets.
-/
namespace FlutterInstaller.DefaultIcon

def times {α : Type} (n : Nat) (pattern : List α) : List α := (List.replicate n pattern).flatten

def zeros (n : Nat) : List UInt8 := List.replicate n 0

def light : List UInt8 := [0xEF, 0xBF, 0xBD]

def thread : List UInt8 := [0x6C, 0x2B]

def tile : List UInt8 := light ++ thread ++ light

def weave : List UInt8 := light ++ light ++ thread

def header : List UInt8 :=
  [0x00, 0x00, 0x01, 0x00, 0x01, 0x00, 0x20, 0x20, 0x00, 0x00, 0x01, 0x00, 0x20, 0x00] ++ light ++
    [0x10, 0x00, 0x00, 0x16, 0x00, 0x00, 0x00, 0x28, 0x00, 0x00, 0x00, 0x20, 0x00, 0x00, 0x00, 0x40,
      0x00, 0x00, 0x00, 0x01, 0x00, 0x20] ++ zeros 5 ++ light ++ [0x10]

def shortRow : List UInt8 := times 26 tile

def frameRow : List UInt8 := times 28 tile

def barRow : List UInt8 := times 7 tile ++ times 57 light ++ thread ++ times 6 weave ++ light

def paneRow : List UInt8 :=
  times 7 tile ++ times 5 light ++ thread ++ times 11 weave ++ times 6 light ++ thread ++
    times 6 weave ++ light

def rows : List UInt8 :=
  (times 6 [frameRow] ++ [barRow] ++ times 7 [paneRow] ++ [barRow] ++ times 4 [paneRow] ++ [barRow] ++
    times 6 [frameRow]).flatMap (· ++ zeros 16)

def octets : List UInt8 :=
  header ++ zeros 286 ++ shortRow ++ zeros 20 ++ rows ++ zeros 4 ++ shortRow ++ zeros 396

def content : ByteArray := ⟨octets.toArray⟩

end FlutterInstaller.DefaultIcon
